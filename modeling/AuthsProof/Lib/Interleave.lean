import Mathlib.Data.List.Forall2
import Mathlib.Logic.Function.Basic
import Mathlib.Logic.Relation

/-! Programs that share a state and change it one request at a time, in any order. -/

namespace Interleave

/-- A program that makes requests and goes on with their answers. -/
inductive Prog (Req : Type) (Res : Req → Type) (α : Type) where
  | done (a : α)
  | call (request : Req) (next : Res request → Prog Req Res α)

variable {Req : Type} {Res : Req → Type} {α β σ ι ε : Type}

def Prog.bind : Prog Req Res α → (α → Prog Req Res β) → Prog Req Res β
  | .done a, f => f a
  | .call request next, f => .call request fun res => (next res).bind f

instance : Monad (Prog Req Res) where
  pure := .done
  bind := .bind

@[simp] theorem Prog.done_bind (a : α) (f : α → Prog Req Res β) : (Prog.done a >>= f) = f a := rfl

@[simp] theorem Prog.call_bind (request : Req) (next : Res request → Prog Req Res α)
    (f : α → Prog Req Res β) :
    (Prog.call request next >>= f) = .call request fun res => next res >>= f := rfl

theorem Prog.bind_done (p : Prog Req Res α) : (p >>= Prog.done) = p := by
  induction p with
  | done a => rfl
  | call request next ih => exact congrArg (Prog.call request) (funext ih)

theorem Prog.bind_assoc {γ : Type} (p : Prog Req Res α) (f : α → Prog Req Res β)
    (g : β → Prog Req Res γ) : (p >>= f >>= g) = p >>= fun a => f a >>= g := by
  induction p with
  | done a => rfl
  | call request next ih => exact congrArg (Prog.call request) (funext ih)

instance : LawfulMonad (Prog Req Res) :=
  LawfulMonad.mk' _ Prog.bind_done (fun _ _ => rfl) Prog.bind_assoc

/-- One request and its answer. -/
def Prog.ask (request : Req) : Prog Req Res (Res request) := .call request .done

/-- What the requests do to the shared state, what its users keep of it, how it may change, and which
changes are held to a program's account. -/
structure Discipline (Req : Type) (Res : Req → Type) (σ : Type) where
  exec : (request : Req) → σ → Res request → σ → Prop
  inv : σ → Prop
  order : σ → σ → Prop
  refl : ∀ s, order s s
  trans : ∀ {s t u}, order s t → order t u → order s u
  touches : σ → σ → Prop
  idle : ∀ s, ¬touches s s

namespace Discipline

variable (D : Discipline Req Res σ)

/-- From what it knows at `s` the program keeps the invariant and the order, whatever the others do
meanwhile, and it ends with `Q`. -/
def Safe (Q : α → σ → Prop) : Prog Req Res α → σ → Prop
  | .done a, s => ∀ t, D.order s t → D.inv t → Q a t
  | .call request next, s => ∀ t, D.order s t → D.inv t → ∀ res u, D.exec request t res u →
    D.inv u ∧ D.order t u ∧ Safe Q (next res) u

variable {D} {P : σ → Prop} {Q : α → σ → Prop} {s t : σ}

/-- What is known at a state is known at every later one. -/
theorem Safe.later {p : Prog Req Res α} (h : D.Safe Q p s) (hst : D.order s t) : D.Safe Q p t := by
  cases p with
  | done a => exact fun u htu => h u (D.trans hst htu)
  | call request next => exact fun u htu => h u (D.trans hst htu)

theorem Safe.imp {Q' : α → σ → Prop} {p : Prog Req Res α} (h : D.Safe Q p s)
    (hQ : ∀ a t, D.order s t → D.inv t → Q a t → Q' a t) : D.Safe Q' p s := by
  induction p generalizing s with
  | done a => exact fun t hst ht => hQ a t hst ht (h t hst ht)
  | call request next ih =>
    intro t hst ht res u hexec
    obtain ⟨hu, htu, hnext⟩ := h t hst ht res u hexec
    exact ⟨hu, htu, ih res hnext fun a v huv => hQ a v (D.trans (D.trans hst htu) huv)⟩

theorem Safe.bind {Q : β → σ → Prop} {p : Prog Req Res α} {f : α → Prog Req Res β}
    {M : α → σ → Prop} (hs : D.inv s) (hp : D.Safe M p s)
    (hf : ∀ a t, D.order s t → D.inv t → (∀ u, D.order t u → D.inv u → M a u) →
      D.Safe Q (f a) t) : D.Safe Q (p >>= f) s := by
  induction p generalizing s with
  | done a => exact hf a s (D.refl s) hs hp
  | call request next ih =>
    intro t hst ht res u hexec
    obtain ⟨hu, htu, hnext⟩ := hp t hst ht res u hexec
    exact ⟨hu, htu, ih res hu hnext fun a v huv => hf a v (D.trans (D.trans hst htu) huv)⟩

end Discipline

/-! ## Programs that fail -/

section Fallible

variable {D : Discipline Req Res σ} {s : σ}

/-- Goes on with the outcome of a program, a failure included. -/
def settle (p : ExceptT ε (Prog Req Res) α) (k : Except ε α → ExceptT ε (Prog Req Res) β) :
    ExceptT ε (Prog Req Res) β := ExceptT.mk (p.run >>= fun outcome => (k outcome).run)

/-- A computation that asks nothing. -/
def lifted (x : Except ε α) : ExceptT ε (Prog Req Res) α := ExceptT.mk (.done x)

theorem lifted_bind_run (x : Except ε α) (f : α → ExceptT ε (Prog Req Res) β) :
    (lifted x >>= f).run = match x with
      | .error e => .done (.error e)
      | .ok a => (f a).run := by
  cases x <;> rfl

/-- The postcondition of a program that may fail, when only its success is of interest. -/
def onOk (Q : α → σ → Prop) : Except ε α → σ → Prop
  | .ok a, s => Q a s
  | .error _, _ => True

theorem safe_pure {Q : α → σ → Prop} {a : α} (h : ∀ t, D.order s t → D.inv t → Q a t) :
    D.Safe (onOk Q) (pure a : ExceptT ε (Prog Req Res) α).run s := h

theorem safe_throw {Q : α → σ → Prop} {e : ε} :
    D.Safe (onOk Q) (throw e : ExceptT ε (Prog Req Res) α).run s := fun _ _ _ => trivial

theorem safe_lifted {Q : α → σ → Prop} {x : Except ε α}
    (h : ∀ a t, x = .ok a → D.order s t → D.inv t → Q a t) :
    D.Safe (onOk Q) (lifted x : ExceptT ε (Prog Req Res) α).run s := by
  intro t hst ht
  cases x with
  | ok a => exact h a t rfl hst ht
  | error e => trivial

theorem safe_bind {M : α → σ → Prop} {Q : β → σ → Prop} {p : ExceptT ε (Prog Req Res) α}
    {f : α → ExceptT ε (Prog Req Res) β} (hs : D.inv s) (hp : D.Safe (onOk M) p.run s)
    (hf : ∀ a t, D.order s t → D.inv t → (∀ u, D.order t u → D.inv u → M a u) →
      D.Safe (onOk Q) (f a).run t) : D.Safe (onOk Q) (p >>= f).run s := by
  refine Discipline.Safe.bind hs hp fun r t hst ht hM => ?_
  cases r with
  | ok a => exact hf a t hst ht hM
  | error e => exact fun _ _ _ => trivial

theorem safe_settle {M : α → σ → Prop} {Q : β → σ → Prop} {p : ExceptT ε (Prog Req Res) α}
    {k : Except ε α → ExceptT ε (Prog Req Res) β} (hs : D.inv s)
    (hp : D.Safe (onOk M) p.run s)
    (hok : ∀ a t, D.order s t → D.inv t → (∀ u, D.order t u → D.inv u → M a u) →
      D.Safe (onOk Q) (k (.ok a)).run t)
    (herror : ∀ e t, D.order s t → D.inv t → D.Safe (onOk Q) (k (.error e)).run t) :
    D.Safe (onOk Q) (settle p k).run s := by
  refine Discipline.Safe.bind hs hp fun r t hst ht hM => ?_
  cases r with
  | ok a => exact hok a t hst ht hM
  | error e => exact herror e t hst ht

/-- A list of programs run one after the other, each with a stable fact about its element. -/
theorem safe_mapM {γ : Type} {M : γ → α → σ → Prop} {f : γ → ExceptT ε (Prog Req Res) α}
    {xs : List γ} (hs : D.inv s)
    (hf : ∀ x ∈ xs, ∀ t, D.order s t → D.inv t → D.Safe (onOk (M x)) (f x).run t) :
    D.Safe (onOk fun as t => List.Forall₂ (fun x a => M x a t) xs as) (xs.mapM f).run s := by
  induction xs generalizing s with
  | nil => exact safe_pure fun t _ _ => .nil
  | cons x xs ih =>
    rw [List.mapM_cons]
    refine safe_bind hs (hf x List.mem_cons_self s (D.refl s) hs) fun a t hst ht ha => ?_
    refine safe_bind ht (ih ht fun y hy u htu => hf y (List.mem_cons_of_mem x hy) u (D.trans hst htu))
      fun as u htu hu has => ?_
    exact safe_pure fun v huv hv => .cons (ha v (D.trans htu huv) hv) (has v huv hv)

end Fallible

/-! ## Any number of programs -/

/-- The shared state, the programs that use it, and which of them have touched it. -/
structure Pool (Req : Type) (Res : Req → Type) (α σ ι : Type) where
  state : σ
  programs : ι → Prog Req Res α
  changed : ι → Prop

section Pool

variable [DecidableEq ι] (D : Discipline Req Res σ) (environment : σ → σ → Prop)

/-- One program makes a request, or the environment changes the state. -/
inductive Step : Pool Req Res α σ ι → Pool Req Res α σ ι → Prop
  | call {pool : Pool Req Res α σ ι} (i : ι) {request : Req} {next : Res request → Prog Req Res α}
      {res : Res request} {s : σ} (hprogram : pool.programs i = .call request next)
      (hexec : D.exec request pool.state res s) :
      Step pool
        { state := s
          programs := Function.update pool.programs i (next res)
          changed := fun j => pool.changed j ∨ (j = i ∧ D.touches pool.state s) }
  | environment {pool : Pool Req Res α σ ι} {s : σ} (h : environment pool.state s) :
      Step pool { pool with state := s }

/-- What the environment does keeps the invariant and the order. -/
def Respects : Prop := ∀ s t, D.inv s → environment s t → D.inv t ∧ D.order s t

variable {D environment}

/-- Safe programs keep the invariant together, and each ends with its own postcondition. -/
theorem safe_run {Q : ι → α → σ → Prop} {pool pool' : Pool Req Res α σ ι}
    (henvironment : Respects D environment) (hinv : D.inv pool.state)
    (hsafe : ∀ i, D.Safe (Q i) (pool.programs i) pool.state)
    (hrun : Relation.ReflTransGen (Step D environment) pool pool') :
    D.inv pool'.state ∧ D.order pool.state pool'.state ∧
      ∀ i, D.Safe (Q i) (pool'.programs i) pool'.state := by
  induction hrun with
  | refl => exact ⟨hinv, D.refl _, hsafe⟩
  | tail _ hstep ih =>
    obtain ⟨hinv', horder, hsafe'⟩ := ih
    cases hstep with
    | call i hprogram hexec =>
      have hi := hsafe' i
      rw [hprogram] at hi
      obtain ⟨hs, hstep, hnext⟩ := hi _ (D.refl _) hinv' _ _ hexec
      refine ⟨hs, D.trans horder hstep, fun j => ?_⟩
      by_cases hj : j = i
      · subst hj
        simpa using hnext
      · simpa [Function.update_of_ne hj] using (hsafe' j).later hstep
    | environment h =>
      obtain ⟨ht, hst⟩ := henvironment _ _ hinv' h
      exact ⟨ht, D.trans horder hst, fun j => (hsafe' j).later hst⟩

end Pool

/-! ## Programs that touch the state at most once, at their end -/

section Quiet

variable (D : Discipline Req Res σ) (good : α → Prop)

/-- However it goes on, the program ends well. -/
def Always : Prog Req Res α → Prop
  | .done a => good a
  | .call _ next => ∀ res, Always (next res)

/-- The program never changes the state. -/
def Still : Prog Req Res α → Prop
  | .done _ => True
  | .call request next => ∀ s res t, D.exec request s res t → t = s ∧ Still (next res)

/-- The program does not touch the state until it is sure to end well. -/
def Quiet : Prog Req Res α → Prop
  | .done _ => True
  | .call request next => ∀ s res t, D.exec request s res t →
    (¬D.touches s t ∧ Quiet (next res)) ∨ Always good (next res)

variable {D good}

theorem Still.bind {p : Prog Req Res β} {f : β → Prog Req Res α} (hp : Still D p)
    (hf : ∀ b, Still D (f b)) : Still D (p >>= f) := by
  induction p with
  | done b => exact hf b
  | call request next ih =>
    intro s res t hexec
    obtain ⟨rfl, hnext⟩ := hp s res t hexec
    exact ⟨rfl, ih res hnext⟩

theorem Still.quiet {p : Prog Req Res α} (hp : Still D p) : Quiet D good p := by
  induction p with
  | done a => trivial
  | call request next ih =>
    intro s res t hexec
    obtain ⟨rfl, hnext⟩ := hp s res t hexec
    exact .inl ⟨D.idle t, ih res hnext⟩

theorem Still.bind_quiet {p : Prog Req Res β} {f : β → Prog Req Res α} (hp : Still D p)
    (hf : ∀ b, Quiet D good (f b)) : Quiet D good (p >>= f) := by
  induction p with
  | done b => exact hf b
  | call request next ih =>
    intro s res t hexec
    obtain ⟨rfl, hnext⟩ := hp s res t hexec
    exact .inl ⟨D.idle t, ih res hnext⟩

theorem Always.bind {good' : β → Prop} {p : Prog Req Res β} {f : β → Prog Req Res α}
    (hp : Always good' p) (hf : ∀ b, good' b → Always good (f b)) : Always good (p >>= f) := by
  induction p with
  | done b => exact hf b hp
  | call request next ih => exact fun res => ih res (hp res)

theorem Always.quiet {p : Prog Req Res α} (hp : Always good p) : Quiet D good p := by
  cases p with
  | done a => trivial
  | call request next => exact fun s res t hexec => .inr (hp res)

theorem Quiet.bind {good' : β → Prop} {p : Prog Req Res β} {f : β → Prog Req Res α}
    (hp : Quiet D good' p) (hgood : ∀ b, good' b → Always good (f b))
    (hf : ∀ b, ¬good' b → Quiet D good (f b)) : Quiet D good (p >>= f) := by
  induction p with
  | done b =>
    by_cases hb : good' b
    · exact (hgood b hb).quiet
    · exact hf b hb
  | call request next ih =>
    intro s res t hexec
    rcases hp s res t hexec with ⟨hidle, hnext⟩ | hends
    · exact .inl ⟨hidle, ih res hnext⟩
    · exact .inr (hends.bind hgood)

theorem still_bind_except {p : ExceptT ε (Prog Req Res) β} {f : β → ExceptT ε (Prog Req Res) α}
    (hp : Still D p.run) (hf : ∀ b, Still D (f b).run) : Still D (p >>= f).run := by
  refine Still.bind hp fun r => ?_
  cases r with
  | ok b => exact hf b
  | error e => trivial

theorem still_mapM {γ : Type} {f : γ → ExceptT ε (Prog Req Res) α} {xs : List γ}
    (hf : ∀ x ∈ xs, Still D (f x).run) : Still D (xs.mapM f).run := by
  induction xs with
  | nil => trivial
  | cons x xs ih =>
    rw [List.mapM_cons]
    refine still_bind_except (hf x List.mem_cons_self) fun a => ?_
    exact still_bind_except (ih fun y hy => hf y (List.mem_cons_of_mem x hy)) fun as => trivial

theorem quiet_bind_except {good : Except ε α → Prop} {p : ExceptT ε (Prog Req Res) β}
    {f : β → ExceptT ε (Prog Req Res) α} (hp : Still D p.run)
    (hf : ∀ b, Quiet D good (f b).run) : Quiet D good (p >>= f).run := by
  refine hp.bind_quiet fun r => ?_
  cases r with
  | ok b => exact hf b
  | error e => trivial

/-- A quiet program that did not end well has not touched the state. -/
theorem quiet_run [DecidableEq ι] {environment : σ → σ → Prop} {good : ι → α → Prop}
    {pool pool' : Pool Req Res α σ ι} (hquiet : ∀ i, Quiet D (good i) (pool.programs i))
    (hfresh : ∀ i, ¬pool.changed i)
    (hrun : Relation.ReflTransGen (Step D environment) pool pool') {i : ι} {a : α}
    (hdone : pool'.programs i = .done a) (hbad : ¬good i a) : ¬pool'.changed i := by
  have hall : ∀ j, (¬pool'.changed j ∧ Quiet D (good j) (pool'.programs j)) ∨
      Always (good j) (pool'.programs j) := by
    clear hdone
    induction hrun with
    | refl => exact fun j => .inl ⟨hfresh j, hquiet j⟩
    | tail _ hstep ih =>
      intro j
      cases hstep with
      | environment h => exact ih j
      | call i hprogram hexec =>
        by_cases hj : j = i
        · subst hj
          simp only [Function.update_self]
          rcases ih j with ⟨hunchanged, hq⟩ | halways
          · rw [hprogram] at hq
            rcases hq _ _ _ hexec with ⟨hidle, hnext⟩ | hends
            · exact .inl ⟨by simp [hunchanged, hidle], hnext⟩
            · exact .inr hends
          · rw [hprogram] at halways
            exact .inr (halways _)
        · simpa [Function.update_of_ne hj, hj] using ih j
  rcases hall i with ⟨hunchanged, -⟩ | halways
  · exact hunchanged
  · rw [hdone] at halways
    exact absurd halways hbad

end Quiet

/-! ## What every request of a program is held to -/

section Obeys

/-- Whatever the answers, each request is allowed with its answer and with what follows it. -/
def Obeys (allowed : (request : Req) → Res request → Prog Req Res α → Prop) : Prog Req Res α → Prop
  | .done _ => True
  | .call request next => ∀ res, allowed request res (next res) ∧ Obeys allowed (next res)

variable [DecidableEq ι] {D : Discipline Req Res σ} {environment : σ → σ → Prop}

/-- The programs after one of them has been answered. -/
def Pool.answered (D : Discipline Req Res σ) (pool : Pool Req Res α σ ι) (i : ι)
    (rest : Prog Req Res α) (s : σ) : Pool Req Res α σ ι where
  state := s
  programs := Function.update pool.programs i rest
  changed := fun j => pool.changed j ∨ (j = i ∧ D.touches pool.state s)

/-- What allowed requests and the environment keep, every run keeps. -/
theorem obeys_run {allowed : ι → (request : Req) → Res request → Prog Req Res α → Prop}
    {I : Pool Req Res α σ ι → Prop} {pool pool' : Pool Req Res α σ ι}
    (hcall : ∀ (pool : Pool Req Res α σ ι) i request next res s, I pool →
      pool.programs i = .call request next → allowed i request res (next res) →
      D.exec request pool.state res s → I (pool.answered D i (next res) s))
    (henvironment : ∀ (pool : Pool Req Res α σ ι) s, I pool → environment pool.state s →
      I { pool with state := s })
    (hobeys : ∀ i, Obeys (allowed i) (pool.programs i)) (hI : I pool)
    (hrun : Relation.ReflTransGen (Step D environment) pool pool') :
    I pool' ∧ ∀ i, Obeys (allowed i) (pool'.programs i) := by
  induction hrun with
  | refl => exact ⟨hI, hobeys⟩
  | tail _ hstep ih =>
    obtain ⟨hI', hobeys'⟩ := ih
    cases hstep with
    | environment h => exact ⟨henvironment _ _ hI' h, hobeys'⟩
    | call i hprogram hexec =>
      have hi := hobeys' i
      rw [hprogram] at hi
      obtain ⟨hallowed, hnext⟩ := hi _
      refine ⟨hcall _ i _ _ _ _ hI' hprogram hallowed hexec, fun j => ?_⟩
      by_cases hj : j = i
      · subst hj
        simpa using hnext
      · simpa [Function.update_of_ne hj] using hobeys' j

end Obeys

end Interleave
