import Mathlib.Data.List.Basic
import Mathlib.Order.Defs.Unbundled

/-! Computations that may fail and that keep the state they reached when they do. -/

theorem Except.bind_eq_ok {ε α β : Type} {x : Except ε α} {f : α → Except ε β} {b : β} :
    (x >>= f) = .ok b ↔ ∃ a, x = .ok a ∧ f a = .ok b := by
  cases x with
  | error e => simp [bind, Except.bind]
  | ok a => simp [bind, Except.bind]

/-- What every step of a fold keeps, the whole fold keeps. -/
theorem Except.foldlM_keeps {ε α β : Type} {f : β → α → Except ε β} {P : β → Prop}
    (hstep : ∀ b x c, P b → f b x = .ok c → P c) {xs : List α} {b c : β} (hb : P b)
    (h : xs.foldlM f b = .ok c) : P c := by
  induction xs generalizing b with
  | nil => exact Except.ok.inj h ▸ hb
  | cons x xs ih =>
    rw [List.foldlM_cons] at h
    obtain ⟨d, hd, h⟩ := Except.bind_eq_ok.mp h
    exact ih (hstep b x d hb hd) h

/-- A loop that succeeds has succeeded at every item. -/
theorem Except.ok_of_forM {ε α : Type} {f : α → Except ε Unit} {xs : List α}
    (h : xs.forM f = .ok ()) : ∀ x ∈ xs, f x = .ok () := by
  induction xs with
  | nil => simp
  | cons x xs ih =>
    obtain ⟨⟨⟩, hx, hxs⟩ := Except.bind_eq_ok.mp h
    exact List.forall_mem_cons.mpr ⟨hx, ih hxs⟩

/-- `x` fails in `E` only. -/
def Except.FailsIn {ε α : Type} (E : ε → Prop) (x : Except ε α) : Prop := ∀ e, x = .error e → E e

namespace Except.FailsIn

variable {ε δ α β : Type} {E : ε → Prop}

theorem ok {a : α} : FailsIn E (.ok a : Except ε α) := fun _ h => nomatch h

theorem error {e : ε} (h : E e) : FailsIn E (.error e : Except ε α) :=
  fun _ he => Except.error.inj he ▸ h

theorem bind {x : Except ε α} {f : α → Except ε β} (hx : FailsIn E x)
    (hf : ∀ a, x = .ok a → FailsIn E (f a)) : FailsIn E (x >>= f) := by
  cases x with
  | error e => exact error (hx e rfl)
  | ok a => exact hf a rfl

theorem mapError {x : Except δ α} {f : δ → ε} (h : ∀ d, E (f d)) : FailsIn E (x.mapError f) := by
  cases x with
  | error d => exact error (h d)
  | ok a => exact ok

theorem map {x : Except ε α} {f : α → β} (h : FailsIn E x) : FailsIn E (x.map f) := by
  cases x with
  | error e => exact error (h e rfl)
  | ok a => exact ok

theorem forM {xs : List α} {f : α → Except ε Unit} (h : ∀ x ∈ xs, FailsIn E (f x)) :
    FailsIn E (xs.forM f) := by
  induction xs with
  | nil => exact ok
  | cons x xs ih =>
    exact bind (h x List.mem_cons_self) fun _ _ => ih fun y hy => h y (List.mem_cons_of_mem x hy)

theorem mapM {xs : List α} {f : α → Except ε β} (h : ∀ x ∈ xs, FailsIn E (f x)) :
    FailsIn E (xs.mapM f) := by
  induction xs with
  | nil => exact ok
  | cons x xs ih =>
    rw [List.mapM_cons]
    exact bind (h x List.mem_cons_self) fun _ _ =>
      bind (ih fun y hy => h y (List.mem_cons_of_mem x hy)) fun _ _ => ok

theorem foldlM {xs : List α} {f : β → α → Except ε β} (h : ∀ b, ∀ x ∈ xs, FailsIn E (f b x)) (b : β) :
    FailsIn E (xs.foldlM f b) := by
  induction xs generalizing b with
  | nil => exact ok
  | cons x xs ih =>
    rw [List.foldlM_cons]
    exact bind (h b x List.mem_cons_self) fun c _ =>
      ih (fun b y hy => h b y (List.mem_cons_of_mem x hy)) c

end Except.FailsIn

def Run (ε σ α : Type) : Type := σ → Except ε α × σ

namespace Run

variable {ε σ τ α β : Type}

protected def pure (a : α) : Run ε σ α := fun s => (.ok a, s)

protected def bind (x : Run ε σ α) (f : α → Run ε σ β) : Run ε σ β := fun s =>
  match x s with
  | (.ok a, s) => f a s
  | (.error e, s) => (.error e, s)

instance : Monad (Run ε σ) where
  pure := Run.pure
  bind := Run.bind

def fail (e : ε) : Run ε σ α := fun s => (.error e, s)

def ofExcept (value : Except ε α) : Run ε σ α := fun s => (value, s)

/-- `value`, or the failure `e` where there is none. -/
def ofOption (value : Option α) (e : ε) : Run ε σ α :=
  match value with
  | some a => Run.pure a
  | none => fail e

def ensure (p : Prop) [Decidable p] (e : ε) : Run ε σ Unit :=
  if p then Run.pure () else fail e

/-- Runs `x` and hands its outcome on as a value. -/
def attempt (x : Run ε σ α) : Run ε σ (Except ε α) := fun s => (.ok (x s).1, (x s).2)

/-- Runs `x` on a part of the state. -/
def zoom (get : τ → σ) (set : σ → τ → τ) (x : Run ε σ α) : Run ε τ α := fun t =>
  ((x (get t)).1, set (x (get t)).2 t)

def forEach (xs : List α) (f : α → Run ε σ Unit) : Run ε σ Unit :=
  match xs with
  | [] => Run.pure ()
  | x :: xs => Run.bind (f x) fun _ => forEach xs f

def traverse (xs : List α) (f : α → Run ε σ β) : Run ε σ (List β) :=
  match xs with
  | [] => Run.pure []
  | x :: xs => Run.bind (f x) fun y => Run.bind (traverse xs f) fun ys => Run.pure (y :: ys)

@[simp] theorem pure_apply (a : α) (s : σ) : (pure a : Run ε σ α) s = (.ok a, s) := rfl

@[simp] theorem fail_apply (e : ε) (s : σ) : (fail e : Run ε σ α) s = (.error e, s) := rfl

@[simp] theorem ofExcept_apply (value : Except ε α) (s : σ) :
    (ofExcept value : Run ε σ α) s = (value, s) := rfl

@[simp] theorem attempt_apply (x : Run ε σ α) (s : σ) : attempt x s = (.ok (x s).1, (x s).2) := rfl

theorem bind_apply (x : Run ε σ α) (f : α → Run ε σ β) (s : σ) :
    (x >>= f) s = match x s with
      | (.ok a, s) => f a s
      | (.error e, s) => (.error e, s) := rfl

theorem bind_ok {x : Run ε σ α} {f : α → Run ε σ β} {s s' : σ} {a : α} (h : x s = (.ok a, s')) :
    (x >>= f) s = f a s' := by
  rw [bind_apply, h]

theorem bind_error {x : Run ε σ α} {f : α → Run ε σ β} {s s' : σ} {e : ε}
    (h : x s = (.error e, s')) : (x >>= f) s = (.error e, s') := by
  rw [bind_apply, h]

@[simp] theorem pure_bind (a : α) (f : α → Run ε σ β) : (pure a : Run ε σ α) >>= f = f a := rfl

@[simp] theorem fail_bind (e : ε) (f : α → Run ε σ β) : (fail e : Run ε σ α) >>= f = fail e := rfl

@[simp] theorem ofExcept_ok (a : α) : (ofExcept (.ok a) : Run ε σ α) = pure a := rfl

@[simp] theorem ofExcept_error (e : ε) : (ofExcept (.error e) : Run ε σ α) = fail e := rfl

@[simp] theorem ofOption_some (a : α) (e : ε) : (ofOption (some a) e : Run ε σ α) = pure a := rfl

@[simp] theorem ofOption_none (e : ε) : (ofOption none e : Run ε σ α) = fail e := rfl

theorem ensure_pos {p : Prop} [Decidable p] (e : ε) (h : p) :
    (ensure p e : Run ε σ Unit) = pure () := if_pos h

theorem ensure_neg {p : Prop} [Decidable p] (e : ε) (h : ¬p) :
    (ensure p e : Run ε σ Unit) = fail e := if_neg h

@[simp] theorem forEach_nil (f : α → Run ε σ Unit) : forEach [] f = pure () := rfl

theorem forEach_cons (x : α) (xs : List α) (f : α → Run ε σ Unit) :
    forEach (x :: xs) f = f x >>= fun _ => forEach xs f := rfl

theorem forEach_congr {xs : List α} {f g : α → Run ε σ Unit} (h : ∀ x ∈ xs, f x = g x) :
    forEach xs f = forEach xs g := by
  induction xs with
  | nil => rfl
  | cons x xs ih =>
    rw [forEach_cons, forEach_cons, h x List.mem_cons_self,
      ih fun y hy => h y (List.mem_cons_of_mem x hy)]

@[simp] theorem traverse_nil (f : α → Run ε σ β) : traverse [] f = pure [] := rfl

theorem traverse_cons (x : α) (xs : List α) (f : α → Run ε σ β) :
    traverse (x :: xs) f = f x >>= fun y => traverse xs f >>= fun ys => pure (y :: ys) := rfl

/-! Rules for what every run of a computation keeps. -/

/-- Every run of `x` takes its state along `R`, and answers in `P` or fails in `E`. -/
structure Sat (R : σ → σ → Prop) (E : ε → Prop) (P : α → Prop) (x : Run ε σ α) : Prop where
  state : ∀ s, R s (x s).2
  value : ∀ s a, (x s).1 = .ok a → P a
  failure : ∀ s e, (x s).1 = .error e → E e

section Rules

variable {R : σ → σ → Prop} {E : ε → Prop} {P : α → Prop} {Q : β → Prop}

theorem Sat.weaken {P' : α → Prop} {x : Run ε σ α} (h : Sat R E P x) (hP : ∀ a, P a → P' a) :
    Sat R E P' x :=
  ⟨h.state, fun s a ha => hP a (h.value s a ha), h.failure⟩

variable [Std.Refl R]

theorem sat_pure {a : α} (h : P a) : Sat R E P (pure a) :=
  ⟨fun s => refl_of R s, fun _ _ ha => Except.ok.inj ha ▸ h, fun _ _ he => nomatch he⟩

theorem sat_fail {e : ε} (h : E e) : Sat R E P (fail e) :=
  ⟨fun s => refl_of R s, fun _ _ ha => (nomatch ha), fun _ _ he => Except.error.inj he ▸ h⟩

theorem sat_ofExcept {value : Except ε α} (hok : ∀ a, value = .ok a → P a)
    (herror : value.FailsIn E) : Sat R E P (ofExcept value) :=
  ⟨fun s => refl_of R s, fun _ => hok, fun _ => herror⟩

theorem sat_ofOption {value : Option α} {e : ε} (hsome : ∀ a, value = some a → P a)
    (hnone : value = none → E e) : Sat R E P (ofOption value e) := by
  cases value with
  | none => exact sat_fail (hnone rfl)
  | some a => exact sat_pure (hsome a rfl)

theorem sat_ensure {p : Prop} [Decidable p] {e : ε} (h : ¬p → E e) :
    Sat R E (fun _ => p) (ensure p e) := by
  by_cases hp : p
  · rw [ensure_pos e hp]
    exact sat_pure hp
  · rw [ensure_neg e hp]
    exact sat_fail (h hp)

variable [IsTrans σ R]

omit [Std.Refl R] in
theorem Sat.bind {x : Run ε σ α} {f : α → Run ε σ β} (hx : Sat R E P x)
    (hf : ∀ a, P a → Sat R E Q (f a)) : Sat R E Q (x >>= f) := by
  have hrun (s : σ) : R s ((x >>= f) s).2 ∧ (∀ b, ((x >>= f) s).1 = .ok b → Q b) ∧
      ∀ e, ((x >>= f) s).1 = .error e → E e := by
    have hstate := hx.state s
    cases h : x s with
    | mk value t =>
      rw [h] at hstate
      cases value with
      | error e =>
        rw [bind_error h]
        refine ⟨hstate, fun _ hb => (nomatch hb), fun e' he => ?_⟩
        exact Except.error.inj he ▸ hx.failure s e (by rw [h])
      | ok a =>
        rw [bind_ok h]
        have ha := hf a (hx.value s a (by rw [h]))
        exact ⟨trans_of R hstate (ha.state t), ha.value t, ha.failure t⟩
  exact ⟨fun s => (hrun s).1, fun s => (hrun s).2.1, fun s => (hrun s).2.2⟩

omit [Std.Refl R] [IsTrans σ R] in
/-- The outcome of an attempt is a value in `P` or a failure in `E`. -/
theorem Sat.attempt {x : Run ε σ α} {E' : ε → Prop} (hx : Sat R E P x) :
    Sat R E' (fun outcome => (∀ a, outcome = .ok a → P a) ∧ ∀ e, outcome = .error e → E e)
      (attempt x) :=
  ⟨hx.state, fun s _ ha => Except.ok.inj ha ▸ ⟨hx.value s, hx.failure s⟩, fun _ _ he => nomatch he⟩

theorem sat_forEach {xs : List α} {f : α → Run ε σ Unit}
    (h : ∀ x ∈ xs, Sat R E (fun _ => True) (f x)) : Sat R E (fun _ => True) (forEach xs f) := by
  induction xs with
  | nil => exact sat_pure trivial
  | cons x xs ih =>
    rw [forEach_cons]
    exact (h x List.mem_cons_self).bind fun _ _ => ih fun y hy => h y (List.mem_cons_of_mem x hy)

theorem sat_traverse {xs : List α} {f : α → Run ε σ β} (h : ∀ x ∈ xs, Sat R E Q (f x)) :
    Sat R E (fun ys => ∀ y ∈ ys, Q y) (traverse xs f) := by
  induction xs with
  | nil => exact sat_pure fun _ hy => absurd hy List.not_mem_nil
  | cons x xs ih =>
    rw [traverse_cons]
    refine (h x List.mem_cons_self).bind fun y hy => ?_
    refine (ih fun z hz => h z (List.mem_cons_of_mem x hz)).bind fun ys hys => ?_
    exact sat_pure fun z hz => (List.mem_cons.mp hz).elim (fun heq => heq ▸ hy) (hys z)

end Rules

/-- Every answer of `x` is in `P`. -/
def Answers (P : α → Prop) (x : Run ε σ α) : Prop := ∀ s a, (x s).1 = .ok a → P a

section Answers

variable {P : α → Prop} {Q : β → Prop}

/-- All that is known of an answer without a rule for `x`: some run of `x` gives it. -/
theorem answers_self (x : Run ε σ α) : Answers (fun a => ∃ s, (x s).1 = .ok a) x :=
  fun s _ h => ⟨s, h⟩

theorem answers_pure {a : α} (h : P a) : Answers P (pure a : Run ε σ α) :=
  fun _ _ ha => Except.ok.inj ha ▸ h

theorem answers_fail {e : ε} : Answers P (fail e : Run ε σ α) := fun _ _ ha => nomatch ha

theorem answers_ofExcept {value : Except ε α} (h : ∀ a, value = .ok a → P a) :
    Answers P (ofExcept value : Run ε σ α) := fun _ => h

theorem answers_ofOption {value : Option α} {e : ε} (h : ∀ a, value = some a → P a) :
    Answers P (ofOption value e : Run ε σ α) := by
  cases value with
  | none => exact answers_fail
  | some a => exact answers_pure (h a rfl)

theorem answers_ensure {p : Prop} [Decidable p] {e : ε} :
    Answers (fun _ => p) (ensure p e : Run ε σ Unit) := by
  by_cases h : p
  · rw [ensure_pos e h]
    exact answers_pure h
  · rw [ensure_neg e h]
    exact answers_fail

theorem Answers.bind {x : Run ε σ α} {f : α → Run ε σ β} (hx : Answers P x)
    (hf : ∀ a, P a → Answers Q (f a)) : Answers Q (x >>= f) := by
  intro s b hb
  cases h : x s with
  | mk value t =>
    cases value with
    | error e =>
      rw [bind_error h] at hb
      nomatch hb
    | ok a =>
      rw [bind_ok h] at hb
      exact hf a (hx s a (by rw [h])) t b hb

end Answers

/-- Every failure of `x` is in `E`. -/
def FailsIn (E : ε → Prop) (x : Run ε σ α) : Prop := ∀ s, (x s).1.FailsIn E

section FailsIn

variable {E : ε → Prop}

theorem failsIn_pure (a : α) : FailsIn E (pure a : Run ε σ α) := fun _ => .ok

theorem failsIn_ofExcept {value : Except ε α} (h : value.FailsIn E) :
    FailsIn E (ofExcept value : Run ε σ α) := fun _ => h

theorem FailsIn.bind {x : Run ε σ α} {f : α → Run ε σ β} (hx : FailsIn E x)
    (hf : ∀ a, FailsIn E (f a)) : FailsIn E (x >>= f) := by
  intro s
  cases h : x s with
  | mk value t =>
    cases value with
    | error e =>
      rw [bind_error h]
      exact .error (hx s e (by rw [h]))
    | ok a =>
      rw [bind_ok h]
      exact hf a t

theorem FailsIn.attempt_bind {x : Run ε σ α} {f : Except ε α → Run ε σ β}
    (hf : ∀ outcome, FailsIn E (f outcome)) : FailsIn E (attempt x >>= f) :=
  FailsIn.bind (fun _ => .ok) hf

end FailsIn

/-- `x` has one outcome, which every run reaches that does not fail in `E`. -/
def Steady (E : ε → Prop) (x : Run ε σ α) : Prop :=
  ∃ outcome, ∀ s, (x s).1 = outcome ∨ ∃ e, E e ∧ (x s).1 = .error e

section Steady

variable {E : ε → Prop}

theorem steady_ofExcept (value : Except ε α) : Steady E (ofExcept value : Run ε σ α) :=
  ⟨value, fun _ => Or.inl rfl⟩

theorem steady_pure (a : α) : Steady E (pure a : Run ε σ α) := steady_ofExcept (.ok a)

theorem steady_fail (e : ε) : Steady E (fail e : Run ε σ α) := steady_ofExcept (.error e)

theorem steady_ofOption (value : Option α) (e : ε) : Steady E (ofOption value e : Run ε σ α) := by
  cases value with
  | none => exact steady_fail e
  | some a => exact steady_pure a

theorem steady_ensure (p : Prop) [Decidable p] (e : ε) : Steady E (ensure p e : Run ε σ Unit) := by
  by_cases hp : p
  · rw [ensure_pos e hp]
    exact steady_pure ()
  · rw [ensure_neg e hp]
    exact steady_fail e

theorem Steady.bind {x : Run ε σ α} {f : α → Run ε σ β} (hx : Steady E x)
    (hf : ∀ a, Steady E (f a)) : Steady E (x >>= f) := by
  obtain ⟨outcome, hx⟩ := hx
  have hbind (s : σ) (e : ε) (h : (x s).1 = .error e) : ((x >>= f) s).1 = .error e := by
    rw [bind_error (Prod.ext h rfl : x s = (.error e, (x s).2))]
  cases outcome with
  | error e =>
    refine ⟨.error e, fun s => ?_⟩
    rcases hx s with h | ⟨e', he', h⟩
    · exact Or.inl (hbind s e h)
    · exact Or.inr ⟨e', he', hbind s e' h⟩
  | ok a =>
    obtain ⟨next, hnext⟩ := hf a
    refine ⟨next, fun s => ?_⟩
    rcases hx s with h | ⟨e', he', h⟩
    · rw [bind_ok (Prod.ext h rfl : x s = (.ok a, (x s).2))]
      exact hnext (x s).2
    · exact Or.inr ⟨e', he', hbind s e' h⟩

/-- An attempt is steady where the failures in `E` it hands on are failures in `E` again. -/
theorem Steady.attempt_bind {x : Run ε σ α} {f : Except ε α → Run ε σ β} (hx : Steady E x)
    (hf : ∀ outcome, Steady E (f outcome))
    (hE : ∀ e, E e → ∀ s, ∃ e', E e' ∧ (f (.error e) s).1 = .error e') :
    Steady E (attempt x >>= f) := by
  obtain ⟨outcome, hx⟩ := hx
  obtain ⟨next, hnext⟩ := hf outcome
  refine ⟨next, fun s => ?_⟩
  have hrun : (attempt x >>= f) s = f (x s).1 (x s).2 := bind_ok rfl
  rw [hrun]
  rcases hx s with h | ⟨e, he, h⟩
  · rw [h]
    exact hnext (x s).2
  · rw [h]
    exact Or.inr (hE e he (x s).2)

/-- Two runs of a steady computation that both answer give the same answer. -/
theorem Steady.ok_unique {x : Run ε σ α} (hx : Steady E x) {s t : σ} {a b : α}
    (ha : (x s).1 = .ok a) (hb : (x t).1 = .ok b) : a = b := by
  obtain ⟨outcome, hx⟩ := hx
  have hsame (s : σ) (a : α) (h : (x s).1 = .ok a) : outcome = .ok a := by
    rcases hx s with h' | ⟨e, -, h'⟩
    · exact h'.symm.trans h
    · rw [h] at h'
      cases h'
  exact Except.ok.inj ((hsame s a ha).symm.trans (hsame t b hb))

end Steady

/-- A computation on a part of the state keeps what it keeps there. -/
theorem Sat.zoom {R : σ → σ → Prop} {S : τ → τ → Prop} {E : ε → Prop} {P : α → Prop}
    {x : Run ε σ α} {get : τ → σ} {set : σ → τ → τ} (hx : Sat R E P x)
    (hset : ∀ t s, R (get t) s → S t (set s t)) : Sat S E P (Run.zoom get set x) :=
  ⟨fun t => hset t _ (hx.state (get t)), fun t => hx.value (get t), fun t => hx.failure (get t)⟩

end Run
