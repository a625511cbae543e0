import Mathlib.Data.List.Basic

/-! Parsers with a cursor into their input: what they may do wrong, and the rules that tell which
language such a parser accepts. -/

namespace Scan

/-- How a parser stops early: it refuses its input, or it goes wrong itself. -/
inductive Stop (ε : Type) where
  | refused (error : ε)
  | outOfRange
  | outOfFuel
  deriving DecidableEq

/-- A parser reads the whole input and moves a cursor. -/
abbrev Scanner (ε α : Type) := ReaderT (List UInt8) (StateT Nat (Except (Stop ε))) α

variable {ε σ α β : Type}

def cursor : Scanner ε Nat := fun _ position => .ok (position, position)

def inputLength : Scanner ε Nat := fun input position => .ok (input.length, position)

def peek : Scanner ε (Option UInt8) := fun input position => .ok (input[position]?, position)

def setCursor (position : Nat) : Scanner ε Unit := fun _ _ => .ok ((), position)

def advance (count : Nat) : Scanner ε Unit := fun _ position => .ok ((), position + count)

def refuse (error : ε) : Scanner ε α := fun _ _ => .error (.refused error)

def orRefuse (error : ε) : Option α → Scanner ε α
  | some a => pure a
  | none => refuse error

def check (p : Prop) [Decidable p] (error : ε) : Scanner ε Unit := if p then pure () else refuse error

/-- The bytes from `start` to `stop`, if the input has them. -/
def slice (start stop : Nat) : Scanner ε (Option (List UInt8)) := fun input position =>
  .ok (if start ≤ stop ∧ stop ≤ input.length then some ((input.drop start).take (stop - start))
    else none, position)

/-- Everything from `start`; going past the end is an error of the parser. -/
def suffix (start : Nat) : Scanner ε (List UInt8) := fun input position =>
  if start ≤ input.length then .ok (input.drop start, position) else .error .outOfRange

/-- A byte of a list; going past the end is an error of the parser. -/
def index (bytes : List UInt8) (i : Nat) : Scanner ε UInt8 :=
  match bytes[i]? with
  | some b => pure b
  | none => fun _ _ => .error .outOfRange

/-- A loop of at most `fuel` rounds. -/
def loop (body : σ → Scanner ε (σ ⊕ α)) : Nat → σ → Scanner ε α
  | 0, _ => fun _ _ => .error .outOfFuel
  | fuel + 1, s => do
    match ← body s with
    | .inl t => loop body fuel t
    | .inr a => pure a

def skipRound (p : UInt8 → Bool) : Scanner ε (Unit ⊕ Unit) := do
  match ← peek with
  | some b =>
    if p b then
      advance 1
      pure (.inl ())
    else
      pure (.inr ())
  | none => pure (.inr ())

/-- Moves past the bytes that satisfy `p`. -/
def skipWhile (p : UInt8 → Bool) (fuel : Nat) : Scanner ε Unit := loop (fun _ => skipRound p) fuel ()

/-- The run of a parser that stands between `before` and `remaining`. -/
def standing (p : Scanner ε α) (before remaining : List UInt8) : Except (Stop ε) (α × Nat) :=
  p (before ++ remaining) before.length

section Standing

variable {before remaining : List UInt8}

@[simp] theorem standing_pure (a : α) :
    standing (pure a : Scanner ε α) before remaining = .ok (a, before.length) := rfl

@[simp] theorem standing_refuse (error : ε) :
    standing (refuse error : Scanner ε α) before remaining = .error (.refused error) := rfl

theorem standing_bind (p : Scanner ε α) (f : α → Scanner ε β) :
    standing (p >>= f) before remaining = standing p before remaining >>= fun result =>
      f result.1 (before ++ remaining) result.2 := rfl

theorem standing_bind_ok {p : Scanner ε α} {f : α → Scanner ε β} {a : α} {xs ys : List UInt8}
    (h : standing p before (xs ++ ys) = .ok (a, before.length + xs.length)) :
    standing (p >>= f) before (xs ++ ys) = standing (f a) (before ++ xs) ys := by
  rw [standing_bind, h]
  show f a (before ++ (xs ++ ys)) (before.length + xs.length) = _
  rw [standing, List.length_append, List.append_assoc]

@[simp] theorem standing_peek :
    standing (peek : Scanner ε _) before remaining = .ok (remaining.head?, before.length) := by
  show Except.ok ((before ++ remaining)[before.length]?, before.length) = _
  rw [List.getElem?_append_right (Nat.le_refl _), Nat.sub_self, List.head?_eq_getElem?]

@[simp] theorem standing_bind_peek (f : Option UInt8 → Scanner ε β) :
    standing (peek >>= f) before remaining = standing (f remaining.head?) before remaining := by
  rw [standing_bind, standing_peek]
  rfl

@[simp] theorem standing_bind_cursor (f : Nat → Scanner ε β) :
    standing (cursor >>= f) before remaining = standing (f before.length) before remaining := rfl

@[simp] theorem standing_bind_pure (a : α) (f : α → Scanner ε β) :
    standing (pure a >>= f) before remaining = standing (f a) before remaining := rfl

@[simp] theorem standing_bind_refuse (error : ε) (f : α → Scanner ε β) :
    standing (refuse error >>= f) before remaining = .error (.refused error) := rfl

theorem standing_bind_advance {count : Nat} {xs ys : List UInt8} (h : xs.length = count)
    (f : Unit → Scanner ε β) :
    standing (advance count >>= f) before (xs ++ ys) = standing (f ()) (before ++ xs) ys := by
  refine standing_bind_ok ?_
  rw [h]
  rfl

@[simp] theorem standing_bind_advance_one {b : UInt8} {rest : List UInt8} (f : Unit → Scanner ε β) :
    standing (advance 1 >>= f) before (b :: rest) = standing (f ()) (before ++ [b]) rest :=
  @standing_bind_advance ε β before 1 [b] rest rfl f

/-- Standing after a byte, its place is one before the cursor. -/
theorem standing_bind_suffix {b : UInt8} {rest : List UInt8} (f : List UInt8 → Scanner ε β) :
    standing (suffix before.length >>= f) (before ++ [b]) rest =
      standing (f (b :: rest)) (before ++ [b]) rest := by
  have hinput : before ++ [b] ++ rest = before ++ (b :: rest) := by simp
  rw [standing_bind]
  simp only [standing, suffix, hinput, List.drop_left, List.length_append, Nat.le_add_right, if_true]
  rfl

end Standing

/-- A run accepts exactly the pieces of a language; `R` is what it needs of the bytes that follow. -/
structure Runs (R : List UInt8 → Prop) (before remaining : List UInt8)
    (x : Except (Stop ε) (α × Nat)) (G : α → List UInt8 → List UInt8 → Prop) : Prop where
  sound : ∀ a position, x = .ok (a, position) → ∃ piece after, remaining = piece ++ after ∧
    position = before.length + piece.length ∧ G a piece after
  complete : ∀ a piece after, remaining = piece ++ after → G a piece after → R after →
    x = .ok (a, before.length + piece.length)
  safe : ∀ stop, x = .error stop → ∃ error, stop = .refused error

namespace Runs

variable {R : List UInt8 → Prop} {before remaining : List UInt8}

theorem pure (a : α) :
    Runs (ε := ε) R before remaining (.ok (a, before.length)) fun b piece _ => b = a ∧ piece = [] where
  sound b position h := by
    obtain ⟨hb, hposition⟩ := Prod.mk.inj (Except.ok.inj h)
    exact ⟨[], remaining, rfl, hposition.symm, hb.symm, rfl⟩
  complete b piece after _ h _ := by
    rw [h.1, h.2]
    rfl
  safe _ h := nomatch h

theorem refuse (error : ε) :
    Runs (α := α) R before remaining (.error (.refused error)) fun _ _ _ => False where
  sound _ _ h := nomatch h
  complete _ _ _ _ h _ := h.elim
  safe _ h := ⟨error, (Except.error.inj h).symm⟩

theorem congr {x : Except (Stop ε) (α × Nat)} {G G' : α → List UInt8 → List UInt8 → Prop}
    (h : Runs R before remaining x G)
    (hG : ∀ a piece after, remaining = piece ++ after → (G' a piece after ↔ G a piece after)) :
    Runs R before remaining x G' where
  sound a position hx := by
    obtain ⟨piece, after, hremaining, hposition, hpiece⟩ := h.sound a position hx
    exact ⟨piece, after, hremaining, hposition, (hG _ _ _ hremaining).mpr hpiece⟩
  complete a piece after hremaining hpiece hafter :=
    h.complete a piece after hremaining ((hG _ _ _ hremaining).mp hpiece) hafter
  safe := h.safe

/-- What was read before belongs to the piece. -/
theorem shift {xs : List UInt8} {x : Except (Stop ε) (α × Nat)}
    {G : α → List UInt8 → List UInt8 → Prop} (h : Runs R (before ++ xs) remaining x G) :
    Runs R before (xs ++ remaining) x fun a piece after => ∃ ys, piece = xs ++ ys ∧ G a ys after where
  sound a position hx := by
    obtain ⟨piece, after, hremaining, hposition, hpiece⟩ := h.sound a position hx
    refine ⟨xs ++ piece, after, by rw [hremaining, List.append_assoc], ?_, piece, rfl, hpiece⟩
    rw [hposition, List.length_append, List.length_append, Nat.add_assoc]
  complete a piece after hremaining hpiece hafter := by
    obtain ⟨ys, rfl, hys⟩ := hpiece
    rw [List.append_assoc] at hremaining
    rw [h.complete a ys after (List.append_cancel_left hremaining) hys hafter, List.length_append,
      List.length_append, Nat.add_assoc]
  safe := h.safe

theorem bind {p : Scanner ε α} {f : α → Scanner ε β} {E : α → List UInt8 → List UInt8 → Prop}
    {F : α → β → List UInt8 → List UInt8 → Prop} (hp : Runs R before remaining (standing p before remaining) E)
    (hf : ∀ a piece after, remaining = piece ++ after → E a piece after →
      Runs R (before ++ piece) after (standing (f a) (before ++ piece) after) (F a))
    (hclosed : ∀ a b piece after, F a b piece after → R after → R (piece ++ after)) :
    Runs R before remaining (standing (p >>= f) before remaining) fun b piece after =>
      ∃ a xs ys, piece = xs ++ ys ∧ E a xs (ys ++ after) ∧ F a b ys after where
  sound b position h := by
    rw [standing_bind] at h
    cases hx : standing p before remaining with
    | error stop =>
      rw [hx] at h
      cases h
    | ok result =>
      obtain ⟨xs, middle, rfl, hposition, hxs⟩ := hp.sound result.1 result.2 hx
      rw [← standing_bind, standing_bind_ok (hx.trans (by rw [← hposition]))] at h
      obtain ⟨ys, after, rfl, hend, hys⟩ := (hf _ _ _ rfl hxs).sound b position h
      refine ⟨xs ++ ys, after, by rw [List.append_assoc], ?_, result.1, xs, ys, rfl, hxs, hys⟩
      rw [hend, List.length_append, List.length_append, Nat.add_assoc]
  complete b piece after hremaining h hafter := by
    obtain ⟨a, xs, ys, rfl, hxs, hys⟩ := h
    rw [List.append_assoc] at hremaining
    have hx := hp.complete a xs (ys ++ after) hremaining hxs (hclosed a b ys after hys hafter)
    have hy := (hf a xs (ys ++ after) hremaining hxs).complete b ys after rfl hys hafter
    rw [hremaining] at hx ⊢
    rw [standing_bind_ok hx, hy, List.length_append, List.length_append, Nat.add_assoc]
  safe stop h := by
    rw [standing_bind] at h
    cases hx : standing p before remaining with
    | error found =>
      rw [hx] at h
      cases h
      exact hp.safe _ hx
    | ok result =>
      obtain ⟨xs, middle, rfl, hposition, hxs⟩ := hp.sound result.1 result.2 hx
      rw [← standing_bind, standing_bind_ok (hx.trans (by rw [← hposition]))] at h
      exact (hf _ _ _ rfl hxs).safe stop h

end Runs

/-- Wherever `P` holds of what remains, the parser accepts exactly the pieces of a language. -/
structure Scans (R P : List UInt8 → Prop) (p : Scanner ε α)
    (G : α → List UInt8 → List UInt8 → Prop) : Prop where
  runs : ∀ before remaining, P remaining → Runs R before remaining (standing p before remaining) G
  closed : ∀ a piece after, G a piece after → R after → R (piece ++ after)

namespace Scans

variable {R P : List UInt8 → Prop}

theorem pure (a : α) : Scans (ε := ε) R P (Pure.pure a) fun b piece _ => b = a ∧ piece = [] where
  runs _ _ _ := Runs.pure a
  closed _ _ _ h hafter := by
    rw [h.2]
    exact hafter

theorem refuse (error : ε) : Scans (α := α) R P (refuse error) fun _ _ _ => False where
  runs _ _ _ := Runs.refuse error
  closed _ _ _ h := h.elim

theorem bind {Q : α → List UInt8 → Prop} {p : Scanner ε α} {f : α → Scanner ε β}
    {E : α → List UInt8 → List UInt8 → Prop} {F : α → β → List UInt8 → List UInt8 → Prop}
    (hp : Scans R P p E) (hf : ∀ a, Scans R (Q a) (f a) (F a))
    (hQ : ∀ a piece after, P (piece ++ after) → E a piece after → Q a after) :
    Scans R P (p >>= f) fun b piece after =>
      ∃ a xs ys, piece = xs ++ ys ∧ E a xs (ys ++ after) ∧ F a b ys after where
  runs before remaining h := by
    refine (hp.runs before remaining h).bind (fun a piece after hremaining hpiece => ?_)
      fun a => (hf a).closed
    exact (hf a).runs _ _ (hQ a piece after (hremaining ▸ h) hpiece)
  closed b piece after h hafter := by
    obtain ⟨a, xs, ys, rfl, hxs, hys⟩ := h
    rw [List.append_assoc]
    exact hp.closed a xs (ys ++ after) hxs ((hf a).closed b ys after hys hafter)

theorem congr {p : Scanner ε α} {G G' : α → List UInt8 → List UInt8 → Prop} (h : Scans R P p G)
    (hG : ∀ a piece after, G' a piece after ↔ G a piece after) : Scans R P p G' where
  runs before remaining hP := (h.runs before remaining hP).congr fun a piece after _ => hG a piece after
  closed a piece after hpiece := h.closed a piece after ((hG a piece after).mp hpiece)

theorem weaken {P' : List UInt8 → Prop} {p : Scanner ε α} {G : α → List UInt8 → List UInt8 → Prop}
    (h : Scans R P p G) (hP : ∀ remaining, P' remaining → P remaining) : Scans R P' p G where
  runs before remaining hP' := h.runs before remaining (hP remaining hP')
  closed := h.closed

theorem orRefuse (error : ε) (found : Option α) :
    Scans R P (orRefuse error found) fun a piece _ => found = some a ∧ piece = [] := by
  cases found with
  | none =>
    refine (Scans.refuse error).congr fun a piece after => ?_
    simp
  | some b =>
    refine (Scans.pure b).congr fun a piece after => ?_
    simp [eq_comm]

theorem check (p : Prop) [Decidable p] (error : ε) :
    Scans R P (check p error) fun _ piece _ => p ∧ piece = [] := by
  unfold Scan.check
  by_cases hp : p
  · rw [if_pos hp]
    refine (Scans.pure ()).congr fun _ piece after => ?_
    simp [hp]
  · rw [if_neg hp]
    refine (Scans.refuse error).congr fun _ piece after => ?_
    simp [hp]

end Scans

/-! ## Loops -/

/-- Rounds that go on, and a last one that stops. -/
inductive Repeats (E : σ → σ ⊕ α → List UInt8 → List UInt8 → Prop) :
    σ → α → List UInt8 → List UInt8 → Prop where
  | stop {s a piece after} (h : E s (.inr a) piece after) : Repeats E s a piece after
  | step {s t a xs ys after} (h : E s (.inl t) xs (ys ++ after)) (htail : Repeats E t a ys after) :
      Repeats E s a (xs ++ ys) after

theorem Repeats.closed {R : List UInt8 → Prop} {E : σ → σ ⊕ α → List UInt8 → List UInt8 → Prop}
    (hE : ∀ s r piece after, E s r piece after → R after → R (piece ++ after)) {s : σ} {a : α}
    {piece after : List UInt8} (h : Repeats E s a piece after) (hafter : R after) :
    R (piece ++ after) := by
  induction h with
  | stop h => exact hE _ _ _ _ h hafter
  | step h _ ih =>
    rw [List.append_assoc]
    exact hE _ _ _ _ h (ih hafter)

/-- A loop whose rounds go on only after reading something accepts the repetitions of its rounds, and
as many rounds as there are bytes are enough. -/
theorem Scans.loop {R P : List UInt8 → Prop} {body : σ → Scanner ε (σ ⊕ α)}
    {E : σ → σ ⊕ α → List UInt8 → List UInt8 → Prop} (hbody : ∀ s, Scans R P (body s) (E s))
    (hP : ∀ piece after, P (piece ++ after) → P after)
    (hprogress : ∀ s t piece after, E s (.inl t) piece after → piece ≠ []) (fuel : Nat) (s : σ) :
    Scans R (fun remaining => P remaining ∧ remaining.length < fuel) (loop body fuel s)
      (Repeats E s) := by
  have hclosed : ∀ s a piece after, Repeats E s a piece after → R after → R (piece ++ after) :=
    fun s a piece after h => h.closed fun s => (hbody s).closed
  refine ⟨?_, hclosed s⟩
  induction fuel generalizing s with
  | zero => exact fun _ _ h => absurd h.2 (Nat.not_lt_zero _)
  | succ fuel ih =>
    intro before remaining h
    let F : σ ⊕ α → α → List UInt8 → List UInt8 → Prop := fun r a piece after =>
      match r with
      | .inl t => Repeats E t a piece after
      | .inr b => a = b ∧ piece = []
    have hrun := ((hbody s).runs before remaining h.1).bind (F := F)
      (f := fun r => match r with
        | .inl t => Scan.loop body fuel t
        | .inr a => Pure.pure a)
      (fun r piece after hremaining hpiece => by
        cases r with
        | inl t =>
          have hlength := congrArg List.length hremaining
          have hpos := List.length_pos_of_ne_nil (hprogress s t piece after hpiece)
          rw [List.length_append] at hlength
          exact ih t _ _ ⟨hP piece after (hremaining ▸ h.1), by omega⟩
        | inr a => exact Runs.pure a)
      (fun r a piece after hpiece hafter => by
        cases r with
        | inl t => exact hclosed t a piece after hpiece hafter
        | inr b =>
          rw [hpiece.2]
          exact hafter)
    refine hrun.congr fun a piece after _ => ?_
    constructor
    · intro hrepeats
      cases hrepeats with
      | stop hstop => exact ⟨.inr a, piece, [], (List.append_nil piece).symm, hstop, rfl, rfl⟩
      | step hstep htail => exact ⟨.inl _, _, _, rfl, hstep, htail⟩
    · intro hparts
      obtain ⟨r, xs, ys, rfl, hxs, hys⟩ := hparts
      cases r with
      | inl t => exact .step hxs hys
      | inr b =>
        obtain ⟨rfl, rfl⟩ := hys
        rw [List.append_nil]
        exact .stop hxs

/-- Skipping takes the longest piece there is. -/
theorem Scans.skipWhile {R : List UInt8 → Prop} {p : UInt8 → Bool}
    (hR : ∀ b rest, p b = true → R rest → R (b :: rest)) (fuel : Nat) :
    Scans (ε := ε) R (fun remaining => remaining.length < fuel) (skipWhile p fuel) fun _ piece after =>
      (∀ b ∈ piece, p b = true) ∧ ∀ b ∈ after.head?, p b = false := by
  let E : Unit → Unit ⊕ Unit → List UInt8 → List UInt8 → Prop := fun _ r piece after =>
    match r with
    | .inl _ => ∃ b, piece = [b] ∧ p b = true
    | .inr _ => piece = [] ∧ ∀ b ∈ after.head?, p b = false
  have hround : ∀ s, Scans (ε := ε) R (fun _ => True) (skipRound p) (E s) := by
    intro s
    refine ⟨fun before remaining _ => ?_, fun r piece after hpiece hafter => ?_⟩
    · unfold skipRound
      rw [standing_bind_peek]
      cases remaining with
      | nil =>
        refine (Runs.pure (Sum.inr ())).congr fun r piece after hremaining => ?_
        obtain ⟨rfl, rfl⟩ := List.append_eq_nil_iff.mp hremaining.symm
        cases r <;> simp [E]
      | cons b rest =>
        by_cases hb : p b = true
        · have hrun := (@Runs.pure ε _ R (before ++ [b]) rest (Sum.inl () : Unit ⊕ Unit)).shift
          simp only [List.head?_cons, hb, if_true, standing_bind_advance_one, standing_pure]
          refine hrun.congr fun r piece after hremaining => ?_
          cases r with
          | inl u =>
            constructor
            · intro h
              obtain ⟨d, rfl, -⟩ := h
              obtain ⟨hsame, -⟩ := List.cons.inj hremaining
              exact ⟨[], by rw [hsame]; rfl, rfl, rfl⟩
            · intro h
              obtain ⟨ys, hpiece, -, rfl⟩ := h
              exact ⟨b, hpiece, hb⟩
          | inr u =>
            constructor
            · intro h
              obtain ⟨rfl, hhead⟩ := h
              rw [List.nil_append] at hremaining
              rw [← hremaining] at hhead
              exact absurd hb (by rw [hhead b rfl]; decide)
            · intro h
              obtain ⟨ys, -, hcontra, -⟩ := h
              cases hcontra
        · simp only [List.head?_cons, hb, if_false, Bool.false_eq_true, standing_pure]
          refine (Runs.pure (Sum.inr ())).congr fun r piece after hremaining => ?_
          cases r with
          | inl u =>
            constructor
            · intro h
              obtain ⟨d, rfl, hd⟩ := h
              obtain ⟨hsame, -⟩ := List.cons.inj hremaining
              exact absurd (hsame ▸ hd) hb
            · intro h
              cases h.1
          | inr u =>
            constructor
            · intro h
              exact ⟨rfl, h.1⟩
            · intro h
              obtain ⟨-, rfl⟩ := h
              rw [List.nil_append] at hremaining
              refine ⟨rfl, fun d hd => ?_⟩
              rw [← hremaining, List.head?_cons, Option.mem_some_iff] at hd
              rw [← hd]
              exact Bool.eq_false_iff.mpr hb
    · cases r with
      | inl u =>
        obtain ⟨b, rfl, hb⟩ := hpiece
        exact hR b after hb hafter
      | inr u =>
        rw [hpiece.1]
        exact hafter
  have hsound : ∀ s a piece after, Repeats E s a piece after →
      (∀ b ∈ piece, p b = true) ∧ ∀ b ∈ after.head?, p b = false := by
    intro s a piece after h
    induction h with
    | stop h =>
      obtain ⟨rfl, hafter⟩ := h
      exact ⟨nofun, hafter⟩
    | step h _ ih =>
      obtain ⟨b, rfl, hb⟩ := h
      exact ⟨List.forall_mem_cons.mpr ⟨hb, ih.1⟩, ih.2⟩
  have hloop := Scans.loop hround (fun _ _ _ => trivial)
    (fun s t piece after h => by
      obtain ⟨b, rfl, -⟩ := h
      exact List.cons_ne_nil _ _) fuel ()
  refine (hloop.weaken fun remaining h => ⟨trivial, h⟩).congr fun a piece after => ?_
  constructor
  · intro h
    obtain ⟨hpiece, hafter⟩ := h
    induction piece with
    | nil => exact .stop ⟨rfl, hafter⟩
    | cons b piece ih =>
      obtain ⟨hb, hpiece⟩ := List.forall_mem_cons.mp hpiece
      exact @Repeats.step _ _ E () () _ [b] piece after ⟨b, rfl, hb⟩ (ih hpiece)
  · exact hsound () a piece after

end Scan
