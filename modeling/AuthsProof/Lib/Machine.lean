import Mathlib.Algebra.Group.Nat.Defs
import Mathlib.Data.Nat.Basic

/-! Runs over machine integers that wrap and over slices, with the record of whether every sum, product
and index was in range. -/

namespace Machine

/-- What a run returns, and whether all it computed was in range. -/
structure Guarded (ε α : Type) where
  result : Except ε α
  safe : Bool

namespace Guarded

variable {ε α β : Type}

@[ext] theorem ext {x y : Guarded ε α} (hresult : x.result = y.result) (hsafe : x.safe = y.safe) :
    x = y := by
  cases x
  cases y
  cases hresult
  cases hsafe
  rfl

instance : Monad (Guarded ε) where
  pure a := ⟨.ok a, true⟩
  bind x f := match x.result with
    | .error e => ⟨.error e, x.safe⟩
    | .ok a => ⟨(f a).result, x.safe && (f a).safe⟩

def fail (e : ε) : Guarded ε α := ⟨.error e, true⟩

@[simp] theorem pure_result (a : α) : (pure a : Guarded ε α).result = .ok a := rfl

@[simp] theorem pure_safe (a : α) : (pure a : Guarded ε α).safe = true := rfl

@[simp] theorem fail_result (e : ε) : (fail e : Guarded ε α).result = .error e := rfl

@[simp] theorem fail_safe (e : ε) : (fail e : Guarded ε α).safe = true := rfl

@[simp] theorem pure_bind (a : α) (f : α → Guarded ε β) : (pure a >>= f) = f a :=
  ext rfl (Bool.true_and _)

instance : LawfulMonad (Guarded ε) := .mk' (Guarded ε)
  (fun x => by
    obtain ⟨result, safe⟩ := x
    cases result with
    | error e => rfl
    | ok a => exact ext rfl (Bool.and_true safe))
  pure_bind
  (fun x f g => by
    obtain ⟨result, safe⟩ := x
    cases result with
    | error e => rfl
    | ok a =>
      show ((⟨(f a).result, safe && (f a).safe⟩ : Guarded ε _) >>= g) =
        ⟨(f a >>= g).result, safe && (f a >>= g).safe⟩
      generalize f a = y
      obtain ⟨result', safe'⟩ := y
      cases result' with
      | error e => rfl
      | ok b => exact ext rfl (Bool.and_assoc _ _ _))

@[simp] theorem fail_bind (e : ε) (f : α → Guarded ε β) : (fail e >>= f) = fail e := rfl

theorem safe_bind {x : Guarded ε α} {f : α → Guarded ε β} : (x >>= f).safe = true ↔
    x.safe = true ∧ ∀ a, x.result = .ok a → (f a).safe = true := by
  obtain ⟨result, safe⟩ := x
  cases result with
  | error e =>
    constructor
    · intro h
      exact ⟨h, nofun⟩
    · exact fun h => h.1
  | ok a =>
    show (safe && (f a).safe) = true ↔ _
    rw [Bool.and_eq_true]
    constructor
    · rintro ⟨hsafe, hrest⟩
      refine ⟨hsafe, fun b hb => ?_⟩
      obtain rfl := Except.ok.inj hb
      exact hrest
    · exact fun h => ⟨h.1, h.2 a rfl⟩

end Guarded

section Arithmetic

variable {ε α : Type} {width a b : Nat}

def add (width a b : Nat) : Guarded ε Nat := ⟨.ok ((a + b) % 2 ^ width), decide (a + b < 2 ^ width)⟩

def mul (width a b : Nat) : Guarded ε Nat := ⟨.ok (a * b % 2 ^ width), decide (a * b < 2 ^ width)⟩

def checkedAdd (width a b : Nat) : Option Nat := if a + b < 2 ^ width then some (a + b) else none

def checkedMul (width a b : Nat) : Option Nat := if a * b < 2 ^ width then some (a * b) else none

theorem add_of_lt (h : a + b < 2 ^ width) : (add width a b : Guarded ε Nat) = pure (a + b) :=
  Guarded.ext (congrArg Except.ok (Nat.mod_eq_of_lt h)) (decide_eq_true h)

theorem add_bind {β : Type} (f : Nat → Guarded ε β) : (add width a b >>= f) =
    ⟨(f ((a + b) % 2 ^ width)).result,
      decide (a + b < 2 ^ width) && (f ((a + b) % 2 ^ width)).safe⟩ := rfl

theorem add_bind_safe_iff {β : Type} {f : Nat → Guarded ε β} :
    (add width a b >>= f).safe = true ↔ a + b < 2 ^ width ∧ (f (a + b)).safe = true := by
  rw [add_bind, Bool.and_eq_true, decide_eq_true_eq]
  refine and_congr_right fun h => ?_
  rw [Nat.mod_eq_of_lt h]

theorem checkedAdd_of_lt (h : a + b < 2 ^ width) : checkedAdd width a b = some (a + b) := if_pos h

theorem mul_of_lt (h : a * b < 2 ^ width) : (mul width a b : Guarded ε Nat) = pure (a * b) :=
  Guarded.ext (congrArg Except.ok (Nat.mod_eq_of_lt h)) (decide_eq_true h)

end Arithmetic

section Slices

variable {ε α : Type} {xs : List α} {start stop : Nat}

/-- The items from `start` on, before `stop`. -/
def slice (xs : List α) (start stop : Nat) : Guarded ε (List α) :=
  ⟨.ok ((xs.take stop).drop start), decide (start ≤ stop ∧ stop ≤ xs.length)⟩

def sliceFrom (xs : List α) (start : Nat) : Guarded ε (List α) := slice xs start xs.length

def sliceTo (xs : List α) (stop : Nat) : Guarded ε (List α) := slice xs 0 stop

/-- The items of a range, if it is one of the slice. -/
def getRange (xs : List α) (start stop : Nat) : Option (List α) :=
  if start ≤ stop ∧ stop ≤ xs.length then some ((xs.take stop).drop start) else none

def item [Inhabited α] (xs : List α) (index : Nat) : Guarded ε α :=
  ⟨.ok (xs.getD index default), decide (index < xs.length)⟩

theorem slice_of_le (hstart : start ≤ stop) (hstop : stop ≤ xs.length) :
    (slice xs start stop : Guarded ε (List α)) = pure ((xs.take stop).drop start) :=
  Guarded.ext rfl (decide_eq_true ⟨hstart, hstop⟩)

theorem sliceFrom_of_le (h : start ≤ xs.length) :
    (sliceFrom xs start : Guarded ε (List α)) = pure (xs.drop start) := by
  rw [sliceFrom, slice_of_le h (Nat.le_refl _), List.take_length]

theorem sliceTo_of_le (h : stop ≤ xs.length) :
    (sliceTo xs stop : Guarded ε (List α)) = pure (xs.take stop) := by
  rw [sliceTo, slice_of_le (Nat.zero_le _) h, List.drop_zero]

theorem item_of_lt [Inhabited α] {index : Nat} (h : index < xs.length) :
    (item xs index : Guarded ε α) = pure (xs[index]) := by
  refine Guarded.ext (congrArg Except.ok ?_) (decide_eq_true h)
  rw [List.getD_eq_getElem?_getD, List.getElem?_eq_getElem h, Option.getD_some]

end Slices

end Machine
