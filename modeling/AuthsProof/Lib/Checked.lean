import Mathlib.Algebra.BigOperators.Group.List.Basic
import Mathlib.Data.UInt

/-! Checked 64-bit addition, and the loops that add up an amount of each item. -/

namespace Checked

def add (a b : UInt64) : Option UInt64 :=
  if a.toNat + b.toNat < 2 ^ 64 then some (a + b) else none

theorem add_eq_some {a b c : UInt64} : add a b = some c ↔ a.toNat + b.toNat = c.toNat := by
  unfold add
  by_cases h : a.toNat + b.toNat < 2 ^ 64
  · rw [if_pos h, Option.some.injEq, ← UInt64.toNat_inj, UInt64.toNat_add, Nat.mod_eq_of_lt h]
  · have hc := c.toNat_lt
    rw [if_neg h]
    exact ⟨fun hnone => (nomatch hnone), fun heq => by omega⟩

theorem add_isSome {a b : UInt64} (h : a.toNat + b.toNat < 2 ^ 64) :
    ∃ c, add a b = some c ∧ c.toNat = a.toNat + b.toNat := by
  refine ⟨a + b, if_pos h, ?_⟩
  rw [UInt64.toNat_add, Nat.mod_eq_of_lt h]

theorem add_eq_none {a b : UInt64} : add a b = none ↔ 2 ^ 64 ≤ a.toNat + b.toNat := by
  rw [add, ite_eq_right_iff, ← Nat.not_lt]
  exact ⟨fun h hlt => (nomatch h hlt), fun h hlt => absurd hlt h⟩

variable {α : Type*}

/-- Adding the amounts of the items succeeds exactly when their sum fits, and gives it. -/
theorem foldlM_add_eq_some {amount : α → UInt64} {xs : List α} {a c : UInt64} :
    xs.foldlM (fun total x => add total (amount x)) a = some c ↔
      a.toNat + (xs.map fun x => (amount x).toNat).sum = c.toNat := by
  induction xs generalizing a with
  | nil => simp [UInt64.toNat_inj]
  | cons x xs ih =>
    rw [List.foldlM_cons, List.map_cons, List.sum_cons, ← Nat.add_assoc]
    cases hadd : add a (amount x) with
    | none =>
      have hoverflow := add_eq_none.mp hadd
      have hc := c.toNat_lt
      exact ⟨fun hnone => (nomatch hnone), fun heq => by omega⟩
    | some d =>
      rw [add_eq_some.mp hadd]
      exact ih

theorem foldlM_add_isSome {amount : α → UInt64} {xs : List α} {a : UInt64}
    (h : a.toNat + (xs.map fun x => (amount x).toNat).sum < 2 ^ 64) :
    ∃ c, xs.foldlM (fun total x => add total (amount x)) a = some c ∧
      c.toNat = a.toNat + (xs.map fun x => (amount x).toNat).sum := by
  refine ⟨UInt64.ofNat (a.toNat + (xs.map fun x => (amount x).toNat).sum), ?_, ?_⟩
  · rw [foldlM_add_eq_some, UInt64.toNat_ofNat', Nat.mod_eq_of_lt h]
  · rw [UInt64.toNat_ofNat', Nat.mod_eq_of_lt h]

end Checked
