import Mathlib.Algebra.GroupWithZero.Nat
import Mathlib.Data.List.Basic
import Mathlib.Algebra.BigOperators.Group.List.Basic

/-! Numbered places that are taken from the first one on, and totals kept along them. -/

namespace Segment

variable {α : Type}

/-- Places taken from the first one on are the places of a list. -/
theorem exists_list {f : Nat → Option α} (bound : Nat)
    (h : ∀ i, i + 1 < bound → (f (i + 1)).isSome = true → (f i).isSome = true) :
    ∃ xs : List α, xs.length ≤ bound ∧ ∀ i < bound, f i = xs[i]? := by
  induction bound with
  | zero => exact ⟨[], Nat.le_refl 0, fun i hi => absurd hi (Nat.not_lt_zero i)⟩
  | succ bound ih =>
    obtain ⟨xs, hlength, hxs⟩ := ih fun i hi => h i (by omega)
    cases hlast : f bound with
    | none =>
      refine ⟨xs, by omega, fun i hi => ?_⟩
      by_cases heq : i = bound
      · subst heq
        rw [hlast, List.getElem?_eq_none hlength]
      · exact hxs i (by omega)
    | some x =>
      -- The place before is taken, so the list already reaches this one.
      have hfull : xs.length = bound := by
        cases bound with
        | zero => omega
        | succ before =>
          have hbefore := h before (by omega) (by rw [hlast]; rfl)
          by_contra hshort
          rw [hxs before (by omega), List.getElem?_eq_none (by omega)] at hbefore
          cases hbefore
      refine ⟨xs ++ [x], by simp [hfull], fun i hi => ?_⟩
      by_cases heq : i = bound
      · subst heq
        rw [hlast, List.getElem?_append_right (by omega), hfull, Nat.sub_self]
        rfl
      · rw [List.getElem?_append_left (by omega)]
        exact hxs i (by omega)

/-- What each place shares with the next, all places share. -/
theorem forall_eq_of_next {β : Type} {f : α → β} {xs : List α}
    (hnext : ∀ i x y, xs[i]? = some x → xs[i + 1]? = some y → f x = f y) :
    ∀ x ∈ xs, ∀ y ∈ xs, f x = f y := by
  have hfirst : ∀ (i : Nat) (x y : α), xs[0]? = some x → xs[i]? = some y → f x = f y := by
    intro i x y hx hy
    induction i generalizing y with
    | zero => rw [Option.some.inj (hx.symm.trans hy)]
    | succ i ih =>
      obtain ⟨hlt, -⟩ := List.getElem?_eq_some_iff.mp hy
      have hbefore : xs[i]? = some xs[i] := List.getElem?_eq_getElem (by omega)
      exact (ih _ hbefore).trans (hnext i _ y hbefore hy)
  intro x hx y hy
  have hpos := List.length_pos_of_mem hx
  have hzero : xs[0]? = some xs[0] := List.getElem?_eq_getElem hpos
  obtain ⟨i, hi⟩ := List.mem_iff_getElem?.mp hx
  obtain ⟨j, hj⟩ := List.mem_iff_getElem?.mp hy
  exact (hfirst i _ x hzero hi).symm.trans (hfirst j _ y hzero hj)

/-- A total carried from each place to the next is the sum of the amounts so far. -/
theorem total_eq_sum {total amount : α → Nat} {xs : List α}
    (hfirst : ∀ x, xs[0]? = some x → total x = amount x)
    (hnext : ∀ i x y, xs[i]? = some x → xs[i + 1]? = some y → total y = total x + amount y)
    {i : Nat} {x : α} (hx : xs[i]? = some x) : total x = ((xs.take (i + 1)).map amount).sum := by
  induction i generalizing x with
  | zero => rw [List.take_add_one, hx, hfirst x hx]; simp
  | succ i ih =>
    obtain ⟨hlt, -⟩ := List.getElem?_eq_some_iff.mp hx
    have hbefore : xs[i]? = some xs[i] := List.getElem?_eq_getElem (by omega)
    rw [List.take_add_one, hx, List.map_append, List.sum_append, ← ih hbefore, hnext i _ x hbefore hx]
    simp

/-- Where every amount is one, the total counts the places. -/
theorem total_eq_succ {total amount : α → Nat} {xs : List α}
    (hfirst : ∀ x, xs[0]? = some x → total x = amount x)
    (hnext : ∀ i x y, xs[i]? = some x → xs[i + 1]? = some y → total y = total x + amount y)
    (hone : ∀ x ∈ xs, amount x = 1) {i : Nat} {x : α} (hx : xs[i]? = some x) : total x = i + 1 := by
  obtain ⟨hlt, -⟩ := List.getElem?_eq_some_iff.mp hx
  have hlength : ((xs.take (i + 1)).map amount).length = i + 1 := by
    rw [List.length_map, List.length_take, Nat.min_eq_left hlt]
  have hones : (xs.take (i + 1)).map amount = List.replicate (i + 1) 1 :=
    List.eq_replicate_iff.mpr ⟨hlength, fun n hn => by
      obtain ⟨y, hy, rfl⟩ := List.mem_map.mp hn
      exact hone y (List.mem_of_mem_take hy)⟩
  rw [total_eq_sum hfirst hnext hx, hones]
  simp

/-- The last total is the sum of all amounts. -/
theorem sum_le {total amount limit : α → Nat} {xs : List α}
    (hfirst : ∀ x, xs[0]? = some x → total x = amount x)
    (hnext : ∀ i x y, xs[i]? = some x → xs[i + 1]? = some y → total y = total x + amount y)
    (hlimit : ∀ x ∈ xs, total x ≤ limit x) (hsame : ∀ x ∈ xs, ∀ y ∈ xs, limit x = limit y)
    {x : α} (hx : x ∈ xs) : (xs.map amount).sum ≤ limit x := by
  have hpos : 0 < xs.length := List.length_pos_of_mem hx
  have hlast : xs[xs.length - 1]? = some xs[xs.length - 1] := List.getElem?_eq_getElem (by omega)
  have htotal := total_eq_sum hfirst hnext hlast
  rw [List.take_of_length_le (by omega)] at htotal
  have hmem : xs[xs.length - 1] ∈ xs := List.getElem_mem _
  rw [← htotal, hsame x hx _ hmem]
  exact hlimit _ hmem

end Segment
