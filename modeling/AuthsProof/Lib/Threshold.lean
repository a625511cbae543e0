import AuthsProof.Lib.Sorting

/-! Thresholds over three-valued verdicts: at least `k` of the members must be authorized, and a
verdict stays open while the undecided members could still reach `k`. -/

namespace Threshold

open Sorting

inductive Truth where
  | denied
  | indeterminate
  | authorized
  deriving DecidableEq

def Truth.rank : Truth → Nat
  | .denied => 0
  | .indeterminate => 1
  | .authorized => 2

theorem Truth.rank_injective : Function.Injective Truth.rank := by
  intro a b h
  cases a <;> cases b <;> simp_all [Truth.rank]

instance : LinearOrder Truth := orderByKey Truth.rank Truth.rank_injective

/-- `w` decides whatever `v` leaves open and nothing else. -/
def Refines (v w : Truth) : Prop := v = .indeterminate ∨ v = w

def threshold (k : Nat) (members : List Truth) : Truth :=
  if k ≤ members.count .authorized then .authorized
  else if k ≤ members.count .authorized + members.count .indeterminate then .indeterminate
  else .denied

theorem threshold_perm {k : Nat} {vs ws : List Truth} (h : vs.Perm ws) :
    threshold k vs = threshold k ws := by
  simp only [threshold, h.count_eq]

theorem count_truths (vs : List Truth) :
    vs.count .authorized + vs.count .indeterminate + vs.count .denied = vs.length := by
  induction vs with
  | nil => rfl
  | cons v vs ih => cases v <;> simp <;> omega

theorem Truth.le_iff {v w : Truth} : v ≤ w ↔ v.rank ≤ w.rank := Iff.rfl

theorem count_authorized_mono {vs ws : List Truth} (h : List.Forall₂ (· ≤ ·) vs ws) :
    vs.count .authorized ≤ ws.count .authorized := by
  induction h with
  | nil => rfl
  | @cons v w vs ws hvw _ ih =>
    cases v <;> cases w <;> simp_all [Truth.le_iff, Truth.rank] <;> omega

theorem count_denied_anti {vs ws : List Truth} (h : List.Forall₂ (· ≤ ·) vs ws) :
    ws.count .denied ≤ vs.count .denied := by
  induction h with
  | nil => rfl
  | @cons v w vs ws hvw _ ih =>
    cases v <;> cases w <;> simp_all [Truth.le_iff, Truth.rank] <;> omega

theorem threshold_mono (k : Nat) {vs ws : List Truth} (h : List.Forall₂ (· ≤ ·) vs ws) :
    threshold k vs ≤ threshold k ws := by
  have hlen := h.length_eq
  have ha := count_authorized_mono h
  have hd := count_denied_anti h
  have hv := count_truths vs
  have hw := count_truths ws
  unfold threshold
  split_ifs <;> simp [Truth.le_iff, Truth.rank] <;> omega

theorem count_le_of_refines {vs ws : List Truth} (h : List.Forall₂ Refines vs ws) {v : Truth}
    (hv : v ≠ .indeterminate) : vs.count v ≤ ws.count v := by
  induction h with
  | nil => rfl
  | @cons a b as bs hab _ ih =>
    rcases hab with rfl | rfl
    · have hle : bs.count v ≤ (b :: bs).count v := List.count_le_count_cons
      rw [List.count_cons_of_ne hv.symm]
      exact ih.trans hle
    · simp only [List.count_cons]
      omega

/-- Deciding open members never changes a threshold that is already decided. -/
theorem threshold_refines (k : Nat) {vs ws : List Truth} (h : List.Forall₂ Refines vs ws) :
    Refines (threshold k vs) (threshold k ws) := by
  have hlen := h.length_eq
  have ha := count_le_of_refines h (v := .authorized) (by decide)
  have hd := count_le_of_refines h (v := .denied) (by decide)
  have hv := count_truths vs
  have hw := count_truths ws
  unfold threshold Refines
  split_ifs <;> simp <;> omega

end Threshold
