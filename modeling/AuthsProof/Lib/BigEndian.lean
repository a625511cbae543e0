import AuthsProof.Lib.Cursor
import Mathlib.Tactic.LinearCombination
import Mathlib.Tactic.Ring

/-! Big-endian numbers as byte strings: their values, their order and their difference. -/

namespace BigEndian

open Rfc8949 Wire

theorem fromBigEndian_append (xs ys : List UInt8) :
    fromBigEndian (xs ++ ys) = fromBigEndian xs * 256 ^ ys.length + fromBigEndian ys := by
  induction ys using List.reverseRecOn with
  | nil => simp [fromBigEndian]
  | append_singleton ys b ih =>
    have hsnoc (zs : List UInt8) : fromBigEndian (zs ++ [b]) = fromBigEndian zs * 256 + b.toNat := by
      simp [fromBigEndian, List.foldl_append]
    rw [← List.append_assoc, hsnoc, hsnoc, ih, List.length_append, List.length_singleton, pow_succ]
    ring

theorem fromBigEndian_cons (b : UInt8) (bs : List UInt8) :
    fromBigEndian (b :: bs) = b.toNat * 256 ^ bs.length + fromBigEndian bs := by
  have hsplit := fromBigEndian_append [b] bs
  simpa [fromBigEndian] using hsplit

theorem fromBigEndian_replicate_zero (k : Nat) (bs : List UInt8) :
    fromBigEndian (List.replicate k 0 ++ bs) = fromBigEndian bs := by
  induction k with
  | zero => rfl
  | succ k ih =>
    rw [List.replicate_succ, List.cons_append, fromBigEndian_cons, ih]
    simp

theorem all_zero_iff {bs : List UInt8} : bs.all (· == 0) = true ↔ fromBigEndian bs = 0 := by
  induction bs with
  | nil => simp [fromBigEndian]
  | cons b bs ih =>
    have hpos : 0 < 256 ^ bs.length := Nat.pow_pos (by decide)
    rw [List.all_cons, Bool.and_eq_true, ih, fromBigEndian_cons, beq_iff_eq, ← UInt8.toNat_inj,
      Nat.add_eq_zero_iff, Nat.mul_eq_zero]
    constructor
    · rintro ⟨hb, hbs⟩
      exact ⟨.inl hb, hbs⟩
    · rintro ⟨hb | hpow, hbs⟩
      · exact ⟨hb, hbs⟩
      · omega

theorem fromBigEndian_inj {xs ys : List UInt8} (hlength : xs.length = ys.length)
    (h : fromBigEndian xs = fromBigEndian ys) : xs = ys := by
  rw [← bigEndian_fromBigEndian xs, ← bigEndian_fromBigEndian ys, hlength, h]

theorem bigEndian_inj {width a b : Nat} (ha : a < 256 ^ width) (hb : b < 256 ^ width)
    (h : bigEndian width a = bigEndian width b) : a = b := by
  rw [← fromBigEndian_bigEndian ha, ← fromBigEndian_bigEndian hb, h]

/-- Byte strings of one length are ordered as their numbers. -/
theorem lt_iff {xs ys : List UInt8} (hlength : xs.length = ys.length) :
    xs < ys ↔ fromBigEndian xs < fromBigEndian ys := by
  induction xs generalizing ys with
  | nil =>
    obtain rfl := List.length_eq_zero_iff.mp hlength.symm
    simp
  | cons x xs ih =>
    cases ys with
    | nil => cases hlength
    | cons y ys =>
      have hrest : xs.length = ys.length := Nat.succ.inj hlength
      have hx := fromBigEndian_lt xs
      have hy := fromBigEndian_lt ys
      rw [List.cons_lt_cons_iff, ih hrest, fromBigEndian_cons, fromBigEndian_cons, hrest,
        UInt8.lt_iff_toNat_lt]
      rw [hrest] at hx
      constructor
      · rintro (hlt | ⟨rfl, hlt⟩)
        · calc x.toNat * 256 ^ ys.length + fromBigEndian xs
              < (x.toNat + 1) * 256 ^ ys.length := by rw [Nat.succ_mul]; omega
            _ ≤ y.toNat * 256 ^ ys.length := Nat.mul_le_mul_right _ hlt
            _ ≤ y.toNat * 256 ^ ys.length + fromBigEndian ys := Nat.le_add_right _ _
        · omega
      · intro hlt
        rcases Nat.lt_trichotomy x.toNat y.toNat with hless | hsame | hgreater
        · exact .inl hless
        · refine .inr ⟨UInt8.toNat_inj.mp hsame, ?_⟩
          rw [hsame] at hlt
          omega
        · have hover := Nat.mul_le_mul_right (256 ^ ys.length) hgreater
          rw [Nat.succ_mul] at hover
          omega

/-! ## Bits of a byte -/

theorem lowBits_toNat {byte : UInt8} (h : ¬byte.toNat < 128) : (byte &&& 0x7f).toNat = byte.toNat - 128 := by
  have hbits : ∀ n < 256, ¬n < 128 → n &&& 127 = n - 128 := by decide +kernel
  rw [UInt8.toNat_and]
  exact hbits byte.toNat byte.toNat_lt h

theorem highBit_eq_zero_iff (byte : UInt8) : byte &&& 0x80 = 0 ↔ byte.toNat < 128 := by
  have hbits : ∀ n < 256, n &&& 128 = 0 ↔ n < 128 := by decide +kernel
  rw [← hbits byte.toNat byte.toNat_lt, ← UInt8.toNat_inj, UInt8.toNat_and]
  rfl

/-! ## Subtraction -/

/-- One digit of a subtraction: its difference and whether it borrows. -/
def subtractByte (minuend subtrahend : Nat) : Nat × Nat :=
  if subtrahend ≤ minuend then (minuend - subtrahend, 0) else (minuend + 0x100 - subtrahend, 1)

/-- The difference of two numbers byte by byte, from the last byte on, and what it borrows. -/
def subtract : List UInt8 → List UInt8 → List UInt8 × Nat
  | m :: ms, v :: vs =>
    let (output, borrow) := subtract ms vs
    let (difference, next) := subtractByte m.toNat (v.toNat + borrow)
    (UInt8.ofNat difference :: output, next)
  | _, _ => ([], 0)

theorem subtractByte_borrow_le (minuend subtrahend : Nat) :
    (subtractByte minuend subtrahend).2 ≤ 1 := by
  unfold subtractByte
  split
  · exact Nat.zero_le 1
  · exact Nat.le_refl 1

theorem subtract_borrow_le (ms vs : List UInt8) : (subtract ms vs).2 ≤ 1 := by
  cases ms with
  | nil => exact Nat.zero_le 1
  | cons m ms =>
    cases vs with
    | nil => exact Nat.zero_le 1
    | cons v vs => exact subtractByte_borrow_le _ _

theorem subtractByte_spec {minuend subtrahend : Nat} (hminuend : minuend < 256)
    (hsubtrahend : subtrahend ≤ 256) :
    (subtractByte minuend subtrahend).1 < 256 ∧
      minuend + (subtractByte minuend subtrahend).2 * 256 =
        subtrahend + (subtractByte minuend subtrahend).1 := by
  unfold subtractByte
  split
  · constructor <;> simp only <;> omega
  · constructor <;> simp only <;> omega

theorem subtract_spec {ms vs : List UInt8} (hlength : ms.length = vs.length) :
    (subtract ms vs).1.length = ms.length ∧
      fromBigEndian ms + (subtract ms vs).2 * 256 ^ ms.length =
        fromBigEndian vs + fromBigEndian (subtract ms vs).1 := by
  induction ms generalizing vs with
  | nil =>
    obtain rfl := List.length_eq_zero_iff.mp hlength.symm
    exact ⟨rfl, rfl⟩
  | cons m ms ih =>
    cases vs with
    | nil => cases hlength
    | cons v vs =>
      have hrest : ms.length = vs.length := Nat.succ.inj hlength
      obtain ⟨houtput, hsum⟩ := ih hrest
      have hborrow := subtract_borrow_le ms vs
      have hm := m.toNat_lt
      have hv := v.toNat_lt
      obtain ⟨hdifference, hbyte⟩ :=
        @subtractByte_spec m.toNat (v.toNat + (subtract ms vs).2) hm (by omega)
      simp only [subtract]
      refine ⟨by rw [List.length_cons, List.length_cons, houtput], ?_⟩
      rw [fromBigEndian_cons, fromBigEndian_cons, fromBigEndian_cons, houtput, ← hrest,
        UInt8.toNat_ofNat_of_lt' hdifference, List.length_cons, pow_succ]
      linear_combination 256 ^ ms.length * hbyte + hsum

theorem subtract_of_le {ms vs : List UInt8} (hlength : ms.length = vs.length)
    (h : fromBigEndian vs ≤ fromBigEndian ms) :
    (subtract ms vs).1 = bigEndian ms.length (fromBigEndian ms - fromBigEndian vs) := by
  obtain ⟨houtput, hsum⟩ := subtract_spec hlength
  have hborrow := subtract_borrow_le ms vs
  have hlt := fromBigEndian_lt (subtract ms vs).1
  rw [houtput] at hlt
  have hnone : (subtract ms vs).2 = 0 := by
    rcases Nat.le_one_iff_eq_zero_or_eq_one.mp hborrow with hzero | hone
    · exact hzero
    · rw [hone] at hsum
      omega
  rw [hnone] at hsum
  have hdifference : fromBigEndian (subtract ms vs).1 = fromBigEndian ms - fromBigEndian vs := by omega
  rw [← hdifference, ← houtput, bigEndian_fromBigEndian]

end BigEndian
