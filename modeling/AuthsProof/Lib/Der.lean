import AuthsProof.Lib.BigEndian
import Mathlib.Data.Nat.Size

/-! DER elements and integers, and the BER encodings among which each of them is the shortest. -/

namespace Der

open Rfc8949 BigEndian Wire

/-- The shortest form of a length. -/
def lengthOctets (n : Nat) : List UInt8 :=
  if n < 128 then [UInt8.ofNat n]
  else UInt8.ofNat (128 + (n.size + 7) / 8) :: bigEndian ((n.size + 7) / 8) n

def element (tag : UInt8) (content : List UInt8) : List UInt8 :=
  tag :: (lengthOctets content.length ++ content)

/-- The content of an integer: the fewest bytes whose first bit is clear. -/
def natural (n : Nat) : List UInt8 := bigEndian (n.size / 8 + 1) n

/-! ## Integers -/

theorem fromBigEndian_natural (n : Nat) : fromBigEndian (natural n) = n := by
  refine fromBigEndian_bigEndian ?_
  rw [show 256 = 2 ^ 8 from rfl, ← pow_mul, ← Nat.size_le]
  omega

theorem natural_injective : Function.Injective natural := fun a b h => by
  rw [← fromBigEndian_natural a, ← fromBigEndian_natural b, h]

theorem length_natural (n : Nat) : (natural n).length = n.size / 8 + 1 := bigEndian_length _ _

/-- No shorter bytes hold the number with the first bit clear. -/
def Shortest (content : List UInt8) : Prop :=
  match content with
  | [] => False
  | first :: rest => first.toNat < 128 ∧
    match rest with
    | [] => True
    | next :: _ => first.toNat = 0 → 128 ≤ next.toNat

theorem pow_succ_eight (k : Nat) : 2 ^ (8 * k + 7) = 128 * 256 ^ k := by
  rw [pow_add, pow_mul]
  norm_num
  ring

theorem shortest_iff {content : List UInt8} :
    Shortest content ↔ content = natural (fromBigEndian content) := by
  have hsize : content = natural (fromBigEndian content) ↔
      content.length = (fromBigEndian content).size / 8 + 1 := by
    constructor
    · intro h
      rw [← length_natural, ← h]
    · intro h
      rw [natural, ← h, bigEndian_fromBigEndian]
  rw [hsize]
  cases content with
  | nil => simp [Shortest]
  | cons first rest =>
    have hrest := fromBigEndian_lt rest
    have hfirst := first.toNat_lt
    have hbits (k : Nat) : (fromBigEndian (first :: rest)).size ≤ 8 * k + 7 ↔
        fromBigEndian (first :: rest) < 128 * 256 ^ k := by
      rw [Nat.size_le, pow_succ_eight]
    have hclear : fromBigEndian (first :: rest) < 128 * 256 ^ rest.length ↔ first.toNat < 128 := by
      rw [fromBigEndian_cons]
      constructor
      · intro h
        by_contra hnot
        have hover := Nat.mul_le_mul_right (256 ^ rest.length) (Nat.le_of_not_lt hnot)
        omega
      · intro h
        have hunder := Nat.mul_le_mul_right (256 ^ rest.length) (Nat.succ_le_of_lt h)
        rw [Nat.succ_mul] at hunder
        omega
    cases rest with
    | nil =>
      have hlast := hbits 0
      simp only [List.length_nil, pow_zero, Nat.mul_one] at hclear hlast
      simp only [Shortest, and_true, List.length_cons, List.length_nil]
      rw [← hclear, ← hlast]
      omega
    | cons next tail =>
      have htail := fromBigEndian_lt tail
      have hnext := next.toNat_lt
      have hneeded : fromBigEndian (first :: next :: tail) < 128 * 256 ^ tail.length ↔
          first.toNat = 0 ∧ next.toNat < 128 := by
        rw [fromBigEndian_cons, fromBigEndian_cons, List.length_cons, pow_succ]
        constructor
        · intro h
          have hzero : first.toNat = 0 := by
            by_contra hnot
            have hover := Nat.mul_le_mul_right (256 ^ tail.length * 256) (Nat.pos_of_ne_zero hnot)
            omega
          refine ⟨hzero, ?_⟩
          by_contra hnot
          have hover := Nat.mul_le_mul_right (256 ^ tail.length) (Nat.le_of_not_lt hnot)
          omega
        · rintro ⟨hzero, hsmall⟩
          have hunder := Nat.mul_le_mul_right (256 ^ tail.length) (Nat.succ_le_of_lt hsmall)
          rw [Nat.succ_mul] at hunder
          rw [hzero]
          omega
      have hshort := hbits (tail.length + 1)
      have hlong := hbits tail.length
      simp only [List.length_cons] at hclear
      simp only [Shortest, List.length_cons]
      rw [← hclear, ← hshort]
      have hminimal : (first.toNat = 0 → 128 ≤ next.toNat) ↔
          ¬(fromBigEndian (first :: next :: tail)).size ≤ 8 * tail.length + 7 := by
        rw [hlong, hneeded]
        omega
      rw [hminimal]
      omega

/-! ## Elements -/

theorem element_of_lt (tag : UInt8) {content : List UInt8} (h : content.length < 128) :
    element tag content = tag :: UInt8.ofNat content.length :: content := by
  rw [element, lengthOctets, if_pos h, List.singleton_append]

theorem length_element_of_lt (tag : UInt8) {content : List UInt8} (h : content.length < 128) :
    (element tag content).length = content.length + 2 := by
  rw [element_of_lt tag h]
  rfl

/-- Some form of a length, in one byte or behind the count of its bytes. -/
inductive IsLength : List UInt8 → Nat → Prop where
  | short (n : Nat) (h : n < 128) : IsLength [UInt8.ofNat n] n
  | long (digits : List UInt8) (h : digits.length < 127) :
      IsLength (UInt8.ofNat (128 + digits.length) :: digits) (fromBigEndian digits)

/-- An element under some form of its length. -/
def IsElement (tag : UInt8) (content bytes : List UInt8) : Prop :=
  ∃ octets, IsLength octets content.length ∧ bytes = tag :: (octets ++ content)

/-- The content of an integer, under any number of leading zeros. -/
def IsNatural (n : Nat) (content : List UInt8) : Prop :=
  (∃ first rest, content = first :: rest ∧ first.toNat < 128) ∧ fromBigEndian content = n

theorem isNatural_natural (n : Nat) : IsNatural n (natural n) := by
  have hshortest : Shortest (natural n) := shortest_iff.mpr (by rw [fromBigEndian_natural])
  refine ⟨?_, fromBigEndian_natural n⟩
  cases hcontent : natural n with
  | nil =>
    rw [hcontent] at hshortest
    cases hshortest
  | cons first rest =>
    rw [hcontent] at hshortest
    exact ⟨first, rest, rfl, hshortest.1⟩

theorem isElement_element (tag : UInt8) {content : List UInt8} (h : content.length < 128) :
    IsElement tag content (element tag content) :=
  ⟨[UInt8.ofNat content.length], .short _ h, by rw [element_of_lt tag h]; rfl⟩

/-- A length is read back, in whatever form. -/
theorem IsLength.unique {octets octets' xs ys : List UInt8} {n n' : Nat} (h : IsLength octets n)
    (h' : IsLength octets' n') (hsame : octets ++ xs = octets' ++ ys) : n = n' ∧ xs = ys := by
  have hvalue {k : Nat} (hk : k < 256) : (UInt8.ofNat k).toNat = k := UInt8.toNat_ofNat_of_lt' hk
  cases h with
  | short _ hn =>
    cases h' with
    | short _ hn' =>
      obtain ⟨hfirst, hrest⟩ := List.cons.inj hsame
      have hnat := congrArg UInt8.toNat hfirst
      rw [hvalue (by omega), hvalue (by omega)] at hnat
      exact ⟨hnat, hrest⟩
    | long digits' hdigits' =>
      have hnat := congrArg UInt8.toNat (List.cons.inj hsame).1
      rw [hvalue (by omega), hvalue (by omega)] at hnat
      omega
  | long digits hdigits =>
    cases h' with
    | short _ hn' =>
      have hnat := congrArg UInt8.toNat (List.cons.inj hsame).1
      rw [hvalue (by omega), hvalue (by omega)] at hnat
      omega
    | long digits' hdigits' =>
      obtain ⟨hfirst, hrest⟩ := List.cons.inj hsame
      have hnat := congrArg UInt8.toNat hfirst
      rw [hvalue (by omega), hvalue (by omega)] at hnat
      obtain ⟨rfl, hxs⟩ := List.append_inj hrest (by omega)
      exact ⟨rfl, hxs⟩

/-- An element is read back, in whatever form. -/
theorem IsElement.unique {tag : UInt8} {content content' bytes bytes' xs ys : List UInt8}
    (h : IsElement tag content bytes) (h' : IsElement tag content' bytes')
    (hsame : bytes ++ xs = bytes' ++ ys) : content = content' ∧ xs = ys := by
  obtain ⟨octets, hlength, rfl⟩ := h
  obtain ⟨octets', hlength', rfl⟩ := h'
  have hbehind : octets ++ (content ++ xs) = octets' ++ (content' ++ ys) := by
    rw [← List.append_assoc, ← List.append_assoc]
    exact (List.cons.inj hsame).2
  obtain ⟨hcount, hcontent⟩ := hlength.unique hlength' hbehind
  exact List.append_inj hcontent hcount

theorem IsElement.content_unique {tag : UInt8} {content content' bytes : List UInt8}
    (h : IsElement tag content bytes) (h' : IsElement tag content' bytes) : content = content' :=
  (@IsElement.unique _ _ _ _ _ [] [] h h' rfl).1

end Der
