import AuthsProof.Lib.Der
import AuthsProof.Lib.Run

/-! The conversion of DER signatures: it accepts the DER encodings of pairs below the group order, and
returns each pair in fixed width with the lower of the two values of `s`. -/

namespace AuthsProof.Sigstore

open Rfc8949 BigEndian Wire

def scalarBytes : Nat := 32

/-- The P-256 group order. -/
def order : List UInt8 :=
  [0xff, 0xff, 0xff, 0xff, 0x00, 0x00, 0x00, 0x00, 0xff, 0xff, 0xff, 0xff, 0xff, 0xff, 0xff, 0xff,
    0xbc, 0xe6, 0xfa, 0xad, 0xa7, 0x17, 0x9e, 0x84, 0xf3, 0xb9, 0xca, 0xc2, 0xfc, 0x63, 0x25, 0x51]

def halfOrder : List UInt8 :=
  [0x7f, 0xff, 0xff, 0xff, 0x80, 0x00, 0x00, 0x00, 0x7f, 0xff, 0xff, 0xff, 0xff, 0xff, 0xff, 0xff,
    0xde, 0x73, 0x7d, 0x56, 0xd3, 0x8b, 0xcf, 0x42, 0x79, 0xdc, 0xe5, 0x61, 0x7e, 0x31, 0x92, 0xa8]

inductive DerSignatureError where
  | encoding
  | range
  deriving DecidableEq

/-- The content of the short-form element at the start of the bytes. -/
def element (bytes : List UInt8) (tag : UInt8) : Except DerSignatureError (List UInt8) :=
  match bytes with
  | found :: length :: rest =>
    if found = tag ∧ length < 0x80 then
      if length.toNat ≤ rest.length then .ok (rest.take length.toNat) else .error .encoding
    else .error .encoding
  | _ => .error .encoding

def greater (left right : List UInt8) : Bool := decide (right < left)

/-- The content of a minimal positive integer without its sign byte. -/
def magnitude : List UInt8 → Except DerSignatureError (List UInt8)
  | [] => .error .encoding
  | first :: rest =>
    if first &&& 0x80 ≠ 0 then .error .encoding
    else if first = 0 then
      match rest with
      | [] => .ok [first]
      | next :: _ => if next &&& 0x80 = 0 then .error .encoding else .ok rest
    else .ok (first :: rest)

def scalar (content : List UInt8) : Except DerSignatureError (List UInt8) := do
  let magnitude ← magnitude content
  if scalarBytes < magnitude.length then .error .range
  else
    let value := List.replicate (scalarBytes - magnitude.length) 0 ++ magnitude
    if value.all (· == 0) || !greater order value then .error .range else .ok value

/-- The loop over the bytes from the last one on, with what they borrow. -/
def orderMinusFrom : List UInt8 → List UInt8 → List UInt8 × Nat
  | minuend :: minuends, value :: values =>
    let (output, borrow) := orderMinusFrom minuends values
    let subtrahend := value.toNat + borrow
    let (difference, next) :=
      if subtrahend ≤ minuend.toNat then (minuend.toNat - subtrahend, 0)
      else (minuend.toNat + 0x100 - subtrahend, 1)
    ((if difference < 256 then UInt8.ofNat difference else 255) :: output, next)
  | _, _ => ([], 0)

def orderMinus (value : List UInt8) : List UInt8 := (orderMinusFrom order value).1

def lowSFixed (der : List UInt8) : Except DerSignatureError (List UInt8) := do
  let content ← element der 0x30
  if content.length + 2 ≠ der.length then .error .encoding
  else
    let rField ← element content 0x02
    let rest := content.drop (rField.length + 2)
    let sField ← element rest 0x02
    if sField.length + 2 ≠ rest.length then .error .encoding
    else
      let r ← scalar rField
      let s ← scalar sField
      let s := if greater s halfOrder then orderMinus s else s
      return r ++ s

/-! ## What the parts compute -/

/-- The group order. -/
def groupOrder : Nat := fromBigEndian order

theorem halfOrder_eq : fromBigEndian halfOrder = groupOrder / 2 := by decide

theorem element_eq_ok {bytes content : List UInt8} {tag : UInt8} :
    element bytes tag = .ok content ↔ content.length < 128 ∧
      ∃ rest, bytes = Der.element tag content ++ rest := by
  constructor
  · intro h
    match bytes with
    | [] => cases h
    | [found] => cases h
    | found :: length :: rest =>
      simp only [element] at h
      split at h
      · next hhead =>
        split at h
        · next hlength =>
          obtain rfl := Except.ok.inj h
          have hshort : length.toNat < 128 := UInt8.lt_iff_toNat_lt.mp hhead.2
          have htake : (rest.take length.toNat).length = length.toNat := by
            rw [List.length_take]
            omega
          refine ⟨by omega, rest.drop length.toNat, ?_⟩
          rw [Der.element_of_lt tag (by omega), htake, UInt8.ofNat_toNat, hhead.1]
          simp [List.take_append_drop]
        · cases h
      · cases h
  · rintro ⟨hlength, rest, rfl⟩
    have hfits : content.length < 256 := by omega
    have hvalue : (UInt8.ofNat content.length).toNat = content.length :=
      UInt8.toNat_ofNat_of_lt' hfits
    have hshort : UInt8.ofNat content.length < 0x80 := by
      rw [UInt8.lt_iff_toNat_lt, hvalue]
      exact hlength
    rw [Der.element_of_lt tag hlength]
    simp only [List.cons_append, element]
    rw [if_pos ⟨trivial, hshort⟩, hvalue, if_pos (by simp)]
    simp

theorem orderMinusFrom_eq (minuends values : List UInt8) :
    orderMinusFrom minuends values = subtract minuends values := by
  induction minuends generalizing values with
  | nil => cases values <;> rfl
  | cons minuend minuends ih =>
    cases values with
    | nil => rfl
    | cons value values =>
      have hborrow := subtract_borrow_le minuends values
      have hvalue := value.toNat_lt
      obtain ⟨hdifference, -⟩ := @subtractByte_spec minuend.toNat
        (value.toNat + (subtract minuends values).2) minuend.toNat_lt (by omega)
      simp only [orderMinusFrom, ih, subtract]
      rw [← subtractByte, if_pos hdifference]

theorem length_order : order.length = scalarBytes := rfl

theorem groupOrder_lt : groupOrder < 256 ^ scalarBytes := fromBigEndian_lt order

theorem orderMinus_eq {value : List UInt8} (hlength : value.length = scalarBytes)
    (h : fromBigEndian value < groupOrder) :
    orderMinus value = bigEndian scalarBytes (groupOrder - fromBigEndian value) := by
  rw [orderMinus, orderMinusFrom_eq, subtract_of_le (length_order.trans hlength.symm) h.le]
  rfl

theorem greater_iff {left right : List UInt8} (h : right.length = left.length) :
    greater left right = true ↔ fromBigEndian right < fromBigEndian left := by
  rw [greater, decide_eq_true_eq, lt_iff h]

theorem pow_le_fromBigEndian {first : UInt8} (rest : List UInt8) (h : first.toNat ≠ 0) :
    256 ^ rest.length ≤ fromBigEndian (first :: rest) := by
  have hpos := Nat.mul_le_mul_right (256 ^ rest.length) (Nat.pos_of_ne_zero h)
  rw [fromBigEndian_cons]
  omega

/-- Without its sign byte a number has no leading zero. -/
def Unpadded (bytes : List UInt8) : Prop :=
  bytes.length = 1 ∨ 256 ^ (bytes.length - 1) ≤ fromBigEndian bytes

/-- The magnitude is read from the shortest contents and from no others. -/
theorem magnitude_spec (content : List UInt8) :
    (∃ e, magnitude content = .error e ∧ ¬Der.Shortest content) ∨
      ∃ bytes, magnitude content = .ok bytes ∧ Der.Shortest content ∧
        fromBigEndian bytes = fromBigEndian content ∧ Unpadded bytes := by
  cases content with
  | nil => exact .inl ⟨.encoding, rfl, id⟩
  | cons first rest =>
    by_cases hsign : first &&& 0x80 = 0
    · have hfirst := (highBit_eq_zero_iff first).mp hsign
      by_cases hzero : first = 0
      · subst hzero
        cases rest with
        | nil => exact .inr ⟨[0], rfl, ⟨by decide, trivial⟩, rfl, .inl rfl⟩
        | cons next tail =>
          have hnext := highBit_eq_zero_iff next
          by_cases hpadded : next &&& 0x80 = 0
          · refine .inl ⟨.encoding, ?_, fun hshortest => ?_⟩
            · simp [magnitude, hpadded]
            · have hlarge := hshortest.2 rfl
              exact absurd (hnext.mp hpadded) (Nat.not_lt.mpr hlarge)
          · have hlarge : ¬next.toNat < 128 := fun h => hpadded (hnext.mpr h)
            refine .inr ⟨next :: tail, ?_, ⟨by decide, fun _ => Nat.le_of_not_lt hlarge⟩, ?_,
              .inr (pow_le_fromBigEndian tail (by omega))⟩
            · simp [magnitude, hpadded]
            · exact (fromBigEndian_replicate_zero 1 (next :: tail)).symm
      · have hpositive : first.toNat ≠ 0 := fun h => hzero (UInt8.toNat_inj.mp h)
        refine .inr ⟨first :: rest, ?_, ⟨hfirst, ?_⟩, rfl,
          .inr (pow_le_fromBigEndian rest hpositive)⟩
        · simp [magnitude, hsign, hzero]
        · cases rest with
          | nil => trivial
          | cons next tail => exact fun h => absurd h hpositive
    · refine .inl ⟨.encoding, ?_, fun hshortest => hsign ((highBit_eq_zero_iff first).mpr hshortest.1)⟩
      simp [magnitude, hsign]

/-- A scalar is the content of a positive integer below the group order. -/
theorem scalar_eq_ok {content value : List UInt8} : scalar content = .ok value ↔
    ∃ n, 1 ≤ n ∧ n < groupOrder ∧ content = Der.natural n ∧ value = bigEndian scalarBytes n := by
  have hshortest := @Der.shortest_iff content
  unfold scalar
  rcases magnitude_spec content with ⟨e, herror, hnot⟩ | ⟨bytes, hbytes, hcontent, hsame, hunpadded⟩
  · rw [herror]
    constructor
    · intro h
      cases h
    · rintro ⟨n, -, -, rfl, -⟩
      rw [Der.fromBigEndian_natural] at hshortest
      exact absurd (hshortest.mpr rfl) hnot
  · have hnatural := hshortest.mp hcontent
    rw [hbytes]
    change (if scalarBytes < bytes.length then _ else _) = _ ↔ _
    by_cases hlong : scalarBytes < bytes.length
    · rw [if_pos hlong]
      constructor
      · intro h
        cases h
      · rintro ⟨n, -, hn, rfl, -⟩
        rw [Der.fromBigEndian_natural] at hsame
        have hpow : 256 ^ scalarBytes ≤ 256 ^ (bytes.length - 1) :=
          Nat.pow_le_pow_right (by decide) (Nat.le_sub_one_of_lt hlong)
        rcases hunpadded with hone | hlarge
        · rw [hone] at hlong
          exact absurd hlong (by decide)
        · rw [hsame] at hlarge
          exact absurd (hn.trans (groupOrder_lt.trans_le (hpow.trans hlarge))) (Nat.lt_irrefl n)
    · rw [if_neg hlong]
      have hpadded : (List.replicate (scalarBytes - bytes.length) 0 ++ bytes).length = scalarBytes := by
        rw [List.length_append, List.length_replicate]
        omega
      have hvalue := (fromBigEndian_replicate_zero (scalarBytes - bytes.length) bytes).trans hsame
      generalize List.replicate (scalarBytes - bytes.length) 0 ++ bytes = padded at hpadded hvalue ⊢
      have hbig : padded = bigEndian scalarBytes (fromBigEndian content) := by
        rw [← hvalue, ← hpadded, bigEndian_fromBigEndian]
      have hgreater := @greater_iff order padded (hpadded.trans length_order.symm)
      have hzero := @all_zero_iff padded
      rw [hvalue] at hgreater hzero
      constructor
      · intro h
        split at h
        · cases h
        · next hrange =>
          simp only [Bool.or_eq_true, Bool.not_eq_true', not_or, Bool.not_eq_false] at hrange
          obtain rfl := Except.ok.inj h
          refine ⟨fromBigEndian content, Nat.pos_of_ne_zero fun hnone => hrange.1 (hzero.mpr hnone),
            hgreater.mp hrange.2, hnatural, hbig⟩
      · rintro ⟨n, hpositive, hn, hcontents, hresult⟩
        have hnumber : fromBigEndian content = n := by rw [hcontents, Der.fromBigEndian_natural]
        rw [hnumber] at hgreater hzero hbig
        have hnonzero : padded.all (· == 0) = false :=
          Bool.eq_false_iff.mpr fun h => Nat.ne_of_gt hpositive (hzero.mp h)
        rw [if_neg, hresult, hbig]
        rw [hnonzero, hgreater.mpr hn]
        decide

/-! ## The conversion -/

/-- The DER encoding of a signature. -/
def ecdsaSigValue (r s : Nat) : List UInt8 :=
  Der.element 0x30 (Der.element 0x02 (Der.natural r) ++ Der.element 0x02 (Der.natural s))

/-- What a scalar may be. -/
def InRange (n : Nat) : Prop := 1 ≤ n ∧ n < groupOrder

/-- The lower one of `s` and its complement. -/
def lowS (s : Nat) : Nat := min s (groupOrder - s)

theorem InRange.length_natural {n : Nat} (h : InRange n) : (Der.natural n).length ≤ 33 := by
  have hsize : n.size ≤ 256 := Nat.size_le.mpr (h.2.trans (by decide))
  rw [Der.length_natural]
  omega

theorem InRange.length_field {n : Nat} (h : InRange n) :
    (Der.element 0x02 (Der.natural n)).length ≤ 35 := by
  have hlength := h.length_natural
  rw [Der.length_element_of_lt _ (by omega)]
  omega

theorem lowS_eq {s : Nat} (h : InRange s) : bigEndian scalarBytes (lowS s) =
    if greater (bigEndian scalarBytes s) halfOrder then orderMinus (bigEndian scalarBytes s)
    else bigEndian scalarBytes s := by
  have hvalue : fromBigEndian (bigEndian scalarBytes s) = s :=
    fromBigEndian_bigEndian (h.2.trans groupOrder_lt)
  have hgreater : greater (bigEndian scalarBytes s) halfOrder = true ↔ groupOrder / 2 < s := by
    rw [greater_iff (by rw [bigEndian_length]; rfl), halfOrder_eq, hvalue]
  have horder := h.2
  have hodd : groupOrder % 2 = 1 := by decide
  rw [orderMinus_eq (bigEndian_length _ _) (by rw [hvalue]; exact h.2), hvalue, lowS]
  generalize groupOrder = n at horder hodd hgreater ⊢
  by_cases hhigh : n / 2 < s
  · rw [if_pos (hgreater.mpr hhigh), Nat.min_eq_right (by omega)]
  · rw [if_neg (fun hg => hhigh (hgreater.mp hg)), Nat.min_eq_left (by omega)]

theorem lowSFixed_eq_ok {der output : List UInt8} : lowSFixed der = .ok output ↔
    ∃ r s, InRange r ∧ InRange s ∧ der = ecdsaSigValue r s ∧
      output = bigEndian scalarBytes r ++ bigEndian scalarBytes (lowS s) := by
  constructor
  · intro h
    obtain ⟨content, hcontent, hbody⟩ := Except.bind_eq_ok.mp h
    obtain ⟨hshort, rest, hder⟩ := element_eq_ok.mp hcontent
    split at hbody
    · cases hbody
    · next hwhole =>
      rw [hder, List.length_append, Der.length_element_of_lt _ hshort] at hwhole
      have hrest : rest = [] := List.length_eq_zero_iff.mp (by omega)
      obtain ⟨rField, hrField, hfields⟩ := Except.bind_eq_ok.mp hbody
      obtain ⟨hrShort, behind, hcontents⟩ := element_eq_ok.mp hrField
      have hdrop : content.drop (rField.length + 2) = behind := by
        rw [hcontents, ← Der.length_element_of_lt 0x02 hrShort, List.drop_left]
      rw [hdrop] at hfields
      obtain ⟨sField, hsField, hscalars⟩ := Except.bind_eq_ok.mp hfields
      obtain ⟨hsShort, trailing, hbehind⟩ := element_eq_ok.mp hsField
      split at hscalars
      · cases hscalars
      · next hends =>
        rw [hbehind, List.length_append, Der.length_element_of_lt _ hsShort] at hends
        have htrailing : trailing = [] := List.length_eq_zero_iff.mp (by omega)
        obtain ⟨rBytes, hr, hsecond⟩ := Except.bind_eq_ok.mp hscalars
        obtain ⟨sBytes, hs, hresult⟩ := Except.bind_eq_ok.mp hsecond
        obtain ⟨r, hrLow, hrHigh, hrNatural, hrBytes⟩ := scalar_eq_ok.mp hr
        obtain ⟨s, hsLow, hsHigh, hsNatural, hsBytes⟩ := scalar_eq_ok.mp hs
        refine ⟨r, s, ⟨hrLow, hrHigh⟩, ⟨hsLow, hsHigh⟩, ?_, ?_⟩
        · rw [hder, hcontents, hbehind, hrest, htrailing, ecdsaSigValue, List.append_nil,
            List.append_nil, hrNatural, hsNatural]
        · rw [lowS_eq ⟨hsLow, hsHigh⟩, ← hsBytes, ← hrBytes]
          exact (Except.ok.inj hresult).symm
  · rintro ⟨r, s, hr, hs, hder, houtput⟩
    have hrLength := hr.length_natural
    have hsLength := hs.length_natural
    have hrField := hr.length_field
    have hsField := hs.length_field
    have hbody : (Der.element 0x02 (Der.natural r) ++ Der.element 0x02 (Der.natural s)).length < 128 := by
      rw [List.length_append]
      omega
    have hdrop : (Der.element 0x02 (Der.natural r) ++ Der.element 0x02 (Der.natural s)).drop
        ((Der.natural r).length + 2) = Der.element 0x02 (Der.natural s) := by
      rw [← Der.length_element_of_lt 0x02 (by omega), List.drop_left]
    rw [hder, houtput, ecdsaSigValue, lowSFixed]
    refine Except.bind_eq_ok.mpr ⟨_, element_eq_ok.mpr ⟨hbody, [], (List.append_nil _).symm⟩, ?_⟩
    rw [if_neg (by rw [Der.length_element_of_lt _ hbody]; simp)]
    refine Except.bind_eq_ok.mpr ⟨_, element_eq_ok.mpr ⟨by omega, _, rfl⟩, ?_⟩
    rw [hdrop]
    refine Except.bind_eq_ok.mpr
      ⟨_, element_eq_ok.mpr ⟨by omega, [], (List.append_nil _).symm⟩, ?_⟩
    rw [if_neg (by rw [Der.length_element_of_lt _ (by omega)]; simp)]
    refine Except.bind_eq_ok.mpr ⟨_, scalar_eq_ok.mpr ⟨r, hr.1, hr.2, rfl, rfl⟩, ?_⟩
    refine Except.bind_eq_ok.mpr ⟨_, scalar_eq_ok.mpr ⟨s, hs.1, hs.2, rfl, rfl⟩, ?_⟩
    rw [lowS_eq hs]
    rfl

/-! ## What an output tells, and one encoding of each pair -/

/-- The bytes hold the pair, in whatever form of the lengths and under any leading zeros. -/
def Represents (der : List UInt8) (r s : Nat) : Prop :=
  ∃ rField sField first second, Der.IsNatural r rField ∧ Der.IsNatural s sField ∧
    Der.IsElement 0x02 rField first ∧ Der.IsElement 0x02 sField second ∧
    Der.IsElement 0x30 (first ++ second) der

theorem represents_ecdsaSigValue {r s : Nat} (hr : InRange r) (hs : InRange s) :
    Represents (ecdsaSigValue r s) r s := by
  have hrLength := hr.length_natural
  have hsLength := hs.length_natural
  have hrField := hr.length_field
  have hsField := hs.length_field
  refine ⟨_, _, _, _, Der.isNatural_natural r, Der.isNatural_natural s,
    Der.isElement_element _ (by omega), Der.isElement_element _ (by omega),
    Der.isElement_element _ ?_⟩
  rw [List.length_append]
  omega

/-- Bytes hold one pair. -/
theorem Represents.unique {der : List UInt8} {r s r' s' : Nat} (h : Represents der r s)
    (h' : Represents der r' s') : r = r' ∧ s = s' := by
  obtain ⟨rField, sField, first, second, hr, hs, hfirst, hsecond, hder⟩ := h
  obtain ⟨rField', sField', first', second', hr', hs', hfirst', hsecond', hder'⟩ := h'
  obtain ⟨hrSame, hrest⟩ := hfirst.unique hfirst' (hder.content_unique hder')
  have hsSame := hsecond.content_unique (hrest ▸ hsecond')
  exact ⟨by rw [← hr.2, ← hr'.2, hrSame], by rw [← hs.2, ← hs'.2, hsSame]⟩

theorem ecdsaSigValue_injective {r s r' s' : Nat} (hr : InRange r) (hs : InRange s)
    (hr' : InRange r') (hs' : InRange s') (h : ecdsaSigValue r s = ecdsaSigValue r' s') :
    r = r' ∧ s = s' :=
  (represents_ecdsaSigValue hr hs).unique (h ▸ represents_ecdsaSigValue hr' hs')

theorem lowS_eq_iff {s s' : Nat} (h : InRange s) (h' : InRange s') :
    lowS s = lowS s' ↔ s = s' ∨ s + s' = groupOrder := by
  obtain ⟨-, hlt⟩ := h
  obtain ⟨-, hlt'⟩ := h'
  unfold lowS
  generalize groupOrder = n at hlt hlt' ⊢
  omega

/-- The fixed-width form of a pair. -/
theorem fixed_eq_iff {r s r' s' : Nat} (hr : InRange r) (hs : InRange s) (hr' : InRange r')
    (hs' : InRange s') : bigEndian scalarBytes r ++ bigEndian scalarBytes (lowS s) =
        bigEndian scalarBytes r' ++ bigEndian scalarBytes (lowS s') ↔
      r = r' ∧ (s = s' ∨ s + s' = groupOrder) := by
  have hfits {n : Nat} (h : InRange n) : n < 256 ^ scalarBytes := h.2.trans groupOrder_lt
  have hlow {n : Nat} (h : InRange n) : lowS n < 256 ^ scalarBytes :=
    Nat.lt_of_le_of_lt (Nat.min_le_left _ _) (hfits h)
  rw [← lowS_eq_iff hs hs']
  constructor
  · intro h
    obtain ⟨hfirst, hsecond⟩ := List.append_inj h (by rw [bigEndian_length, bigEndian_length])
    exact ⟨bigEndian_inj (hfits hr) (hfits hr') hfirst, bigEndian_inj (hlow hs) (hlow hs') hsecond⟩
  · rintro ⟨hfirst, hsecond⟩
    rw [hfirst, hsecond]

/-- The conversion accepts exactly the DER encodings of pairs in range and returns the pair with the
lower `s`; two accepted inputs share an output exactly when they have one `r` and equal or
complementary `s`; and of all encodings of a pair exactly one is accepted. -/
theorem lowSFixed_exact :
    (∀ der output, lowSFixed der = .ok output ↔ ∃ r s, InRange r ∧ InRange s ∧
      der = ecdsaSigValue r s ∧
      output = bigEndian scalarBytes r ++ bigEndian scalarBytes (min s (groupOrder - s))) ∧
    (∀ der der' output output', lowSFixed der = .ok output → lowSFixed der' = .ok output' →
      ∀ r s r' s', Represents der r s → Represents der' r' s' →
      (output = output' ↔ r = r' ∧ (s = s' ∨ s + s' = groupOrder))) ∧
    ∀ r s, InRange r → InRange s → ∀ der,
      (Represents der r s ∧ ∃ output, lowSFixed der = .ok output) ↔ der = ecdsaSigValue r s := by
  refine ⟨fun der output => lowSFixed_eq_ok, ?_, ?_⟩
  · intro der der' output output' h h' r s r' s' hholds hholds'
    obtain ⟨r₀, s₀, hr, hs, hder, houtput⟩ := lowSFixed_eq_ok.mp h
    obtain ⟨r₁, s₁, hr', hs', hder', houtput'⟩ := lowSFixed_eq_ok.mp h'
    obtain ⟨hrSame, hsSame⟩ := hholds.unique (hder ▸ represents_ecdsaSigValue hr hs)
    obtain ⟨hrSame', hsSame'⟩ := hholds'.unique (hder' ▸ represents_ecdsaSigValue hr' hs')
    rw [houtput, houtput', hrSame, hsSame, hrSame', hsSame']
    exact fixed_eq_iff hr hs hr' hs'
  · intro r s hr hs der
    constructor
    · rintro ⟨hholds, output, h⟩
      obtain ⟨r', s', hr', hs', hder, -⟩ := lowSFixed_eq_ok.mp h
      obtain ⟨hrSame, hsSame⟩ := hholds.unique (hder ▸ represents_ecdsaSigValue hr' hs')
      rw [hder, hrSame, hsSame]
    · intro hder
      exact ⟨hder ▸ represents_ecdsaSigValue hr hs, _,
        lowSFixed_eq_ok.mpr ⟨r, s, hr, hs, hder, rfl⟩⟩

/-- A signature with `s = n - 2` is folded onto the one with `s = 2`, and they share the output. -/
theorem lowSFixed_exact_sample :
    lowSFixed (ecdsaSigValue 1 2) = .ok (bigEndian 32 1 ++ bigEndian 32 2) ∧
      lowSFixed (ecdsaSigValue 1 (groupOrder - 2)) = .ok (bigEndian 32 1 ++ bigEndian 32 2) ∧
      ∀ der, Represents der 1 2 → (∃ output, lowSFixed der = .ok output) → der = ecdsaSigValue 1 2 := by
  have hone : InRange 1 := ⟨by decide, by decide⟩
  have htwo : InRange 2 := ⟨by decide, by decide⟩
  have hhigh : InRange (groupOrder - 2) := ⟨by decide, by decide⟩
  have hsmall : min 2 (groupOrder - 2) = 2 := by decide
  have hfolded : min (groupOrder - 2) (groupOrder - (groupOrder - 2)) = 2 := by decide
  refine ⟨(lowSFixed_exact.1 _ _).mpr ⟨1, 2, hone, htwo, rfl, by rw [hsmall]; rfl⟩,
    (lowSFixed_exact.1 _ _).mpr ⟨1, groupOrder - 2, hone, hhigh, rfl, by rw [hfolded]; rfl⟩, ?_⟩
  exact fun der hholds haccepted => (lowSFixed_exact.2.2 1 2 hone htwo der).mp ⟨hholds, haccepted⟩

end AuthsProof.Sigstore
