import AuthsProof.Lib.BigEndian
import AuthsProof.Lib.Machine
import AuthsProof.Sigstore.Identity

/-! The length arithmetic of the certificate readers, on machine integers of a width: no index leaves
its slice, and a sum leaves the width exactly where an announced length does. -/

namespace AuthsProof.Sigstore

open Machine Rfc8949 BigEndian

/-! ## Public keys -/

def readLength (width : Nat) (digits : Bytes) : Option Nat :=
  digits.foldlM (fun length byte =>
    (checkedMul width length 256).bind fun v => checkedAdd width v byte.toNat) 0

def derTlv (width : Nat) (bytes : Bytes) (tag : UInt8) : Guarded Unit (Nat × Nat) :=
  if bytes.head? ≠ some tag then .fail ()
  else match bytes[1]? with
  | none => .fail ()
  | some first =>
    if first &&& 0x80 = 0 then do
      let length := first.toNat
      let needed ← add width 2 length
      if bytes.length < needed then .fail () else pure (2, length)
    else
      let count := (first &&& 0x7f).toNat
      if count = 0 ∨ width / 8 < count then .fail ()
      else do
        let headed ← add width 2 count
        if bytes.length < headed then .fail ()
        else do
          let second ← item bytes 2
          if second = 0 then .fail ()
          else do
            let stop ← add width 2 count
            let digits ← slice bytes 2 stop
            match readLength width digits with
            | none => .fail ()
            | some length =>
              if length < 128 then .fail ()
              else do
                let header ← add width 2 count
                let total ← add width header length
                if bytes.length < total then .fail ()
                else do
                  let header ← add width 2 count
                  pure (header, length)

def spkiAlgorithmIdentifier (width : Nat) (spki : Bytes) : Guarded Unit Bytes := do
  let (outerHeader, outerLength) ← derTlv width spki 0x30
  if checkedAdd width outerHeader outerLength ≠ some spki.length then .fail ()
  else do
    let body ← sliceFrom spki outerHeader
    let (header, length) ← derTlv width body 0x30
    match checkedAdd width header length with
    | none => .fail ()
    | some stop => sliceTo body stop

def spkiBitString (width : Nat) (spki : Bytes) : Guarded Unit Bytes := do
  let (outerHeader, _) ← derTlv width spki 0x30
  let body ← sliceFrom spki outerHeader
  let (algorithmHeader, algorithmLength) ← derTlv width body 0x30
  match checkedAdd width algorithmHeader algorithmLength with
  | none => .fail ()
  | some offset => do
    let bit ← sliceFrom body offset
    let (header, length) ← derTlv width bit 0x03
    let stop ← add width header length
    match getRange bit header stop with
    | none => .fail ()
    | some contents =>
      if contents.head? ≠ some 0 then .fail () else sliceFrom contents 1

/-! ## Certificate extensions -/

def invalidExtension : SigstoreError := .extension .invalidValue

def tlv (width : Nat) (v : Bytes) (tag : UInt8) : Guarded SigstoreError (Nat × Nat) :=
  if v.head? ≠ some tag then .fail invalidExtension
  else match v[1]? with
  | none => .fail invalidExtension
  | some b =>
    if b &&& 0x80 = 0 then pure (2, b.toNat)
    else
      let n := (b &&& 0x7f).toNat
      if n = 0 ∨ 4 < n then .fail invalidExtension
      else do
        let headed ← add width 2 n
        if v.length < headed then .fail invalidExtension
        else do
          let stop ← add width 2 n
          let digits ← slice v 2 stop
          let l ← digits.foldlM (fun l b => do
            let shifted ← mul width l 256
            add width shifted b.toNat) 0
          let h ← add width 2 n
          pure (h, l)

/-- The text of an element of either string type. -/
def derText (width : Nat) (value : Bytes) : Guarded SigstoreError String :=
  match value.head? with
  | none => .fail invalidExtension
  | some tag =>
    if tag ≠ 0x0c ∧ tag ≠ 0x16 then .fail invalidExtension
    else do
      let (h, l) ← tlv width value tag
      let stop ← add width h l
      match getRange value h stop with
      | none => .fail invalidExtension
      | some text =>
        match String.fromUTF8? ⟨⟨text⟩⟩ with
        | none => .fail invalidExtension
        | some text => pure text

def derString (width : Nat) (bytes : Bytes) : Guarded SigstoreError String := do
  let value ← if bytes.head? = some 0xa0 then do
      let (h, l) ← tlv width bytes 0xa0
      let stop ← add width h l
      match getRange bytes h stop with
      | none => .fail invalidExtension
      | some value => pure value
    else pure bytes
  derText width value

/-! ## What a head announces -/

/-- The header and the length that the head of an element announces, as unbounded numbers. -/
def derHead (width : Nat) (bytes : Bytes) (tag : UInt8) : Option (Nat × Nat) :=
  match bytes with
  | found :: first :: rest =>
    let count := first.toNat - 128
    if found ≠ tag then none
    else if first.toNat < 128 then
      if rest.length < first.toNat then none else some (2, first.toNat)
    else if count = 0 ∨ width / 8 < count ∨ rest.length < count ∨ rest.head? = some 0 then none
    else if fromBigEndian (rest.take count) < 128 then none
    else some (2 + count, fromBigEndian (rest.take count))
  | _ => none

/-- The announced element fits the width. -/
def HeadFits (width : Nat) (bytes : Bytes) (tag : UInt8) : Prop :=
  ∀ header length, derHead width bytes tag = some (header, length) → header + length < 2 ^ width

/-- What the head of an extension's element announces. -/
def tlvHead (v : Bytes) (tag : UInt8) : Option (Nat × Nat) :=
  match v with
  | found :: first :: rest =>
    let count := first.toNat - 128
    if found ≠ tag then none
    else if first.toNat < 128 then some (2, first.toNat)
    else if count = 0 ∨ 4 < count ∨ rest.length < count then none
    else some (2 + count, fromBigEndian (rest.take count))
  | _ => none

/-- The text an extension announces fits the width. -/
def TextFits (width : Nat) (value : Bytes) : Prop :=
  ∀ tag, tag = 0x0c ∨ tag = 0x16 → ∀ header length, tlvHead value tag = some (header, length) →
    header + length < 2 ^ width

/-- What an extension announces fits the width: its text and, where it has one, the tag around it. -/
def StringFits (width : Nat) (bytes : Bytes) : Prop :=
  if bytes.head? = some 0xa0 then
    ∀ header length, tlvHead bytes 0xa0 = some (header, length) → header + length < 2 ^ width ∧
      ∀ value, getRange bytes header (header + length) = some value → TextFits width value
  else TextFits width bytes

section Widths

variable {width : Nat} (hwidth : width = 32 ∨ width = 64)

include hwidth

theorem pow_width : 256 ^ (width / 8) = 2 ^ width ∧ 2 ^ 32 ≤ 2 ^ width := by
  rcases hwidth with rfl | rfl <;> decide

/-- Digits that fit a machine integer are read without overflow. -/
theorem readLength_eq {digits : Bytes} (h : digits.length ≤ width / 8) :
    readLength width digits = some (fromBigEndian digits) := by
  obtain ⟨hpow, -⟩ := pow_width hwidth
  induction digits using List.reverseRecOn with
  | nil => rfl
  | append_singleton digits byte ih =>
    rw [List.length_append, List.length_singleton] at h
    have hbyte := byte.toNat_lt
    have hdigits := Wire.fromBigEndian_lt digits
    have hbound : 256 ^ (digits.length + 1) ≤ 2 ^ width := by
      rw [← hpow]
      exact Nat.pow_le_pow_right (by decide) h
    rw [pow_succ] at hbound
    have hsnoc : fromBigEndian (digits ++ [byte]) = fromBigEndian digits * 256 + byte.toNat := by
      simp [fromBigEndian, List.foldl_append]
    have hread := ih (by omega)
    unfold readLength at hread ⊢
    rw [List.foldlM_append, hread, hsnoc]
    show ((checkedMul width (fromBigEndian digits) 256).bind
      fun v => checkedAdd width v byte.toNat) >>= pure = _
    rw [checkedMul, if_pos (by omega), Option.bind_some, checkedAdd, if_pos (by omega)]
    rfl

omit hwidth in
/-- The last check of a long form: the sum wraps before it is compared. -/
theorem checkTotal_eq (bytes : Bytes) (header length : Nat) :
    (do
      let total ← add width header length
      if bytes.length < total then .fail () else pure header >>= fun header => pure (header, length)) =
    (⟨if bytes.length < (header + length) % 2 ^ width then .error () else .ok (header, length),
      decide (header + length < 2 ^ width)⟩ : Guarded Unit (Nat × Nat)) := by
  rw [Guarded.pure_bind, add_bind]
  by_cases hcut : bytes.length < (header + length) % 2 ^ width
  · rw [if_pos hcut, if_pos hcut, Guarded.fail_result, Guarded.fail_safe, Bool.and_true]
  · rw [if_neg hcut, if_neg hcut, Guarded.pure_result, Guarded.pure_safe, Bool.and_true]

/-- The reader of a head returns what the head announces, and overflows where that does not fit. -/
theorem derTlv_eq (bytes : Bytes) (tag : UInt8) : derTlv width bytes tag =
    match derHead width bytes tag with
    | none => .fail ()
    | some (header, length) =>
      ⟨if bytes.length < (header + length) % 2 ^ width then .error () else .ok (header, length),
        decide (header + length < 2 ^ width)⟩ := by
  obtain ⟨-, hwide⟩ := pow_width hwidth
  match bytes with
  | [] => rfl
  | [found] =>
    unfold derTlv derHead
    split <;> rfl
  | found :: first :: rest =>
    unfold derTlv derHead
    simp only [ne_eq, List.head?_cons, Option.some.injEq, List.getElem?_cons_succ,
      List.getElem?_cons_zero, highBit_eq_zero_iff]
    have hfirst := first.toNat_lt
    have hlength : (found :: first :: rest).length = 2 + rest.length := by
      simp only [List.length_cons]
      omega
    by_cases htag : found = tag
    · rw [if_neg (not_not.mpr htag), if_neg (not_not.mpr htag)]
      by_cases hshort : first.toNat < 128
      · rw [if_pos hshort, if_pos hshort, add_of_lt (by omega), Guarded.pure_bind]
        by_cases hcut : rest.length < first.toNat
        · rw [if_pos (by omega), if_pos hcut]
        · rw [if_neg (by omega), if_neg hcut]
          refine Guarded.ext ?_ (decide_eq_true (by omega)).symm
          dsimp only
          rw [Nat.mod_eq_of_lt (by omega), if_neg (by omega)]
          rfl
      · rw [if_neg hshort, if_neg hshort, lowBits_toNat hshort]
        generalize hcount : first.toNat - 128 = count
        by_cases hform : count = 0 ∨ width / 8 < count
        · rw [if_pos hform, if_pos (hform.imp_right .inl)]
        · rw [if_neg hform, add_of_lt (by omega), Guarded.pure_bind]
          by_cases hcut : rest.length < count
          · rw [if_pos (by omega), if_pos (.inr (.inr (.inl hcut)))]
          · rw [if_neg (by omega), item_of_lt (by omega), Guarded.pure_bind]
            have hdigits : ((found :: first :: rest).take (2 + count)).drop 2 = rest.take count := by
              rw [Nat.add_comm]
              rfl
            have htake : (rest.take count).length ≤ width / 8 := by
              rw [List.length_take]
              omega
            by_cases hzero : rest.head? = some 0
            · have hsecond : (found :: first :: rest)[2] = 0 := by
                cases rest with
                | nil => cases hzero
                | cons next tail => exact Option.some.inj hzero
              rw [if_pos hsecond, if_pos (.inr (.inr (.inr hzero)))]
            · have hsecond : (found :: first :: rest)[2] ≠ 0 := by
                cases rest with
                | nil => simp at hcut; omega
                | cons next tail => exact fun h => hzero (congrArg some h)
              have hannounced : ¬(count = 0 ∨ width / 8 < count ∨ rest.length < count ∨
                  rest.head? = some 0) := by
                simp only [not_or] at hform ⊢
                exact ⟨hform.1, hform.2, hcut, hzero⟩
              rw [if_neg hsecond, if_neg hannounced, Guarded.pure_bind,
                slice_of_le (by omega) (by omega), Guarded.pure_bind, hdigits,
                readLength_eq hwidth htake]
              dsimp only
              by_cases hsmall : fromBigEndian (rest.take count) < 128
              · rw [if_pos hsmall, if_pos hsmall]
              · rw [if_neg hsmall, if_neg hsmall, Guarded.pure_bind]
                exact checkTotal_eq (found :: first :: rest) (2 + count) _
    · rw [if_pos htag, if_pos htag]

theorem derTlv_safe_iff {bytes : Bytes} {tag : UInt8} :
    (derTlv width bytes tag).safe = true ↔ HeadFits width bytes tag := by
  rw [derTlv_eq hwidth, HeadFits]
  cases hhead : derHead width bytes tag with
  | none => exact ⟨fun _ => nofun, fun _ => rfl⟩
  | some announced =>
    obtain ⟨header, length⟩ := announced
    simp only [decide_eq_true_eq, Option.some.injEq, Prod.mk.injEq]
    constructor
    · rintro h _ _ ⟨rfl, rfl⟩
      exact h
    · exact fun h => h header length ⟨rfl, rfl⟩

/-- Where the announced length fits, the reader compares it with what there is. -/
theorem derTlv_of_fits {bytes : Bytes} {tag : UInt8} (h : HeadFits width bytes tag) :
    derTlv width bytes tag =
      match derHead width bytes tag with
      | none => .fail ()
      | some (header, length) =>
        if bytes.length < header + length then .fail () else pure (header, length) := by
  rw [derTlv_eq hwidth]
  cases hhead : derHead width bytes tag with
  | none => rfl
  | some announced =>
    obtain ⟨header, length⟩ := announced
    have hlt := h header length hhead
    dsimp only
    rw [Nat.mod_eq_of_lt hlt]
    by_cases hcut : bytes.length < header + length
    · rw [if_pos hcut, if_pos hcut]
      exact Guarded.ext rfl (decide_eq_true hlt)
    · rw [if_neg hcut, if_neg hcut]
      exact Guarded.ext rfl (decide_eq_true hlt)

omit hwidth in
theorem derHead_header_le {bytes : Bytes} {tag : UInt8} {header length : Nat}
    (h : derHead width bytes tag = some (header, length)) : header ≤ bytes.length := by
  match bytes with
  | [] => cases h
  | [found] => cases h
  | found :: first :: rest =>
    simp only [derHead] at h
    split_ifs at h with htag hshort hcut hform hsmall
    · obtain ⟨rfl, -⟩ := Prod.mk.inj (Option.some.inj h)
      simp
    · obtain ⟨rfl, -⟩ := Prod.mk.inj (Option.some.inj h)
      simp only [not_or] at hform
      simp only [List.length_cons]
      omega

/-- What is announced for a key's algorithm fits the width: in the outer head, and in the inner one of
a key of exactly the outer length. -/
def AlgorithmFits (width : Nat) (spki : Bytes) : Prop :=
  HeadFits width spki 0x30 ∧ ∀ header length, derHead width spki 0x30 = some (header, length) →
    header + length = spki.length → HeadFits width (spki.drop header) 0x30

/-- What is announced before a key's bit string fits the width, in each head that is reached. -/
def BitStringFits (width : Nat) (spki : Bytes) : Prop :=
  HeadFits width spki 0x30 ∧ ∀ header length, derHead width spki 0x30 = some (header, length) →
    header + length ≤ spki.length → HeadFits width (spki.drop header) 0x30 ∧
      ∀ header' length', derHead width (spki.drop header) 0x30 = some (header', length') →
        header' + length' ≤ (spki.drop header).length →
        HeadFits width ((spki.drop header).drop (header' + length')) 0x03

/-- What follows a head is computed where the element is there. -/
theorem derTlv_bind_safe_iff {β : Type} {bytes : Bytes} {tag : UInt8}
    {next : Nat × Nat → Guarded Unit β} : (derTlv width bytes tag >>= next).safe = true ↔
      HeadFits width bytes tag ∧ ∀ header length,
        derHead width bytes tag = some (header, length) → header + length ≤ bytes.length →
        (next (header, length)).safe = true := by
  rw [Guarded.safe_bind, derTlv_safe_iff hwidth]
  refine and_congr_right fun hfits => ?_
  rw [derTlv_of_fits hwidth hfits]
  cases hhead : derHead width bytes tag with
  | none => exact ⟨fun _ => nofun, fun _ => nofun⟩
  | some announced =>
    obtain ⟨header, length⟩ := announced
    dsimp only
    by_cases hcut : bytes.length < header + length
    · rw [if_pos hcut]
      refine ⟨fun _ header' length' hsame hthere => ?_, fun _ => nofun⟩
      obtain ⟨rfl, rfl⟩ := Prod.mk.inj (Option.some.inj hsame)
      omega
    · rw [if_neg hcut]
      constructor
      · rintro h _ _ ⟨⟩ -
        exact h _ rfl
      · rintro h _ ⟨⟩
        exact h header length rfl (by omega)

theorem spkiAlgorithmIdentifier_safe_iff {spki : Bytes} :
    (spkiAlgorithmIdentifier width spki).safe = true ↔ AlgorithmFits width spki := by
  rw [spkiAlgorithmIdentifier, derTlv_bind_safe_iff hwidth, AlgorithmFits]
  refine and_congr_right fun hfits => forall_congr' fun header => forall_congr' fun length =>
    forall_congr' fun hhead => ?_
  have hlt := hfits header length hhead
  have hheader := derHead_header_le hhead
  dsimp only
  rw [checkedAdd_of_lt hlt]
  by_cases hwhole : header + length = spki.length
  · rw [if_neg (by rw [hwhole]; simp), sliceFrom_of_le hheader, Guarded.pure_bind,
      derTlv_bind_safe_iff hwidth]
    constructor
    · exact fun h _ => (h hwhole.le).1
    · refine fun h _ => ⟨h hwhole, fun header' length' hhead' hthere => ?_⟩
      dsimp only
      rw [checkedAdd_of_lt (h hwhole header' length' hhead')]
      exact decide_eq_true ⟨Nat.zero_le _, hthere⟩
  · rw [if_pos (by simpa using hwhole)]
    exact ⟨fun _ hsame => absurd hsame hwhole, fun _ _ => rfl⟩

theorem spkiBitString_safe_iff {spki : Bytes} :
    (spkiBitString width spki).safe = true ↔ BitStringFits width spki := by
  rw [spkiBitString, derTlv_bind_safe_iff hwidth, BitStringFits]
  refine and_congr_right fun hfits => forall_congr' fun header => forall_congr' fun length =>
    forall_congr' fun hhead => forall_congr' fun hthere => ?_
  dsimp only
  rw [sliceFrom_of_le (derHead_header_le hhead), Guarded.pure_bind, derTlv_bind_safe_iff hwidth]
  refine and_congr_right fun hinner => forall_congr' fun header' => forall_congr' fun length' =>
    forall_congr' fun hhead' => forall_congr' fun hthere' => ?_
  dsimp only
  rw [checkedAdd_of_lt (hinner header' length' hhead')]
  dsimp only
  rw [sliceFrom_of_le hthere', Guarded.pure_bind, derTlv_bind_safe_iff hwidth]
  constructor
  · exact fun h => h.1
  · refine fun h => ⟨h, fun header'' length'' hhead'' hthere'' => ?_⟩
    dsimp only
    rw [add_of_lt (h header'' length'' hhead''), Guarded.pure_bind]
    cases hcontents : getRange ((spki.drop header).drop (header' + length')) header''
        (header'' + length'') with
    | none => rfl
    | some contents =>
      dsimp only
      by_cases hunused : contents.head? ≠ some 0
      · rw [if_pos hunused]
        rfl
      · rw [if_neg hunused]
        cases contents with
        | nil => exact absurd nofun hunused
        | cons first rest => exact decide_eq_true ⟨by simp, Nat.le_refl _⟩

/-- Four digits are read without overflow. -/
theorem tlvLength_eq {digits : Bytes} (h : digits.length ≤ 4) :
    (digits.foldlM (fun l b => do
      let shifted ← mul width l 256
      add width shifted b.toNat) 0 : Guarded SigstoreError Nat) = pure (fromBigEndian digits) := by
  obtain ⟨-, hwide⟩ := pow_width hwidth
  induction digits using List.reverseRecOn with
  | nil => rfl
  | append_singleton digits byte ih =>
    rw [List.length_append, List.length_singleton] at h
    have hbyte := byte.toNat_lt
    have hdigits := Wire.fromBigEndian_lt digits
    have hbound : 256 ^ (digits.length + 1) ≤ 2 ^ 32 := by
      rw [show 2 ^ 32 = 256 ^ 4 from rfl]
      exact Nat.pow_le_pow_right (by decide) h
    rw [pow_succ] at hbound
    have hsnoc : fromBigEndian (digits ++ [byte]) = fromBigEndian digits * 256 + byte.toNat := by
      simp [fromBigEndian, List.foldl_append]
    rw [List.foldlM_append, ih (by omega), Guarded.pure_bind, List.foldlM_cons, hsnoc,
      mul_of_lt (by omega), Guarded.pure_bind, add_of_lt (by omega), Guarded.pure_bind]
    rfl

/-- The reader of an extension's head never overflows. -/
theorem tlv_eq (v : Bytes) (tag : UInt8) : tlv width v tag =
    match tlvHead v tag with
    | none => .fail invalidExtension
    | some announced => pure announced := by
  obtain ⟨-, hwide⟩ := pow_width hwidth
  match v with
  | [] => rfl
  | [found] =>
    unfold tlv tlvHead
    split <;> rfl
  | found :: first :: rest =>
    unfold tlv tlvHead
    simp only [ne_eq, List.head?_cons, Option.some.injEq, List.getElem?_cons_succ,
      List.getElem?_cons_zero, highBit_eq_zero_iff]
    have hfirst := first.toNat_lt
    have hlength : (found :: first :: rest).length = 2 + rest.length := by
      simp only [List.length_cons]
      omega
    by_cases htag : found = tag
    · rw [if_neg (not_not.mpr htag), if_neg (not_not.mpr htag)]
      by_cases hshort : first.toNat < 128
      · rw [if_pos hshort, if_pos hshort]
      · rw [if_neg hshort, if_neg hshort, lowBits_toNat hshort]
        generalize hcount : first.toNat - 128 = count
        by_cases hform : count = 0 ∨ 4 < count
        · rw [if_pos hform, if_pos (hform.imp_right .inl)]
        · rw [if_neg hform, add_of_lt (by omega), Guarded.pure_bind]
          by_cases hcut : rest.length < count
          · rw [if_pos (by omega), if_pos (.inr (.inr hcut))]
          · have hdigits : ((found :: first :: rest).take (2 + count)).drop 2 = rest.take count := by
              rw [Nat.add_comm]
              rfl
            have htake : (rest.take count).length ≤ 4 := by
              rw [List.length_take]
              omega
            rw [if_neg (by omega), if_neg (by omega), Guarded.pure_bind,
              slice_of_le (by omega) (by omega), Guarded.pure_bind, hdigits,
              tlvLength_eq hwidth htake, Guarded.pure_bind, Guarded.pure_bind]
    · rw [if_pos htag, if_pos htag]

theorem tlv_safe (v : Bytes) (tag : UInt8) : (tlv width v tag).safe = true := by
  rw [tlv_eq hwidth]
  cases tlvHead v tag <;> rfl

theorem tlv_bind_safe_iff {β : Type} {v : Bytes} {tag : UInt8}
    {next : Nat × Nat → Guarded SigstoreError β} : (tlv width v tag >>= next).safe = true ↔
      ∀ header length, tlvHead v tag = some (header, length) → (next (header, length)).safe = true := by
  rw [tlv_eq hwidth]
  cases hhead : tlvHead v tag with
  | none => exact ⟨fun _ => nofun, fun _ => rfl⟩
  | some announced =>
    obtain ⟨header, length⟩ := announced
    rw [Guarded.pure_bind]
    constructor
    · rintro h _ _ ⟨⟩
      exact h
    · exact fun h => h header length rfl

omit hwidth in
theorem head_of_tlvHead {v : Bytes} {tag : UInt8} {announced : Nat × Nat}
    (h : tlvHead v tag = some announced) : v.head? = some tag := by
  match v with
  | [] => cases h
  | [found] => cases h
  | found :: first :: rest =>
    simp only [tlvHead] at h
    split at h
    · cases h
    · next htag => exact congrArg some (not_not.mp htag)

theorem derText_safe_iff {value : Bytes} : (derText width value).safe = true ↔ TextFits width value := by
  cases hhead : value.head? with
  | none =>
    rw [derText, hhead]
    refine ⟨fun _ tag _ header length h => ?_, fun _ => rfl⟩
    rw [head_of_tlvHead h] at hhead
    cases hhead
  | some tag =>
    rw [derText, hhead]
    dsimp only
    by_cases hother : tag ≠ 0x0c ∧ tag ≠ 0x16
    · rw [if_pos hother]
      refine ⟨fun _ tag' htag header length h => ?_, fun _ => rfl⟩
      rw [head_of_tlvHead h] at hhead
      cases hhead
      exact absurd htag (by simpa using hother)
    · rw [if_neg hother, tlv_bind_safe_iff hwidth]
      have htag : tag = 0x0c ∨ tag = 0x16 := by
        by_contra hnot
        exact hother (not_or.mp hnot)
      constructor
      · intro h tag' _ header length hannounced
        rw [head_of_tlvHead hannounced] at hhead
        cases hhead
        exact (add_bind_safe_iff.mp (h header length hannounced)).1
      · intro h header length hannounced
        refine add_bind_safe_iff.mpr ⟨h tag htag header length hannounced, ?_⟩
        split
        · rfl
        · split <;> rfl

theorem derString_safe_iff {bytes : Bytes} :
    (derString width bytes).safe = true ↔ StringFits width bytes := by
  rw [derString, StringFits]
  by_cases hwrapped : bytes.head? = some 0xa0
  · rw [if_pos hwrapped, if_pos hwrapped, tlv_bind_safe_iff hwidth]
    refine forall_congr' fun header => forall_congr' fun length => forall_congr' fun _ => ?_
    dsimp only
    rw [add_bind_safe_iff]
    refine and_congr_right fun _ => ?_
    cases hrange : getRange bytes header (header + length) with
    | none => exact ⟨fun _ => nofun, fun _ => rfl⟩
    | some value =>
      dsimp only
      rw [Guarded.pure_bind, derText_safe_iff hwidth]
      constructor
      · rintro h _ ⟨⟩
        exact h
      · exact fun h => h value rfl
  · rw [if_neg hwrapped, if_neg hwrapped, Guarded.pure_bind, derText_safe_iff hwidth]

/-- The certificate readers stay within the width and within their slices exactly where the lengths that
are announced to them do, and then a head lies with its element within the bytes. The head of an
extension's element is read within both always. -/
theorem lengthArithmetic_iff :
    (∀ bytes tag, ((derTlv width bytes tag).safe = true ∧ ∀ header length,
        (derTlv width bytes tag).result = .ok (header, length) → header + length ≤ bytes.length) ↔
      HeadFits width bytes tag) ∧
    (∀ spki, (spkiAlgorithmIdentifier width spki).safe = true ↔ AlgorithmFits width spki) ∧
    (∀ spki, (spkiBitString width spki).safe = true ↔ BitStringFits width spki) ∧
    (∀ v tag, (tlv width v tag).safe = true) ∧
    ∀ bytes, (derString width bytes).safe = true ↔ StringFits width bytes := by
  refine ⟨fun bytes tag => ?_, fun _ => spkiAlgorithmIdentifier_safe_iff hwidth,
    fun _ => spkiBitString_safe_iff hwidth, tlv_safe hwidth, fun _ => derString_safe_iff hwidth⟩
  constructor
  · exact fun h => (derTlv_safe_iff hwidth).mp h.1
  · intro hfits
    refine ⟨(derTlv_safe_iff hwidth).mpr hfits, fun header length h => ?_⟩
    rw [derTlv_of_fits hwidth hfits] at h
    cases hhead : derHead width bytes tag with
    | none =>
      rw [hhead] at h
      cases h
    | some announced =>
      rw [hhead] at h
      dsimp only at h
      split at h
      · cases h
      · next hthere =>
        cases h
        exact Nat.le_of_not_lt hthere

end Widths

/-- A key of 64-bit length octets, an element with a length that fits. -/
theorem lengthArithmetic_sample : (derTlv 64 [0x30, 0x01, 0x00] 0x30).safe = true :=
  ((lengthArithmetic_iff (.inr rfl)).1 [0x30, 0x01, 0x00] 0x30).mpr (fun header length h => by
    cases h
    decide) |>.1

/-- A key whose announced length is the largest of 64 bits: the sum wraps, and the head is accepted
with an element that reaches beyond the key. On 32 bits a text of the largest length wraps too. -/
theorem lengthArithmetic_wraps :
    ((derTlv 64 [0x30, 0x88, 0xff, 0xff, 0xff, 0xff, 0xff, 0xff, 0xff, 0xff] 0x30).safe = false ∧
      (derTlv 64 [0x30, 0x88, 0xff, 0xff, 0xff, 0xff, 0xff, 0xff, 0xff, 0xff] 0x30).result =
        .ok (10, 2 ^ 64 - 1) ∧
      (spkiAlgorithmIdentifier 64
        [0x30, 0x88, 0xff, 0xff, 0xff, 0xff, 0xff, 0xff, 0xff, 0xff]).safe = false) ∧
    (derTlv 32 [0x30, 0x84, 0xff, 0xff, 0xff, 0xff] 0x30).safe = false ∧
    (derString 32 [0x0c, 0x84, 0xff, 0xff, 0xff, 0xff]).safe = false := by
  refine ⟨⟨by decide, by rfl, by decide⟩, by decide, by decide⟩

end AuthsProof.Sigstore
