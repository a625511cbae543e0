import AuthsProof.Lib.Run
import AuthsProof.Receipts.Claims
import AuthsProof.RoundTrip
import Mathlib.Algebra.Order.BigOperators.Group.List

/-! A claim envelope is read back from what is written, and nothing else is accepted for it. -/

namespace AuthsProof.Receipts

open Text

@[simp] theorem require_eq_ok {ε : Type} {p : Prop} [Decidable p] {error : ε} {u : Unit} :
    require p error = .ok u ↔ p := by
  by_cases h : p <;> simp [require, h]

theorem require_ok {ε : Type} {p : Prop} [Decidable p] {error : ε} (h : p) :
    require p error = .ok () := if_pos h

section Hex

theorem hexNibble_hexDigit {n : Nat} (h : n < 16) : hexNibble (Json.hexDigit n) = .ok n := by
  have hall : ∀ n < 16, hexNibble (Json.hexDigit n) = .ok n := by decide
  exact hall n h

theorem hexDigit_plain {n : Nat} (h : n < 16) :
    (isAsciiDigit (Json.hexDigit n) || decide ('a' ≤ Json.hexDigit n ∧ Json.hexDigit n ≤ 'f')) = true ∧
      (Json.hexDigit n).utf8Size = 1 ∧ 0x20 ≤ (Json.hexDigit n).toNat := by
  have hall : ∀ n < 16, (isAsciiDigit (Json.hexDigit n) ||
      decide ('a' ≤ Json.hexDigit n ∧ Json.hexDigit n ≤ 'f')) = true ∧
      (Json.hexDigit n).utf8Size = 1 ∧ 0x20 ≤ (Json.hexDigit n).toNat := by decide
  exact hall n h

theorem mem_encodeHexBytes {bytes : Bytes} {c : Char} (h : c ∈ encodeHexBytes bytes) :
    ∃ n < 16, c = Json.hexDigit n := by
  obtain ⟨byte, -, hc⟩ := List.mem_flatMap.mp h
  have hbyte := byte.toNat_lt
  rcases List.mem_cons.mp hc with hhigh | hlow
  · exact ⟨byte.toNat / 16, by omega, hhigh⟩
  · exact ⟨byte.toNat % 16, by omega, List.mem_singleton.mp hlow⟩

theorem size_encodeHexBytes (bytes : Bytes) : Json.size (encodeHexBytes bytes) = 2 * bytes.length := by
  induction bytes with
  | nil => rfl
  | cons byte bytes ih =>
    have hbyte := byte.toNat_lt
    have hhigh := (hexDigit_plain (show byte.toNat / 16 < 16 by omega)).2.1
    have hlow := (hexDigit_plain (show byte.toNat % 16 < 16 by omega)).2.1
    have hsplit : encodeHexBytes (byte :: bytes) = Json.hexDigit (byte.toNat / 16) ::
        Json.hexDigit (byte.toNat % 16) :: encodeHexBytes bytes := rfl
    rw [hsplit]
    simp only [Json.size_cons, hhigh, hlow, ih, List.length_cons]
    omega

theorem size_encodeHex (digest : Digest) : (encodeHex digest).utf8ByteSize = 64 := by
  rw [encodeHex, Json.utf8ByteSize_ofList, size_encodeHexBytes, digest.length_eq]

theorem decodeHexPairs_encode (bytes : Bytes) : decodeHexPairs (encodeHexBytes bytes) = .ok bytes := by
  induction bytes with
  | nil => rfl
  | cons byte bytes ih =>
    have hbyte := byte.toNat_lt
    have hhigh := hexNibble_hexDigit (show byte.toNat / 16 < 16 by omega)
    have hlow := hexNibble_hexDigit (show byte.toNat % 16 < 16 by omega)
    have hsplit : encodeHexBytes (byte :: bytes) = Json.hexDigit (byte.toNat / 16) ::
        Json.hexDigit (byte.toNat % 16) :: encodeHexBytes bytes := rfl
    have hsum : byte.toNat / 16 * 16 + byte.toNat % 16 = byte.toNat := by omega
    rw [hsplit, decodeHexPairs, hhigh, hlow, ih]
    simp only [bind, Except.bind, pure, Except.pure, hsum, UInt8.ofNat_toNat]

theorem decodeHexDigest_encodeHex (digest : Digest) : decodeHexDigest (encodeHex digest) = .ok digest := by
  have hplain : (encodeHex digest).toList.all
      (fun c => isAsciiDigit c || decide ('a' ≤ c ∧ c ≤ 'f')) = true := by
    rw [encodeHex, String.toList_ofList, List.all_eq_true]
    intro c hc
    obtain ⟨n, hn, rfl⟩ := mem_encodeHexBytes hc
    exact (hexDigit_plain hn).1
  have hpairs : decodeHexPairs (encodeHex digest).toList = .ok digest.bytes := by
    rw [encodeHex, String.toList_ofList, decodeHexPairs_encode]
  unfold decodeHexDigest
  rw [require_ok ⟨size_encodeHex digest, hplain⟩, hpairs]
  simp only [bind, Except.bind, digestOfBytes, Digest.new_bytes]

end Hex

section Profile

theorem splitOnce_append {c : Char} {before : List Char} (h : c ∉ before) (after : List Char) :
    splitOnce c (before ++ c :: after) = some (before, after) := by
  induction before with
  | nil => simp [splitOnce]
  | cons head before ih =>
    have hne : head ≠ c := fun heq => h (heq ▸ List.mem_cons_self)
    have htail := ih fun hmem => h (List.mem_cons_of_mem _ hmem)
    rw [List.cons_append, splitOnce, if_neg hne, htail]
    rfl

theorem rsplitOnce_append {c : Char} {after : List Char} (h : c ∉ after) (before : List Char) :
    rsplitOnce c (before ++ c :: after) = some (before, after) := by
  have hsplit : splitOnce c (before ++ c :: after).reverse = some (after.reverse, before.reverse) := by
    rw [List.reverse_append, List.reverse_cons, List.append_assoc, List.singleton_append]
    exact splitOnce_append (by simpa using h) _
  rw [rsplitOnce, hsplit]
  simp

theorem isAsciiDigit_of_mem_toDigits {n : Nat} {c : Char} (h : c ∈ Nat.toDigits 10 n) :
    isAsciiDigit c = true := by
  have hdigit := Nat.isDigit_of_mem_toDigits (by decide) (by decide) h
  simpa [Char.isDigit, isAsciiDigit, Char.le_def] using hdigit

theorem parseU16_toString (version : UInt16) : parseU16 (toString version.toNat).toList = .ok version := by
  have hdigits : (toString version.toNat).toList = Nat.toDigits 10 version.toNat := by
    rw [Nat.toString_eq_repr, Nat.toList_repr]
  have hnonempty : Nat.toDigits 10 version.toNat ≠ [] := Nat.toDigits_ne_nil
  have hall : (Nat.toDigits 10 version.toNat).all isAsciiDigit = true := by
    rw [List.all_eq_true]
    exact fun c hc => isAsciiDigit_of_mem_toDigits hc
  have hunsigned : (Nat.toDigits 10 version.toNat).head? ≠ some '+' := by
    intro hhead
    have hmem : '+' ∈ Nat.toDigits 10 version.toNat := List.mem_of_mem_head? hhead
    have hplus := isAsciiDigit_of_mem_toDigits hmem
    cases hplus
  have hlt := version.toNat_lt
  unfold parseU16
  simp only [hdigits, hunsigned, if_false, Nat.ofDigitChars_ten_toDigits]
  simp [hnonempty, hall, hlt]

theorem toList_profileText (profile : ProfileRef) : (profileText profile).toList =
    profile.id.str.toList ++ '/' :: Nat.toDigits 10 profile.version.toNat := by
  simp [profileText, Nat.toList_repr]

theorem parseProfileText_profileText (profile : ProfileRef) :
    parseProfileText (profileText profile) = .ok profile := by
  have hslash : '/' ∉ Nat.toDigits 10 profile.version.toNat := by
    intro hmem
    have hdigit := isAsciiDigit_of_mem_toDigits hmem
    cases hdigit
  have hid : ProfileId.parse (String.ofList profile.id.str.toList) = .ok profile.id := by
    rw [String.ofList_toList]
    exact parseBounded_str _ profile.id
  have hversion : parseU16 (Nat.toDigits 10 profile.version.toNat) = .ok profile.version := by
    have h := parseU16_toString profile.version
    rwa [Nat.toString_eq_repr, Nat.toList_repr] at h
  unfold parseProfileText
  rw [toList_profileText, rsplitOnce_append hslash]
  simp only [hid, hversion, ProfileRef.new_self, Except.mapError, bind, Except.bind]

end Profile

section Envelope

theorem ofStr_asStr (phase : ProfileReceiptClaimPhase) :
    ProfileReceiptClaimPhase.ofStr phase.asStr = .ok phase := by
  cases phase <;> rfl

theorem claimOfFields_claimFields (claim : ProfileReceiptClaim) :
    claimOfFields (claimFields claim) = .ok claim := by
  unfold claimOfFields claimFields
  rw [decodeHexDigest_encodeHex]
  exact claim.new_self

theorem mapM_claimOfFields (claims : List ProfileReceiptClaim) :
    (claims.map claimFields).mapM claimOfFields = .ok claims := by
  induction claims with
  | nil => rfl
  | cons claim claims ih =>
    rw [List.map_cons, List.mapM_cons, claimOfFields_claimFields, ih]
    rfl

theorem claimsOfFields_claimsFields (c : ProfileReceiptClaims) :
    claimsOfFields (claimsFields c.profile c.phase c.claims) = .ok c := by
  have hroster := c.roster
  unfold claimsOfFields claimsFields
  dsimp only
  rw [require_ok rfl, ofStr_asStr, parseProfileText_profileText, mapM_claimOfFields]
  simp only [bind, Except.bind]
  split
  · next h =>
    rw [hroster] at h
    cases h
  · rfl

theorem validateProfileClaimId_plain {value : String} (h : validateProfileClaimId value = true) :
    value.utf8ByteSize ≤ 128 ∧ ∀ c ∈ value.toList, 0x20 ≤ c.toNat := by
  simp only [validateProfileClaimId, Bool.not_eq_true', Bool.or_eq_false_iff,
    decide_eq_false_iff_not, List.any_eq_false] at h
  obtain ⟨⟨⟨⟨⟨-, hsize⟩, -⟩, -⟩, -⟩, hchars⟩ := h
  refine ⟨by omega, fun c hc => ?_⟩
  have hchar : (isAsciiLower c || isAsciiDigit c || c == '.' || c == '-') = true := by
    by_contra hother
    exact hchars c hc (by simpa using hother)
  simp only [isAsciiLower, isAsciiDigit, Bool.or_eq_true, Bool.and_eq_true, decide_eq_true_eq,
    beq_iff_eq] at hchar
  rcases hchar with ((⟨hlow, -⟩ | ⟨hlow, -⟩) | rfl) | rfl
  · have hnat : ('a' : Char).toNat ≤ c.toNat := hlow
    have ha : ('a' : Char).toNat = 97 := rfl
    omega
  · have hnat : ('0' : Char).toNat ≤ c.toNat := hlow
    have hzero : ('0' : Char).toNat = 48 := rfl
    omega
  · decide
  · decide

theorem claimFields_plain (claim : ProfileReceiptClaim) :
    (claimFields claim).Plain ∧ (claimFields claim).size ≤ 406 := by
  obtain ⟨hsize, hid⟩ := validateProfileClaimId_plain claim.valid
  have hhex := size_encodeHex claim.sha256
  refine ⟨⟨hid, fun c hc => ?_⟩, ?_⟩
  · rw [claimFields, encodeHex, String.toList_ofList] at hc
    obtain ⟨n, hn, rfl⟩ := mem_encodeHexBytes hc
    exact (hexDigit_plain hn).2.2
  · simp only [claimFields, ProfileReceiptClaimFields.size, hhex]
    omega

theorem profileText_plain (profile : ProfileRef) :
    (∀ c ∈ (profileText profile).toList, 0x20 ≤ c.toNat) ∧
      (profileText profile).utf8ByteSize ≤ 134 := by
  have hbounded := profile.id.bounded
  simp only [boundedText, Bool.not_eq_true', Bool.or_eq_false_iff, decide_eq_false_iff_not,
    List.any_eq_false] at hbounded
  obtain ⟨⟨-, hsize⟩, hchars⟩ := hbounded
  have hversion := profile.version.toNat_lt
  constructor
  · intro c hc
    rw [toList_profileText, List.mem_append, List.mem_cons] at hc
    rcases hc with hid | rfl | hdigit
    · by_contra hlow
      have hcontrol : isControl c = true := by
        simp only [isControl, Bool.or_eq_true, Bool.and_eq_true, decide_eq_true_eq]
        omega
      exact hchars c hid (by rw [hcontrol]; rfl)
    · decide
    · have hascii := isAsciiDigit_of_mem_toDigits hdigit
      simp only [isAsciiDigit, Bool.and_eq_true, decide_eq_true_eq] at hascii
      have hnat : ('0' : Char).toNat ≤ c.toNat := hascii.1
      have hzero : ('0' : Char).toNat = 48 := rfl
      omega
  · have hlength : (Nat.toDigits 10 profile.version.toNat).length ≤ 5 :=
      (Nat.length_toDigits_le_iff (by decide) (by decide)).mpr (by omega)
    have hdigits : Json.size (Nat.toDigits 10 profile.version.toNat) =
        (Nat.toDigits 10 profile.version.toNat).length := by
      have hone : ∀ c ∈ Nat.toDigits 10 profile.version.toNat, c.utf8Size = 1 := by
        intro c hc
        have hascii := isAsciiDigit_of_mem_toDigits hc
        simp only [isAsciiDigit, Bool.and_eq_true, decide_eq_true_eq] at hascii
        exact Char.utf8Size_eq_one_iff.mpr (le_trans hascii.2 (by decide))
      rw [Json.size, List.map_congr_left hone]
      simp
    have htext : (profileText profile).utf8ByteSize =
        profile.id.str.utf8ByteSize + (1 + (Nat.toDigits 10 profile.version.toNat).length) := by
      rw [← Json.size_toList, toList_profileText, Json.size_append, Json.size_cons, Json.size_toList,
        hdigits]
      rfl
    omega

variable [ClaimsJson] [FaithfulClaimsJson]

/-- Claims of a valid roster are serialised within their limit. -/
theorem toVec_claimsFields (c : ProfileReceiptClaims) :
    ∃ bytes, ClaimsJson.toVec (claimsFields c.profile c.phase c.claims) = some bytes ∧
      ClaimsJson.fromSlice bytes = some (claimsFields c.profile c.phase c.claims) ∧
      bytes ≠ [] ∧ bytes.length ≤ maxProfileClaimsBytes := by
  obtain ⟨bytes, hbytes, hparsed⟩ :=
    FaithfulClaimsJson.parsed (claimsFields c.profile c.phase c.claims)
  obtain ⟨hprofile, hprofileSize⟩ := profileText_plain c.profile
  have hplainText (text : String) (h : text.toList.all (fun d => 0x20 ≤ d.toNat) = true) :
      ∀ d ∈ text.toList, 0x20 ≤ d.toNat :=
    fun d hd => of_decide_eq_true (List.all_eq_true.mp h d hd)
  have hphase : (∀ d ∈ c.phase.asStr.toList, 0x20 ≤ d.toNat) ∧ c.phase.asStr.utf8ByteSize ≤ 9 :=
    ⟨hplainText _ (by cases c.phase <;> decide), by cases c.phase <;> decide⟩
  have hschema : (∀ d ∈ profileClaimsSchema.toList, 0x20 ≤ d.toNat) ∧
      profileClaimsSchema.utf8ByteSize = 30 := ⟨hplainText _ (by decide), by decide⟩
  have hclaims : ∀ claim ∈ c.claims.map claimFields, claim.Plain := by
    intro claim hclaim
    obtain ⟨source, -, rfl⟩ := List.mem_map.mp hclaim
    exact (claimFields_plain source).1
  have hplain : (claimsFields c.profile c.phase c.claims).Plain :=
    ⟨hclaims, hphase.1, hprofile, hschema.1⟩
  obtain ⟨hnonempty, hlength⟩ := FaithfulClaimsJson.compact _ bytes hplain hbytes
  have hroster := c.roster
  simp only [validateProfileClaimRoster, Except.bind_eq_ok, require_eq_ok] at hroster
  obtain ⟨⟨⟩, ⟨-, hcount⟩, -⟩ := hroster
  have hsum : ((c.claims.map claimFields).map ProfileReceiptClaimFields.size).sum ≤
      c.claims.length * 406 := by
    have hcard := List.sum_le_card_nsmul ((c.claims.map claimFields).map ProfileReceiptClaimFields.size)
      406 (by
        intro size hsize
        obtain ⟨claim, hclaim, rfl⟩ := List.mem_map.mp hsize
        obtain ⟨source, -, rfl⟩ := List.mem_map.mp hclaim
        exact (claimFields_plain source).2)
    simpa using hcard
  refine ⟨bytes, hbytes, hparsed, hnonempty, ?_⟩
  simp only [claimsFields, ProfileReceiptClaimsFields.size, maxProfileClaims] at hlength hcount
  have hbound := hphase.2
  have hschemaSize := hschema.2
  rw [maxProfileClaimsBytes]
  omega

/-- Claims of a valid roster are encoded, and decoded to what they were. -/
theorem claims_roundTrip (c : ProfileReceiptClaims) : ∃ bytes,
    encodeProfileReceiptClaims c.profile c.phase c.claims = .ok bytes ∧
      decodeProfileReceiptClaims bytes = .ok c := by
  obtain ⟨bytes, hbytes, hparsed, hnonempty, hlength⟩ := toVec_claimsFields c
  have hencode : encodeProfileReceiptClaims c.profile c.phase c.claims = .ok bytes := by
    unfold encodeProfileReceiptClaims
    rw [c.roster, hbytes]
    simp only [bind, Except.bind, require_ok hlength, pure, Except.pure]
  refine ⟨bytes, hencode, ?_⟩
  unfold decodeProfileReceiptClaims
  rw [require_ok ⟨hnonempty, hlength⟩, hparsed]
  show (claimsOfFields _ >>= _) = _
  rw [claimsOfFields_claimsFields]
  show (encodeProfileReceiptClaims _ _ _ >>= _) = _
  rw [hencode]
  show (require (bytes = bytes) _ >>= fun _ => .ok c) = .ok c
  rw [require_ok rfl]
  rfl

omit [FaithfulClaimsJson] in
theorem encode_of_decodeProfileReceiptClaims {input : Bytes} {c : ProfileReceiptClaims}
    (h : decodeProfileReceiptClaims input = .ok c) :
    encodeProfileReceiptClaims c.profile c.phase c.claims = .ok input ∧
      input.length ≤ maxProfileClaimsBytes := by
  unfold decodeProfileReceiptClaims at h
  obtain ⟨⟨⟩, hlimit, h⟩ := Except.bind_eq_ok.mp h
  cases hfields : ClaimsJson.fromSlice input with
  | none =>
    rw [hfields] at h
    cases h
  | some fields =>
    rw [hfields] at h
    simp only [Except.bind_eq_ok, require_eq_ok] at h hlimit
    obtain ⟨decoded, -, canonical, hencode, ⟨⟩, rfl, hreturn⟩ := h
    cases hreturn
    exact ⟨hencode, hlimit.2⟩

end Envelope

end AuthsProof.Receipts
