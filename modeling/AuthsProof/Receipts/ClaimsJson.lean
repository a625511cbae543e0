import AuthsProof.Receipts.ClaimsRoundTrip
import AuthsProof.Signing

/-! The claim envelope in the canonical JSON form: members in order, no spaces, shortest escapes. -/

namespace AuthsProof.Receipts

open Json

def claimChars (claim : ProfileReceiptClaimFields) : List Char :=
  "\x7b\"id\":".toList ++ (quote claim.id.toList ++ (",\"sha256\":".toList ++
    (quote claim.sha256.toList ++ ['}'])))

/-- The claims, each after the first behind a comma, and the bracket that ends them. -/
def claimsChars : List ProfileReceiptClaimFields → List Char
  | [] => [']']
  | [claim] => claimChars claim ++ [']']
  | claim :: next :: rest => claimChars claim ++ (',' :: claimsChars (next :: rest))

def envelopeChars (fields : ProfileReceiptClaimsFields) : List Char :=
  "\x7b\"claims\":[".toList ++ (claimsChars fields.claims ++ (",\"phase\":".toList ++
    (quote fields.phase.toList ++ (",\"profile\":".toList ++ (quote fields.profile.toList ++
      (",\"schema\":".toList ++ (quote fields.schema.toList ++ ['}'])))))))

def canonicalBytes (fields : ProfileReceiptClaimsFields) : Bytes :=
  utf8 (String.ofList (envelopeChars fields))

theorem claimChars_append_inj {a b : ProfileReceiptClaimFields} {xs ys : List Char}
    (h : claimChars a ++ xs = claimChars b ++ ys) : a = b ∧ xs = ys := by
  unfold claimChars at h
  simp only [List.append_assoc] at h
  have h := List.append_cancel_left h
  obtain ⟨hid, h⟩ := quote_append_inj h
  have h := List.append_cancel_left h
  obtain ⟨hdigest, h⟩ := quote_append_inj h
  have hrest := List.append_cancel_left h
  obtain ⟨id, sha256⟩ := a
  obtain ⟨id', sha256'⟩ := b
  have hidText : id = id' := String.toList_inj.mp hid
  have hdigestText : sha256 = sha256' := String.toList_inj.mp hdigest
  exact ⟨by rw [hidText, hdigestText], hrest⟩

theorem claimsChars_cons (claim : ProfileReceiptClaimFields) (rest : List ProfileReceiptClaimFields) :
    ∃ tail, claimsChars (claim :: rest) = '{' :: tail := by
  cases rest with
  | nil => exact ⟨_, rfl⟩
  | cons next rest => exact ⟨_, rfl⟩

theorem claimsChars_append_inj {as bs : List ProfileReceiptClaimFields} {xs ys : List Char}
    (h : claimsChars as ++ xs = claimsChars bs ++ ys) : as = bs ∧ xs = ys := by
  induction as using claimsChars.induct generalizing bs with
  | case1 =>
    cases bs with
    | nil => simpa [claimsChars] using h
    | cons b bs =>
      obtain ⟨tail, htail⟩ := claimsChars_cons b bs
      rw [htail] at h
      simp [claimsChars] at h
  | case2 a =>
    cases bs with
    | nil =>
      obtain ⟨tail, htail⟩ := claimsChars_cons a []
      rw [htail] at h
      simp [claimsChars] at h
    | cons b bs =>
      cases bs with
      | nil =>
        rw [claimsChars, claimsChars, List.append_assoc, List.append_assoc] at h
        obtain ⟨rfl, hrest⟩ := claimChars_append_inj h
        exact ⟨rfl, List.append_cancel_left hrest⟩
      | cons next rest =>
        rw [claimsChars, claimsChars, List.append_assoc, List.append_assoc] at h
        obtain ⟨-, hrest⟩ := claimChars_append_inj h
        simp at hrest
  | case3 a next rest ih =>
    cases bs with
    | nil =>
      obtain ⟨tail, htail⟩ := claimsChars_cons a (next :: rest)
      rw [htail] at h
      simp [claimsChars] at h
    | cons b bs =>
      cases bs with
      | nil =>
        rw [claimsChars, claimsChars, List.append_assoc, List.append_assoc] at h
        obtain ⟨-, hrest⟩ := claimChars_append_inj h
        simp at hrest
      | cons other others =>
        rw [claimsChars, claimsChars, List.append_assoc, List.append_assoc] at h
        obtain ⟨rfl, hrest⟩ := claimChars_append_inj h
        obtain ⟨hsame, hend⟩ := ih (List.cons.inj hrest).2
        exact ⟨by rw [hsame], hend⟩

theorem canonicalBytes_injective : Function.Injective canonicalBytes := by
  intro a b h
  have hchars := congrArg String.toList (utf8_injective h)
  simp only [String.toList_ofList] at hchars
  unfold envelopeChars at hchars
  have h := List.append_cancel_left hchars
  obtain ⟨hclaims, h⟩ := claimsChars_append_inj h
  obtain ⟨hphase, h⟩ := quote_append_inj (List.append_cancel_left h)
  obtain ⟨hprofile, h⟩ := quote_append_inj (List.append_cancel_left h)
  obtain ⟨hschema, -⟩ := quote_append_inj (List.append_cancel_left h)
  obtain ⟨claims, phase, profile, schema⟩ := a
  obtain ⟨claims', phase', profile', schema'⟩ := b
  have hphaseText : phase = phase' := String.toList_inj.mp hphase
  have hprofileText : profile = profile' := String.toList_inj.mp hprofile
  have hschemaText : schema = schema' := String.toList_inj.mp hschema
  dsimp only at hclaims
  rw [hclaims, hphaseText, hprofileText, hschemaText]

theorem size_claimChars {claim : ProfileReceiptClaimFields} (h : claim.Plain) :
    size (claimChars claim) + 1 ≤ claim.size := by
  have hid := size_quote_le h.1
  have hdigest := size_quote_le h.2
  rw [size_toList] at hid hdigest
  have hfirst : size "\x7b\"id\":".toList = 6 := by decide
  have hsecond : size ",\"sha256\":".toList = 10 := by decide
  have hlast : size ['}'] = 1 := by decide
  have hparts : ∀ a b : List Char, size a = 6 → size b = 10 →
      size (a ++ (quote claim.id.toList ++ (b ++ (quote claim.sha256.toList ++ ['}'])))) =
        6 + (size (quote claim.id.toList) + (10 + (size (quote claim.sha256.toList) + 1))) := by
    intro a b ha hb
    simp only [size_append, ha, hb, hlast]
  have hsize : size (claimChars claim) = _ := hparts _ _ hfirst hsecond
  rw [ProfileReceiptClaimFields.size]
  omega

theorem size_claimsChars {claims : List ProfileReceiptClaimFields}
    (h : ∀ claim ∈ claims, claim.Plain) :
    size (claimsChars claims) ≤ (claims.map ProfileReceiptClaimFields.size).sum + 1 := by
  have hend : size [']'] = 1 := by decide
  induction claims using claimsChars.induct with
  | case1 => simp [claimsChars, hend]
  | case2 claim =>
    have hclaim := size_claimChars (h claim List.mem_cons_self)
    simp only [claimsChars, size_append, hend, List.map_cons, List.map_nil, List.sum_cons,
      List.sum_nil]
    omega
  | case3 claim next rest ih =>
    have hclaim := size_claimChars (h claim List.mem_cons_self)
    have hrest := ih fun other hother => h other (List.mem_cons_of_mem claim hother)
    have hcomma : (',' : Char).utf8Size = 1 := by decide
    rw [claimsChars, size_append, size_cons, hcomma, List.map_cons, List.sum_cons]
    omega

theorem canonicalBytes_compact {fields : ProfileReceiptClaimsFields} (h : fields.Plain) :
    canonicalBytes fields ≠ [] ∧ (canonicalBytes fields).length ≤ fields.size := by
  obtain ⟨hclaims, hphase, hprofile, hschema⟩ := h
  have hlength : (canonicalBytes fields).length = size (envelopeChars fields) := by
    rw [canonicalBytes, length_utf8, utf8ByteSize_ofList]
  have hclaimsSize := size_claimsChars hclaims
  have hphaseSize := size_quote_le hphase
  have hprofileSize := size_quote_le hprofile
  have hschemaSize := size_quote_le hschema
  rw [size_toList] at hphaseSize hprofileSize hschemaSize
  have hfirst : size "\x7b\"claims\":[".toList = 11 := by decide
  have hsecond : size ",\"phase\":".toList = 9 := by decide
  have hthird : size ",\"profile\":".toList = 11 := by decide
  have hfourth : size ",\"schema\":".toList = 10 := by decide
  have hlast : size ['}'] = 1 := by decide
  have hparts : ∀ a b c d : List Char, size a = 11 → size b = 9 → size c = 11 → size d = 10 →
      size (a ++ (claimsChars fields.claims ++ (b ++ (quote fields.phase.toList ++ (c ++
        (quote fields.profile.toList ++ (d ++ (quote fields.schema.toList ++ ['}'])))))))) =
      11 + (size (claimsChars fields.claims) + (9 + (size (quote fields.phase.toList) + (11 +
        (size (quote fields.profile.toList) + (10 +
          (size (quote fields.schema.toList) + 1))))))) := by
    intro a b c d ha hb hc hd
    simp only [size_append, ha, hb, hc, hd, hlast]
  have hsize : size (envelopeChars fields) = _ := hparts _ _ _ _ hfirst hsecond hthird hfourth
  constructor
  · intro hempty
    rw [hempty, List.length_nil] at hlength
    omega
  · rw [hlength, hsize, ProfileReceiptClaimsFields.size]
    omega

open Classical in
/-- The canonical serialiser; the parser accepts what it writes. -/
@[reducible] noncomputable def rfc8785 : ClaimsJson where
  toVec fields := some (canonicalBytes fields)
  fromSlice input := if h : ∃ fields, canonicalBytes fields = input then some h.choose else none

theorem rfc8785_faithful : @FaithfulClaimsJson rfc8785 := @FaithfulClaimsJson.mk rfc8785
  (fun fields => by
    have hexists : ∃ other, canonicalBytes other = canonicalBytes fields := ⟨fields, rfl⟩
    refine ⟨canonicalBytes fields, rfl, ?_⟩
    have hchoice := canonicalBytes_injective hexists.choose_spec
    exact (dif_pos hexists).trans (congrArg some hchoice))
  fun fields bytes hplain hbytes => by
    obtain rfl : canonicalBytes fields = bytes := Option.some.inj hbytes
    exact canonicalBytes_compact hplain

end AuthsProof.Receipts
