import AuthsProof.Injectivity

/-! What is signed: one preimage for each kind of object, which determines the object, its signature
descriptor and its profile, and which is never hashed to an identifier or a commitment. -/

namespace AuthsProof

open Sorting Wire Decode

section Fields

variable [Cbor] [LawfulCbor]

/-- Two objects that agree from a keyed field on agree in that field and in what follows it. -/
theorem field_inj {α : Type} (k : UInt8) {r : Decoder α} {bs cs : Bytes} {css dss : List Bytes} {a b : α}
    (ha : Reads r bs a) (hb : Reads r cs b)
    (h : (encodeKey k :: bs :: css).flatten = (encodeKey k :: cs :: dss).flatten) :
    a = b ∧ css.flatten = dss.flatten := by
  simp only [List.flatten_cons] at h
  obtain ⟨-, h⟩ := (reads_key k).split (reads_key k) h
  exact ha.split hb h

theorem map_inj {n : Nat} (hn : n < 2 ^ 64) {css dss : List Bytes}
    (h : (Cbor.map n :: css).flatten = (Cbor.map n :: dss).flatten) : css.flatten = dss.flatten := by
  simp only [List.flatten_cons] at h
  exact ((reads_map hn).split (reads_map hn) h).2

omit [Cbor] [LawfulCbor] in
theorem flatten_append_tail (bss : List Bytes) (xs : Bytes) :
    bss.flatten ++ xs = (bss ++ [xs]).flatten := by
  simp

end Fields

section Statements

variable [Cbor] [LawfulCbor]

omit [Cbor] [LawfulCbor] in
theorem CriticalExtensions.fits_hard (e : CriticalExtensions) : e.Fits .hard :=
  ⟨e.bounded, fun extension _ => extension.bounded⟩

omit [Cbor] [LawfulCbor] in
theorem GrantStatement.fits_hard (g : GrantStatement) : g.Fits .hard where
  permissions := g.permissions.bounded
  audiences := g.audiences.bounded
  actionConstraint := by
    cases g.actionConstraint with
    | allowedBodyDigests digests => exact digests.bounded
    | _ => exact trivial
  extensions := g.extensions.fits_hard

theorem selfDelimiting_grantStatement : SelfDelimiting (fun _ => True) encodeGrantStatement :=
  selfDelimiting_of_reads fun g _ => (readsIf_grantStatement .hard g).reads g.fits_hard

theorem selfDelimiting_principalStatus :
    SelfDelimiting (fun _ => True) encodePrincipalStatusStatement :=
  selfDelimiting_of_reads fun s _ =>
    (readsIf_statusStatement .hard reads_principal s).reads s.extensions.fits_hard

theorem selfDelimiting_grantStatus : SelfDelimiting (fun _ => True) encodeGrantStatusStatement :=
  selfDelimiting_of_reads fun s _ =>
    (readsIf_statusStatement .hard reads_digestBytes s).reads s.extensions.fits_hard

theorem selfDelimiting_approvalStatement : SelfDelimiting (fun _ => True) encodeApprovalStatement :=
  selfDelimiting_of_reads fun s _ => reads_approvalStatement s

/-- The attachments of an envelope have no limit of their own; a list in memory has a 64-bit length. -/
def ActionEnvelope.Addressable (envelope : ActionEnvelope) : Prop :=
  envelope.attachments.length < 2 ^ 64

theorem selfDelimiting_actionEnvelope :
    SelfDelimiting ActionEnvelope.Addressable encodeActionEnvelope := by
  intro e f xs ys he hf h
  have hattachments (g : ActionEnvelope) (hg : g.Addressable) :
      Reads (list (2 ^ 64) attachment) (encodeList encodeAttachment g.attachments) g.attachments :=
    (readsIf_plainList hg _ fun a _ => reads_attachment a).reads hg.le
  have hextensions (g : ActionEnvelope) := (readsIf_extensions .hard g.extensions).reads
    g.extensions.fits_hard
  unfold encodeActionEnvelope at h
  rw [flatten_append_tail, flatten_append_tail] at h
  have h := map_inj (by norm_num) h
  obtain ⟨-, h⟩ := field_inj 0 reads_protocolVersion reads_protocolVersion h
  obtain ⟨hprofile, h⟩ := field_inj 1 (reads_bounded e.profile.id .invalidProfile (by norm_num))
    (reads_bounded f.profile.id _ (by norm_num)) h
  obtain ⟨hversion, h⟩ := field_inj 2 (reads_u16 e.profile.version) (reads_u16 f.profile.version) h
  obtain ⟨hmediaType, h⟩ := field_inj 3
    (reads_bounded e.bodyMediaType .invalidMediaType (by norm_num))
    (reads_bounded f.bodyMediaType _ (by norm_num)) h
  obtain ⟨hdigest, h⟩ := field_inj 4 (reads_digestBytes e.canonicalBodyDigest)
    (reads_digestBytes f.canonicalBodyDigest) h
  obtain ⟨hcapability, h⟩ := field_inj 5
    (reads_bounded e.permission.capability .invalidCapability (by norm_num))
    (reads_bounded f.permission.capability _ (by norm_num)) h
  obtain ⟨hresource, h⟩ := field_inj 6
    (reads_bounded e.permission.resource .invalidResource (by norm_num))
    (reads_bounded f.permission.resource _ (by norm_num)) h
  obtain ⟨hbudget, h⟩ := field_inj 7 (reads_optionalBudget e.requestedBudget)
    (reads_optionalBudget f.requestedBudget) h
  obtain ⟨haudience, h⟩ := field_inj 8 (reads_bounded e.audience .invalidAudience (by norm_num))
    (reads_bounded f.audience _ (by norm_num)) h
  obtain ⟨hchallenge, h⟩ := field_inj 9 (reads_digestBytes e.challenge)
    (reads_digestBytes f.challenge) h
  obtain ⟨hnotBefore, h⟩ := field_inj 10 (reads_u64 e.validity.notBefore)
    (reads_u64 f.validity.notBefore) h
  obtain ⟨hexpiresAt, h⟩ := field_inj 11 (reads_u64 e.validity.expiresAt)
    (reads_u64 f.validity.expiresAt) h
  obtain ⟨hactor, h⟩ := field_inj 12 (reads_principal e.actor) (reads_principal f.actor) h
  obtain ⟨hgrant, h⟩ := field_inj 13 (reads_optionalDigest e.terminalGrant)
    (reads_optionalDigest f.terminalGrant) h
  obtain ⟨hplan, h⟩ := field_inj 14 (reads_digestBytes e.authorizationPlan)
    (reads_digestBytes f.authorizationPlan) h
  obtain ⟨hchannel, h⟩ := field_inj 15
    (reads_bounded e.channelBinding .invalidRegistryId (by norm_num))
    (reads_bounded f.channelBinding _ (by norm_num)) h
  obtain ⟨hproofRef, h⟩ := field_inj 16
    (reads_digestBytes e.proofRef) (reads_digestBytes f.proofRef) h
  obtain ⟨hattached, h⟩ := field_inj 17 (hattachments e he) (hattachments f hf) h
  obtain ⟨hextended, h⟩ := field_inj 18 (hextensions e) (hextensions f) h
  refine ⟨?_, by simpa using h⟩
  obtain ⟨⟨_, _, _⟩, _, _, ⟨_, _⟩, _, _, _, ⟨_, _, _⟩, _, _, _, _, _, _, _⟩ := e
  obtain ⟨⟨_, _, _⟩, _, _, ⟨_, _⟩, _, _, _, ⟨_, _, _⟩, _, _, _, _, _, _, _⟩ := f
  simp_all only

omit [Cbor] [LawfulCbor] in
theorem ObservationFacts.new_self (facts : ObservationFacts) :
    ObservationFacts.new facts.entries = .ok facts := by
  have hsorted : sortByKey ObservationFact.name facts.entries = facts.entries :=
    sortByKey_of_pairwise (facts.sorted.imp fun hlt => hlt.le)
  have hdistinct := adjacentDistinct_of_pairwise_lt facts.sorted
  simp [ObservationFacts.new, hsorted, facts.nonempty, facts.bounded, hdistinct]

variable [TypedCbor]

/-- A fact value is read back under its own type, which the readers of the others refuse. -/
theorem reads_factValue (v : FactValue) : Reads factValue (encodeFactValue v) v := by
  intro rest
  show factValue _ = _
  unfold factValue
  cases v with
  | uint value =>
    have hread : Cbor.readUint (encodeFactValue (.uint value) ++ rest) = some (value, rest) :=
      LawfulCbor.readUint_uint value rest
    rw [hread]
  | bytes value =>
    have hlen : value.bytes.length < 2 ^ 64 := lt_of_le_of_lt value.bounded (by decide)
    have hrefused : Cbor.readUint (encodeFactValue (.bytes value) ++ rest) = none :=
      TypedCbor.readUint_bytes _ _ hlen
    have hread : Cbor.readBytes (encodeFactValue (.bytes value) ++ rest) = some (value.bytes, rest) :=
      LawfulCbor.readBytes_bytes _ _ hlen
    rw [hrefused, hread]
    simp [value.bounded, FactBytes.new, Except.mapError, Except.map]
  | text value =>
    have hlen : value.str.utf8ByteSize < 2 ^ 64 := lt_of_le_of_lt value.bounded (by decide)
    have hrefused : Cbor.readUint (encodeFactValue (.text value) ++ rest) = none :=
      TypedCbor.readUint_text _ _ hlen
    have hrefused' : Cbor.readBytes (encodeFactValue (.text value) ++ rest) = none :=
      TypedCbor.readBytes_text _ _ hlen
    have hread : Cbor.readText (encodeFactValue (.text value) ++ rest) = some (value.str, rest) :=
      LawfulCbor.readText_text _ _ hlen
    rw [hrefused, hrefused', hread]
    simp [value.bounded, FactText.new, Except.mapError, Except.map]

theorem reads_observationFact (f : ObservationFact) :
    Reads Decode.observationFact (encodeObservationFact f) f := by
  refine ReadsIf.always ((reads_map (by norm_num)).seq ?_)
  refine reads_field 0 (reads_bounded f.name _ (by norm_num)) ?_
  refine reads_field 1 (reads_factValue f.value) ?_
  exact ReadsIf.pure f

theorem reads_observationStatement (s : ObservationStatement) :
    Reads observationStatement (encodeObservationStatement s) s := by
  have hfacts : Reads (list maxObservationFacts Decode.observationFact)
      (encodeList encodeObservationFact s.facts.entries) s.facts.entries :=
    reads_listOfFits s.facts.bounded (by decide) (fun f _ => (reads_observationFact f).readsIf)
      fun _ _ => trivial
  refine ReadsIf.always ((reads_map (by norm_num)).seq ?_)
  refine reads_field 0 reads_protocolVersion ?_
  refine reads_field 1 (reads_principal s.observer) ?_
  refine reads_field 2 (reads_bounded s.schema _ (by norm_num)) ?_
  refine reads_field 3 (reads_bounded s.subject _ (by norm_num)) ?_
  refine reads_field 4 (reads_u64 s.observedAt) ?_
  refine reads_field 5 hfacts ?_
  refine (reads_model s.facts.new_self).step ?_
  exact ReadsIf.pure s

theorem selfDelimiting_observationStatement :
    SelfDelimiting (fun _ => True) encodeObservationStatement :=
  selfDelimiting_of_reads fun s _ => reads_observationStatement s

end Statements

section Preimages

/-- What `domainCommitment` hashes. -/
def commitmentPreimage (domain : String) (canonical : Bytes) : Bytes :=
  utf8 "AUTHS-COMMITMENT" ++ bigEndian16 protocolV1 ++ bigEndian16 (UInt16.ofNat domain.utf8ByteSize) ++
    utf8 domain ++ bigEndian64 canonical.length ++ canonical

theorem domainCommitment_eq [Sha256] (domain : String) (canonical : Bytes) :
    domainCommitment domain canonical = Sha256.digest (commitmentPreimage domain canonical) := rfl

theorem utf8_injective : Function.Injective utf8 := by
  intro s t h
  have harray : s.toUTF8.data = t.toUTF8.data := Array.toList_inj.mp h
  exact String.toByteArray_inj.mp (ByteArray.ext harray)

theorem length_utf8 (s : String) : (utf8 s).length = s.utf8ByteSize := rfl

/-- The profile is framed by its length, so everything a preimage is made of can be told apart. -/
theorem signingPreimage_inj {s t : UInt16} {profile profile' : String} {version version' : UInt16}
    {x y : Bytes} (hprofile : profile.utf8ByteSize < 2 ^ 16) (hprofile' : profile'.utf8ByteSize < 2 ^ 16)
    (h : signingPreimage s profile version x = signingPreimage t profile' version' y) :
    s = t ∧ profile = profile' ∧ version = version' ∧ x = y := by
  simp only [signingPreimage, List.append_assoc] at h
  obtain ⟨-, h⟩ := append_cancel_of_length h rfl
  obtain ⟨-, h⟩ := append_cancel_of_length h rfl
  obtain ⟨htype, h⟩ := append_cancel_of_length h (by simp [bigEndian16])
  obtain ⟨hsize, h⟩ := append_cancel_of_length h (by simp [bigEndian16])
  have hlength : profile.utf8ByteSize = profile'.utf8ByteSize := by
    have hframe := congrArg UInt16.toNat (bigEndian16_injective hsize)
    rwa [UInt16.toNat_ofNat', UInt16.toNat_ofNat', Nat.mod_eq_of_lt hprofile,
      Nat.mod_eq_of_lt hprofile'] at hframe
  obtain ⟨hname, h⟩ := append_cancel_of_length h (by rw [length_utf8, length_utf8, hlength])
  obtain ⟨hversion, h⟩ := append_cancel_of_length h (by simp [bigEndian16])
  obtain ⟨-, hobject⟩ := append_cancel_of_length h (by simp [bigEndian64])
  exact ⟨bigEndian16_injective htype, utf8_injective hname, bigEndian16_injective hversion, hobject⟩

/-- A signing preimage goes on with a version where the other preimages go on with a hyphen. -/
theorem signingPreimage_ne_hyphen (s : UInt16) (profile : String) (version : UInt16) (x : Bytes)
    {domain : Bytes} (hdomain : ∃ rest, domain = utf8 "AUTHS-" ++ rest) :
    signingPreimage s profile version x ≠ domain := by
  obtain ⟨rest, rfl⟩ := hdomain
  intro h
  have hsixth := congrArg (fun bytes : Bytes => bytes[5]?) h
  simp only [signingPreimage, List.append_assoc] at hsixth
  revert hsixth
  have hhead : utf8 "AUTHS" ++ (bigEndian16 protocolV1 ++ (bigEndian16 s ++
      (bigEndian16 (UInt16.ofNat profile.utf8ByteSize) ++ (utf8 profile ++ (bigEndian16 version ++
        (bigEndian64 x.length ++ x)))))) = [65, 85, 84, 72, 83, 0, 1] ++ (bigEndian16 s ++
      (bigEndian16 (UInt16.ofNat profile.utf8ByteSize) ++ (utf8 profile ++ (bigEndian16 version ++
        (bigEndian64 x.length ++ x))))) := rfl
  rw [hhead, show utf8 "AUTHS-" = [65, 85, 84, 72, 83, 45] from rfl]
  simp

theorem idPreimage_hyphen (t : UInt16) (x : Bytes) : ∃ rest, idPreimage t x = utf8 "AUTHS-" ++ rest :=
  ⟨utf8 "ID" ++ (bigEndian16 protocolV1 ++ (bigEndian16 t ++ (bigEndian64 x.length ++ x))), by
    simp only [idPreimage, List.append_assoc]
    rfl⟩

theorem commitmentPreimage_hyphen (domain : String) (x : Bytes) :
    ∃ rest, commitmentPreimage domain x = utf8 "AUTHS-" ++ rest :=
  ⟨utf8 "COMMITMENT" ++ (bigEndian16 protocolV1 ++ (bigEndian16 (UInt16.ofNat domain.utf8ByteSize) ++
    (utf8 domain ++ (bigEndian64 x.length ++ x)))), by
    simp only [commitmentPreimage, List.append_assoc]
    rfl⟩

variable [Cbor] [LawfulCbor]

/-- A signing input determines its statement and its descriptor. -/
theorem encodeSigningInput_inj {α : Type} {p : α → Prop} {encode : α → Bytes}
    (hencode : SelfDelimiting p encode) {a b : α} (ha : p a) (hb : p b) {d e : SignatureDescriptor}
    (h : encodeSigningInput (encode a) d = encodeSigningInput (encode b) e) : a = b ∧ d = e := by
  have h := map_inj (by norm_num) h
  simp only [List.flatten_cons] at h
  obtain ⟨-, h⟩ := (reads_key 0).split (reads_key 0) h
  obtain ⟨hstatement, h⟩ := hencode a b _ _ ha hb h
  obtain ⟨-, h⟩ := (reads_key 1).split (reads_key 1) h
  exact ⟨hstatement, ((reads_signatureDescriptor d).split (reads_signatureDescriptor e) h).1⟩

end Preimages

/-- An object that can be signed, with the profile of an approval, which is not part of its statement. -/
inductive Signable where
  | grant (statement : GrantStatement)
  | action (envelope : ActionEnvelope)
  | principalStatus (statement : PrincipalStatusStatement)
  | grantStatus (statement : GrantStatusStatement)
  | observation (statement : ObservationStatement)
  | approval (statement : ApprovalStatement) (profile : ProfileRef)

namespace Signable

def objectType : Signable → UInt16
  | .grant _ => 1
  | .action _ => 2
  | .principalStatus _ => 3
  | .grantStatus _ => 4
  | .observation _ => 9
  | .approval _ _ => 10

/-- The profile a signature commits to, where the object has one. -/
def profile : Signable → Option ProfileRef
  | .grant statement => some statement.profile
  | .action envelope => some envelope.profile
  | .approval _ profile => some profile
  | _ => none

def Addressable : Signable → Prop
  | .action envelope => envelope.Addressable
  | _ => True

section Preimage

variable [Cbor]

def signingInput (descriptor : SignatureDescriptor) : Signable → Bytes
  | .grant statement => encodeSigningInput (encodeGrantStatement statement) descriptor
  | .action envelope => encodeSigningInput (encodeActionEnvelope envelope) descriptor
  | .principalStatus statement =>
    encodeSigningInput (encodePrincipalStatusStatement statement) descriptor
  | .grantStatus statement => encodeSigningInput (encodeGrantStatusStatement statement) descriptor
  | .observation statement => encodeSigningInput (encodeObservationStatement statement) descriptor
  | .approval statement _ => encodeSigningInput (encodeApprovalStatement statement) descriptor

/-- The preimage each kind of object is signed under. -/
def preimage (descriptor : SignatureDescriptor) : Signable → Bytes
  | .grant statement => grantSigningPreimage statement descriptor
  | .action envelope => actionSigningPreimage envelope descriptor
  | .principalStatus statement => principalStatusSigningPreimage statement descriptor
  | .grantStatus statement => grantStatusSigningPreimage statement descriptor
  | .observation statement => observationSigningPreimage statement descriptor
  | .approval statement profile => approvalSigningPreimage statement descriptor profile

def profileId (signable : Signable) : String := (signable.profile.map fun p => p.id.str).getD ""

def profileVersion (signable : Signable) : UInt16 :=
  (signable.profile.map ProfileRef.version).getD 0

theorem preimage_eq (signable : Signable) (descriptor : SignatureDescriptor) :
    signable.preimage descriptor = signingPreimage signable.objectType signable.profileId
      signable.profileVersion (signable.signingInput descriptor) := by
  cases signable <;> rfl

omit [Cbor] in
theorem profileId_size (signable : Signable) : signable.profileId.utf8ByteSize < 2 ^ 16 := by
  unfold profileId
  cases signable.profile with
  | none => decide
  | some profile =>
    have hsize := profile.id.size_lt
    simp only [Option.map_some, Option.getD_some]
    omega

end Preimage

variable [Cbor] [LawfulCbor] [TypedCbor]

/-- Objects of one type with the same signing input are the same, up to the profile of an approval. -/
theorem signingInput_inj {a b : Signable} (ha : a.Addressable) (hb : b.Addressable)
    {d e : SignatureDescriptor} (htype : a.objectType = b.objectType)
    (hprofile : a.profileId = b.profileId) (hversion : a.profileVersion = b.profileVersion)
    (h : a.signingInput d = b.signingInput e) : a = b ∧ d = e := by
  cases a with
  | grant statement =>
    cases b with
    | grant other =>
      obtain ⟨rfl, rfl⟩ := encodeSigningInput_inj selfDelimiting_grantStatement trivial trivial h
      exact ⟨rfl, rfl⟩
    | _ => simp [objectType] at htype
  | action envelope =>
    cases b with
    | action other =>
      obtain ⟨rfl, rfl⟩ := encodeSigningInput_inj selfDelimiting_actionEnvelope ha hb h
      exact ⟨rfl, rfl⟩
    | _ => simp [objectType] at htype
  | principalStatus statement =>
    cases b with
    | principalStatus other =>
      obtain ⟨rfl, rfl⟩ := encodeSigningInput_inj selfDelimiting_principalStatus trivial trivial h
      exact ⟨rfl, rfl⟩
    | _ => simp [objectType] at htype
  | grantStatus statement =>
    cases b with
    | grantStatus other =>
      obtain ⟨rfl, rfl⟩ := encodeSigningInput_inj selfDelimiting_grantStatus trivial trivial h
      exact ⟨rfl, rfl⟩
    | _ => simp [objectType] at htype
  | observation statement =>
    cases b with
    | observation other =>
      obtain ⟨rfl, rfl⟩ := encodeSigningInput_inj selfDelimiting_observationStatement trivial trivial h
      exact ⟨rfl, rfl⟩
    | _ => simp [objectType] at htype
  | approval statement profile =>
    cases b with
    | approval other profile' =>
      obtain ⟨rfl, rfl⟩ := encodeSigningInput_inj selfDelimiting_approvalStatement trivial trivial h
      -- the profile of an approval is framed beside its signing input
      obtain ⟨⟨id, hid⟩, version, hnonzero⟩ := profile
      obtain ⟨⟨id', hid'⟩, version', hnonzero'⟩ := profile'
      simp only [profileId, profileVersion, Signable.profile, Option.map_some, Option.getD_some]
        at hprofile hversion
      subst hprofile hversion
      exact ⟨rfl, rfl⟩
    | _ => simp [objectType] at htype

end Signable

/-- A signing preimage determines the kind of object, its statement, its descriptor and its profile,
and is the preimage of no identifier and of no commitment. -/
theorem signingPreimages_separate [Cbor] [LawfulCbor] [TypedCbor] :
    (∀ (a b : Signable) (d e : SignatureDescriptor), a.Addressable → b.Addressable →
      a.preimage d = b.preimage e →
        a.objectType = b.objectType ∧ a = b ∧ d = e ∧ a.profile = b.profile) ∧
    (∀ (a : Signable) (d : SignatureDescriptor) (identifierType : UInt16) (canonical : Bytes),
      a.preimage d ≠ idPreimage identifierType canonical) ∧
    ∀ (a : Signable) (d : SignatureDescriptor) (domain : String) (canonical : Bytes),
      a.preimage d ≠ commitmentPreimage domain canonical := by
  refine ⟨fun a b d e ha hb h => ?_, fun a d identifierType canonical => ?_,
    fun a d domain canonical => ?_⟩
  · rw [a.preimage_eq, b.preimage_eq] at h
    obtain ⟨htype, hprofile, hversion, hinput⟩ :=
      signingPreimage_inj a.profileId_size b.profileId_size h
    obtain ⟨hsame, hdescriptor⟩ := Signable.signingInput_inj ha hb htype hprofile hversion hinput
    exact ⟨htype, hsame, hdescriptor, congrArg Signable.profile hsame⟩
  · rw [a.preimage_eq]
    exact signingPreimage_ne_hyphen _ _ _ _ (idPreimage_hyphen identifierType canonical)
  · rw [a.preimage_eq]
    exact signingPreimage_ne_hyphen _ _ _ _ (commitmentPreimage_hyphen domain canonical)

section Sample

local instance sampleSigningCbor : Cbor := rfc8949

/-- An action signed under two descriptors has two preimages. -/
theorem signingPreimages_separate_sample :
    let action := Signable.action (sampleAction sampleRoot none none)
    let descriptor := sampleSignature.descriptor
    let other := { descriptor with verificationMethod := ⟨"key-2", by decide⟩ }
    action.Addressable ∧ action.preimage descriptor ≠ action.preimage other := by
  intro action descriptor other
  have : LawfulCbor := rfc8949_lawful
  have : TypedCbor := rfc8949_typed
  have haddressable : action.Addressable := by
    show ([] : List AttachmentDescriptor).length < 2 ^ 64
    norm_num
  refine ⟨haddressable, fun h => ?_⟩
  have hsame := (signingPreimages_separate.1 action action descriptor other haddressable haddressable
    h).2.2.1
  exact absurd hsame (by decide)

end Sample

end AuthsProof
