import AuthsProof.Lib.Sorting

/-! Bounded identifiers, digests, timestamps and validity windows, each built only by a parser that
checks it. -/

namespace AuthsProof

open Sorting

inductive ModelError where
  | unsupportedProtocol
  | invalidBundleHeader
  | invalidPrincipal
  | invalidVerificationMethod
  | invalidProfile
  | invalidCapability
  | invalidResource
  | invalidAudience
  | invalidAudienceSet
  | duplicateAudience
  | invalidMediaType
  | invalidRegistryId
  | invalidExtensionId
  | invalidValidity
  | invalidPermissionSet
  | duplicatePermission
  | invalidActionConstraint
  | duplicateBodyDigest
  | invalidCanonicalAction
  | invalidExtension
  | duplicateExtension
  | invalidSignature
  | invalidEvidence
  | invalidEvidenceBinding
  | invalidStatus
  | invalidStatusSnapshot
  | invalidAttachment
  | invalidPlan
  | planLimitExceeded
  | invalidAssurance
  | invalidTrustAnchor
  | invalidRegistrySelection
  | invalidVerifierContext
  | duplicateObject
  | collectionLimitExceeded
  | invalidObservation
  | invalidObservationRequirement
  | invalidObserverAnchor
  | invalidBoundedPolicy
  | invalidApproval
  | invalidApprovalRequirement
  | invalidApproverAnchor
  deriving DecidableEq

abbrev Bytes := List UInt8

def isControl (c : Char) : Bool :=
  c.toNat ≤ 0x1F || (0x7F ≤ c.toNat && c.toNat ≤ 0x9F)

def isWhitespace (c : Char) : Bool :=
  (0x09 ≤ c.toNat && c.toNat ≤ 0x0D) || c.toNat == 0x20 || c.toNat == 0x85 || c.toNat == 0xA0 ||
    c.toNat == 0x1680 || (0x2000 ≤ c.toNat && c.toNat ≤ 0x200A) || c.toNat == 0x2028 ||
    c.toNat == 0x2029 || c.toNat == 0x202F || c.toNat == 0x205F || c.toNat == 0x3000

def boundedText (maximum : Nat) (value : String) : Bool :=
  !(value.isEmpty || maximum < value.utf8ByteSize ||
    value.toList.any fun c => isControl c || isWhitespace c)

/-- A non-empty identifier of at most `maximum` UTF-8 bytes without whitespace or control
characters. -/
structure BoundedString (maximum : Nat) where
  str : String
  bounded : boundedText maximum str = true
  deriving DecidableEq

theorem BoundedString.str_injective {maximum : Nat} :
    Function.Injective (@BoundedString.str maximum) := by
  rintro ⟨a, ha⟩ ⟨b, hb⟩ (rfl : a = b)
  rfl

instance {maximum : Nat} : LinearOrder (BoundedString maximum) :=
  orderByKey BoundedString.str BoundedString.str_injective

def parseBounded (maximum : Nat) (error : ModelError) (value : String) :
    Except ModelError (BoundedString maximum) :=
  if h : boundedText maximum value = true then .ok ⟨value, h⟩ else .error error

@[simp] theorem parseBounded_str {maximum : Nat} (error : ModelError) (x : BoundedString maximum) :
    parseBounded maximum error x.str = .ok x := by
  simp [parseBounded, x.bounded]

abbrev VerificationMethod := BoundedString 512
abbrev ProfileId := BoundedString 128
abbrev CapabilityId := BoundedString 128
abbrev ResourceId := BoundedString 1024
abbrev Audience := BoundedString 512
abbrev MediaType := BoundedString 128
abbrev PrincipalMethodId := BoundedString 128
abbrev SignatureSuiteId := BoundedString 128
abbrev EvidenceTypeId := BoundedString 128
abbrev StatusMethodId := BoundedString 128
abbrev AssuranceClaimId := BoundedString 128
abbrev AssurancePolicyId := BoundedString 128
abbrev BudgetAlgebraId := BoundedString 128
abbrev ResourceMatcherId := BoundedString 128
abbrev ChannelBindingId := BoundedString 128
abbrev ProfilePolicyId := BoundedString 128
abbrev AssuranceImplicationId := BoundedString 128
abbrev AdapterId := BoundedString 128
abbrev EvidenceSourceId := BoundedString 128
abbrev ClaimParameterId := BoundedString 128
abbrev DispositionId := BoundedString 128
abbrev TrustAnchorId := BoundedString 128
abbrev ExtensionId := BoundedString 128

instance lawfulRegistryId : LawfulBEq (BoundedString 128) := inferInstance

def VerificationMethod.parse : String → Except ModelError VerificationMethod :=
  parseBounded 512 .invalidVerificationMethod
def ProfileId.parse : String → Except ModelError ProfileId := parseBounded 128 .invalidProfile
def CapabilityId.parse : String → Except ModelError CapabilityId :=
  parseBounded 128 .invalidCapability
def ResourceId.parse : String → Except ModelError ResourceId := parseBounded 1024 .invalidResource
def Audience.parse : String → Except ModelError Audience := parseBounded 512 .invalidAudience
def MediaType.parse : String → Except ModelError MediaType := parseBounded 128 .invalidMediaType
def ExtensionId.parse : String → Except ModelError ExtensionId :=
  parseBounded 128 .invalidExtensionId

/-- The shared parser of the registry identifiers, which differ in nothing but their type. -/
def RegistryId.parse : String → Except ModelError (BoundedString 128) :=
  parseBounded 128 .invalidRegistryId

def canonicalScheme (value : String) : Bool :=
  match value.toList.span (· != ':') with
  | (first :: scheme, _ :: remainder) =>
    !remainder.isEmpty && first.isLower &&
      scheme.all fun c => c.isLower || c.isDigit || c == '+' || c == '-' || c == '.'
  | _ => false

/-- A bounded principal identifier with a canonical lowercase URI scheme. -/
structure PrincipalId where
  str : String
  bounded : boundedText 512 str = true
  scheme : canonicalScheme str = true
  deriving DecidableEq

theorem PrincipalId.str_injective : Function.Injective PrincipalId.str := by
  rintro ⟨a, ha, ha'⟩ ⟨b, hb, hb'⟩ (rfl : a = b)
  rfl

instance : LinearOrder PrincipalId :=
  orderByKey PrincipalId.str PrincipalId.str_injective

def PrincipalId.parse (value : String) : Except ModelError PrincipalId :=
  if hb : boundedText 512 value = true then
    if hs : canonicalScheme value = true then .ok ⟨value, hb, hs⟩ else .error .invalidPrincipal
  else .error .invalidPrincipal

@[simp] theorem PrincipalId.parse_str (p : PrincipalId) : PrincipalId.parse p.str = .ok p := by
  simp [PrincipalId.parse, p.bounded, p.scheme]

def principalIdEqual (left right : PrincipalId) : Bool :=
  left.str == right.str

@[simp] theorem principalIdEqual_iff {left right : PrincipalId} :
    principalIdEqual left right = true ↔ left = right := by
  rw [principalIdEqual, beq_iff_eq, PrincipalId.str_injective.eq_iff]

structure Digest where
  bytes : Bytes
  length_eq : bytes.length = 32
  deriving DecidableEq

theorem Digest.bytes_injective : Function.Injective Digest.bytes := by
  rintro ⟨a, ha⟩ ⟨b, hb⟩ (rfl : a = b)
  rfl

instance : LinearOrder Digest := orderByKey Digest.bytes Digest.bytes_injective

def Digest.new (bytes : Bytes) : Option Digest :=
  if h : bytes.length = 32 then some ⟨bytes, h⟩ else none

@[simp] theorem Digest.new_bytes (d : Digest) : Digest.new d.bytes = some d := by
  simp [Digest.new, d.length_eq]

def Digest.zero : Digest := ⟨List.replicate 32 0, List.length_replicate ..⟩

/-- The digest all of whose bytes are `byte`. -/
def Digest.filled (byte : UInt8) : Digest := ⟨List.replicate 32 byte, List.length_replicate ..⟩

abbrev GrantId := Digest
abbrev ActionId := Digest
abbrev PlanId := Digest
abbrev EvidenceId := Digest
abbrev AttachmentDigest := Digest
abbrev PrincipalStatusId := Digest
abbrev GrantStatusId := Digest
abbrev ContextDigest := Digest
abbrev ProofRef := Digest
abbrev StatusSnapshotId := Digest
abbrev RegistryManifestId := Digest
abbrev AdapterConfigurationId := Digest
abbrev VerifierConfigurationId := Digest
abbrev VerificationResultDigest := Digest
abbrev ObservationRequirementId := Digest
abbrev ApprovalRequirementId := Digest
abbrev ApprovalDigest := Digest
abbrev Challenge := Digest

def optionalGrantIdEqual : Option GrantId → Option GrantId → Bool
  | none, none => true
  | some left, some right => left.bytes == right.bytes
  | _, _ => false

@[simp] theorem optionalGrantIdEqual_iff {left right : Option GrantId} :
    optionalGrantIdEqual left right = true ↔ left = right := by
  cases left <;> cases right <;> simp [optionalGrantIdEqual, Digest.bytes_injective.eq_iff]

abbrev Timestamp := UInt64

/-- An inclusive validity window. -/
structure ValidityWindow where
  notBefore : Timestamp
  expiresAt : Timestamp
  ordered : notBefore ≤ expiresAt
  deriving DecidableEq

def ValidityWindow.new (notBefore expiresAt : Timestamp) : Except ModelError ValidityWindow :=
  if h : notBefore ≤ expiresAt then .ok ⟨notBefore, expiresAt, h⟩ else .error .invalidValidity

@[simp] theorem ValidityWindow.new_self (w : ValidityWindow) :
    ValidityWindow.new w.notBefore w.expiresAt = .ok w := by
  simp [ValidityWindow.new, w.ordered]

def ValidityWindow.contains (window : ValidityWindow) (timestamp : Timestamp) : Bool :=
  window.notBefore ≤ timestamp && timestamp ≤ window.expiresAt

def inclusiveWindowContains (parentStart parentEnd childStart childEnd : UInt64) : Bool :=
  parentStart ≤ childStart && childEnd ≤ parentEnd

def validityWindowContains (parent child : ValidityWindow) : Bool :=
  inclusiveWindowContains parent.notBefore parent.expiresAt child.notBefore child.expiresAt

theorem validityWindowContains_iff {parent child : ValidityWindow} :
    validityWindowContains parent child = true ↔
      parent.notBefore ≤ child.notBefore ∧ child.expiresAt ≤ parent.expiresAt := by
  simp [validityWindowContains, inclusiveWindowContains]

theorem validityWindowContains_refl (w : ValidityWindow) : validityWindowContains w w = true := by
  simp [validityWindowContains_iff]

theorem validityWindowContains_trans {a b c : ValidityWindow}
    (hab : validityWindowContains a b = true) (hbc : validityWindowContains b c = true) :
    validityWindowContains a c = true := by
  rw [validityWindowContains_iff] at *
  exact ⟨hab.1.trans hbc.1, hbc.2.trans hab.2⟩

/-- A versioned application profile reference; version zero is reserved. -/
structure ProfileRef where
  id : ProfileId
  version : UInt16
  nonzero : version ≠ 0
  deriving DecidableEq

def ProfileRef.key (p : ProfileRef) : ProfileId ×ₗ UInt16 := toLex (p.id, p.version)

theorem ProfileRef.key_injective : Function.Injective ProfileRef.key := by
  rintro ⟨a, v, ha⟩ ⟨b, w, hb⟩ h
  simp only [ProfileRef.key, EmbeddingLike.apply_eq_iff_eq, Prod.mk.injEq] at h
  obtain ⟨rfl, rfl⟩ := h
  rfl

instance : LinearOrder ProfileRef :=
  orderByKey ProfileRef.key ProfileRef.key_injective

def ProfileRef.new (id : ProfileId) (version : UInt16) : Except ModelError ProfileRef :=
  if h : version = 0 then .error .invalidProfile else .ok ⟨id, version, h⟩

@[simp] theorem ProfileRef.new_self (p : ProfileRef) : ProfileRef.new p.id p.version = .ok p := by
  simp [ProfileRef.new, p.nonzero]

def profileRefEqual (left right : ProfileRef) : Bool :=
  left.version == right.version && left.id.str == right.id.str

@[simp] theorem profileRefEqual_iff {left right : ProfileRef} :
    profileRefEqual left right = true ↔ left = right := by
  constructor
  · intro h
    simp only [profileRefEqual, Bool.and_eq_true, beq_iff_eq] at h
    apply ProfileRef.key_injective
    simp [ProfileRef.key, BoundedString.str_injective h.2, h.1]
  · rintro rfl
    simp [profileRefEqual]

def assurancePolicyIdEqual (left right : AssurancePolicyId) : Bool :=
  left.str == right.str

@[simp] theorem assurancePolicyIdEqual_iff {left right : AssurancePolicyId} :
    assurancePolicyIdEqual left right = true ↔ left = right := by
  rw [assurancePolicyIdEqual, beq_iff_eq, BoundedString.str_injective.eq_iff]

/-- One capability on one resource. -/
structure Permission where
  capability : CapabilityId
  resource : ResourceId
  deriving DecidableEq

def Permission.key (p : Permission) : CapabilityId ×ₗ ResourceId := toLex (p.capability, p.resource)

theorem Permission.key_injective : Function.Injective Permission.key := by
  rintro ⟨a, b⟩ ⟨c, d⟩ h
  simpa [Permission.key] using h

instance : LinearOrder Permission :=
  orderByKey Permission.key Permission.key_injective

def permissionsEqual (left right : Permission) : Bool :=
  left.capability.str == right.capability.str && left.resource.str == right.resource.str

theorem permissionsEqual_iff {left right : Permission} :
    permissionsEqual left right = true ↔ left = right := by
  cases left
  cases right
  simp [permissionsEqual, BoundedString.str_injective.eq_iff]

end AuthsProof
