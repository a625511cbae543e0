import AuthsProof.ContextCodec
import AuthsProof.Outcome

/-! The portable result of a verification: the decision with everything that supports it, and the
digest that binds its canonical form. -/

namespace AuthsProof

open Sorting Wire

inductive VerificationStage where
  | decode
  | resolve
  | principalControl
  | authority
  | complete
  deriving DecidableEq

def VerificationStage.code : VerificationStage → UInt8
  | .decode => 0
  | .resolve => 1
  | .principalControl => 2
  | .authority => 3
  | .complete => 4

inductive VerificationDecision where
  | authorized
  | denied
  | indeterminate
  deriving DecidableEq

def VerificationDecision.code : VerificationDecision → UInt8
  | .authorized => 0
  | .denied => 1
  | .indeterminate => 2

inductive VerificationCode where
  | authorized
  | denied (reason : DenialReason)
  | indeterminate (requirement : Requirement)
  deriving DecidableEq

def VerificationCode.code : VerificationCode → String
  | .authorized => "authorized"
  | .denied reason => reason.code
  | .indeterminate requirement => requirement.code

/-- The decision a code belongs to. -/
def VerificationCode.decision : VerificationCode → VerificationDecision
  | .authorized => .authorized
  | .denied _ => .denied
  | .indeterminate _ => .indeterminate

def failureCode : VerificationFailure → VerificationCode
  | .denied reason => .denied reason
  | .indeterminate requirement => .indeterminate requirement

/-- Resource totals, deterministic for the inputs of a verification. -/
structure VerificationResources where
  proofBytes : UInt64
  actionBytes : UInt64
  contextBytes : UInt64
  objectCount : UInt64
  planLeaves : UInt64
  planDepth : UInt64
  workUnits : UInt64
  deriving DecidableEq

def ApprovalSatisfaction.key (s : ApprovalSatisfaction) :
    ApprovalRequirementId ×ₗ List ApprovalDigest :=
  toLex (s.requirement, s.approvals.items)

theorem ApprovalSatisfaction.key_injective : Function.Injective ApprovalSatisfaction.key := by
  intro a b h
  obtain ⟨requirement, ⟨items, hne, hbounded, hsorted⟩⟩ := a
  obtain ⟨requirement', ⟨items', hne', hbounded', hsorted'⟩⟩ := b
  simp only [ApprovalSatisfaction.key, EmbeddingLike.apply_eq_iff_eq, Prod.mk.injEq] at h
  obtain ⟨rfl, rfl⟩ := h
  rfl

instance : LinearOrder ApprovalSatisfaction :=
  orderByKey ApprovalSatisfaction.key ApprovalSatisfaction.key_injective

/-- The complete language-neutral output of a verification. -/
structure PortableVerificationResult where
  decision : VerificationDecision
  stage : VerificationStage
  code : VerificationCode
  proofDigest : Digest
  actionDigest : Digest
  contextDigest : ContextDigest
  planId : Option PlanId
  resultDigest : VerificationResultDigest
  authorizedBranches : List ProofRef
  assurance : List ParticipantAssurance
  assuranceSatisfactions : List AssuranceSatisfaction
  resources : VerificationResources
  registryManifest : RegistryManifestId
  requiredConfiguration : Option VerifierConfigurationId
  localConfiguration : VerifierConfigurationId
  observationSatisfactions : List ObservationSatisfaction
  approvalSatisfactions : List ApprovalSatisfaction
  deriving DecidableEq

namespace PortableVerificationResult

/-- A result before its digest is bound. -/
def new (decision : VerificationDecision) (stage : VerificationStage) (code : VerificationCode)
    (proofDigest actionDigest : Digest) (contextDigest : ContextDigest) (planId : Option PlanId)
    (authorizedBranches : List ProofRef) (assurance : List ParticipantAssurance)
    (assuranceSatisfactions : List AssuranceSatisfaction) (resources : VerificationResources)
    (registryManifest : RegistryManifestId) (requiredConfiguration : Option VerifierConfigurationId)
    (localConfiguration : VerifierConfigurationId) : PortableVerificationResult :=
  { decision, stage, code, proofDigest, actionDigest, contextDigest, planId, authorizedBranches,
    assurance, assuranceSatisfactions, resources, registryManifest, requiredConfiguration,
    localConfiguration
    resultDigest := Digest.zero
    observationSatisfactions := []
    approvalSatisfactions := [] }

def withObservationSatisfactions (result : PortableVerificationResult)
    (satisfactions : List ObservationSatisfaction) : PortableVerificationResult :=
  { result with observationSatisfactions := sortDedup satisfactions }

def withApprovalSatisfactions (result : PortableVerificationResult)
    (satisfactions : List ApprovalSatisfaction) : PortableVerificationResult :=
  { result with approvalSatisfactions := sortDedup satisfactions }

def withResultDigest (result : PortableVerificationResult) (digest : VerificationResultDigest) :
    PortableVerificationResult :=
  { result with resultDigest := digest }

end PortableVerificationResult

def portableResultAbiVersion : UInt16 := 4
def maxObservationSatisfactions : Nat := 1024

section Encoders

variable [Cbor]

def encodeAssuranceClaim (claim : AssuranceClaim) : Bytes :=
  [Cbor.map 4,
    encodeKey 0, Cbor.text claim.kind.str,
    encodeKey 1, encodeList encodeClaimParameter claim.parameters.entries,
    encodeKey 2, encodeOptional encodeU64 claim.observedAt,
    encodeKey 3, Cbor.text claim.source.str].flatten

def encodeAssuranceReport (report : ParticipantAssurance) : Bytes :=
  [Cbor.map 6,
    encodeKey 0, Cbor.text report.principal.str,
    encodeKey 1, encodeU8 report.role.code,
    encodeKey 2, encodeList encodeAssuranceClaim report.claims.items,
    encodeKey 3, encodeList encodeDigest report.evidence.items,
    encodeKey 4, Cbor.text report.adapter.str,
    encodeKey 5, encodeU16 report.adapterVersion].flatten

def encodeAssuranceSatisfaction (satisfaction : AssuranceSatisfaction) : Bytes :=
  [Cbor.map 4,
    encodeKey 0, encodeU16 satisfaction.requirementIndex,
    encodeKey 1, Cbor.text satisfaction.principal.str,
    encodeKey 2, encodeAssuranceClaim satisfaction.claim,
    encodeKey 3, encodeList encodeDigest satisfaction.evidence].flatten

def encodeVerificationResources (resources : VerificationResources) : Bytes :=
  [Cbor.map 7,
    encodeKey 0, encodeU64 resources.proofBytes,
    encodeKey 1, encodeU64 resources.actionBytes,
    encodeKey 2, encodeU64 resources.contextBytes,
    encodeKey 3, encodeU64 resources.objectCount,
    encodeKey 4, encodeU64 resources.planLeaves,
    encodeKey 5, encodeU64 resources.planDepth,
    encodeKey 6, encodeU64 resources.workUnits].flatten

def encodeObservationSatisfaction (satisfaction : ObservationSatisfaction) : Bytes :=
  [Cbor.map 2, encodeKey 0, encodeDigest satisfaction.requirement,
    encodeKey 1, encodeDigest satisfaction.observation].flatten

def encodeApprovalSatisfaction (satisfaction : ApprovalSatisfaction) : Bytes :=
  [Cbor.map 2, encodeKey 0, encodeDigest satisfaction.requirement,
    encodeKey 1, encodeList encodeDigest satisfaction.approvals.items].flatten

def encodeVerificationCode (code : VerificationCode) : Bytes :=
  [Cbor.map 2, encodeKey 0, encodeU8 code.decision.code, encodeKey 1, Cbor.text code.code].flatten

/-- The fields of a result, with the given digest in the place of its own. -/
def encodeResultWith (digest : Digest) (result : PortableVerificationResult) : Bytes :=
  [Cbor.map 18,
    encodeKey 0, encodeU8 result.decision.code,
    encodeKey 1, encodeU8 result.stage.code,
    encodeKey 2, encodeVerificationCode result.code,
    encodeKey 3, encodeDigest result.proofDigest,
    encodeKey 4, encodeDigest result.actionDigest,
    encodeKey 5, encodeDigest result.contextDigest,
    encodeKey 6, encodeOptional encodeDigest result.planId,
    encodeKey 7, encodeDigest digest,
    encodeKey 8, encodeList encodeDigest result.authorizedBranches,
    encodeKey 9, encodeList encodeAssuranceReport result.assurance,
    encodeKey 10, encodeList encodeAssuranceSatisfaction result.assuranceSatisfactions,
    encodeKey 11, encodeVerificationResources result.resources,
    encodeKey 12, encodeDigest result.registryManifest,
    encodeKey 13, encodeOptional encodeDigest result.requiredConfiguration,
    encodeKey 14, encodeDigest result.localConfiguration,
    encodeKey 15, encodeU16 portableResultAbiVersion,
    encodeKey 16, encodeList encodeObservationSatisfaction result.observationSatisfactions,
    encodeKey 17, encodeList encodeApprovalSatisfaction result.approvalSatisfactions].flatten

def encodeVerificationResult (result : PortableVerificationResult) : Bytes :=
  encodeResultWith result.resultDigest result

def encodeVerificationResultDigestInput (result : PortableVerificationResult) : Bytes :=
  encodeResultWith Digest.zero result

variable [Sha256]

def verificationResultDigest (result : PortableVerificationResult) : VerificationResultDigest :=
  Sha256.digest (encodeVerificationResultDigestInput result)

omit [Cbor] in
def bodyDigest (canonicalBody : Bytes) : Digest := Sha256.digest canonicalBody

omit [Cbor] in
def attachmentDigest (attachment : Bytes) : AttachmentDigest := Sha256.digest attachment

def proofDigest (bundle : ProofBundle) : Digest := Sha256.digest (encodeBundle bundle)

def contextDigest (context : TrustedContext) : ContextDigest :=
  domainHash 9 (encodeVerifierContext context)

end Encoders

namespace Decode

variable [Cbor]

def decision : Decoder VerificationDecision := do
  let code ← u8
  if code = 0 then pure .authorized
  else if code = 1 then pure .denied
  else if code = 2 then pure .indeterminate
  else fail .malformed

def stage : Decoder VerificationStage := do
  let code ← u8
  if code = 0 then pure .decode
  else if code = 1 then pure .resolve
  else if code = 2 then pure .principalControl
  else if code = 3 then pure .authority
  else if code = 4 then pure .complete
  else fail .malformed

def verificationCode : Decoder VerificationCode := do
  map 2
  key 0
  let kind ← u8
  key 1
  let code ← text
  if kind = 0 ∧ code = "authorized" then pure .authorized
  else if kind = 1 then
    match DenialReason.fromCode code with
    | some reason => pure (.denied reason)
    | none => fail .malformed
  else if kind = 2 then
    match Requirement.fromCode code with
    | some requirement => pure (.indeterminate requirement)
    | none => fail .malformed
  else fail .malformed

def assuranceClaim : Decoder AssuranceClaim := do
  map 4
  key 0
  let kind ← parsed RegistryId.parse
  key 1
  let parameters ← list hardMaxExtensions claimParameter
  key 2
  let observedAt ← optional u64
  key 3
  let source ← parsed RegistryId.parse
  model (AssuranceClaim.new kind parameters observedAt source)

def assuranceReport : Decoder ParticipantAssurance := do
  map 6
  key 0
  let principal ← parsed PrincipalId.parse
  key 1
  let role ← role
  key 2
  let claims ← list hardMaxEvidence assuranceClaim
  key 3
  let evidence ← list hardMaxEvidence digestBytes
  key 4
  let adapter ← parsed RegistryId.parse
  key 5
  let adapterVersion ← u16
  model (ParticipantAssurance.new principal role claims evidence adapter adapterVersion)

def assuranceSatisfaction : Decoder AssuranceSatisfaction := do
  map 4
  key 0
  let requirementIndex ← u16
  key 1
  let principal ← parsed PrincipalId.parse
  key 2
  let claim ← assuranceClaim
  key 3
  let evidence ← list hardMaxEvidence digestBytes
  pure { requirementIndex, principal, claim, evidence }

def verificationResources : Decoder VerificationResources := do
  map 7
  key 0
  let proofBytes ← u64
  key 1
  let actionBytes ← u64
  key 2
  let contextBytes ← u64
  key 3
  let objectCount ← u64
  key 4
  let planLeaves ← u64
  key 5
  let planDepth ← u64
  key 6
  let workUnits ← u64
  pure { proofBytes, actionBytes, contextBytes, objectCount, planLeaves, planDepth, workUnits }

def observationSatisfaction : Decoder ObservationSatisfaction := do
  map 2
  key 0
  let requirement ← digestBytes
  key 1
  let observation ← digestBytes
  pure ⟨requirement, observation⟩

def approvalSatisfaction : Decoder ApprovalSatisfaction := do
  map 2
  key 0
  let requirement ← digestBytes
  key 1
  let approvals ← list maxApproversPerRequirement digestBytes
  model (ApprovalSatisfaction.new requirement approvals)

def verificationResult : Decoder PortableVerificationResult := do
  map 18
  key 0
  let decision ← decision
  key 1
  let stage ← stage
  key 2
  let code ← verificationCode
  ensure (code.decision = decision) .malformed
  key 3
  let proofDigest ← digestBytes
  key 4
  let actionDigest ← digestBytes
  key 5
  let contextDigest ← digestBytes
  key 6
  let planId ← optional digestBytes
  key 7
  let resultDigest ← digestBytes
  key 8
  let branches ← list (hardLimit .planLeaves) digestBytes
  key 9
  let reports ← list hardMaxEvidence assuranceReport
  key 10
  let satisfactions ← list hardMaxEvidence assuranceSatisfaction
  key 11
  let resources ← verificationResources
  key 12
  let registryManifest ← digestBytes
  key 13
  let requiredConfiguration ← optional digestBytes
  key 14
  let localConfiguration ← digestBytes
  key 15
  let version ← u16
  ensure (version = portableResultAbiVersion) .malformed
  key 16
  let observationSatisfactions ← list maxObservationSatisfactions observationSatisfaction
  key 17
  let approvalSatisfactions ← list maxApprovalRequirementsPerVerification approvalSatisfaction
  pure ((((PortableVerificationResult.new decision stage code proofDigest actionDigest contextDigest
    planId branches reports satisfactions resources registryManifest requiredConfiguration
    localConfiguration).withObservationSatisfactions observationSatisfactions)
    |>.withApprovalSatisfactions approvalSatisfactions).withResultDigest resultDigest)

end Decode

def decodeVerificationResult [Cbor] [Sha256] (input : Bytes) :
    Except CodecError PortableVerificationResult :=
  if hardMaxBundleBytes < input.length then .error .limitExceeded
  else
    match Decode.verificationResult.run input with
    | .error error => .error error
    | .ok (result, rest) =>
      if rest ≠ [] then .error .malformed
      else if encodeVerificationResult result ≠ input ∨
          verificationResultDigest result ≠ result.resultDigest then .error .digestMismatch
      else .ok result

end AuthsProof
