import AuthsProof.Encode

/-! The strict, bounded decoders of statements, plans, evidence, approvals and bundles. -/

namespace AuthsProof

open Sorting Wire

namespace Decode

def fail {α : Type} (error : CodecError) : Decoder α := fromExcept (.error error)

section Statements

variable [Cbor]

def profileRef : Decoder ProfileRef := do
  map 2
  key 0
  let id ← parsed ProfileId.parse
  key 1
  let version ← u16
  model (ProfileRef.new id version)

def permission : Decoder Permission := do
  map 2
  key 0
  let capability ← parsed CapabilityId.parse
  key 1
  let resource ← parsed ResourceId.parse
  pure ⟨capability, resource⟩

def permissions (limits : VerifierLimits) : Decoder PermissionSet := do
  let values ← list (limits.get .permissions) permission
  model (PermissionSet.new values)

def audiences (limits : VerifierLimits) : Decoder AudienceSet := do
  let values ← list (limits.get .audiences) (parsed Audience.parse)
  model (AudienceSet.new values)

def statusPolicy : Decoder StatusPolicy := do
  let entries ← mapEntries
  key 0
  let tag ← u8
  if tag = 0 ∧ entries = 1 then
    pure .expiryOnly
  else if tag = 1 ∧ entries = 3 then do
    key 1
    let method ← parsed RegistryId.parse
    key 2
    let seconds ← u64
    let maxAge ← model (FreshnessLimit.new seconds)
    pure (.snapshotRequired method maxAge)
  else
    fail .malformed

def budget : Decoder BudgetCeiling := do
  map 2
  key 0
  let algebra ← parsed RegistryId.parse
  key 1
  let value ← u64
  pure ⟨algebra, value⟩

def constraint (limits : VerifierLimits) : Decoder ActionConstraint := do
  let entries ← mapEntries
  key 0
  let tag ← u8
  if tag = 0 ∧ entries = 1 then
    pure .anyBody
  else if tag = 1 ∧ entries = 2 then do
    key 1
    let digest ← digestBytes
    pure (.exactBodyDigest digest)
  else if tag = 2 ∧ entries = 2 then do
    key 1
    let digests ← list (limits.get .allowedBodyDigests) digestBytes
    model (ActionConstraint.allowed digests)
  else
    fail .malformed

def extension (limits : VerifierLimits) : Decoder CriticalExtension := do
  map 2
  key 0
  let id ← parsed ExtensionId.parse
  key 1
  let bytes ← boundedBytes (limits.get .criticalExtensionBytes) false
  model (CriticalExtension.new id bytes)

def extensions (limits : VerifierLimits) : Decoder CriticalExtensions := do
  let values ← list (limits.get .criticalExtensions) (extension limits)
  model (CriticalExtensions.new values)

def signatureDescriptor : Decoder SignatureDescriptor := do
  map 3
  key 0
  let principalMethod ← parsed RegistryId.parse
  key 1
  let verificationMethod ← parsed VerificationMethod.parse
  key 2
  let suite ← parsed RegistryId.parse
  pure ⟨principalMethod, verificationMethod, suite⟩

def signature (limits : VerifierLimits) : Decoder SignatureEnvelope := do
  map 2
  key 0
  let descriptor ← signatureDescriptor
  key 1
  let bytes ← boundedBytes (limits.get .signatureBytes) true
  let signature ← model (SignatureBytes.new bytes)
  pure ⟨descriptor, signature⟩

def grantStatement (limits : VerifierLimits) : Decoder GrantStatement := do
  map 16
  key 0
  protocolVersion
  key 1
  let issuer ← parsed PrincipalId.parse
  key 2
  let subject ← parsed PrincipalId.parse
  key 3
  let profileId ← parsed ProfileId.parse
  key 4
  let profileVersion ← u16
  let profile ← model (ProfileRef.new profileId profileVersion)
  key 5
  let permissions ← permissions limits
  key 6
  let notBefore ← u64
  key 7
  let expiresAt ← u64
  let validity ← model (ValidityWindow.new notBefore expiresAt)
  key 8
  let audiences ← audiences limits
  key 9
  let actionConstraint ← constraint limits
  key 10
  let budgetCeiling ← optional budget
  key 11
  let remainingDepth ← u16
  key 12
  let parent ← optional digestBytes
  key 13
  let statusPolicy ← statusPolicy
  key 14
  let assuranceFloor ← parsed RegistryId.parse
  key 15
  let extensions ← extensions limits
  pure { issuer, subject, profile, permissions, validity, audiences, actionConstraint, budgetCeiling,
         remainingDepth, parent, statusPolicy, assuranceFloor, extensions }

def signedGrant (limits : VerifierLimits) : Decoder SignedGrant := do
  map 2
  key 0
  let statement ← grantStatement limits
  key 1
  let signature ← signature limits
  pure ⟨statement, signature⟩

def attachment : Decoder AttachmentDescriptor := do
  map 7
  key 0
  let digest ← digestBytes
  key 1
  let mediaType ← parsed MediaType.parse
  key 2
  let byteLength ← u64
  key 3
  let disposition ← parsed RegistryId.parse
  key 4
  let encrypted ← bool
  key 5
  let required ← bool
  key 6
  let opaqueAllowed ← bool
  pure { digest, mediaType, byteLength, disposition
         confidentiality := if encrypted then .encrypted else .plain
         presence := if required then .required else .optional
         opacity := if opaqueAllowed then .opaqueAllowed else .mustBeInspectable }

def actionEnvelope (limits : VerifierLimits) : Decoder ActionEnvelope := do
  map 19
  key 0
  protocolVersion
  key 1
  let profileId ← parsed ProfileId.parse
  key 2
  let profileVersion ← u16
  let profile ← model (ProfileRef.new profileId profileVersion)
  key 3
  let bodyMediaType ← parsed MediaType.parse
  key 4
  let canonicalBodyDigest ← digestBytes
  key 5
  let capability ← parsed CapabilityId.parse
  key 6
  let resource ← parsed ResourceId.parse
  key 7
  let requestedBudget ← optional budget
  key 8
  let audience ← parsed Audience.parse
  key 9
  let challenge ← digestBytes
  key 10
  let notBefore ← u64
  key 11
  let expiresAt ← u64
  let validity ← model (ValidityWindow.new notBefore expiresAt)
  key 12
  let actor ← parsed PrincipalId.parse
  key 13
  let terminalGrant ← optional digestBytes
  key 14
  let authorizationPlan ← digestBytes
  key 15
  let channelBinding ← parsed RegistryId.parse
  key 16
  let proofRef ← digestBytes
  key 17
  let attachments ← list (limits.get .attachments) attachment
  key 18
  let extensions ← extensions limits
  pure { profile, bodyMediaType, canonicalBodyDigest, permission := ⟨capability, resource⟩,
         requestedBudget, audience, challenge, validity, actor, terminalGrant, authorizationPlan,
         channelBinding, proofRef, attachments, extensions }

def signedAction (limits : VerifierLimits) : Decoder SignedAction := do
  map 2
  key 0
  let envelope ← actionEnvelope limits
  key 1
  let signature ← signature limits
  pure ⟨envelope, signature⟩

/-- A plan with at most `remaining` levels: the deepest level still allowed is the plan-depth limit,
so `remaining` is that limit plus one less the level of the node that is read. -/
def authorizationPlan (limits : VerifierLimits) : Nat → Decoder CanonicalPlan
  | 0 => fail .limitExceeded
  | remaining + 1 => do
    let entries ← mapEntries
    key 0
    let operator ← u8
    if operator = 0 ∧ entries = 2 then do
      key 1
      let reference ← digestBytes
      pure (CanonicalPlan.proof reference)
    else if (operator = 1 ∨ operator = 2) ∧ entries = 2 then do
      key 1
      let members ← list (limits.get .planBranching) (authorizationPlan limits remaining)
      if operator = 1 then model (CanonicalPlan.allOf members)
      else model (CanonicalPlan.anyOf members)
    else if operator = 3 ∧ entries = 3 then do
      key 1
      let k ← u16
      key 2
      let members ← list (limits.get .planBranching) (authorizationPlan limits remaining)
      model (CanonicalPlan.kOfN k members)
    else
      fail .malformed

def evidence [Sha256] (limits : VerifierLimits) : Decoder EvidenceObject := do
  map 4
  key 0
  let id ← digestBytes
  key 1
  let evidenceType ← parsed RegistryId.parse
  key 2
  let mediaType ← parsed MediaType.parse
  key 3
  let bytes ← boundedBytes (limits.get .evidenceBytes) true
  let object ← model (EvidenceObject.new id evidenceType mediaType bytes)
  ensure (evidenceId object = id) .digestMismatch
  pure object

def statementRef : Decoder StatementRef := do
  map 2
  key 0
  let kind ← u8
  key 1
  if kind = 0 then return .grant (← digestBytes)
  else if kind = 1 then return .action (← digestBytes)
  else if kind = 2 then return .principalStatus (← digestBytes)
  else if kind = 3 then return .grantStatus (← digestBytes)
  else fail .malformed

def binding (limits : VerifierLimits) : Decoder ControlBinding := do
  map 2
  key 0
  let statement ← statementRef
  key 1
  let evidence ← list (limits.get .bindingEvidence) digestBytes
  model (ControlBinding.new statement evidence)

def state : Decoder LifecycleState := do
  let code ← u8
  if code = 0 then pure .active
  else if code = 1 then pure .revoked
  else if code = 2 then pure .superseded
  else fail .malformed

/-- A status statement, given how its subject is read. -/
def statusStatement {σ : Type} (subject : Decoder σ) (limits : VerifierLimits) :
    Decoder (StatusStatement σ) := do
  map 9
  key 0
  protocolVersion
  key 1
  let method ← parsed RegistryId.parse
  key 2
  let subject ← subject
  key 3
  let state ← state
  key 4
  let sequence ← u64
  key 5
  let observedAt ← u64
  key 6
  let validUntil ← u64
  key 7
  let issuer ← parsed PrincipalId.parse
  key 8
  let extensions ← extensions limits
  model (StatusStatement.new method subject state sequence observedAt validUntil issuer extensions)

def signedStatus {σ : Type} (subject : Decoder σ) (limits : VerifierLimits) :
    Decoder (SignedStatus σ) := do
  map 2
  key 0
  let statement ← statusStatement subject limits
  key 1
  let signature ← signature limits
  pure ⟨statement, signature⟩

def principalStatusStatement : VerifierLimits → Decoder PrincipalStatusStatement :=
  statusStatement (parsed PrincipalId.parse)

def signedPrincipalStatus : VerifierLimits → Decoder SignedPrincipalStatus :=
  signedStatus (parsed PrincipalId.parse)

def grantStatusStatement : VerifierLimits → Decoder GrantStatusStatement := statusStatement digestBytes

def signedGrantStatus : VerifierLimits → Decoder SignedGrantStatus := signedStatus digestBytes

def approvalStatement : Decoder ApprovalStatement := do
  map 13
  key 0
  protocolVersion
  key 1
  let approver ← parsed PrincipalId.parse
  key 2
  let requirement ← digestBytes
  key 3
  let mediaType ← parsed MediaType.parse
  key 4
  let bodyDigest ← digestBytes
  key 5
  let capability ← parsed CapabilityId.parse
  key 6
  let resource ← parsed ResourceId.parse
  key 7
  let requestedBudget ← optional budget
  key 8
  let attributes ← optional digestBytes
  key 9
  let audience ← parsed Audience.parse
  key 10
  let challenge ← digestBytes
  key 11
  let notBefore ← u64
  key 12
  let expiresAt ← u64
  let validity ← model (ValidityWindow.new notBefore expiresAt)
  pure { approver, requirement, mediaType, bodyDigest, permission := ⟨capability, resource⟩,
         requestedBudget, attributes, audience, challenge, validity }

end Statements

section Bundle

variable [Cbor] [Sha256]

def approvalFields (limits : VerifierLimits) :
    Decoder (ApprovalStatement × SignatureEnvelope × List EvidenceObject) := do
  map 3
  key 0
  let statement ← approvalStatement
  key 1
  let signature ← signature limits
  key 2
  let objects ← list maxApprovalEvidence (evidence limits)
  pure (statement, signature, objects)

/-- One signed approval inside a bundle, bounded by the bytes it occupies there. -/
def signedApproval (limits : VerifierLimits) : Decoder SignedApproval :=
  consumed (approvalFields limits) fun taken (statement, signature, objects) =>
    if maxSignedApprovalBytes < taken then .error .limitExceeded
    else (SignedApproval.new statement signature objects).mapError CodecError.model

def bundleHeader : Decoder BundleHeader := do
  map 2
  key 0
  protocolVersion
  key 1
  let flags ← u64
  model (BundleHeader.new flags)

def bundleFrom (limits : VerifierLimits) : Decoder ProofBundle := do
  map 11
  key 0
  let header ← bundleHeader
  key 1
  let grants ← list (limits.get .grants) (signedGrant limits)
  key 2
  let actions ← list (limits.get .actions) (signedAction limits)
  key 3
  let plan ← authorizationPlan limits (limits.get .planDepth)
  let _ ← model (plan.plan.validate limits)
  key 4
  let evidenceObjects ← list (limits.get .evidenceObjects) (evidence limits)
  key 5
  let bindings ← list (limits.get .controlBindings) (binding limits)
  key 6
  let principalStatus ← list (limits.get .principalStatusStatements) (signedPrincipalStatus limits)
  key 7
  let grantStatus ← list (limits.get .grantStatusStatements) (signedGrantStatus limits)
  ensure (signatureCount grants actions principalStatus grantStatus ≤ limits.get .signatures)
    .limitExceeded
  key 8
  let attachments ← list (limits.get .attachments) attachment
  key 9
  let canonicalBody ← optional (boundedBytes (limits.get .canonicalBodyBytes) false)
  key 10
  let approvals ← list (limits.get .approvals) (signedApproval limits)
  let bundle ← model (ProofBundle.new header grants actions plan evidenceObjects bindings
    principalStatus grantStatus attachments canonicalBody)
  model (bundle.withApprovals approvals)

end Bundle

end Decode

/-- Runs a decoder on a complete input that must be the one canonical encoding of its result. -/
def decodeCanonical {α : Type} (read : Decoder α) (encode : α → Bytes) (input : Bytes) :
    Except CodecError α :=
  match read.run input with
  | .error error => .error error
  | .ok (value, rest) =>
    if rest ≠ [] then .error .malformed
    else if encode value ≠ input then .error .nonCanonical
    else .ok value

def decodeBundle [Cbor] [Sha256] (input : Bytes) (limits : VerifierLimits) :
    Except CodecError ProofBundle :=
  if limits.get .bundleBytes < input.length then .error .limitExceeded
  else decodeCanonical (Decode.bundleFrom limits) encodeBundle input

theorem encode_of_decodeCanonical {α : Type} {read : Decoder α} {encode : α → Bytes} {input : Bytes}
    {value : α} (h : decodeCanonical read encode input = .ok value) : encode value = input := by
  rw [decodeCanonical] at h
  split at h
  · cases h
  · split_ifs at h with hrest hencode
    cases h
    exact not_not.mp hencode

/-- Where the reader returns a value with the same encoding, the decoder returns that value exactly
when the reader accepts. -/
theorem decodeCanonical_of_readsIf {α : Type} {p : Prop} {read : Decoder α} {encode : α → Bytes}
    {input : Bytes} {value : α} (h : ReadsIf p read input value) :
    (p ∧ encode value = input → decodeCanonical read encode input = .ok value) ∧
      (¬(p ∧ encode value = input) → ∃ error, decodeCanonical read encode input = .error error) := by
  rw [decodeCanonical]
  by_cases hp : p
  · have hrun := h.reads hp []
    rw [List.append_nil] at hrun
    rw [hrun]
    by_cases hencode : encode value = input
    · simp [hencode, hp]
    · simp [hencode]
  · obtain ⟨error, herror⟩ := h.rejects hp []
    rw [List.append_nil] at herror
    rw [herror]
    simp [hp]

end AuthsProof
