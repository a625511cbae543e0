import AuthsProof.Context
import AuthsProof.Decode

/-! The codec of trusted contexts and of the canonical action a verifier is given. -/

namespace AuthsProof

open Sorting Wire

section Encoders

variable [Cbor]

def encodeDetachedAttachment (attachment : DetachedAttachment) : Bytes :=
  [Cbor.map 2, encodeKey 0, encodeDigest attachment.digest,
    encodeKey 1, Cbor.bytes attachment.bytes].flatten

def encodeCanonicalAction (action : CanonicalAction) : Bytes :=
  [Cbor.map 6,
    encodeKey 0, encodeProfileRef action.profile,
    encodeKey 1, Cbor.text action.mediaType.str,
    encodeKey 2, Cbor.bytes action.body,
    encodeKey 3, encodePermission action.permission,
    encodeKey 4, encodeOptional encodeBudget action.requestedBudget,
    encodeKey 5, encodeList encodeDetachedAttachment action.detachedAttachments].flatten

def encodeClaimParameter (parameter : ClaimParameter) : Bytes :=
  [Cbor.array 2, Cbor.text (ofLex parameter).1.str, Cbor.text (ofLex parameter).2.str].flatten

def encodeAssuranceRequirement (requirement : AssuranceRequirement) : Bytes :=
  [Cbor.map 8,
    encodeKey 0, encodeU8 requirement.role.code,
    encodeKey 1, Cbor.text requirement.claimKind.str,
    encodeKey 2, encodeList encodeClaimParameter requirement.parameters.entries,
    encodeKey 3, encodeOptional (fun source => Cbor.text source.str) requirement.source,
    encodeKey 4, encodeOptional (fun adapter => Cbor.text adapter.str) requirement.adapter,
    encodeKey 5, encodeOptional encodeU16 requirement.adapterVersion,
    encodeKey 6, encodeOptional (fun age => encodeU64 age.seconds) requirement.maximumAge,
    encodeKey 7, encodeU8 requirement.quantifier.code].flatten

def encodeAssurancePolicy (policy : AssurancePolicy) : Bytes :=
  [Cbor.map 2, encodeKey 0, Cbor.text policy.id.str,
    encodeKey 1, encodeList encodeAssuranceRequirement policy.requirements.items].flatten

/-- A list of identifiers of one registry. -/
def encodeRegistryIds {maximum : Nat} (identifiers : List (BoundedString maximum)) : Bytes :=
  encodeList (fun identifier => Cbor.text identifier.str) identifiers

def encodeAnchor (anchor : TrustAnchor) : Bytes :=
  [Cbor.map 13,
    encodeKey 0, Cbor.text anchor.id.str,
    encodeKey 1, Cbor.text anchor.principal.str,
    encodeKey 2, encodeRegistryIds anchor.acceptedMethods.items,
    encodeKey 3, encodeList encodeProfileRef anchor.profiles.items,
    encodeKey 4, encodePermissionSet anchor.permissions,
    encodeKey 5, encodeRegistryIds anchor.resourceNamespaces.items,
    encodeKey 6, encodeAudienceSet anchor.audiences,
    encodeKey 7, encodeU64 anchor.validity.notBefore,
    encodeKey 8, encodeU64 anchor.validity.expiresAt,
    encodeKey 9, encodeOptional encodeBudget anchor.budgetCeiling,
    encodeKey 10, encodeU16 anchor.maxDelegationDepth,
    encodeKey 11, Cbor.text anchor.assurancePolicy.str,
    encodeKey 12, encodeStatusPolicy anchor.statusPolicy].flatten

def encodeRegistries (registries : AcceptedRegistries) : Bytes :=
  [Cbor.map 14,
    encodeKey 0, encodeDigest registries.manifestId,
    encodeKey 1, encodeRegistryIds registries.principalMethods.items,
    encodeKey 2, encodeRegistryIds registries.signatureSuites.items,
    encodeKey 3, encodeRegistryIds registries.evidenceTypes.items,
    encodeKey 4, encodeRegistryIds registries.principalStatusMethods.items,
    encodeKey 5, encodeRegistryIds registries.grantStatusMethods.items,
    encodeKey 6, encodeRegistryIds registries.assuranceClaims.items,
    encodeKey 7, encodeRegistryIds registries.assuranceImplications.items,
    encodeKey 8, encodeRegistryIds registries.resourceMatchers.items,
    encodeKey 9, encodeRegistryIds registries.budgetAlgebras.items,
    encodeKey 10, encodeRegistryIds registries.criticalExtensions.items,
    encodeKey 11, encodeList encodeProfileRef registries.profiles.items,
    encodeKey 12, encodeRegistryIds registries.profilePolicies.items,
    encodeKey 13, encodeList encodeProfileRef registries.budgetFreeProfiles.items].flatten

def encodeStatusScope : StatusScope → Bytes
  | .ownAnchor => [Cbor.map 1, encodeKey 0, encodeU8 0].flatten
  | .anchors listed =>
    [Cbor.map 2, encodeKey 0, encodeU8 1, encodeKey 1, encodeRegistryIds listed.items].flatten
  | .anyAnchor => [Cbor.map 1, encodeKey 0, encodeU8 2].flatten

def encodeStatusTrustRule (rule : StatusTrustRule) : Bytes :=
  [Cbor.map 4,
    encodeKey 0, Cbor.text rule.method.str,
    encodeKey 1, Cbor.text rule.issuer.str,
    encodeKey 2, encodeU64 rule.sequenceFloor,
    encodeKey 3, encodeStatusScope rule.scope].flatten

/-- A snapshot, given how its statements are ordered and written. -/
def encodeSnapshot {σ : Type} [LinearOrder σ] (sorted : List (SignedStatus σ) → List (SignedStatus σ))
    (encodeStatus : SignedStatus σ → Bytes) (snapshot : StatusSnapshot σ) : Bytes :=
  [Cbor.map 6,
    encodeKey 0, encodeDigest snapshot.id,
    encodeKey 1, encodeU64 snapshot.observedAt,
    encodeKey 2, encodeU64 snapshot.validUntil,
    encodeKey 3, encodeList encodeStatus (sorted snapshot.statements),
    encodeKey 4, encodeList encodeDigest snapshot.checkpoints.items,
    encodeKey 5, encodeList encodeStatusTrustRule snapshot.trust].flatten

/-- The limits with a key of their own before the work units, in key order. -/
def limitKinds : List LimitKind :=
  [.bundleBytes, .actionBytes, .contextBytes, .grants, .actions, .planLeaves, .planDepth,
    .planBranching, .evidenceObjects, .evidenceBytes, .controlBindings, .principalStatusStatements,
    .grantStatusStatements, .attachments, .attachmentBytes, .signatures, .signatureBytes,
    .permissions, .audiences, .criticalExtensions, .criticalExtensionBytes, .allowedBodyDigests,
    .bindingEvidence, .canonicalBodyBytes, .registryEntries, .trustAnchors]

def approvalLimitKinds : List LimitKind := [.approvals, .approverAnchors, .approvalRequirements]

/-- The given limits under consecutive keys. -/
def encodeLimitFields (limits : VerifierLimits) : UInt8 → List LimitKind → Bytes
  | _, [] => []
  | key, kind :: kinds =>
    [encodeKey key, encodeU64 (UInt64.ofNat (limits.get kind)),
      encodeLimitFields limits (key + 1) kinds].flatten

def encodeLimits (limits : VerifierLimits) : Bytes :=
  [Cbor.map 30, encodeLimitFields limits 0 limitKinds,
    encodeKey 26, encodeU64 limits.maxWorkUnits,
    encodeLimitFields limits 27 approvalLimitKinds].flatten

def encodeCompositionRequirement (requirement : CompositionRequirement) : Bytes :=
  [Cbor.map 4,
    encodeKey 0, encodeOptional encodeDigest requirement.expectedPlan,
    encodeKey 1, encodeU16 requirement.minimumAuthorizedBranches,
    encodeKey 2, encodeU16 requirement.minimumDistinctActors,
    encodeKey 3, encodeU16 requirement.minimumDistinctRoots].flatten

def encodeObserverAnchor (anchor : ObserverAnchor) : Bytes :=
  [Cbor.map 7,
    encodeKey 0, Cbor.text anchor.id.str,
    encodeKey 1, Cbor.text anchor.principal.str,
    encodeKey 2, encodeRegistryIds anchor.acceptedMethods.items,
    encodeKey 3, encodeRegistryIds anchor.schemas.items,
    encodeKey 4, encodeRegistryIds anchor.subjectNamespaces.items,
    encodeKey 5, encodeU64 anchor.validity.notBefore,
    encodeKey 6, encodeU64 anchor.validity.expiresAt].flatten

def encodeApproverAnchor (anchor : ApproverAnchor) : Bytes :=
  [Cbor.map 5,
    encodeKey 0, Cbor.text anchor.principal.str,
    encodeKey 1, encodeRegistryIds anchor.acceptedMethods.items,
    encodeKey 2, encodeU64 anchor.validity.notBefore,
    encodeKey 3, encodeU64 anchor.validity.expiresAt,
    encodeKey 4, encodeStatusPolicy anchor.statusPolicy].flatten

variable [Sha256]

def encodePrincipalSnapshot : PrincipalStatusSnapshot → Bytes :=
  encodeSnapshot sortedPrincipalStatus encodeSignedPrincipalStatus

def encodeGrantSnapshot : GrantStatusSnapshot → Bytes :=
  encodeSnapshot sortedGrantStatus encodeSignedGrantStatus

def sortedApprovalRequirements (requirements : List ApprovalRequirement) : List ApprovalRequirement :=
  sortByKey approvalRequirementId requirements

def encodeRequirementList (requirements : List ApprovalRequirement) : Bytes :=
  encodeList encodeApprovalRequirement (sortedApprovalRequirements requirements)

def encodeVerifierContext (context : TrustedContext) : Bytes :=
  [Cbor.map 17,
    encodeKey 0, encodeLimits context.limits,
    encodeKey 1, encodeDigest context.configuration,
    encodeKey 2, encodeCompositionRequirement context.composition,
    encodeKey 3, encodeList encodeAnchor context.trustAnchors,
    encodeKey 4, encodeRegistries context.acceptedRegistries,
    encodeKey 5, Cbor.text context.expectedAudience.str,
    encodeKey 6, encodeDigest context.expectedChallenge,
    encodeKey 7, encodeU64 context.evaluationTime,
    encodeKey 8, encodeAssurancePolicy context.assurancePolicy,
    encodeKey 9, encodePrincipalSnapshot context.principalStatusSnapshot,
    encodeKey 10, encodeGrantSnapshot context.grantStatusSnapshot,
    encodeKey 11, Cbor.text context.resourceMatcher.str,
    encodeKey 12, Cbor.text context.profilePolicy.str,
    encodeKey 13, Cbor.text context.channelPolicy.str,
    encodeKey 14, encodeList encodeObserverAnchor context.observerAnchors,
    encodeKey 15, encodeList encodeApproverAnchor context.approverAnchors,
    encodeKey 16, encodeRequirementList context.approvalRequirements].flatten

end Encoders

namespace Decode

section Action

variable [Cbor] (limits : VerifierLimits)

/-- `count` detached attachments after `taken` bytes of them. -/
def detachedAttachments (taken : Nat) : Nat → Decoder (List DetachedAttachment)
  | 0 => pure []
  | count + 1 => do
    map 2
    key 0
    let digest ← digestBytes
    key 1
    let bytes ← boundedBytes (limits.get .attachmentBytes) true
    ensure (taken + bytes.length ≤ limits.get .attachmentBytes) .limitExceeded
    let attachment ← model (DetachedAttachment.new digest bytes)
    let attachments ← detachedAttachments (taken + bytes.length) count
    pure (attachment :: attachments)

def canonicalAction : Decoder CanonicalAction := do
  map 6
  key 0
  let profile ← profileRef
  key 1
  let mediaType ← parsed MediaType.parse
  key 2
  let body ← boundedBytes (limits.get .canonicalBodyBytes) true
  key 3
  let permission ← permission
  key 4
  let requestedBudget ← optional budget
  key 5
  let count ← array (limits.get .attachments)
  let attachments ← detachedAttachments limits 0 count
  let action ← model (CanonicalAction.new profile mediaType body permission requestedBudget)
  model (action.withDetachedAttachments attachments)

end Action

section Context

variable [Cbor]

def role : Decoder ParticipantRole := do
  let code ← u8
  if code = 0 then pure .root
  else if code = 1 then pure .intermediate
  else if code = 2 then pure .actor
  else if code = 3 then pure .externalIssuer
  else fail .malformed

def quantifier : Decoder AssuranceQuantifier := do
  let code ← u8
  if code = 0 then pure .any
  else if code = 1 then pure .every
  else fail .malformed

def claimParameter : Decoder ClaimParameter := do
  arrayExact 2
  let name ← parsed RegistryId.parse
  let value ← parsed RegistryId.parse
  pure (toLex (name, value))

def freshness : Decoder FreshnessLimit := do
  model (FreshnessLimit.new (← u64))

def assuranceRequirement (limits : VerifierLimits) : Decoder AssuranceRequirement := do
  map 8
  key 0
  let role ← role
  key 1
  let claimKind ← parsed RegistryId.parse
  key 2
  let parameters ← list (limits.get .criticalExtensions) claimParameter
  key 3
  let source ← optional (parsed RegistryId.parse)
  key 4
  let adapter ← optional (parsed RegistryId.parse)
  key 5
  let adapterVersion ← optional u16
  key 6
  let maximumAge ← optional freshness
  key 7
  let quantifier ← quantifier
  model (AssuranceRequirement.constrained role quantifier claimKind parameters source adapter
    adapterVersion maximumAge)

def assurancePolicy (limits : VerifierLimits) : Decoder AssurancePolicy := do
  map 2
  key 0
  let id ← parsed RegistryId.parse
  key 1
  let requirements ← list (limits.get .evidenceObjects) (assuranceRequirement limits)
  model (AssurancePolicy.new id requirements)

def profileRefs (maximum : Nat) : Decoder (List ProfileRef) := list maximum profileRef

def parsedTexts {α : Type} (maximum : Nat) (parse : String → Except ModelError α) :
    Decoder (List α) :=
  list maximum (parsed parse)

def anchor (limits : VerifierLimits) : Decoder TrustAnchor := do
  map 13
  key 0
  let id ← parsed RegistryId.parse
  key 1
  let principal ← parsed PrincipalId.parse
  key 2
  let acceptedMethods ← parsedTexts (limits.get .registryEntries) RegistryId.parse
  key 3
  let profiles ← profileRefs (limits.get .registryEntries)
  key 4
  let permissions ← permissions limits
  key 5
  let resourceNamespaces ← parsedTexts (limits.get .permissions) ResourceId.parse
  key 6
  let audiences ← audiences limits
  key 7
  let notBefore ← u64
  key 8
  let expiresAt ← u64
  let validity ← model (ValidityWindow.new notBefore expiresAt)
  key 9
  let budgetCeiling ← optional budget
  key 10
  let maxDelegationDepth ← u16
  key 11
  let assurancePolicy ← parsed RegistryId.parse
  key 12
  let statusPolicy ← statusPolicy
  model (TrustAnchor.new id principal acceptedMethods profiles permissions resourceNamespaces
    audiences validity budgetCeiling maxDelegationDepth assurancePolicy statusPolicy)

def registries (limits : VerifierLimits) : Decoder AcceptedRegistries := do
  let maximum := limits.get .registryEntries
  map 14
  key 0
  let manifestId ← digestBytes
  key 1
  let principalMethods ← parsedTexts maximum RegistryId.parse
  key 2
  let signatureSuites ← parsedTexts maximum RegistryId.parse
  key 3
  let evidenceTypes ← parsedTexts maximum RegistryId.parse
  key 4
  let principalStatusMethods ← parsedTexts maximum RegistryId.parse
  key 5
  let grantStatusMethods ← parsedTexts maximum RegistryId.parse
  key 6
  let assuranceClaims ← parsedTexts maximum RegistryId.parse
  key 7
  let assuranceImplications ← parsedTexts maximum RegistryId.parse
  key 8
  let resourceMatchers ← parsedTexts maximum RegistryId.parse
  key 9
  let budgetAlgebras ← parsedTexts maximum RegistryId.parse
  key 10
  let criticalExtensions ← parsedTexts maximum ExtensionId.parse
  key 11
  let profiles ← profileRefs maximum
  key 12
  let profilePolicies ← parsedTexts maximum RegistryId.parse
  key 13
  let budgetFreeProfiles ← profileRefs maximum
  model (AcceptedRegistries.new manifestId principalMethods signatureSuites evidenceTypes
    principalStatusMethods grantStatusMethods assuranceClaims assuranceImplications
    resourceMatchers budgetAlgebras criticalExtensions profiles profilePolicies >>= fun registries =>
      registries.withBudgetFreeProfiles budgetFreeProfiles)

def checkpoints (limits : VerifierLimits) : Decoder (List EvidenceId) :=
  list (limits.get .evidenceObjects) digestBytes

/-- `0: 0` for the own anchor, `0: 1, 1: [ids]` for listed anchors, `0: 2` for any. -/
def statusScope (limits : VerifierLimits) : Decoder StatusScope := do
  let entries ← mapEntries
  ensure (1 ≤ entries ∧ entries ≤ 2) .malformed
  key 0
  let tag ← u8
  if tag = 0 ∧ entries = 1 then
    pure .ownAnchor
  else if tag = 1 ∧ entries = 2 then do
    key 1
    let anchors ← parsedTexts (limits.get .trustAnchors) RegistryId.parse
    let listed ← model (StatusScopeAnchors.new anchors)
    pure (.anchors listed)
  else if tag = 2 ∧ entries = 1 then
    pure .anyAnchor
  else
    fail .malformed

def statusTrustRule (limits : VerifierLimits) : Decoder StatusTrustRule := do
  map 4
  key 0
  let method ← parsed RegistryId.parse
  key 1
  let issuer ← parsed PrincipalId.parse
  key 2
  let sequenceFloor ← u64
  key 3
  let scope ← statusScope limits
  pure { method, issuer, sequenceFloor, scope }

def statusTrust (limits : VerifierLimits) : Decoder (List StatusTrustRule) :=
  list (limits.get .registryEntries) (statusTrustRule limits)

/-- A snapshot, given how its statements are read and which limit counts them. -/
def snapshot {σ : Type} [LinearOrder σ] (kind : LimitKind)
    (status : VerifierLimits → Decoder (SignedStatus σ)) (limits : VerifierLimits) :
    Decoder (StatusSnapshot σ) := do
  map 6
  key 0
  let id ← digestBytes
  key 1
  let observedAt ← u64
  key 2
  let validUntil ← u64
  key 3
  let statements ← list (limits.get kind) (status limits)
  key 4
  let checkpoints ← checkpoints limits
  key 5
  let trust ← statusTrust limits
  model (StatusSnapshot.withTrust id observedAt validUntil statements checkpoints trust)

def principalSnapshot : VerifierLimits → Decoder PrincipalStatusSnapshot :=
  snapshot .principalStatusStatements signedPrincipalStatus

def grantSnapshot : VerifierLimits → Decoder GrantStatusSnapshot :=
  snapshot .grantStatusStatements signedGrantStatus

def limitFields : UInt8 → List LimitKind → VerifierLimits → Decoder VerifierLimits
  | _, [], limits => pure limits
  | index, kind :: kinds, limits => do
    key index
    let value ← u64
    let limits ← model (limits.withLimit kind value.toNat)
    limitFields (index + 1) kinds limits

def verifierLimits : Decoder VerifierLimits := do
  map 30
  let limits ← limitFields 0 limitKinds .hard
  key 26
  let workUnits ← u64
  let limits ← model (limits.withWorkUnits workUnits)
  limitFields 27 approvalLimitKinds limits

def compositionRequirement : Decoder CompositionRequirement := do
  map 4
  key 0
  let expectedPlan ← optional digestBytes
  key 1
  let minimumAuthorizedBranches ← u16
  key 2
  let minimumDistinctActors ← u16
  key 3
  let minimumDistinctRoots ← u16
  model (CompositionRequirement.new expectedPlan minimumAuthorizedBranches minimumDistinctActors
    minimumDistinctRoots)

def observerAnchor (limits : VerifierLimits) : Decoder ObserverAnchor := do
  map 7
  key 0
  let id ← parsed ObserverAnchorId.parse
  key 1
  let principal ← parsed PrincipalId.parse
  key 2
  let methods ← parsedTexts (limits.get .registryEntries) RegistryId.parse
  key 3
  let schemas ← parsedTexts (limits.get .registryEntries) ObservationSchemaId.parse
  key 4
  let namespaces ← parsedTexts (limits.get .permissions) ResourceId.parse
  key 5
  let notBefore ← u64
  key 6
  let expiresAt ← u64
  let validity ← model (ValidityWindow.new notBefore expiresAt)
  model (ObserverAnchor.new id principal methods schemas namespaces validity)

def observerAnchors (limits : VerifierLimits) : Decoder (List ObserverAnchor) :=
  list maxObserverAnchors (observerAnchor limits)

def approverAnchor (limits : VerifierLimits) : Decoder ApproverAnchor := do
  map 5
  key 0
  let principal ← parsed PrincipalId.parse
  key 1
  let methods ← parsedTexts (limits.get .registryEntries) RegistryId.parse
  key 2
  let notBefore ← u64
  key 3
  let expiresAt ← u64
  key 4
  let statusPolicy ← statusPolicy
  let validity ← model (ValidityWindow.new notBefore expiresAt)
  model (ApproverAnchor.new principal methods validity statusPolicy)

def approverAnchors (limits : VerifierLimits) : Decoder (List ApproverAnchor) :=
  list (limits.get .approverAnchors) (approverAnchor limits)

def approvalRequirement : Decoder ApprovalRequirement := do
  map 2
  key 0
  let approvers ← parsedTexts maxApproversPerRequirement PrincipalId.parse
  key 1
  let threshold ← u16
  model (ApprovalRequirement.new approvers threshold)

def contextRequirements (limits : VerifierLimits) : Decoder (List ApprovalRequirement) :=
  list (limits.get .approvalRequirements) approvalRequirement

def contextFrom : Decoder TrustedContext := do
  map 17
  key 0
  let limits ← verifierLimits
  key 1
  let configuration ← digestBytes
  key 2
  let composition ← compositionRequirement
  key 3
  let trustAnchors ← list (limits.get .trustAnchors) (anchor limits)
  key 4
  let acceptedRegistries ← registries limits
  key 5
  let expectedAudience ← parsed Audience.parse
  key 6
  let expectedChallenge ← digestBytes
  key 7
  let evaluationTime ← u64
  key 8
  let assurancePolicy ← assurancePolicy limits
  key 9
  let principalStatusSnapshot ← principalSnapshot limits
  key 10
  let grantStatusSnapshot ← grantSnapshot limits
  key 11
  let resourceMatcher ← parsed RegistryId.parse
  key 12
  let profilePolicy ← parsed RegistryId.parse
  key 13
  let channelPolicy ← parsed RegistryId.parse
  key 14
  let observerAnchors ← observerAnchors limits
  key 15
  let approverAnchors ← approverAnchors limits
  key 16
  let approvalRequirements ← contextRequirements limits
  let base ← model (TrustedContext.new configuration composition trustAnchors acceptedRegistries
    expectedAudience expectedChallenge evaluationTime assurancePolicy principalStatusSnapshot
    grantStatusSnapshot resourceMatcher profilePolicy channelPolicy limits)
  let observed ← model (base.withObserverAnchors observerAnchors)
  model (observed.withApprovals approverAnchors approvalRequirements)

end Context

end Decode

def hardMaxContextBytes : Nat := 16 * 1024 * 1024

variable [Cbor]

def decodeCanonicalAction (input : Bytes) (limits : VerifierLimits) :
    Except CodecError CanonicalAction :=
  if limits.get .actionBytes < input.length then .error .limitExceeded
  else decodeCanonical (Decode.canonicalAction limits) encodeCanonicalAction input

/-- The context reader, followed by the check of the input against the limit it has read. -/
def Decode.boundedContext (size : Nat) : Decoder TrustedContext := do
  let context ← contextFrom
  ensure (size ≤ context.limits.get .contextBytes) .limitExceeded
  pure context

def decodeVerifierContext [Sha256] (input : Bytes) : Except CodecError TrustedContext :=
  if hardMaxContextBytes < input.length then .error .limitExceeded
  else decodeCanonical (Decode.boundedContext input.length) encodeVerifierContext input

end AuthsProof
