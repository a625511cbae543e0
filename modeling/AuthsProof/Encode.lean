import AuthsProof.Bundle
import AuthsProof.CodecPrimitive

/-! The deterministic encoders of statements, plans, evidence, approvals and bundles, with the
content identifiers and signing preimages derived from them. -/

namespace AuthsProof

open Sorting

section Encoders

variable [Cbor]

def encodeProfileRef (profile : ProfileRef) : Bytes :=
  [Cbor.map 2, encodeKey 0, Cbor.text profile.id.str, encodeKey 1, encodeU16 profile.version].flatten

def encodePermission (permission : Permission) : Bytes :=
  [Cbor.map 2, encodeKey 0, Cbor.text permission.capability.str,
    encodeKey 1, Cbor.text permission.resource.str].flatten

def encodePermissionSet (permissions : PermissionSet) : Bytes :=
  encodeList encodePermission permissions.items

def encodeAudienceSet (audiences : AudienceSet) : Bytes :=
  encodeList (fun audience => Cbor.text audience.str) audiences.items

def encodeStatusPolicy : StatusPolicy → Bytes
  | .expiryOnly => [Cbor.map 1, encodeKey 0, encodeU8 0].flatten
  | .snapshotRequired method maxAge =>
    [Cbor.map 3, encodeKey 0, encodeU8 1, encodeKey 1, Cbor.text method.str,
      encodeKey 2, encodeU64 maxAge.seconds].flatten

def encodeBudget (budget : BudgetCeiling) : Bytes :=
  [Cbor.map 2, encodeKey 0, Cbor.text budget.algebra.str, encodeKey 1, encodeU64 budget.value].flatten

def encodeConstraint : ActionConstraint → Bytes
  | .anyBody => [Cbor.map 1, encodeKey 0, encodeU8 0].flatten
  | .exactBodyDigest digest =>
    [Cbor.map 2, encodeKey 0, encodeU8 1, encodeKey 1, encodeDigest digest].flatten
  | .allowedBodyDigests digests =>
    [Cbor.map 2, encodeKey 0, encodeU8 2, encodeKey 1, encodeList encodeDigest digests.items].flatten

def encodeExtension (extension : CriticalExtension) : Bytes :=
  [Cbor.map 2, encodeKey 0, Cbor.text extension.id.str, encodeKey 1,
    Cbor.bytes extension.bytes].flatten

def encodeExtensions (extensions : CriticalExtensions) : Bytes :=
  encodeList encodeExtension extensions.entries

def encodeSignatureDescriptor (descriptor : SignatureDescriptor) : Bytes :=
  [Cbor.map 3, encodeKey 0, Cbor.text descriptor.principalMethod.str,
    encodeKey 1, Cbor.text descriptor.verificationMethod.str,
    encodeKey 2, Cbor.text descriptor.suite.str].flatten

def encodeSignature (signature : SignatureEnvelope) : Bytes :=
  [Cbor.map 2, encodeKey 0, encodeSignatureDescriptor signature.descriptor,
    encodeKey 1, Cbor.bytes signature.signature.bytes].flatten

def encodeGrantStatement (statement : GrantStatement) : Bytes :=
  [Cbor.map 16,
    encodeKey 0, encodeU16 protocolV1,
    encodeKey 1, Cbor.text statement.issuer.str,
    encodeKey 2, Cbor.text statement.subject.str,
    encodeKey 3, Cbor.text statement.profile.id.str,
    encodeKey 4, encodeU16 statement.profile.version,
    encodeKey 5, encodePermissionSet statement.permissions,
    encodeKey 6, encodeU64 statement.validity.notBefore,
    encodeKey 7, encodeU64 statement.validity.expiresAt,
    encodeKey 8, encodeAudienceSet statement.audiences,
    encodeKey 9, encodeConstraint statement.actionConstraint,
    encodeKey 10, encodeOptional encodeBudget statement.budgetCeiling,
    encodeKey 11, encodeU16 statement.remainingDepth,
    encodeKey 12, encodeOptional encodeDigest statement.parent,
    encodeKey 13, encodeStatusPolicy statement.statusPolicy,
    encodeKey 14, Cbor.text statement.assuranceFloor.str,
    encodeKey 15, encodeExtensions statement.extensions].flatten

def encodeSignedGrant (grant : SignedGrant) : Bytes :=
  [Cbor.map 2, encodeKey 0, encodeGrantStatement grant.statement,
    encodeKey 1, encodeSignature grant.signature].flatten

def encodeAttachment (attachment : AttachmentDescriptor) : Bytes :=
  [Cbor.map 7,
    encodeKey 0, encodeDigest attachment.digest,
    encodeKey 1, Cbor.text attachment.mediaType.str,
    encodeKey 2, encodeU64 attachment.byteLength,
    encodeKey 3, Cbor.text attachment.disposition.str,
    encodeKey 4, Cbor.bool (attachment.confidentiality = .encrypted),
    encodeKey 5, Cbor.bool (attachment.presence = .required),
    encodeKey 6, Cbor.bool (attachment.opacity = .opaqueAllowed)].flatten

def encodeActionEnvelope (envelope : ActionEnvelope) : Bytes :=
  [Cbor.map 19,
    encodeKey 0, encodeU16 protocolV1,
    encodeKey 1, Cbor.text envelope.profile.id.str,
    encodeKey 2, encodeU16 envelope.profile.version,
    encodeKey 3, Cbor.text envelope.bodyMediaType.str,
    encodeKey 4, encodeDigest envelope.canonicalBodyDigest,
    encodeKey 5, Cbor.text envelope.permission.capability.str,
    encodeKey 6, Cbor.text envelope.permission.resource.str,
    encodeKey 7, encodeOptional encodeBudget envelope.requestedBudget,
    encodeKey 8, Cbor.text envelope.audience.str,
    encodeKey 9, encodeDigest envelope.challenge,
    encodeKey 10, encodeU64 envelope.validity.notBefore,
    encodeKey 11, encodeU64 envelope.validity.expiresAt,
    encodeKey 12, Cbor.text envelope.actor.str,
    encodeKey 13, encodeOptional encodeDigest envelope.terminalGrant,
    encodeKey 14, encodeDigest envelope.authorizationPlan,
    encodeKey 15, Cbor.text envelope.channelBinding.str,
    encodeKey 16, encodeDigest envelope.proofRef,
    encodeKey 17, encodeList encodeAttachment envelope.attachments,
    encodeKey 18, encodeExtensions envelope.extensions].flatten

def encodeSignedAction (action : SignedAction) : Bytes :=
  [Cbor.map 2, encodeKey 0, encodeActionEnvelope action.envelope,
    encodeKey 1, encodeSignature action.signature].flatten

mutual

def encodeAuthorizationPlan : AuthorizationPlan → Bytes
  | .proof reference =>
    [Cbor.map 2, encodeKey 0, encodeU8 0, encodeKey 1, encodeDigest reference].flatten
  | .allOf members =>
    [Cbor.map 2, encodeKey 0, encodeU8 1, encodeKey 1,
      Cbor.array members.length ++ encodePlanMembers members].flatten
  | .anyOf members =>
    [Cbor.map 2, encodeKey 0, encodeU8 2, encodeKey 1,
      Cbor.array members.length ++ encodePlanMembers members].flatten
  | .kOfN k members =>
    [Cbor.map 3, encodeKey 0, encodeU8 3, encodeKey 1, encodeU16 k, encodeKey 2,
      Cbor.array members.length ++ encodePlanMembers members].flatten

def encodePlanMembers : List AuthorizationPlan → Bytes
  | [] => []
  | member :: members => encodeAuthorizationPlan member ++ encodePlanMembers members

end

def encodeEvidence (evidence : EvidenceObject) : Bytes :=
  [Cbor.map 4, encodeKey 0, encodeDigest evidence.id,
    encodeKey 1, Cbor.text evidence.evidenceType.str,
    encodeKey 2, Cbor.text evidence.mediaType.str,
    encodeKey 3, Cbor.bytes evidence.bytes].flatten

def encodeEvidenceContent (evidence : EvidenceObject) : Bytes :=
  [Cbor.map 3, encodeKey 0, Cbor.text evidence.evidenceType.str,
    encodeKey 1, Cbor.text evidence.mediaType.str,
    encodeKey 2, Cbor.bytes evidence.bytes].flatten

def encodeStatementRef : StatementRef → Bytes
  | .grant id => [Cbor.map 2, encodeKey 0, encodeU8 0, encodeKey 1, encodeDigest id].flatten
  | .action id => [Cbor.map 2, encodeKey 0, encodeU8 1, encodeKey 1, encodeDigest id].flatten
  | .principalStatus id => [Cbor.map 2, encodeKey 0, encodeU8 2, encodeKey 1, encodeDigest id].flatten
  | .grantStatus id => [Cbor.map 2, encodeKey 0, encodeU8 3, encodeKey 1, encodeDigest id].flatten

def encodeBinding (binding : ControlBinding) : Bytes :=
  [Cbor.map 2, encodeKey 0, encodeStatementRef binding.statement,
    encodeKey 1, encodeList encodeDigest binding.evidence].flatten

def encodeState : LifecycleState → UInt8
  | .active => 0
  | .revoked => 1
  | .superseded => 2

/-- A status statement, given how its subject is written. -/
def encodeStatusStatement {σ : Type} (encodeSubject : σ → Bytes) (statement : StatusStatement σ) :
    Bytes :=
  [Cbor.map 9,
    encodeKey 0, encodeU16 protocolV1,
    encodeKey 1, Cbor.text statement.method.str,
    encodeKey 2, encodeSubject statement.subject,
    encodeKey 3, encodeU8 (encodeState statement.state),
    encodeKey 4, encodeU64 statement.sequence,
    encodeKey 5, encodeU64 statement.observedAt,
    encodeKey 6, encodeU64 statement.validUntil,
    encodeKey 7, Cbor.text statement.issuer.str,
    encodeKey 8, encodeExtensions statement.extensions].flatten

def encodeSignedStatus {σ : Type} (encodeSubject : σ → Bytes) (status : SignedStatus σ) : Bytes :=
  [Cbor.map 2, encodeKey 0, encodeStatusStatement encodeSubject status.statement,
    encodeKey 1, encodeSignature status.signature].flatten

def encodePrincipalStatusStatement : PrincipalStatusStatement → Bytes :=
  encodeStatusStatement fun principal => Cbor.text principal.str

def encodeSignedPrincipalStatus : SignedPrincipalStatus → Bytes :=
  encodeSignedStatus fun principal => Cbor.text principal.str

def encodeGrantStatusStatement : GrantStatusStatement → Bytes := encodeStatusStatement encodeDigest

def encodeSignedGrantStatus : SignedGrantStatus → Bytes := encodeSignedStatus encodeDigest

def encodeApprovalRequirement (requirement : ApprovalRequirement) : Bytes :=
  [Cbor.map 2, encodeKey 0,
    encodeList (fun approver : PrincipalId => Cbor.text approver.str) requirement.approvers.items,
    encodeKey 1, encodeU16 requirement.threshold].flatten

def encodeApprovalStatement (statement : ApprovalStatement) : Bytes :=
  [Cbor.map 13,
    encodeKey 0, encodeU16 protocolV1,
    encodeKey 1, Cbor.text statement.approver.str,
    encodeKey 2, encodeDigest statement.requirement,
    encodeKey 3, Cbor.text statement.mediaType.str,
    encodeKey 4, encodeDigest statement.bodyDigest,
    encodeKey 5, Cbor.text statement.permission.capability.str,
    encodeKey 6, Cbor.text statement.permission.resource.str,
    encodeKey 7, encodeOptional encodeBudget statement.requestedBudget,
    encodeKey 8, encodeOptional encodeDigest statement.attributes,
    encodeKey 9, Cbor.text statement.audience.str,
    encodeKey 10, encodeDigest statement.challenge,
    encodeKey 11, encodeU64 statement.validity.notBefore,
    encodeKey 12, encodeU64 statement.validity.expiresAt].flatten

def encodeSignedApproval (approval : SignedApproval) : Bytes :=
  [Cbor.map 3, encodeKey 0, encodeApprovalStatement approval.statement,
    encodeKey 1, encodeSignature approval.signature,
    encodeKey 2, encodeList encodeEvidence approval.evidence].flatten

/-- The signing object of a statement: its encoding beside the descriptor of the signature. -/
def encodeSigningInput (statement : Bytes) (descriptor : SignatureDescriptor) : Bytes :=
  [Cbor.map 2, encodeKey 0, statement, encodeKey 1, encodeSignatureDescriptor descriptor].flatten

end Encoders

section Identifiers

def bigEndian16 (value : UInt16) : Bytes := Rfc8949.bigEndian 2 value.toNat
def bigEndian64 (value : Nat) : Bytes := Rfc8949.bigEndian 8 value

def utf8 (value : String) : Bytes := value.toUTF8.data.toList

def domainHash [Sha256] (identifierType : UInt16) (canonical : Bytes) : Digest :=
  Sha256.digest (utf8 "AUTHS-ID" ++ bigEndian16 protocolV1 ++ bigEndian16 identifierType ++
    bigEndian64 canonical.length ++ canonical)

def signingPreimage (objectType : UInt16) (profileId : String) (profileVersion : UInt16)
    (canonicalSigningObject : Bytes) : Bytes :=
  utf8 "AUTHS" ++ bigEndian16 protocolV1 ++ bigEndian16 objectType ++
    bigEndian16 (UInt16.ofNat profileId.utf8ByteSize) ++ utf8 profileId ++
    bigEndian16 profileVersion ++ bigEndian64 canonicalSigningObject.length ++ canonicalSigningObject

variable [Cbor]

def grantSigningPreimage (statement : GrantStatement) (descriptor : SignatureDescriptor) : Bytes :=
  signingPreimage 1 statement.profile.id.str statement.profile.version
    (encodeSigningInput (encodeGrantStatement statement) descriptor)

def actionSigningPreimage (envelope : ActionEnvelope) (descriptor : SignatureDescriptor) : Bytes :=
  signingPreimage 2 envelope.profile.id.str envelope.profile.version
    (encodeSigningInput (encodeActionEnvelope envelope) descriptor)

def principalStatusSigningPreimage (statement : PrincipalStatusStatement)
    (descriptor : SignatureDescriptor) : Bytes :=
  signingPreimage 3 "" 0 (encodeSigningInput (encodePrincipalStatusStatement statement) descriptor)

def grantStatusSigningPreimage (statement : GrantStatusStatement)
    (descriptor : SignatureDescriptor) : Bytes :=
  signingPreimage 4 "" 0 (encodeSigningInput (encodeGrantStatusStatement statement) descriptor)

def approvalSigningPreimage (statement : ApprovalStatement) (descriptor : SignatureDescriptor)
    (profile : ProfileRef) : Bytes :=
  signingPreimage 10 profile.id.str profile.version
    (encodeSigningInput (encodeApprovalStatement statement) descriptor)

variable [Sha256]

def grantId (statement : GrantStatement) : GrantId := domainHash 1 (encodeGrantStatement statement)
def actionId (envelope : ActionEnvelope) : ActionId := domainHash 2 (encodeActionEnvelope envelope)
def planId (plan : AuthorizationPlan) : PlanId := domainHash 3 (encodeAuthorizationPlan plan)
def evidenceId (evidence : EvidenceObject) : EvidenceId :=
  domainHash 4 (encodeEvidenceContent evidence)
def principalStatusId (statement : PrincipalStatusStatement) : PrincipalStatusId :=
  domainHash 5 (encodePrincipalStatusStatement statement)
def grantStatusId (statement : GrantStatusStatement) : GrantStatusId :=
  domainHash 6 (encodeGrantStatusStatement statement)
def approvalRequirementId (requirement : ApprovalRequirement) : ApprovalRequirementId :=
  domainHash 12 (encodeApprovalRequirement requirement)
def approvalDigest (approval : SignedApproval) : ApprovalDigest :=
  Sha256.digest (encodeSignedApproval approval)

end Identifiers

section Bundle

variable [Cbor] [Sha256]

def sortedGrants (grants : List SignedGrant) : List SignedGrant :=
  sortByKey (fun grant => grantId grant.statement) grants

def sortedPrincipalStatus (values : List SignedPrincipalStatus) : List SignedPrincipalStatus :=
  sortByKey (fun status => principalStatusId status.statement) values

def sortedGrantStatus (values : List SignedGrantStatus) : List SignedGrantStatus :=
  sortByKey (fun status => grantStatusId status.statement) values

def encodeBundle (bundle : ProofBundle) : Bytes :=
  [Cbor.map 11,
    encodeKey 0, [Cbor.map 2, encodeKey 0, encodeU16 protocolV1,
      encodeKey 1, encodeU64 bundle.header.flags].flatten,
    encodeKey 1, encodeList encodeSignedGrant (sortedGrants bundle.grants),
    encodeKey 2, encodeList encodeSignedAction
      (sortByKey (fun action => action.envelope.proofRef) bundle.actions),
    encodeKey 3, encodeAuthorizationPlan bundle.plan.plan,
    encodeKey 4, encodeList encodeEvidence (sortByKey EvidenceObject.id bundle.evidence),
    encodeKey 5, encodeList encodeBinding (sortByKey ControlBinding.statement bundle.bindings),
    encodeKey 6, encodeList encodeSignedPrincipalStatus (sortedPrincipalStatus bundle.principalStatus),
    encodeKey 7, encodeList encodeSignedGrantStatus (sortedGrantStatus bundle.grantStatus),
    encodeKey 8, encodeList encodeAttachment
      (sortByKey AttachmentDescriptor.digest bundle.attachments),
    encodeKey 9, encodeOptional Cbor.bytes bundle.canonicalBody,
    encodeKey 10, encodeList encodeSignedApproval bundle.approvals].flatten

end Bundle

end AuthsProof
