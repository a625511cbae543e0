import Mathlib.Algebra.GroupWithZero.Nat
import AuthsProof.Scope

/-! The signed statements of the protocol: grants, actions, status facts, and the evidence and
attachments that travel with them. -/

namespace AuthsProof

open Sorting

def protocolV1 : UInt16 := 1

def hardMaxSignatureBytes : Nat := 4096
def hardMaxEvidenceBytes : Nat := 2 * 1024 * 1024
def hardMaxBindingEvidence : Nat := 32
def hardMaxCanonicalBodyBytes : Nat := 8 * 1024 * 1024
def hardMaxBundleBytes : Nat := 8 * 1024 * 1024
def hardMaxAttachments : Nat := 512
def hardMaxAttachmentBytes : Nat := 8 * 1024 * 1024

structure SignatureDescriptor where
  principalMethod : PrincipalMethodId
  verificationMethod : VerificationMethod
  suite : SignatureSuiteId
  deriving DecidableEq

structure SignatureBytes where
  bytes : Bytes
  nonempty : bytes ≠ []
  bounded : bytes.length ≤ hardMaxSignatureBytes
  deriving DecidableEq

def SignatureBytes.new (bytes : Bytes) : Except ModelError SignatureBytes :=
  if h : bytes ≠ [] ∧ bytes.length ≤ hardMaxSignatureBytes then .ok ⟨bytes, h.1, h.2⟩
  else .error .invalidSignature

@[simp] theorem SignatureBytes.new_bytes (s : SignatureBytes) :
    SignatureBytes.new s.bytes = .ok s := by
  simp [SignatureBytes.new, s.nonempty, s.bounded]

structure SignatureEnvelope where
  descriptor : SignatureDescriptor
  signature : SignatureBytes
  deriving DecidableEq

structure GrantStatement where
  issuer : PrincipalId
  subject : PrincipalId
  profile : ProfileRef
  permissions : PermissionSet
  validity : ValidityWindow
  audiences : AudienceSet
  actionConstraint : ActionConstraint
  budgetCeiling : Option BudgetCeiling
  remainingDepth : UInt16
  parent : Option GrantId
  statusPolicy : StatusPolicy
  assuranceFloor : AssurancePolicyId
  extensions : CriticalExtensions
  deriving DecidableEq

structure SignedGrant where
  statement : GrantStatement
  signature : SignatureEnvelope
  deriving DecidableEq

inductive Confidentiality where
  | encrypted
  | plain
  deriving DecidableEq

inductive Presence where
  | required
  | optional
  deriving DecidableEq

inductive Opacity where
  | opaqueAllowed
  | mustBeInspectable
  deriving DecidableEq

structure AttachmentDescriptor where
  digest : AttachmentDigest
  mediaType : MediaType
  byteLength : UInt64
  disposition : DispositionId
  confidentiality : Confidentiality
  presence : Presence
  opacity : Opacity
  deriving DecidableEq

structure ActionEnvelope where
  profile : ProfileRef
  bodyMediaType : MediaType
  canonicalBodyDigest : Digest
  permission : Permission
  requestedBudget : Option BudgetCeiling
  audience : Audience
  challenge : Challenge
  validity : ValidityWindow
  actor : PrincipalId
  terminalGrant : Option GrantId
  authorizationPlan : PlanId
  channelBinding : ChannelBindingId
  proofRef : ProofRef
  attachments : List AttachmentDescriptor
  extensions : CriticalExtensions
  deriving DecidableEq

structure SignedAction where
  envelope : ActionEnvelope
  signature : SignatureEnvelope
  deriving DecidableEq

structure DetachedAttachment where
  digest : AttachmentDigest
  bytes : Bytes
  nonempty : bytes ≠ []
  bounded : bytes.length ≤ hardMaxBundleBytes
  deriving DecidableEq

def DetachedAttachment.new (digest : AttachmentDigest) (bytes : Bytes) :
    Except ModelError DetachedAttachment :=
  if h : bytes ≠ [] ∧ bytes.length ≤ hardMaxBundleBytes then .ok ⟨digest, bytes, h.1, h.2⟩
  else .error .invalidAttachment

@[simp] theorem DetachedAttachment.new_self (a : DetachedAttachment) :
    DetachedAttachment.new a.digest a.bytes = .ok a := by
  simp [DetachedAttachment.new, a.nonempty, a.bounded]

def detachedBytes (attachments : List DetachedAttachment) : Nat :=
  (attachments.map fun attachment => attachment.bytes.length).sum

/-- A profile-canonical application action with the detached bytes it comes with. -/
structure CanonicalAction where
  profile : ProfileRef
  mediaType : MediaType
  body : Bytes
  permission : Permission
  requestedBudget : Option BudgetCeiling
  detachedAttachments : List DetachedAttachment
  nonempty : body ≠ []
  bounded : body.length ≤ hardMaxCanonicalBodyBytes
  attachmentsBounded : detachedAttachments.length ≤ hardMaxAttachments
  attachmentBytesBounded : detachedBytes detachedAttachments ≤ hardMaxAttachmentBytes
  attachmentsSorted : detachedAttachments.Pairwise (fun a b => a.digest < b.digest)
  deriving DecidableEq

def CanonicalAction.new (profile : ProfileRef) (mediaType : MediaType) (body : Bytes)
    (permission : Permission) (requestedBudget : Option BudgetCeiling) :
    Except ModelError CanonicalAction :=
  if h : body ≠ [] ∧ body.length ≤ hardMaxCanonicalBodyBytes then
    .ok {
      profile, mediaType, body, permission, requestedBudget
      detachedAttachments := []
      nonempty := h.1
      bounded := h.2
      attachmentsBounded := Nat.zero_le _
      attachmentBytesBounded := Nat.zero_le _
      attachmentsSorted := List.Pairwise.nil }
  else .error .invalidCanonicalAction

def CanonicalAction.withDetachedAttachments (action : CanonicalAction)
    (attachments : List DetachedAttachment) : Except ModelError CanonicalAction :=
  let sorted := sortByKey DetachedAttachment.digest attachments
  if h : sorted.length ≤ hardMaxAttachments ∧ detachedBytes sorted ≤ hardMaxAttachmentBytes ∧
      adjacentDistinct (sorted.map DetachedAttachment.digest) = true then
    .ok { action with
      detachedAttachments := sorted
      attachmentsBounded := h.1
      attachmentBytesBounded := h.2.1
      attachmentsSorted := pairwise_lt_of_adjacentDistinct (sortByKey_pairwise _ _) h.2.2 }
  else .error .invalidAttachment

/-- An action rebuilt by its constructors is the action itself. -/
theorem CanonicalAction.new_withDetachedAttachments (a : CanonicalAction) :
    (CanonicalAction.new a.profile a.mediaType a.body a.permission a.requestedBudget >>= fun base =>
      base.withDetachedAttachments a.detachedAttachments) = .ok a := by
  have hsort : sortByKey DetachedAttachment.digest a.detachedAttachments = a.detachedAttachments :=
    sortByKey_of_pairwise (a.attachmentsSorted.imp fun h => h.le)
  have hdistinct := adjacentDistinct_of_pairwise_lt a.attachmentsSorted
  simp [CanonicalAction.new, CanonicalAction.withDetachedAttachments, a.nonempty, a.bounded, hsort,
    hdistinct, a.attachmentsBounded, a.attachmentBytesBounded, bind, Except.bind]

structure EvidenceObject where
  id : EvidenceId
  evidenceType : EvidenceTypeId
  mediaType : MediaType
  bytes : Bytes
  nonempty : bytes ≠ []
  bounded : bytes.length ≤ hardMaxEvidenceBytes
  deriving DecidableEq

def EvidenceObject.new (id : EvidenceId) (evidenceType : EvidenceTypeId) (mediaType : MediaType)
    (bytes : Bytes) : Except ModelError EvidenceObject :=
  if h : bytes ≠ [] ∧ bytes.length ≤ hardMaxEvidenceBytes then
    .ok ⟨id, evidenceType, mediaType, bytes, h.1, h.2⟩
  else .error .invalidEvidence

@[simp] theorem EvidenceObject.new_self (e : EvidenceObject) :
    EvidenceObject.new e.id e.evidenceType e.mediaType e.bytes = .ok e := by
  simp [EvidenceObject.new, e.nonempty, e.bounded]

inductive StatementRef where
  | grant (id : GrantId)
  | action (id : ActionId)
  | principalStatus (id : PrincipalStatusId)
  | grantStatus (id : GrantStatusId)
  deriving DecidableEq

def StatementRef.key : StatementRef → Nat ×ₗ Digest
  | .grant id => toLex (0, id)
  | .action id => toLex (1, id)
  | .principalStatus id => toLex (2, id)
  | .grantStatus id => toLex (3, id)

theorem StatementRef.key_injective : Function.Injective StatementRef.key := by
  intro a b h
  cases a <;> cases b <;> simp_all [StatementRef.key]

instance : LinearOrder StatementRef := orderByKey StatementRef.key StatementRef.key_injective

structure ControlBinding where
  statement : StatementRef
  evidence : List EvidenceId
  nonempty : evidence ≠ []
  bounded : evidence.length ≤ hardMaxBindingEvidence
  sorted : evidence.Pairwise (· < ·)
  deriving DecidableEq

def ControlBinding.key (b : ControlBinding) : StatementRef ×ₗ List EvidenceId :=
  toLex (b.statement, b.evidence)

def ControlBinding.new (statement : StatementRef) (evidence : List EvidenceId) :
    Except ModelError ControlBinding :=
  match BoundedSet.new hardMaxBindingEvidence evidence with
  | .ok set => .ok ⟨statement, set.items, set.nonempty, set.bounded, set.sorted⟩
  | .error _ => .error .invalidEvidenceBinding

@[simp] theorem ControlBinding.new_self (b : ControlBinding) :
    ControlBinding.new b.statement b.evidence = .ok b := by
  have hset := BoundedSet.new_items
    (⟨b.evidence, b.nonempty, b.bounded, b.sorted⟩ : BoundedSet EvidenceId hardMaxBindingEvidence)
  simp only [ControlBinding.new, hset]

/-- Lifecycle state of a principal or of a grant. -/
inductive LifecycleState where
  | active
  | revoked
  | superseded
  deriving DecidableEq

abbrev PrincipalState := LifecycleState
abbrev GrantState := LifecycleState

/-- A fact about the lifecycle of one subject: a principal, or a grant. -/
@[ext] structure StatusStatement (σ : Type) where
  method : StatusMethodId
  subject : σ
  state : LifecycleState
  sequence : UInt64
  observedAt : Timestamp
  validUntil : Timestamp
  issuer : PrincipalId
  extensions : CriticalExtensions
  ordered : observedAt ≤ validUntil

instance {σ : Type} [DecidableEq σ] : DecidableEq (StatusStatement σ) := fun _ _ =>
  decidable_of_iff' _ StatusStatement.ext_iff

abbrev PrincipalStatusStatement := StatusStatement PrincipalId
abbrev GrantStatusStatement := StatusStatement GrantId

def StatusStatement.new {σ : Type} (method : StatusMethodId) (subject : σ) (state : LifecycleState)
    (sequence : UInt64) (observedAt validUntil : Timestamp) (issuer : PrincipalId)
    (extensions : CriticalExtensions) : Except ModelError (StatusStatement σ) :=
  if h : observedAt ≤ validUntil then
    .ok ⟨method, subject, state, sequence, observedAt, validUntil, issuer, extensions, h⟩
  else .error .invalidStatus

@[simp] theorem StatusStatement.new_self {σ : Type} (s : StatusStatement σ) :
    StatusStatement.new s.method s.subject s.state s.sequence s.observedAt s.validUntil s.issuer
      s.extensions = .ok s := by
  simp [StatusStatement.new, s.ordered]

structure SignedStatus (σ : Type) where
  statement : StatusStatement σ
  signature : SignatureEnvelope
  deriving DecidableEq

abbrev SignedPrincipalStatus := SignedStatus PrincipalId
abbrev SignedGrantStatus := SignedStatus GrantId

end AuthsProof
