import AuthsProof.Receipts.Claims

/-! Decision and execution receipts, the signed envelopes and containers that carry them, and the
minimized audit export. -/

namespace AuthsProof.Receipts

open Sorting Text

def maxReasonCount : Nat := 32
def maxReasonBytes : Nat := 128
def maxAuditExecutions : Nat := 64
def maxAuditArtifacts : Nat := 64
def maxAuditBytes : Nat := 16 * 1024 * 1024
def maxPortableReceiptBytes : Nat := 1024 * 1024

abbrev ReceiptId := Digest

def isAsciiWhitespace (c : Char) : Bool :=
  c == ' ' || c == '\t' || c == '\n' || c.toNat == 0x0C || c == '\r'

/-- One to `maximum` bytes without ASCII control characters or whitespace. -/
def tokenText (maximum : Nat) (value : String) : Bool :=
  !(value.isEmpty || maximum < value.utf8ByteSize ||
    value.toList.any fun c => isAsciiControl c || isAsciiWhitespace c)

def validateReasons (reasons : List String) : Except ReceiptError Unit :=
  require (reasons ≠ [] ∧ reasons.length ≤ maxReasonCount ∧
    reasons.all (tokenText maxReasonBytes) = true) .invalidReason

def validateAuditMediaType (value : String) : Except ReceiptError Unit :=
  require (tokenText 256 value = true) .limitExceeded

inductive DecisionClass where
  | authorized
  | denied
  | indeterminate
  deriving DecidableEq

inductive ExecutionOutcome where
  | succeeded
  | failed
  | indeterminate
  deriving DecidableEq

/-- Public identity and key reference used to attest receipts. -/
structure ReceiptSigner where
  verifier : PrincipalId
  verificationMethod : VerificationMethod
  suite : SignatureSuiteId
  deriving DecidableEq

/-- A canonical receipt with the signature of its attestor. -/
structure Attested (R : Type) where
  receipt : R
  signer : ReceiptSigner
  signature : SignatureBytes
  deriving DecidableEq

/-- Canonical linked container; the execution embeds the decision it names. -/
inductive PortableReceipt where
  | decision (attestedDecision : Bytes)
  | execution (attestedDecision attestedExecution : Bytes)
  deriving DecidableEq

/-- One optionally disclosed artifact of an audit export. -/
structure AuditArtifact where
  mediaType : String
  digest : Digest
  bytes : Option Bytes
  valid : validateAuditMediaType mediaType = .ok ()
  deriving DecidableEq

def AuditArtifact.ofParts (mediaType : String) (digest : Digest) (bytes : Option Bytes) :
    Except ReceiptError AuditArtifact :=
  match h : validateAuditMediaType mediaType with
  | .error error => .error error
  | .ok () => .ok ⟨mediaType, digest, bytes, h⟩

def AuditArtifact.disclosed [Sha256] (mediaType : String) (bytes : Bytes) :
    Except ReceiptError AuditArtifact := do
  validateAuditMediaType mediaType
  require (bytes.length ≤ maxAuditBytes) .limitExceeded
  AuditArtifact.ofParts mediaType (Sha256.digest bytes) (some bytes)

def AuditArtifact.redacted (mediaType : String) (digest : Digest) : Except ReceiptError AuditArtifact :=
  AuditArtifact.ofParts mediaType digest none

/-- The order of artifacts in an export. -/
def AuditArtifact.key (artifact : AuditArtifact) : Digest ×ₗ String :=
  toLex (artifact.digest, artifact.mediaType)

def AuditArtifact.disclosedLength (artifact : AuditArtifact) : Nat :=
  (artifact.bytes.map List.length).getD 0

theorem AuditArtifact.ofParts_self (artifact : AuditArtifact) :
    AuditArtifact.ofParts artifact.mediaType artifact.digest artifact.bytes = .ok artifact := by
  have hvalid := artifact.valid
  unfold AuditArtifact.ofParts
  split
  · next h =>
    rw [hvalid] at h
    cases h
  · rfl

section Receipts

variable [ClaimsJson]

def validateProfileClaims (value : Bytes) (expectedProfile : Option ProfileRef)
    (expectedPhase : ProfileReceiptClaimPhase) : Except ReceiptError Unit := do
  let decoded ← decodeProfileReceiptClaims value
  require (decoded.phase = expectedPhase ∧ ∀ profile ∈ expectedProfile, decoded.profile = profile)
    .malformed

/-- The public record of a decision. -/
structure DecisionReceipt where
  proofDigest : Digest
  actionDigest : Digest
  contextDigest : ContextDigest
  principalStatus : StatusSnapshotId
  grantStatus : StatusSnapshotId
  profile : ProfileRef
  decision : DecisionClass
  reasons : List String
  decidedAt : Timestamp
  profileClaims : Bytes
  reasonsValid : validateReasons reasons = .ok ()
  claimsValid : validateProfileClaims profileClaims (some profile) .decision = .ok ()
  deriving DecidableEq

def DecisionReceipt.new (proofDigest actionDigest : Digest) (contextDigest : ContextDigest)
    (principalStatus grantStatus : StatusSnapshotId) (profile : ProfileRef) (decision : DecisionClass)
    (reasons : List String) (decidedAt : Timestamp) (profileClaims : Bytes) :
    Except ReceiptError DecisionReceipt :=
  match hreasons : validateReasons reasons with
  | .error error => .error error
  | .ok () =>
    match hclaims : validateProfileClaims profileClaims (some profile) .decision with
    | .error error => .error error
    | .ok () => .ok {
        proofDigest, actionDigest, contextDigest, principalStatus, grantStatus, profile, decision,
        reasons, decidedAt, profileClaims
        reasonsValid := hreasons
        claimsValid := hclaims }

theorem DecisionReceipt.new_self (r : DecisionReceipt) :
    DecisionReceipt.new r.proofDigest r.actionDigest r.contextDigest r.principalStatus r.grantStatus
      r.profile r.decision r.reasons r.decidedAt r.profileClaims = .ok r := by
  have hreasons := r.reasonsValid
  have hclaims := r.claimsValid
  unfold DecisionReceipt.new
  split
  · next h =>
    rw [hreasons] at h
    cases h
  · split
    · next h =>
      rw [hclaims] at h
      cases h
    · rfl

/-- The record of an execution. -/
structure ExecutionReceipt where
  decisionReceipt : ReceiptId
  executionLease : Digest
  commandDigest : Digest
  outcome : ExecutionOutcome
  resultDigest : Option Digest
  completedAt : Timestamp
  profileClaims : Bytes
  claimsValid : validateProfileClaims profileClaims none .execution = .ok ()
  deriving DecidableEq

def ExecutionReceipt.new (decisionReceipt : ReceiptId) (executionLease commandDigest : Digest)
    (outcome : ExecutionOutcome) (resultDigest : Option Digest) (completedAt : Timestamp)
    (profileClaims : Bytes) : Except ReceiptError ExecutionReceipt :=
  match hclaims : validateProfileClaims profileClaims none .execution with
  | .error error => .error error
  | .ok () => .ok {
      decisionReceipt, executionLease, commandDigest, outcome, resultDigest, completedAt, profileClaims
      claimsValid := hclaims }

theorem ExecutionReceipt.new_self (r : ExecutionReceipt) :
    ExecutionReceipt.new r.decisionReceipt r.executionLease r.commandDigest r.outcome r.resultDigest
      r.completedAt r.profileClaims = .ok r := by
  have hclaims := r.claimsValid
  unfold ExecutionReceipt.new
  split
  · next h =>
    rw [hclaims] at h
    cases h
  · rfl

abbrev AttestedDecisionReceipt := Attested DecisionReceipt
abbrev AttestedExecutionReceipt := Attested ExecutionReceipt

end Receipts

/-! ## Disclosures -/

inductive ReceiptInspectionError where
  | receiptMalformed
  | receiptNonCanonical
  | receiptUnsupported
  | receiptLimitExceeded
  | receiptIdMismatch
  | receiptLinkageMismatch
  | unexpectedSigner
  | invalidSignature
  | disclosureRequired
  | disclosureMalformed
  | disclosureNonCanonical
  | unsupportedDisclosure
  | disclosureLimitExceeded
  | disclosureReceiptMismatch
  | disclosureProfileMismatch
  | disclosureCommandMismatch
  | disclosureResultMismatch
  | unsupportedProfile
  | invalidProfileMaterial
  | projectionLimitExceeded
  | tenantOutsideBounds
  deriving DecidableEq

def maxDisclosureCommandBytes : Nat := 1024 * 1024
def maxDisclosureResultBytes : Nat := 1024 * 1024
def disclosureKind : UInt8 := 0

/-- The command and the result that a receipt commits to. -/
structure ReceiptDisclosure where
  receiptId : ReceiptId
  profile : ProfileRef
  command : Bytes
  result : Option Bytes
  commandBounded : command ≠ [] ∧ command.length ≤ maxDisclosureCommandBytes
  resultBounded : ∀ value ∈ result, value ≠ [] ∧ value.length ≤ maxDisclosureResultBytes
  deriving DecidableEq

def ReceiptDisclosure.new (receiptId : ReceiptId) (profile : ProfileRef) (command : Bytes)
    (result : Option Bytes) : Except ReceiptInspectionError ReceiptDisclosure :=
  if hcommand : command ≠ [] ∧ command.length ≤ maxDisclosureCommandBytes then
    if hresult : ∀ value ∈ result, value ≠ [] ∧ value.length ≤ maxDisclosureResultBytes then
      .ok ⟨receiptId, profile, command, result, hcommand, hresult⟩
    else .error .disclosureLimitExceeded
  else .error .disclosureLimitExceeded

theorem ReceiptDisclosure.new_self (d : ReceiptDisclosure) :
    ReceiptDisclosure.new d.receiptId d.profile d.command d.result = .ok d := by
  rw [ReceiptDisclosure.new, dif_pos d.commandBounded, dif_pos d.resultBounded]

end AuthsProof.Receipts
