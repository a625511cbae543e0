import AuthsProof.Receipts.Codec

/-! The audit export: a decision, the executions it led to and disclosed or redacted artifacts. -/

namespace AuthsProof.Receipts

open Sorting Wire Read

variable [Cbor] [Sha256] [ClaimsJson]

def verifyAttestedDecisionBytes (input : Bytes) (expected : ReceiptId) :
    Except ReceiptError AttestedDecisionReceipt := do
  let receipt ← decodeAttestedDecision input
  require (decisionReceiptId receipt.receipt = expected) .digestMismatch
  pure receipt

def verifyAttestedExecutionBytes (input : Bytes) (expected : ReceiptId) :
    Except ReceiptError AttestedExecutionReceipt := do
  let receipt ← decodeAttestedExecution input
  require (executionReceiptId receipt.receipt = expected) .digestMismatch
  pure receipt

/-- An execution of a bundle belongs to the decision of the bundle. -/
def checkExecution (decisionId : ReceiptId) (entry : ReceiptId × Bytes) : Except ReceiptError Unit := do
  let receipt ← verifyAttestedExecutionBytes entry.2 entry.1
  require (receipt.receipt.decisionReceipt = decisionId) .linkageMismatch

omit [Cbor] [ClaimsJson] in
def AuditArtifact.digestMatches (artifact : AuditArtifact) : Bool :=
  match artifact.bytes with
  | some bytes => Sha256.digest bytes == artifact.digest
  | none => true

omit [Cbor] [Sha256] [ClaimsJson] in
def payloadTotal (decision : Bytes) (executions : List (ReceiptId × Bytes))
    (artifacts : List AuditArtifact) : Nat :=
  decision.length + (executions.map fun entry => entry.2.length).sum +
    (artifacts.map AuditArtifact.disclosedLength).sum

/-- What a bundle has to satisfy, on collections that are sorted already. -/
def checkBundle (decisionId : ReceiptId) (decision : Bytes) (executions : List (ReceiptId × Bytes))
    (artifacts : List AuditArtifact) : Except ReceiptError Unit := do
  let _ ← verifyAttestedDecisionBytes decision decisionId
  require (executions.length ≤ maxAuditExecutions ∧ artifacts.length ≤ maxAuditArtifacts) .limitExceeded
  require (adjacentDistinct (executions.map Prod.fst) = true) .duplicate
  executions.forM (checkExecution decisionId)
  require (adjacentDistinct (artifacts.map AuditArtifact.digest) = true) .duplicate
  require (artifacts.all AuditArtifact.digestMatches = true) .digestMismatch
  require (payloadTotal decision executions artifacts ≤ maxAuditBytes) .limitExceeded

/-- A portable, minimized decision and execution export. -/
structure AuditBundle where
  decisionId : ReceiptId
  decision : Bytes
  executions : List (ReceiptId × Bytes)
  artifacts : List AuditArtifact
  executionsSorted : executions.Pairwise fun a b => a.1 ≤ b.1
  artifactsSorted : artifacts.Pairwise fun a b => a.key ≤ b.key
  checked : checkBundle decisionId decision executions artifacts = .ok ()
  deriving DecidableEq

def AuditBundle.new (decisionId : ReceiptId) (decision : Bytes) (executions : List (ReceiptId × Bytes))
    (artifacts : List AuditArtifact) : Except ReceiptError AuditBundle :=
  match h : checkBundle decisionId decision (sortByKey Prod.fst executions)
      (sortByKey AuditArtifact.key artifacts) with
  | .error error => .error error
  | .ok () => .ok {
      decisionId, decision
      executions := sortByKey Prod.fst executions
      artifacts := sortByKey AuditArtifact.key artifacts
      executionsSorted := sortByKey_pairwise _ _
      artifactsSorted := sortByKey_pairwise _ _
      checked := h }

omit [Sha256] [ClaimsJson] in
def encodeAuditExecution (entry : ReceiptId × Bytes) : Bytes :=
  [Cbor.array 2, encodeDigest entry.1, Cbor.bytes entry.2].flatten

omit [Sha256] [ClaimsJson] in
def encodeAuditArtifact (artifact : AuditArtifact) : Bytes :=
  [Cbor.array 3, Cbor.text artifact.mediaType, encodeDigest artifact.digest,
    encodeOptional Cbor.bytes artifact.bytes].flatten

/-- The canonical bytes of a bundle of any size. -/
def auditBundleBytes (bundle : AuditBundle) : Bytes :=
  [Cbor.map 5,
    encodeKey 0, encodeU16 protocolV1,
    encodeKey 1, encodeDigest bundle.decisionId,
    encodeKey 2, Cbor.bytes bundle.decision,
    encodeKey 3, encodeList encodeAuditExecution bundle.executions,
    encodeKey 4, encodeList encodeAuditArtifact bundle.artifacts].flatten

def encodeAuditBundle (bundle : AuditBundle) : Except ReceiptError Bytes := do
  require ((auditBundleBytes bundle).length ≤ maxAuditBytes) .limitExceeded
  pure (auditBundleBytes bundle)

omit [Sha256] [ClaimsJson] in
def exactArray (expected : Nat) : Reader ReceiptError Unit := do
  ensure ((← item Cbor.readArray) = some expected) .malformed

omit [Sha256] [ClaimsJson] in
def auditExecution : Reader ReceiptError (ReceiptId × Bytes) := do
  exactArray 2
  let id ← digest
  let receipt ← bytes
  pure (id, receipt)

omit [Sha256] [ClaimsJson] in
def auditArtifact : Reader ReceiptError AuditArtifact := do
  exactArray 3
  let mediaType ← str
  let artifactDigest ← digest
  let disclosed ← nullable bytes
  fromExcept (AuditArtifact.ofParts mediaType artifactDigest disclosed)

def auditMembers : Reader ReceiptError (Except ReceiptError AuditBundle) := do
  exactMap 5
  keyDecode 0
  version
  keyDecode 1
  let decisionId ← digest
  keyDecode 2
  let decision ← bytes
  keyDecode 3
  let executions ← counted maxAuditExecutions auditExecution
  keyDecode 4
  let artifacts ← counted maxAuditArtifacts auditArtifact
  pure (AuditBundle.new decisionId decision executions artifacts)

def decodeAuditBundle (input : Bytes) : Except ReceiptError AuditBundle := do
  require (input.length ≤ maxAuditBytes) .limitExceeded
  let bundle ← (← complete auditMembers input)
  let canonical ← encodeAuditBundle bundle
  require (canonical = input) .nonCanonical
  pure bundle

def auditBundleId (bundle : AuditBundle) : Except ReceiptError Digest := do
  let canonical ← encodeAuditBundle bundle
  pure (domainHash 9 canonical)

end AuthsProof.Receipts
