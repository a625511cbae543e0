import AuthsProof.Receipts.Model

/-! The deterministic encodings of receipts, signed receipts, disclosures and portable containers, and
their strict decoders. -/

namespace AuthsProof.Receipts

open Wire

/-- How the decoders of a format name their failures. -/
class ReadFailure (ε : Type) where
  malformed : ε
  nonCanonical : ε
  unsupported : ε

instance : ReadFailure ReceiptError := ⟨.malformed, .nonCanonical, .unsupportedProtocol⟩

instance : ReadFailure ReceiptInspectionError :=
  ⟨.disclosureMalformed, .disclosureNonCanonical, .unsupportedDisclosure⟩

namespace Read

variable {ε : Type} [ReadFailure ε] [Cbor]

def item {α : Type} (read : Bytes → Option (α × Bytes)) : Reader ε α := fun input =>
  match read input with
  | some result => .ok result
  | none => .error ReadFailure.malformed

def uint (width : Nat) : Reader ε UInt64 := do
  let value ← item Cbor.readUint
  ensure (value.toNat < 2 ^ width) ReadFailure.malformed
  pure value

def u8 : Reader ε UInt8 := do
  let value ← uint 8
  pure value.toUInt8

def u16 : Reader ε UInt16 := do
  let value ← uint 16
  pure value.toUInt16

def u64 : Reader ε UInt64 := item Cbor.readUint

def str : Reader ε String := item Cbor.readText

def bytes : Reader ε Bytes := item Cbor.readBytes

def parsed {α : Type} (parse : String → Except ModelError α) : Reader ε α := do
  fromExcept ((parse (← str)).mapError fun _ => ReadFailure.malformed)

def exactMap (expected : Nat) : Reader ε Unit := do
  ensure ((← item Cbor.readMap) = some expected) ReadFailure.malformed

def keyDecode (expected : UInt8) : Reader ε Unit := do
  ensure ((← u8) = expected) ReadFailure.nonCanonical

def version : Reader ε Unit := do
  ensure ((← u16) = protocolV1) ReadFailure.unsupported

def digest : Reader ε Digest := do
  match Digest.new (← bytes) with
  | some digest => pure digest
  | none => fromExcept (.error ReadFailure.malformed)

def isNull : Reader ε Bool := fun input =>
  match Cbor.isNull input with
  | some value => .ok (value, input)
  | none => .error ReadFailure.malformed

/-- `null`, or what `read` reads. -/
def nullable {α : Type} (read : Reader ε α) : Reader ε (Option α) := do
  if ← isNull then
    item Cbor.readNull
    pure none
  else
    let value ← read
    pure (some value)

/-- A profile identifier, and its version under the next key. -/
def profile (versionKey : UInt8) : Reader ε ProfileRef := do
  let id ← parsed ProfileId.parse
  keyDecode versionKey
  let version ← u16
  fromExcept ((ProfileRef.new id version).mapError fun _ => ReadFailure.malformed)

/-- A reader of a whole input. -/
def complete {α : Type} (read : Reader ε α) (input : Bytes) : Except ε α :=
  match read.run input with
  | .error error => .error error
  | .ok (value, rest) => if rest = [] then .ok value else .error ReadFailure.malformed

end Read

section Encoders

variable [Cbor]

def decisionCode : DecisionClass → UInt8
  | .authorized => 0
  | .denied => 1
  | .indeterminate => 2

def outcomeCode : ExecutionOutcome → UInt8
  | .succeeded => 0
  | .failed => 1
  | .indeterminate => 2

variable [ClaimsJson]

def encodeDecision (receipt : DecisionReceipt) : Bytes :=
  [Cbor.map 12,
    encodeKey 0, encodeU16 protocolV1,
    encodeKey 1, encodeDigest receipt.proofDigest,
    encodeKey 2, encodeDigest receipt.actionDigest,
    encodeKey 3, encodeDigest receipt.contextDigest,
    encodeKey 4, encodeDigest receipt.principalStatus,
    encodeKey 5, encodeDigest receipt.grantStatus,
    encodeKey 6, Cbor.text receipt.profile.id.str,
    encodeKey 7, encodeU16 receipt.profile.version,
    encodeKey 8, encodeU8 (decisionCode receipt.decision),
    encodeKey 9, encodeList Cbor.text receipt.reasons,
    encodeKey 10, encodeU64 receipt.decidedAt,
    encodeKey 11, Cbor.bytes receipt.profileClaims].flatten

def encodeExecution (receipt : ExecutionReceipt) : Bytes :=
  [Cbor.map 8,
    encodeKey 0, encodeU16 protocolV1,
    encodeKey 1, encodeDigest receipt.decisionReceipt,
    encodeKey 2, encodeDigest receipt.executionLease,
    encodeKey 3, encodeDigest receipt.commandDigest,
    encodeKey 4, encodeU8 (outcomeCode receipt.outcome),
    encodeKey 5, encodeOptional encodeDigest receipt.resultDigest,
    encodeKey 6, encodeU64 receipt.completedAt,
    encodeKey 7, Cbor.bytes receipt.profileClaims].flatten

omit [ClaimsJson] in
def encodeAttested (kind : UInt8) (payload : Bytes) (signer : ReceiptSigner)
    (signature : SignatureBytes) : Bytes :=
  [Cbor.map 7,
    encodeKey 0, encodeU16 protocolV1,
    encodeKey 1, encodeU8 kind,
    encodeKey 2, Cbor.bytes payload,
    encodeKey 3, Cbor.text signer.verifier.str,
    encodeKey 4, Cbor.text signer.verificationMethod.str,
    encodeKey 5, Cbor.text signer.suite.str,
    encodeKey 6, Cbor.bytes signature.bytes].flatten

def encodeAttestedDecision (attested : AttestedDecisionReceipt) : Bytes :=
  encodeAttested 0 (encodeDecision attested.receipt) attested.signer attested.signature

def encodeAttestedExecution (attested : AttestedExecutionReceipt) : Bytes :=
  encodeAttested 1 (encodeExecution attested.receipt) attested.signer attested.signature

omit [ClaimsJson] in
def encodeReceiptDisclosure (disclosure : ReceiptDisclosure) : Bytes :=
  [Cbor.map 7,
    encodeKey 0, encodeU16 protocolV1,
    encodeKey 1, encodeU8 disclosureKind,
    encodeKey 2, encodeDigest disclosure.receiptId,
    encodeKey 3, Cbor.text disclosure.profile.id.str,
    encodeKey 4, encodeU16 disclosure.profile.version,
    encodeKey 5, Cbor.bytes disclosure.command,
    encodeKey 6, encodeOptional Cbor.bytes disclosure.result].flatten

end Encoders

section Decoders

variable [Cbor]

open Read

def decisionOfCode : UInt8 → Except ReceiptError DecisionClass
  | 0 => .ok .authorized
  | 1 => .ok .denied
  | 2 => .ok .indeterminate
  | _ => .error .malformed

def outcomeOfCode : UInt8 → Except ReceiptError ExecutionOutcome
  | 0 => .ok .succeeded
  | 1 => .ok .failed
  | 2 => .ok .indeterminate
  | _ => .error .malformed

/-- A definite-length array of at most `maximum` items. -/
def definiteArray (maximum : Nat) : Reader ReceiptError Nat := do
  match ← item Cbor.readArray with
  | none => fromExcept (.error .malformed)
  | some count => do
    ensure (count ≤ maximum) .limitExceeded
    pure count

def counted {α : Type} (maximum : Nat) (read : Reader ReceiptError α) : Reader ReceiptError (List α) := do
  let count ← definiteArray maximum
  readMany read count

variable [ClaimsJson]

/-- The members of a decision receipt, and the receipt they make. -/
def decisionMembers : Reader ReceiptError (Except ReceiptError DecisionReceipt) := do
  exactMap 12
  keyDecode 0
  version
  keyDecode 1
  let proof ← digest
  keyDecode 2
  let action ← digest
  keyDecode 3
  let context ← digest
  keyDecode 4
  let principalStatus ← digest
  keyDecode 5
  let grantStatus ← digest
  keyDecode 6
  let profile ← profile 7
  keyDecode 8
  let decision ← fromExcept (decisionOfCode (← u8))
  keyDecode 9
  let reasons ← counted maxReasonCount str
  keyDecode 10
  let decidedAt ← u64
  keyDecode 11
  let profileClaims ← bytes
  pure (DecisionReceipt.new proof action context principalStatus grantStatus profile decision reasons
    decidedAt profileClaims)

def executionMembers : Reader ReceiptError (Except ReceiptError ExecutionReceipt) := do
  exactMap 8
  keyDecode 0
  version
  keyDecode 1
  let decision ← digest
  keyDecode 2
  let lease ← digest
  keyDecode 3
  let command ← digest
  keyDecode 4
  let outcome ← fromExcept (outcomeOfCode (← u8))
  keyDecode 5
  let result ← nullable digest
  keyDecode 6
  let completedAt ← u64
  keyDecode 7
  let profileClaims ← bytes
  pure (ExecutionReceipt.new decision lease command outcome result completedAt profileClaims)

def decodeDecision (input : Bytes) : Except ReceiptError DecisionReceipt := do
  let receipt ← (← complete decisionMembers input)
  require (encodeDecision receipt = input) .nonCanonical
  pure receipt

def decodeExecution (input : Bytes) : Except ReceiptError ExecutionReceipt := do
  let receipt ← (← complete executionMembers input)
  require (encodeExecution receipt = input) .nonCanonical
  pure receipt

omit [ClaimsJson] in
/-- The kind, payload, signer and signature of a signed receipt. -/
def attestedMembers : Reader ReceiptError (UInt8 × Bytes × ReceiptSigner × SignatureBytes) := do
  exactMap 7
  keyDecode 0
  version
  keyDecode 1
  let kind ← u8
  keyDecode 2
  let payload ← bytes
  keyDecode 3
  let verifier ← parsed PrincipalId.parse
  keyDecode 4
  let method ← parsed VerificationMethod.parse
  keyDecode 5
  let suite ← parsed RegistryId.parse
  keyDecode 6
  let signature ← fromExcept ((SignatureBytes.new (← bytes)).mapError fun _ => .malformed)
  pure (kind, payload, ⟨verifier, method, suite⟩, signature)

omit [ClaimsJson] in
def decodeAttested (input : Bytes) :
    Except ReceiptError (UInt8 × Bytes × ReceiptSigner × SignatureBytes) := do
  require (input.length ≤ maxAuditBytes) .limitExceeded
  complete attestedMembers input

omit [ClaimsJson] in
/-- The shared decoder of signed receipts of one kind. -/
def decodeAttestedAs {R : Type} (kind : UInt8) (decode : Bytes → Except ReceiptError R)
    (encode : Attested R → Bytes) (input : Bytes) : Except ReceiptError (Attested R) := do
  let (found, payload, signer, signature) ← decodeAttested input
  require (found = kind) .malformed
  let receipt ← decode payload
  require (encode ⟨receipt, signer, signature⟩ = input) .nonCanonical
  pure ⟨receipt, signer, signature⟩

def decodeAttestedDecision : Bytes → Except ReceiptError AttestedDecisionReceipt :=
  decodeAttestedAs 0 decodeDecision encodeAttestedDecision

def decodeAttestedExecution : Bytes → Except ReceiptError AttestedExecutionReceipt :=
  decodeAttestedAs 1 decodeExecution encodeAttestedExecution

omit [ClaimsJson] in
def disclosureMembers :
    Reader ReceiptInspectionError (Except ReceiptInspectionError ReceiptDisclosure) := do
  exactMap 7
  keyDecode 0
  version
  keyDecode 1
  ensure ((← u8) = disclosureKind) .unsupportedDisclosure
  keyDecode 2
  let receiptId ← digest
  keyDecode 3
  let profile ← profile 4
  keyDecode 5
  let command ← bytes
  keyDecode 6
  let result ← nullable bytes
  pure (ReceiptDisclosure.new receiptId profile command result)

omit [ClaimsJson] in
def decodeReceiptDisclosure (input : Bytes) : Except ReceiptInspectionError ReceiptDisclosure := do
  require (input.length ≤ maxDisclosureCommandBytes + maxDisclosureResultBytes + 1024)
    .disclosureLimitExceeded
  let disclosure ← (← complete disclosureMembers input)
  require (encodeReceiptDisclosure disclosure = input) .disclosureNonCanonical
  pure disclosure

end Decoders

/-! ## Identifiers -/

section Identifiers

variable [Cbor] [Sha256] [ClaimsJson]

def decisionReceiptId (receipt : DecisionReceipt) : ReceiptId := domainHash 7 (encodeDecision receipt)

def executionReceiptId (receipt : ExecutionReceipt) : ReceiptId :=
  domainHash 8 (encodeExecution receipt)

end Identifiers

/-! ## Portable containers -/

section Portable

variable [Cbor] [ClaimsJson]

open Read

omit [Cbor] [ClaimsJson] in
def boundedPortable (value : Bytes) : Except ReceiptError Bytes := do
  require (value ≠ [] ∧ value.length ≤ maxPortableReceiptBytes) .limitExceeded
  pure value

omit [ClaimsJson] in
def portableDecisionBytes (attestedDecision : Bytes) : Bytes :=
  [Cbor.map 3, encodeU8 1, encodeU8 1, encodeU8 2, Cbor.text "decision", encodeU8 3,
    Cbor.bytes attestedDecision].flatten

omit [ClaimsJson] in
def portableExecutionBytes (attestedDecision attestedExecution : Bytes) : Bytes :=
  [Cbor.map 4, encodeU8 1, encodeU8 1, encodeU8 2, Cbor.text "execution", encodeU8 3,
    Cbor.bytes attestedDecision, encodeU8 4, Cbor.bytes attestedExecution].flatten

def encodePortableDecision (attestedDecision : Bytes) : Except ReceiptError Bytes := do
  let decoded ← decodeAttestedDecision attestedDecision
  require (encodeAttestedDecision decoded = attestedDecision) .malformed
  boundedPortable (portableDecisionBytes attestedDecision)

def encodePortableExecution [Sha256] (attestedDecision attestedExecution : Bytes) :
    Except ReceiptError Bytes := do
  let decision ← decodeAttestedDecision attestedDecision
  let execution ← decodeAttestedExecution attestedExecution
  require (encodeAttestedDecision decision = attestedDecision ∧
    encodeAttestedExecution execution = attestedExecution ∧
    execution.receipt.decisionReceipt = decisionReceiptId decision.receipt) .malformed
  boundedPortable (portableExecutionBytes attestedDecision attestedExecution)

def encodePortable [Sha256] : PortableReceipt → Except ReceiptError Bytes
  | .decision attestedDecision => encodePortableDecision attestedDecision
  | .execution attestedDecision attestedExecution =>
    encodePortableExecution attestedDecision attestedExecution

omit [ClaimsJson] in
/-- The keys of a container are plain integers, and a wrong one is malformed. -/
def portableKey (expected : UInt8) : Reader ReceiptError Unit := do
  ensure ((← u8) = expected) .malformed

omit [ClaimsJson] in
def portableMembers : Reader ReceiptError PortableReceipt := do
  let length ← item Cbor.readMap
  ensure (length = some 3 ∨ length = some 4) .malformed
  portableKey 1
  portableKey 1
  portableKey 2
  let kind ← str
  portableKey 3
  let decision ← bytes
  if kind = "decision" ∧ length = some 3 then
    pure (.decision decision)
  else if kind = "execution" ∧ length = some 4 then do
    portableKey 4
    let execution ← bytes
    pure (.execution decision execution)
  else
    fromExcept (.error .malformed)

def decodePortableReceipt [Sha256] (input : Bytes) : Except ReceiptError PortableReceipt := do
  require (input ≠ [] ∧ input.length ≤ maxPortableReceiptBytes) .limitExceeded
  let value ← complete portableMembers input
  let canonical ← encodePortable value
  require (canonical = input) .malformed
  pure value

end Portable

end AuthsProof.Receipts
