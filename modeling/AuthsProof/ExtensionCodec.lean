import AuthsProof.ContextCodec
import AuthsProof.Narrowing

/-! The codec of the payloads of the core critical extensions, and of the signed observations that
travel as attachments. -/

namespace AuthsProof

open Sorting Wire

section Encoders

variable [Cbor]

def encodeFactValue : FactValue → Bytes
  | .uint value => encodeU64 value
  | .bytes value => Cbor.bytes value.bytes
  | .text value => Cbor.text value.str

def encodeObservationFact (fact : ObservationFact) : Bytes :=
  [Cbor.map 2, encodeKey 0, Cbor.text fact.name.str, encodeKey 1, encodeFactValue fact.value].flatten

def encodeObservationStatement (statement : ObservationStatement) : Bytes :=
  [Cbor.map 6,
    encodeKey 0, encodeU16 protocolV1,
    encodeKey 1, Cbor.text statement.observer.str,
    encodeKey 2, Cbor.text statement.schema.str,
    encodeKey 3, Cbor.text statement.subject.str,
    encodeKey 4, encodeU64 statement.observedAt,
    encodeKey 5, encodeList encodeObservationFact statement.facts.entries].flatten

def encodeSignedObservation (observation : SignedObservation) : Bytes :=
  [Cbor.map 3, encodeKey 0, encodeObservationStatement observation.statement,
    encodeKey 1, encodeSignature observation.signature,
    encodeKey 2, encodeList encodeEvidence observation.evidence].flatten

def encodeU32 (value : UInt32) : Bytes := Cbor.uint value.toUInt64

def encodeCondition (condition : ObservationCondition) : Bytes :=
  match condition.test with
  | .eqLiteral literal =>
    [Cbor.map 3, encodeKey 0, encodeKey 0, encodeKey 1, Cbor.text condition.name.str,
      encodeKey 2, encodeFactValue literal].flatten
  | .eqAction name =>
    [Cbor.map 3, encodeKey 0, encodeKey 1, encodeKey 1, Cbor.text condition.name.str,
      encodeKey 2, Cbor.text name.str].flatten
  | .uintRange range =>
    [Cbor.map 4, encodeKey 0, encodeKey 2, encodeKey 1, Cbor.text condition.name.str,
      encodeKey 2, encodeU64 range.lo, encodeKey 3, encodeU64 range.hi].flatten
  | .member values =>
    [Cbor.map 3, encodeKey 0, encodeKey 3, encodeKey 1, Cbor.text condition.name.str,
      encodeKey 2, encodeList encodeFactValue values.items].flatten

def encodeObservationSubject : ObservationSubject → Bytes
  | .resource resource =>
    [Cbor.map 2, encodeKey 0, encodeKey 0, encodeKey 1, Cbor.text resource.str].flatten
  | .actionFact name =>
    [Cbor.map 2, encodeKey 0, encodeKey 1, encodeKey 1, Cbor.text name.str].flatten

def encodeObservationRequirement (requirement : ObservationRequirement) : Bytes :=
  [Cbor.map 5,
    encodeKey 0, Cbor.text requirement.observerAnchor.str,
    encodeKey 1, Cbor.text requirement.schema.str,
    encodeKey 2, encodeObservationSubject requirement.subject,
    encodeKey 3, encodeU32 requirement.maxAgeSeconds,
    encodeKey 4, encodeList encodeCondition requirement.conditions].flatten

def encodeObservationRequirements (requirements : ObservationRequirements) : Bytes :=
  encodeList encodeObservationRequirement requirements.items

def encodePolicyCommitment (commitment : PolicyCommitment) : Bytes :=
  [Cbor.map 5,
    encodeKey 0, Cbor.text commitment.policyType.str,
    encodeKey 1, encodeU16 commitment.policyVersion,
    encodeKey 2, Cbor.text commitment.canonicalizationId.str,
    encodeKey 3, encodeDigest commitment.policyDigest,
    encodeKey 4, Cbor.text commitment.evaluatorSemanticId.str].flatten

def encodeBoundedPolicyCommitment (body : BoundedPolicyCommitment) : Bytes :=
  [Cbor.map 3, encodeKey 0, encodePolicyCommitment body.commitment,
    encodeKey 1, Cbor.bytes body.policy,
    encodeKey 2, encodeOptional encodeDigest body.parent].flatten

def observationSigningPreimage (statement : ObservationStatement) (descriptor : SignatureDescriptor) :
    Bytes :=
  signingPreimage 9 "" 0 (encodeSigningInput (encodeObservationStatement statement) descriptor)

variable [Sha256]

def observationRequirementId (requirement : ObservationRequirement) : ObservationRequirementId :=
  domainHash 11 (encodeObservationRequirement requirement)

def encodeApprovalRequirements (requirements : ApprovalRequirements) : Bytes :=
  encodeRequirementList requirements.items

omit [Cbor] in
/-- A commitment to canonical bytes under a non-empty application domain of at most 128 bytes; the
domains in use are the two constants below, so the length checks of the source never fail. -/
def domainCommitment (domain : String) (canonical : Bytes) : Digest :=
  Sha256.digest (utf8 "AUTHS-COMMITMENT" ++ bigEndian16 protocolV1 ++
    bigEndian16 (UInt16.ofNat domain.utf8ByteSize) ++ utf8 domain ++ bigEndian64 canonical.length ++
    canonical)

omit [Cbor] in
def boundedPolicyDigest (policy : Bytes) : Digest := domainCommitment boundedPolicyDigestDomain policy

omit [Cbor] in
def boundedPolicyLink (parentExtension : Bytes) : Digest :=
  domainCommitment boundedPolicyLinkDomain parentExtension

end Encoders

namespace Decode

variable [Cbor]

def u32 : Decoder UInt32 := do
  let value ← item Cbor.readUint
  ensure (value.toNat < 2 ^ 32) .malformed
  pure value.toUInt32

/-- An unsigned integer, a byte string or a text; the source looks at the type of the item first, and
each reader refuses every other type. -/
def factValue : Decoder FactValue := fun input =>
  match Cbor.readUint input with
  | some (value, rest) => .ok (.uint value, rest)
  | none =>
    match Cbor.readBytes input with
    | some (bytes, rest) =>
      if maxFactValueBytes < bytes.length then .error .limitExceeded
      else ((FactBytes.new bytes).mapError CodecError.model).map fun value => (.bytes value, rest)
    | none =>
      match Cbor.readText input with
      | some (text, rest) =>
        if maxFactValueTextBytes < text.utf8ByteSize then .error .limitExceeded
        else ((FactText.new text).mapError CodecError.model).map fun value => (.text value, rest)
      | none => .error .malformed

def observationFact : Decoder ObservationFact := do
  map 2
  key 0
  let name ← parsed FactName.parse
  key 1
  let value ← factValue
  pure ⟨name, value⟩

def observationStatement : Decoder ObservationStatement := do
  map 6
  key 0
  protocolVersion
  key 1
  let observer ← parsed PrincipalId.parse
  key 2
  let schema ← parsed ObservationSchemaId.parse
  key 3
  let subject ← parsed ResourceId.parse
  key 4
  let observedAt ← u64
  key 5
  let facts ← list maxObservationFacts observationFact
  let facts ← model (ObservationFacts.new facts)
  pure { observer, schema, subject, observedAt, facts }

def condition : Decoder ObservationCondition := do
  let entries ← item Cbor.readMap
  key 0
  let tag ← u8
  ensure (entries = some (if tag = 2 then 4 else 3)) .malformed
  key 1
  let name ← parsed FactName.parse
  key 2
  if tag = 0 then
    let literal ← factValue
    pure ⟨name, .eqLiteral literal⟩
  else if tag = 1 then
    let fact ← parsed FactName.parse
    pure ⟨name, .eqAction fact⟩
  else if tag = 2 then
    let lo ← u64
    key 3
    let hi ← u64
    let range ← model (UintRange.new lo hi)
    pure ⟨name, .uintRange range⟩
  else if tag = 3 then
    let values ← list maxMemberValues factValue
    let values ← model (MemberValues.new values)
    pure ⟨name, .member values⟩
  else fail .malformed

def observationSubject : Decoder ObservationSubject := do
  map 2
  key 0
  let kind ← u8
  key 1
  if kind = 0 then
    let resource ← parsed ResourceId.parse
    pure (.resource resource)
  else if kind = 1 then
    let name ← parsed FactName.parse
    pure (.actionFact name)
  else fail .malformed

def observationRequirement : Decoder ObservationRequirement := do
  map 5
  key 0
  let observerAnchor ← parsed ObserverAnchorId.parse
  key 1
  let schema ← parsed ObservationSchemaId.parse
  key 2
  let subject ← observationSubject
  key 3
  let maxAgeSeconds ← u32
  key 4
  let conditions ← list maxObservationConditions condition
  model (ObservationRequirement.new observerAnchor schema subject maxAgeSeconds conditions)

/-- A model error of a bounded collection, where too many items are a limit of the codec. -/
def collectionError : ModelError → CodecError
  | .collectionLimitExceeded => .limitExceeded
  | error => .model error

def observationRequirements : Decoder ObservationRequirements := do
  let requirements ← list maxObservationRequirementsPerGrant observationRequirement
  fromExcept ((ObservationRequirements.new requirements).mapError collectionError)

def approvalRequirements : Decoder ApprovalRequirements := do
  let requirements ← list maxApprovalRequirementsPerGrant approvalRequirement
  fromExcept ((ApprovalRequirements.new requirements).mapError collectionError)

def policyCommitment : Decoder PolicyCommitment := do
  map 5
  key 0
  let policyType ← parsed (PolicyIdentifier.parse · maxPolicyIdentifierBytes)
  key 1
  let policyVersion ← u16
  key 2
  let canonicalizationId ← parsed (PolicyIdentifier.parse · maxPolicyCanonicalizationBytes)
  key 3
  let policyDigest ← digestBytes
  key 4
  let evaluatorSemanticId ← parsed (PolicyIdentifier.parse · maxPolicyIdentifierBytes)
  model (PolicyCommitment.new policyType policyVersion canonicalizationId policyDigest
    evaluatorSemanticId)

def boundedPolicyFields : Decoder (PolicyCommitment × Bytes × Option Digest) := do
  map 3
  key 0
  let commitment ← policyCommitment
  key 1
  let policy ← boundedBytes maxBoundedPolicyBytes false
  key 2
  let parent ← optional digestBytes
  pure (commitment, policy, parent)

variable [Sha256]

def signedObservation (limits : VerifierLimits) : Decoder SignedObservation := do
  map 3
  key 0
  let statement ← observationStatement
  key 1
  let signature ← signature limits
  key 2
  let objects ← list maxObservationEvidence (evidence limits)
  model (SignedObservation.new statement signature objects)

end Decode

variable [Cbor] [Sha256]

def decodeSignedObservation (input : Bytes) (limits : VerifierLimits) :
    Except CodecError SignedObservation :=
  if maxObservationBytes < input.length then .error .limitExceeded
  else decodeCanonical (Decode.signedObservation limits) encodeSignedObservation input

omit [Sha256] in
def decodeObservationRequirements (input : Bytes) : Except CodecError ObservationRequirements :=
  if hardMaxExtensionBytes < input.length then .error .limitExceeded
  else decodeCanonical Decode.observationRequirements encodeObservationRequirements input

def decodeApprovalRequirements (input : Bytes) : Except CodecError ApprovalRequirements :=
  if hardMaxExtensionBytes < input.length then .error .limitExceeded
  else decodeCanonical Decode.approvalRequirements encodeApprovalRequirements input

/-- The body is built only when no bytes are left over, and its policy bytes must open to the
committed digest. -/
def decodeBoundedPolicyCommitment (input : Bytes) : Except CodecError BoundedPolicyCommitment :=
  if hardMaxExtensionBytes < input.length then .error .limitExceeded
  else
    match Decode.boundedPolicyFields.run input with
    | .error error => .error error
    | .ok ((commitment, policy, parent), rest) =>
      if rest ≠ [] then .error .malformed
      else
        match (BoundedPolicyCommitment.new commitment policy parent).mapError Decode.collectionError with
        | .error error => .error error
        | .ok body =>
          if encodeBoundedPolicyCommitment body ≠ input then .error .nonCanonical
          else if boundedPolicyDigest body.policy ≠ body.commitment.policyDigest then
            .error .digestMismatch
          else .ok body

end AuthsProof
