import AuthsProof.Exchange.Model

/-! Deterministic CBOR of the exchange messages. A decoder reads the fields, builds the message and
refuses input that is not its encoding. -/

namespace AuthsProof.Exchange

open Sorting Wire

inductive CodecError where
  | malformed
  | nonCanonical
  | unsupportedVersion
  | resourceLimit
  | cbor
  | model (error : ModelError)
  deriving DecidableEq

abbrev Decoder (α : Type) := Reader CodecError α

def challengeFields : Nat := 9
def requestFields : Nat := 7
def responseFields : Nat := 9
def capabilitiesFields : Nat := 5

def refusalToWire : RefusalKind → UInt8
  | .applicationPolicy => 0
  | .transportPolicy => 1
  | .authsVerdict => 2
  | .malformedInput => 3
  | .oversizedInput => 4
  | .unknownChallenge => 5
  | .expiredChallenge => 6
  | .consumedChallenge => 7

def refusalFromWire (value : UInt8) : Except CodecError RefusalKind :=
  match value with
  | 0 => .ok .applicationPolicy
  | 1 => .ok .transportPolicy
  | 2 => .ok .authsVerdict
  | 3 => .ok .malformedInput
  | 4 => .ok .oversizedInput
  | 5 => .ok .unknownChallenge
  | 6 => .ok .expiredChallenge
  | 7 => .ok .consumedChallenge
  | _ => .error .malformed

def decisionToWire : VerdictDecision → UInt8
  | .authorized => 0
  | .denied => 1
  | .indeterminate => 2

def decisionFromWire (value : UInt8) : Except CodecError VerdictDecision :=
  match value with
  | 0 => .ok .authorized
  | 1 => .ok .denied
  | 2 => .ok .indeterminate
  | _ => .error .malformed

section Encoders

variable [Cbor]

def encodeU32 (value : UInt32) : Bytes := Cbor.uint value.toUInt64

def encodeProfileBinding (profile : ProfileBinding) : Bytes :=
  [Cbor.map 3, encodeKey 1, encodeU16 profile.authsProtocol,
    encodeKey 2, Cbor.text profile.profileId.str,
    encodeKey 3, encodeU16 profile.profileVersion].flatten

def encodeCapabilities (message : ExchangeCapabilities) : Bytes :=
  [Cbor.map capabilitiesFields, encodeKey 1, encodeU16 exchangeVersionV1,
    encodeKey 2, encodeList encodeU16 message.exchangeVersions,
    encodeKey 3, encodeList encodeProfileBinding message.profiles,
    encodeKey 4, encodeU32 message.maxBodyBytes,
    encodeKey 5, encodeU32 message.maxProofBytes].flatten

def encodeChallenge (message : ActionChallenge) : Bytes :=
  [Cbor.map challengeFields, encodeKey 1, encodeU16 exchangeVersionV1,
    encodeKey 2, encodeDigest message.challenge,
    encodeKey 3, Cbor.text message.audience.str,
    encodeKey 4, encodeU64 message.expiresAt,
    encodeKey 5, encodeU32 message.maxBodyBytes,
    encodeKey 6, encodeU32 message.maxProofBytes,
    encodeKey 7, encodeU16 message.profile.authsProtocol,
    encodeKey 8, Cbor.text message.profile.profileId.str,
    encodeKey 9, encodeU16 message.profile.profileVersion].flatten

def encodeRequest (message : ActionSubmission) : Bytes :=
  [Cbor.map requestFields, encodeKey 1, encodeU16 exchangeVersionV1,
    encodeKey 2, encodeDigest message.challenge,
    encodeKey 3, encodeU16 message.profile.authsProtocol,
    encodeKey 4, Cbor.text message.profile.profileId.str,
    encodeKey 5, encodeU16 message.profile.profileVersion,
    encodeKey 6, Cbor.bytes message.body,
    encodeKey 7, Cbor.bytes message.proof].flatten

/-- The members of a response that depend on its outcome. -/
structure OutcomeFields where
  code : UInt8
  result : Bytes
  refusal : Option RefusalKind
  decision : Option VerdictDecision
  reasons : List String
  message : String

def OutcomeFields.ofVerdict (code : UInt8) (refusal : Option RefusalKind)
    (verdict : Option VerdictSummary) (message : String) : OutcomeFields where
  code
  result := []
  refusal
  decision := verdict.map VerdictSummary.decision
  reasons := (verdict.map VerdictSummary.reasons).getD []
  message

/-- A possibly applied effect carries no refusal kind and no result. -/
def outcomeFields : ExchangeOutcome → OutcomeFields
  | .completed result _ => ⟨0, result, none, none, [], ""⟩
  | .refused kind verdict message => .ofVerdict 1 (some kind) verdict message.str
  | .indeterminate verdict message => .ofVerdict 2 none verdict message.str

def encodeMetrics (metrics : ExchangeMetrics) : Bytes :=
  [Cbor.map 2, encodeKey 1, encodeU64 metrics.verificationMicros,
    encodeKey 2, encodeU64 metrics.executionMicros].flatten

def encodeResponse (message : ActionResponse) : Bytes :=
  let fields := outcomeFields message.outcome
  [Cbor.map responseFields, encodeKey 1, encodeU16 exchangeVersionV1,
    encodeKey 2, encodeOptional encodeDigest message.requestId,
    encodeKey 3, encodeU8 fields.code,
    encodeKey 4, Cbor.bytes fields.result,
    encodeKey 5, encodeOptional encodeU8 (fields.refusal.map refusalToWire),
    encodeKey 6, encodeOptional encodeU8 (fields.decision.map decisionToWire),
    encodeKey 7, encodeList Cbor.text fields.reasons,
    encodeKey 8, Cbor.text fields.message,
    encodeKey 9, encodeMetrics message.metrics].flatten

end Encoders

namespace Read

variable [Cbor]

def model {α : Type} (value : Except ModelError α) : Decoder α :=
  fromExcept (value.mapError CodecError.model)

def item {α : Type} (read : Bytes → Option (α × Bytes)) : Decoder α := fun input =>
  match read input with
  | some result => .ok result
  | none => .error .cbor

def uint (width : Nat) : Decoder UInt64 := do
  let value ← item Cbor.readUint
  ensure (value.toNat < 2 ^ width) .cbor
  pure value

def u8 : Decoder UInt8 := do
  let value ← uint 8
  pure value.toUInt8

def u16 : Decoder UInt16 := do
  let value ← uint 16
  pure value.toUInt16

def u32 : Decoder UInt32 := do
  let value ← uint 32
  pure value.toUInt32

def u64 : Decoder UInt64 := item Cbor.readUint

def str : Decoder String := item Cbor.readText

def parsed {α : Type} (parse : String → Except ModelError α) : Decoder α := do
  model (parse (← str))

def bytes : Decoder Bytes := item Cbor.readBytes

def exactMap (expected : Nat) : Decoder Unit := do
  ensure ((← item Cbor.readMap) = some expected) .malformed

def exactArray : Decoder Nat := do
  match ← item Cbor.readArray with
  | some length => pure length
  | none => fromExcept (.error .malformed)

def exactKey (expected : UInt8) : Decoder Unit := do
  ensure ((← u8) = expected) .nonCanonical

def exactVersion : Decoder Unit := do
  ensure ((← u16) = exchangeVersionV1) .unsupportedVersion

def array32 (bytes : Bytes) : Except CodecError Digest :=
  match Digest.new bytes with
  | some digest => .ok digest
  | none => .error .malformed

def digest : Decoder Digest := do
  fromExcept (array32 (← bytes))

def isNull : Decoder Bool := fun input =>
  match Cbor.isNull input with
  | some value => .ok (value, input)
  | none => .error .cbor

/-- `null`, or what `read` reads. -/
def nullable {α : Type} (read : Decoder α) : Decoder (Option α) := do
  if ← isNull then
    item Cbor.readNull
    pure none
  else
    let value ← read
    pure (some value)

def profileBinding : Decoder ProfileBinding := do
  exactMap 3
  exactKey 1
  let authsProtocol ← u16
  exactKey 2
  let profileId ← parsed ExchangeProfileId.parse
  exactKey 3
  let profileVersion ← u16
  model (ProfileBinding.new authsProtocol profileId profileVersion)

/-- A count of one to `maximum` items, and the items. -/
def counted {α : Type} (maximum : Nat) (read : Decoder α) : Decoder (List α) := do
  let count ← exactArray
  ensure (count ≠ 0 ∧ count ≤ maximum) .resourceLimit
  readMany read count

def capabilities : Decoder (List UInt16 × List ProfileBinding × UInt32 × UInt32) := do
  exactMap capabilitiesFields
  exactKey 1
  exactVersion
  exactKey 2
  let versions ← counted maxNegotiatedVersions u16
  exactKey 3
  let profiles ← counted maxNegotiatedProfiles profileBinding
  exactKey 4
  let maxBodyBytes ← u32
  exactKey 5
  let maxProofBytes ← u32
  pure (versions, profiles, maxBodyBytes, maxProofBytes)

def challenge : Decoder (Digest × ExchangeAudience × UInt64 × UInt32 × UInt32 × UInt16 ×
    ExchangeProfileId × UInt16) := do
  exactMap challengeFields
  exactKey 1
  exactVersion
  exactKey 2
  let challenge ← digest
  exactKey 3
  let audience ← parsed ExchangeAudience.parse
  exactKey 4
  let expiresAt ← u64
  exactKey 5
  let maxBodyBytes ← u32
  exactKey 6
  let maxProofBytes ← u32
  exactKey 7
  let authsProtocol ← u16
  exactKey 8
  let profileId ← parsed ExchangeProfileId.parse
  exactKey 9
  let profileVersion ← u16
  pure (challenge, audience, expiresAt, maxBodyBytes, maxProofBytes, authsProtocol, profileId,
    profileVersion)

/-- One to `maximum` bytes. -/
def payload (maximum : UInt32) : Decoder Bytes := do
  let bytes ← bytes
  ensure (bytes ≠ [] ∧ bytes.length ≤ maximum.toNat) .resourceLimit
  pure bytes

def request (challenge : ActionChallenge) :
    Decoder (Digest × UInt16 × ExchangeProfileId × UInt16 × Bytes × Bytes) := do
  exactMap requestFields
  exactKey 1
  exactVersion
  exactKey 2
  let submitted ← digest
  exactKey 3
  let authsProtocol ← u16
  exactKey 4
  let profileId ← parsed ExchangeProfileId.parse
  exactKey 5
  let profileVersion ← u16
  exactKey 6
  let body ← payload challenge.maxBodyBytes
  exactKey 7
  let proof ← payload challenge.maxProofBytes
  pure (submitted, authsProtocol, profileId, profileVersion, body, proof)

def reason : Decoder String := do
  let reason ← str
  ensure (reason ≠ "" ∧ reason.utf8ByteSize ≤ maxReasonBytes) .resourceLimit
  pure reason

def reasons : Decoder (List String) := do
  let count ← exactArray
  ensure (count ≤ maxReasonCount) .resourceLimit
  readMany reason count

/-- An optional code, and what it stands for. -/
def nullableCode {α : Type} (fromWire : UInt8 → Except CodecError α) : Decoder (Option α) := do
  match ← nullable u8 with
  | none => pure none
  | some code => do
    let value ← fromExcept (fromWire code)
    pure (some value)

def metrics : Decoder ExchangeMetrics := do
  exactMap 2
  exactKey 1
  let verificationMicros ← u64
  exactKey 2
  let executionMicros ← u64
  pure ⟨verificationMicros, executionMicros⟩

def response : Decoder (Option Digest × OutcomeFields × ExchangeMetrics) := do
  exactMap responseFields
  exactKey 1
  exactVersion
  exactKey 2
  let requestId ← nullable digest
  exactKey 3
  let code ← u8
  exactKey 4
  let result ← bytes
  ensure (result.length ≤ maxResultBytes) .resourceLimit
  exactKey 5
  let refusal ← nullableCode refusalFromWire
  exactKey 6
  let decision ← nullableCode decisionFromWire
  exactKey 7
  let reasons ← reasons
  exactKey 8
  let message ← str
  ensure (message.utf8ByteSize ≤ maxMessageBytes) .resourceLimit
  exactKey 9
  let metrics ← metrics
  pure (requestId, { code, result, refusal, decision, reasons, message }, metrics)

/-- What a decoder reads off the whole input. -/
def finished {α : Type} (read : Decoder α) (input : Bytes) : Except CodecError α := do
  let (value, rest) ← read.run input
  if rest = [] then pure value else throw .nonCanonical

end Read

section Decoders

variable [Cbor]

def ensureCanonical (input encoded : Bytes) : Except CodecError Unit :=
  if input = encoded then .ok () else .error .nonCanonical

def decodeCapabilities (input : Bytes) : Except CodecError ExchangeCapabilities := do
  let (versions, profiles, maxBodyBytes, maxProofBytes) ← Read.finished Read.capabilities input
  let capabilities ←
    (ExchangeCapabilities.new versions profiles maxBodyBytes maxProofBytes).mapError CodecError.model
  ensureCanonical input (encodeCapabilities capabilities)
  pure capabilities

def decodeChallenge (input : Bytes) : Except CodecError ActionChallenge := do
  let (challenge, audience, expiresAt, maxBodyBytes, maxProofBytes, authsProtocol, profileId,
    profileVersion) ← Read.finished Read.challenge input
  let profile ←
    (ProfileBinding.new authsProtocol profileId profileVersion).mapError CodecError.model
  let message ← (ActionChallenge.new challenge audience expiresAt maxBodyBytes maxProofBytes
    profile).mapError CodecError.model
  ensureCanonical input (encodeChallenge message)
  pure message

/-- Whether a submission and the fields read beside it repeat the challenge. -/
def repeatsChallenge (challenge : ActionChallenge) (submitted : Digest) (authsProtocol : UInt16)
    (profileId : ExchangeProfileId) (profileVersion : UInt16) (message : ActionSubmission) : Bool :=
  submitted = challenge.challenge && authsProtocol = challenge.profile.authsProtocol &&
    profileId = challenge.profile.profileId && profileVersion = challenge.profile.profileVersion &&
    message.matchesChallenge challenge

def decodeRequest (input : Bytes) (challenge : ActionChallenge) :
    Except CodecError ActionSubmission := do
  let (submitted, authsProtocol, profileId, profileVersion, body, proof) ←
    Read.finished (Read.request challenge) input
  let message ← (ActionSubmission.new body proof challenge).mapError CodecError.model
  if repeatsChallenge challenge submitted authsProtocol profileId profileVersion message then
    ensureCanonical input (encodeRequest message)
    pure message
  else throw (.model .submissionMismatch)

/-- The verdict beside a refusal or an unknown effect: reasons come with a decision only. -/
def verdictOf (decision : Option VerdictDecision) (reasons : List String) :
    Except CodecError (Option VerdictSummary) :=
  match decision with
  | some decision => ((VerdictSummary.new decision reasons).mapError CodecError.model).map some
  | none => if reasons = [] then .ok none else .error .malformed

def outcomeOf (fields : OutcomeFields) : Except CodecError ExchangeOutcome :=
  if fields.code = 0 ∧ fields.refusal = none ∧ fields.decision = none ∧ fields.reasons = [] ∧
      fields.message = "" then
    (ExchangeOutcome.newCompleted fields.result).mapError CodecError.model
  else if fields.code = 1 ∧ fields.result = [] then do
    let kind ← match fields.refusal with
      | some kind => pure kind
      | none => throw .malformed
    let verdict ← verdictOf fields.decision fields.reasons
    (ExchangeOutcome.newRefused kind verdict fields.message).mapError CodecError.model
  else if fields.code = 2 ∧ fields.result = [] ∧ fields.refusal = none then do
    let verdict ← verdictOf fields.decision fields.reasons
    (ExchangeOutcome.newIndeterminate verdict fields.message).mapError CodecError.model
  else .error .malformed

def decodeResponse (input : Bytes) : Except CodecError ActionResponse := do
  let (requestId, fields, metrics) ← Read.finished Read.response input
  let outcome ← outcomeOf fields
  let response : ActionResponse := ⟨requestId, outcome, metrics⟩
  ensureCanonical input (encodeResponse response)
  pure response

end Decoders

end AuthsProof.Exchange
