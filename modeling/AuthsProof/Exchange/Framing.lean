import AuthsProof.CodecLength
import AuthsProof.Exchange.RoundTrip

/-! Length-prefixed frames on a byte stream that may fail or stall after any number of bytes. -/

namespace AuthsProof.Exchange

open Rfc8949

def maxChallengeFrame : Nat := 4 * 1024
def maxSubmissionFrame : Nat := maxBodyBytes.toNat + maxProofBytes.toNat + 4096
def maxResponseFrame : Nat := maxResultBytes + 16 * 1024

inductive FramingError where
  | configuration
  | sequence
  | limit
  | codec
  | binding
  | io
  | timeout
  deriving DecidableEq

/-- How the stream stops: with an error, or at the deadline. -/
inductive Interruption where
  | failed
  | stalled
  deriving DecidableEq

def Interruption.error : Interruption → FramingError
  | .failed => .io
  | .stalled => .timeout

/-- What the stream does with one call: it serves it, or stops after so many bytes. -/
inductive Transfer where
  | complete
  | broken (bytes : Nat) (why : Interruption)
  deriving DecidableEq

def frame (payload : Bytes) : Bytes := bigEndian 4 payload.length ++ payload

/-- The bytes the stream has taken, and the answer. -/
def writeFrame (payload : Bytes) (maximum : Nat) (transfer : Transfer) :
    Bytes × Except FramingError Unit :=
  if maximum < payload.length ∨ 2 ^ 32 ≤ payload.length then ([], .error .limit)
  else
    match transfer with
    | .complete => (frame payload, .ok ())
    | .broken bytes why => ((frame payload).take bytes, .error why.error)

/-- One frame off the incoming bytes: the answer, and the bytes left unread. A stream that ends inside
the frame is an error of the stream. -/
def readFrame (incoming : Bytes) (maximum : Nat) (transfer : Transfer) :
    Except FramingError Bytes × Bytes :=
  let (available, why) := match transfer with
    | .complete => (incoming, Interruption.failed)
    | .broken bytes why => (incoming.take bytes, why)
  match take 4 available with
  | none => (.error why.error, incoming.drop available.length)
  | some (header, rest) =>
    let length := fromBigEndian header
    if maximum < length then (.error .limit, incoming.drop 4)
    else
      match take length rest with
      | none => (.error why.error, incoming.drop available.length)
      | some (payload, _) => (.ok payload, incoming.drop (4 + length))

/-- A frame is read back, and what follows it is left. -/
theorem readFrame_frame {payload : Bytes} {maximum : Nat} (hmaximum : payload.length ≤ maximum)
    (hlength : payload.length < 2 ^ 32) (following : Bytes) :
    readFrame (frame payload ++ following) maximum .complete = (.ok payload, following) := by
  have hheader := @take_append (bigEndian 4 payload.length) (payload ++ following)
  rw [bigEndian_length] at hheader
  have hvalue : fromBigEndian (bigEndian 4 payload.length) = payload.length :=
    fromBigEndian_bigEndian (by omega)
  have hpayload := @take_append payload following
  have hframe : (frame payload).length = 4 + payload.length := by
    rw [frame, List.length_append, bigEndian_length]
  have hrest : (frame payload ++ following).drop (4 + payload.length) = following := by
    rw [← hframe, List.drop_left]
  simp only [readFrame]
  rw [show take 4 (frame payload ++ following) = some (bigEndian 4 payload.length,
    payload ++ following) by rw [frame, List.append_assoc, hheader]]
  simp only [hvalue, if_neg (not_lt.mpr hmaximum), hpayload, hrest]

theorem writeFrame_within {payload : Bytes} {maximum : Nat} (hmaximum : payload.length ≤ maximum)
    (hlength : maximum < 2 ^ 32) (transfer : Transfer) :
    writeFrame payload maximum transfer = match transfer with
      | .complete => (frame payload, .ok ())
      | .broken bytes why => ((frame payload).take bytes, .error why.error) := by
  have hfits : ¬(maximum < payload.length ∨ 2 ^ 32 ≤ payload.length) := by omega
  unfold writeFrame
  rw [if_neg hfits]

theorem writeFrame_ok {payload : Bytes} {maximum : Nat} {transfer : Transfer}
    (h : (writeFrame payload maximum transfer).2 = .ok ()) : transfer = .complete ∧
      payload.length ≤ maximum ∧ payload.length < 2 ^ 32 ∧
      (writeFrame payload maximum transfer).1 = frame payload := by
  unfold writeFrame at h ⊢
  split at h
  · cases h
  · rename_i hfits
    cases transfer with
    | complete => exact ⟨rfl, by omega, by omega, by rw [if_neg hfits]⟩
    | broken bytes why => cases h

section Sizes

variable [Cbor] [CompactCbor]

theorem length_encodeU32 (value : UInt32) : (encodeU32 value).length ≤ 9 :=
  CompactCbor.length_uint _

theorem length_profileId (profileId : ExchangeProfileId) :
    (Cbor.text profileId.str).length ≤ 9 + maxProfileIdBytes := by
  have htext := CompactCbor.length_text profileId.str
  have hsize := exchangeText_size profileId.checked
  omega

theorem length_encodeChallenge (c : ActionChallenge) :
    (encodeChallenge c).length ≤ maxChallengeFrame := by
  have haudience : (Cbor.text c.audience.str).length ≤ 9 + maxAudienceBytes := by
    have htext := CompactCbor.length_text c.audience.str
    have hsize := exchangeText_size c.audience.checked
    omega
  have hlength := length_object (n := challengeFields) <|
    length_field 1 (length_encodeU16 exchangeVersionV1) <|
    length_field 2 (length_encodeDigest c.challenge) <| length_field 3 haudience <|
    length_field 4 (length_encodeU64 c.expiresAt) <| length_field 5 (length_encodeU32 c.maxBodyBytes) <|
    length_field 6 (length_encodeU32 c.maxProofBytes) <|
    length_field 7 (length_encodeU16 c.profile.authsProtocol) <|
    length_field 8 (length_profileId c.profile.profileId) <|
    length_lastField 9 (length_encodeU16 c.profile.profileVersion)
  exact hlength.trans (by decide)

theorem length_encodeRequest (s : ActionSubmission) :
    (encodeRequest s).length ≤ maxSubmissionFrame := by
  have hbody : (Cbor.bytes s.body).length ≤ 9 + maxBodyBytes.toNat :=
    (CompactCbor.length_bytes s.body).trans (Nat.add_le_add_left s.bodyBounded 9)
  have hproof : (Cbor.bytes s.proof).length ≤ 9 + maxProofBytes.toNat :=
    (CompactCbor.length_bytes s.proof).trans (Nat.add_le_add_left s.proofBounded 9)
  have hlength := length_object (n := requestFields) <|
    length_field 1 (length_encodeU16 exchangeVersionV1) <|
    length_field 2 (length_encodeDigest s.challenge) <|
    length_field 3 (length_encodeU16 s.profile.authsProtocol) <|
    length_field 4 (length_profileId s.profile.profileId) <|
    length_field 5 (length_encodeU16 s.profile.profileVersion) <| length_field 6 hbody <|
    length_lastField 7 hproof
  exact hlength.trans (by decide)

theorem length_encodeResponse (r : ActionResponse) :
    (encodeResponse r).length ≤ maxResponseFrame := by
  obtain ⟨hresult, hcount, hreasons, hmessage⟩ := bounded_outcomeFields r.outcome
  have hresult : (Cbor.bytes (outcomeFields r.outcome).result).length ≤ 9 + maxResultBytes :=
    (CompactCbor.length_bytes _).trans (Nat.add_le_add_left hresult 9)
  have hmessage : (Cbor.text (outcomeFields r.outcome).message).length ≤ 9 + maxMessageBytes :=
    (CompactCbor.length_text _).trans (Nat.add_le_add_left hmessage 9)
  have hreasons : (encodeList Cbor.text (outcomeFields r.outcome).reasons).length ≤
      9 + maxReasonCount * (9 + maxReasonBytes) := by
    have hlist := length_encodeList fun reason hreason =>
      (CompactCbor.length_text reason).trans (Nat.add_le_add_left (hreasons reason hreason).2 9)
    exact hlist.trans (Nat.add_le_add_left (Nat.mul_le_mul_right _ hcount) 9)
  have hmetrics : (encodeMetrics r.metrics).length ≤ 9 + (9 + (9 + (9 + 9))) :=
    length_object <| length_field 1 (length_encodeU64 _) <| length_lastField 2 (length_encodeU64 _)
  have hlength := length_object (n := responseFields) <|
    length_field 1 (length_encodeU16 exchangeVersionV1) <|
    length_field 2 (length_encodeOptional (by decide) length_encodeDigest r.requestId) <|
    length_field 3 (length_encodeU8 (outcomeFields r.outcome).code) <| length_field 4 hresult <|
    length_field 5 (length_encodeOptional (le_refl 9) length_encodeU8
      ((outcomeFields r.outcome).refusal.map refusalToWire)) <|
    length_field 6 (length_encodeOptional (le_refl 9) length_encodeU8
      ((outcomeFields r.outcome).decision.map decisionToWire)) <|
    length_field 7 hreasons <| length_field 8 hmessage <| length_lastField 9 hmetrics
  exact hlength.trans (by decide)

omit [Cbor] [CompactCbor] in
theorem writeFrame_ne_limit {payload : Bytes} {maximum : Nat} (h : payload.length ≤ maximum)
    (hmaximum : maximum < 2 ^ 32) (transfer : Transfer) :
    (writeFrame payload maximum transfer).2 ≠ .error .limit := by
  rw [writeFrame_within h hmaximum]
  cases transfer with
  | complete => simp
  | broken bytes why => cases why <;> simp [Interruption.error]

end Sizes

/-- An encoder of the messages in `valid` and a decoder that accepts its encodings and nothing else. -/
structure RoundTrips {α : Type} (valid : α → Prop) (encode : α → Bytes)
    (decode : Bytes → Except CodecError α) : Prop where
  decode_encode : ∀ a, valid a → decode (encode a) = .ok a
  encode_decode : ∀ input a, decode input = .ok a → encode a = input
  unique : ∀ input input' a, decode input = .ok a → decode input' = .ok a → input = input'

theorem roundTrips_of {α : Type} {valid : α → Prop} {encode : α → Bytes}
    {decode : Bytes → Except CodecError α} (hdecode : ∀ a, valid a → decode (encode a) = .ok a)
    (hencode : ∀ input a, decode input = .ok a → encode a = input) :
    RoundTrips valid encode decode where
  decode_encode := hdecode
  encode_decode := hencode
  unique input input' a h h' := (hencode input a h).symm.trans (hencode input' a h')

/-- Messages round trip, an unknown effect stays one, every message fits its frame, and a frame is
read off whatever follows it. -/
theorem exchange_roundTrips [Cbor] [LawfulCbor] [CompactCbor] :
    RoundTrips (fun _ => True) encodeCapabilities decodeCapabilities ∧
    RoundTrips (fun _ => True) encodeChallenge decodeChallenge ∧
    (∀ challenge, RoundTrips
      (fun submission => ∃ body proof, ActionSubmission.new body proof challenge = .ok submission)
      encodeRequest (fun input => decodeRequest input challenge)) ∧
    RoundTrips (fun _ => True) encodeResponse decodeResponse ∧
    (∀ requestId verdict message metrics decoded,
      decodeResponse (encodeResponse ⟨requestId, .indeterminate verdict message, metrics⟩) =
        .ok decoded → decoded.outcome = .indeterminate verdict message) ∧
    (∀ transfer, (∀ challenge,
        (writeFrame (encodeChallenge challenge) maxChallengeFrame transfer).2 ≠ .error .limit) ∧
      (∀ submission,
        (writeFrame (encodeRequest submission) maxSubmissionFrame transfer).2 ≠ .error .limit) ∧
      ∀ response,
        (writeFrame (encodeResponse response) maxResponseFrame transfer).2 ≠ .error .limit) ∧
    ∀ payload maximum transfer following,
      (writeFrame payload maximum transfer).2 = .ok () →
        readFrame ((writeFrame payload maximum transfer).1 ++ following) maximum .complete =
          (.ok payload, following) := by
  have hresponse : RoundTrips (fun _ => True) encodeResponse decodeResponse :=
    roundTrips_of (fun r _ => decodeResponse_encode r) fun _ _ => encodeResponse_of_decode
  refine ⟨roundTrips_of (fun c _ => decodeCapabilities_encode c) fun _ _ =>
    encodeCapabilities_of_decode, roundTrips_of (fun c _ => decodeChallenge_encode c) fun _ _ =>
    encodeChallenge_of_decode, fun challenge => roundTrips_of ?_ fun _ _ h =>
    (encodeRequest_of_decode h).1, hresponse, ?_, fun transfer => ⟨fun challenge => ?_,
    fun submission => ?_, fun response => ?_⟩, ?_⟩
  · intro submission hnew
    obtain ⟨body, proof, hnew⟩ := hnew
    exact decodeRequest_encode submission (ActionSubmission.matches_of_new hnew)
  · intro requestId verdict message metrics decoded hdecoded
    rw [hresponse.decode_encode _ trivial] at hdecoded
    rw [← Except.ok.inj hdecoded]
  · exact writeFrame_ne_limit (length_encodeChallenge challenge) (by decide) transfer
  · exact writeFrame_ne_limit (length_encodeRequest submission) (by decide) transfer
  · exact writeFrame_ne_limit (length_encodeResponse response) (by decide) transfer
  · intro payload maximum transfer following hok
    obtain ⟨-, hmaximum, hlength, hwritten⟩ := writeFrame_ok hok
    rw [hwritten]
    exact readFrame_frame hmaximum hlength following

section Sample

local instance sampleExchangeCbor : Cbor := rfc8949

theorem sampleProfileVersion_ne : (1 : UInt16) ≠ 0 := by decide

def sampleProfileBinding : ProfileBinding :=
  ⟨1, ⟨"auths.mcp", by decide +kernel⟩, 1, rfl, sampleProfileVersion_ne⟩

def sampleChallenge : ActionChallenge where
  challenge := .filled 7
  audience := ⟨"mcp://reports", by decide +kernel⟩
  expiresAt := 100
  maxBodyBytes := 1024
  maxProofBytes := 4096
  profile := sampleProfileBinding
  bodyLimit := by decide
  proofLimit := by decide

/-- A submission that cannot tell whether its effect was applied. -/
def sampleUnknown : ActionResponse where
  requestId := some (.filled 4)
  outcome := .indeterminate none ⟨"provider call timed out", by decide +kernel⟩
  metrics := ⟨5, 6⟩

theorem sample_exchange_roundTrips :
    decodeChallenge (encodeChallenge sampleChallenge) = .ok sampleChallenge ∧
      decodeResponse (encodeResponse sampleUnknown) = .ok sampleUnknown := by
  have hall := @exchange_roundTrips rfc8949 rfc8949_lawful rfc8949_compact
  exact ⟨hall.2.1.decode_encode sampleChallenge trivial,
    hall.2.2.2.1.decode_encode sampleUnknown trivial⟩

end Sample

end AuthsProof.Exchange
