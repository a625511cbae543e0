import AuthsProof.Exchange.Codec
import AuthsProof.Lib.Run

/-! What the exchange decoders make of the encoders' output, and of anything else they accept. -/

namespace AuthsProof.Exchange

open Sorting Wire Read

section Items

theorem reads_item {α : Type} {read : Bytes → Option (α × Bytes)} {bs : Bytes} {a : α}
    (h : ∀ rest, read (bs ++ rest) = some (a, rest)) : Reads (item read) bs a := by
  intro rest
  simp only [item, StateT.run, h]

theorem reads_model {α : Type} {value : Except ModelError α} {a : α} (h : value = .ok a) :
    Reads (model value) [] a := by
  subst h
  exact Reads.lift rfl

variable [Cbor] [LawfulCbor]

theorem reads_uint {width : Nat} {value : UInt64} (h : value.toNat < 2 ^ width) :
    Reads (uint width) (Cbor.uint value) value :=
  (reads_item fun rest => LawfulCbor.readUint_uint value rest).then
    ((Reads.ensure _ h).then (Reads.pure value))

theorem reads_u8 (value : UInt8) : Reads u8 (encodeU8 value) value := by
  have hlt : value.toUInt64.toNat < 2 ^ 8 := by simpa using value.toNat_lt
  refine (reads_uint hlt).then ?_
  rw [UInt8.toUInt8_toUInt64]
  exact Reads.pure value

theorem reads_u16 (value : UInt16) : Reads u16 (encodeU16 value) value := by
  have hlt : value.toUInt64.toNat < 2 ^ 16 := by simpa using value.toNat_lt
  refine (reads_uint hlt).then ?_
  rw [UInt16.toUInt16_toUInt64]
  exact Reads.pure value

theorem reads_u32 (value : UInt32) : Reads u32 (encodeU32 value) value := by
  have hlt : value.toUInt64.toNat < 2 ^ 32 := by simpa using value.toNat_lt
  refine (reads_uint hlt).then ?_
  rw [UInt32.toUInt32_toUInt64]
  exact Reads.pure value

theorem reads_u64 (value : UInt64) : Reads u64 (encodeU64 value) value :=
  reads_item fun rest => LawfulCbor.readUint_uint value rest

theorem reads_str {s : String} (h : s.utf8ByteSize < 2 ^ 64) : Reads str (Cbor.text s) s :=
  reads_item fun rest => LawfulCbor.readText_text s rest h

theorem reads_bytes {bs : Bytes} (h : bs.length < 2 ^ 64) : Reads bytes (Cbor.bytes bs) bs :=
  reads_item fun rest => LawfulCbor.readBytes_bytes bs rest h

theorem reads_exactMap {n : Nat} (h : n < 2 ^ 64) : Reads (exactMap n) (Cbor.map n) () :=
  (reads_item fun rest => LawfulCbor.readMap_map n rest h).then (Reads.ensure _ rfl)

theorem reads_exactArray {n : Nat} (h : n < 2 ^ 64) : Reads exactArray (Cbor.array n) n :=
  (reads_item fun rest => LawfulCbor.readArray_array n rest h).then (Reads.pure n)

theorem reads_exactKey (k : UInt8) : Reads (exactKey k) (encodeKey k) () :=
  (reads_u8 k).then (Reads.ensure _ rfl)

theorem reads_exactVersion : Reads exactVersion (encodeU16 exchangeVersionV1) () :=
  (reads_u16 exchangeVersionV1).then (Reads.ensure _ rfl)

theorem reads_digest (value : Digest) : Reads digest (encodeDigest value) value := by
  have hlength : value.bytes.length < 2 ^ 64 := by simp [value.length_eq]
  refine (reads_bytes hlength).then (Reads.lift ?_)
  rw [array32, Digest.new_bytes]

theorem reads_profileId (profileId : ExchangeProfileId) :
    Reads (parsed ExchangeProfileId.parse) (Cbor.text profileId.str) profileId := by
  have hlength : profileId.str.utf8ByteSize < 2 ^ 64 :=
    lt_of_le_of_lt (exchangeText_size profileId.checked) (by decide)
  exact (reads_str hlength).then (reads_model (parseChecked_str _ profileId))

theorem reads_audience (audience : ExchangeAudience) :
    Reads (parsed ExchangeAudience.parse) (Cbor.text audience.str) audience := by
  have hlength : audience.str.utf8ByteSize < 2 ^ 64 :=
    lt_of_le_of_lt (exchangeText_size audience.checked) (by decide)
  exact (reads_str hlength).then (reads_model (parseChecked_str _ audience))

theorem reads_nullable {α : Type} {read : Decoder α} {encode : α → Bytes} {value : Option α}
    (hnull : ∀ a ∈ value, NotNull (encode a)) (h : ∀ a ∈ value, Reads read (encode a) a) :
    Reads (nullable read) (encodeOptional encode value) value := by
  have hpeek {input : Bytes} {value : Bool} (hinput : Cbor.isNull input = some value) :
      isNull.run input = .ok (value, input) := by
    simp only [isNull, StateT.run, hinput]
  intro rest
  cases value with
  | none =>
    rw [nullable, StateT.run_bind, encodeOptional, hpeek (LawfulCbor.isNull_null rest)]
    have hread : Reads (item Cbor.readNull >>= fun _ => pure none : Decoder (Option α)) Cbor.null
        none := (reads_item fun rest => LawfulCbor.readNull_null rest).then (Reads.pure none)
    exact hread rest
  | some a =>
    rw [nullable, StateT.run_bind, encodeOptional, hpeek (hnull a rfl rest)]
    have hread : Reads (read >>= fun a => pure (some a)) (encode a) (some a) :=
      (h a rfl).then (Reads.pure (some a))
    exact hread rest

/-- A keyed field, followed by the rest of the object. -/
theorem reads_keyed {α β : Type} (k : UInt8) {r : Decoder α} {f : α → Decoder β} {bs : Bytes}
    {css : List Bytes} {a : α} {b : β} (hr : Reads r bs a) (hf : Reads (f a) css.flatten b) :
    Reads (exactKey k >>= fun _ => r >>= f) (encodeKey k :: bs :: css).flatten b :=
  ((reads_exactKey k).seq (hr.seq hf.readsIf)).always

theorem reads_counted {α : Type} {read : Decoder α} {encode : α → Bytes} {items : List α}
    {maximum : Nat} (hnonempty : items ≠ []) (hbounded : items.length ≤ maximum)
    (hmaximum : maximum < 2 ^ 64) (h : ∀ a ∈ items, Reads read (encode a) a) :
    Reads (counted maximum read) (encodeList encode items) items :=
  (reads_exactArray (by omega)).bind
    ((Reads.ensure _ ⟨by simpa using hnonempty, hbounded⟩).bind (Reads.many h))

theorem reads_profileBinding (profile : ProfileBinding) :
    Reads profileBinding (encodeProfileBinding profile) profile := by
  refine ((reads_exactMap (by decide)).seq (Reads.readsIf ?_)).always
  refine reads_keyed 1 (reads_u16 profile.authsProtocol) ?_
  refine reads_keyed 2 (reads_profileId profile.profileId) ?_
  exact reads_keyed 3 (reads_u16 profile.profileVersion) (reads_model profile.new_self)

theorem reads_capabilities (c : ExchangeCapabilities) : Reads capabilities (encodeCapabilities c)
    (c.exchangeVersions, c.profiles, c.maxBodyBytes, c.maxProofBytes) := by
  have hversions := reads_counted c.versionsNonempty c.versionsBounded (by decide)
    fun version _ => reads_u16 version
  have hprofiles := reads_counted c.profilesNonempty c.profilesBounded (by decide)
    fun profile _ => reads_profileBinding profile
  refine ((reads_exactMap (by decide)).seq (Reads.readsIf ?_)).always
  refine reads_keyed 1 reads_exactVersion ?_
  refine reads_keyed 2 hversions (reads_keyed 3 hprofiles ?_)
  refine reads_keyed 4 (reads_u32 c.maxBodyBytes) ?_
  exact reads_keyed 5 (reads_u32 c.maxProofBytes) (Reads.pure _)

theorem reads_challenge (c : ActionChallenge) : Reads challenge (encodeChallenge c)
    (c.challenge, c.audience, c.expiresAt, c.maxBodyBytes, c.maxProofBytes, c.profile.authsProtocol,
      c.profile.profileId, c.profile.profileVersion) := by
  refine ((reads_exactMap (by decide)).seq (Reads.readsIf ?_)).always
  refine reads_keyed 1 reads_exactVersion ?_
  refine reads_keyed 2 (reads_digest c.challenge) ?_
  refine reads_keyed 3 (reads_audience c.audience) ?_
  refine reads_keyed 4 (reads_u64 c.expiresAt) ?_
  refine reads_keyed 5 (reads_u32 c.maxBodyBytes) ?_
  refine reads_keyed 6 (reads_u32 c.maxProofBytes) ?_
  refine reads_keyed 7 (reads_u16 c.profile.authsProtocol) ?_
  refine reads_keyed 8 (reads_profileId c.profile.profileId) ?_
  exact reads_keyed 9 (reads_u16 c.profile.profileVersion) (Reads.pure _)

theorem reads_payload {bs : Bytes} {maximum : UInt32} (hnonempty : bs ≠ [])
    (hbounded : bs.length ≤ maximum.toNat) : Reads (payload maximum) (Cbor.bytes bs) bs := by
  have hmaximum := maximum.toNat_lt
  exact (reads_bytes (by omega)).then ((Reads.ensure _ ⟨hnonempty, hbounded⟩).then (Reads.pure bs))

theorem reads_request (s : ActionSubmission) {c : ActionChallenge}
    (h : s.matchesChallenge c = true) : Reads (request c) (encodeRequest s)
      (s.challenge, s.profile.authsProtocol, s.profile.profileId, s.profile.profileVersion, s.body,
        s.proof) := by
  simp only [ActionSubmission.matchesChallenge, Bool.and_eq_true, decide_eq_true_eq] at h
  obtain ⟨⟨-, hbody⟩, hproof⟩ := h
  refine ((reads_exactMap (by decide)).seq (Reads.readsIf ?_)).always
  refine reads_keyed 1 reads_exactVersion ?_
  refine reads_keyed 2 (reads_digest s.challenge) ?_
  refine reads_keyed 3 (reads_u16 s.profile.authsProtocol) ?_
  refine reads_keyed 4 (reads_profileId s.profile.profileId) ?_
  refine reads_keyed 5 (reads_u16 s.profile.profileVersion) ?_
  refine reads_keyed 6 (reads_payload s.bodyNonempty hbody) ?_
  exact reads_keyed 7 (reads_payload s.proofNonempty hproof) (Reads.pure _)

/-! ## Responses -/

omit [Cbor] [LawfulCbor] in
theorem refusalFromWire_toWire (kind : RefusalKind) :
    refusalFromWire (refusalToWire kind) = .ok kind := by
  cases kind <;> rfl

omit [Cbor] [LawfulCbor] in
theorem decisionFromWire_toWire (decision : VerdictDecision) :
    decisionFromWire (decisionToWire decision) = .ok decision := by
  cases decision <;> rfl

theorem notNull_u8 (value : UInt8) : NotNull (encodeU8 value) := fun rest =>
  LawfulCbor.isNull_uint value.toUInt64 rest

theorem reads_nullableCode {α : Type} {toWire : α → UInt8} {fromWire : UInt8 → Except CodecError α}
    (hwire : ∀ a, fromWire (toWire a) = .ok a) (value : Option α) :
    Reads (nullableCode fromWire) (encodeOptional encodeU8 (value.map toWire)) value := by
  have hcode : Reads (nullable u8) (encodeOptional encodeU8 (value.map toWire)) (value.map toWire) :=
    reads_nullable (fun code _ => notNull_u8 code) fun code _ => reads_u8 code
  cases value with
  | none => exact hcode.then (Reads.pure none)
  | some a => exact hcode.then ((Reads.lift (hwire a)).then (Reads.pure (some a)))

/-- The members of a response that the decoder bounds. -/
structure OutcomeFields.Bounded (fields : OutcomeFields) : Prop where
  result : fields.result.length ≤ maxResultBytes
  count : fields.reasons.length ≤ maxReasonCount
  reasons : ∀ reason ∈ fields.reasons, reason ≠ "" ∧ reason.utf8ByteSize ≤ maxReasonBytes
  message : fields.message.utf8ByteSize ≤ maxMessageBytes

omit [Cbor] [LawfulCbor] in
theorem bounded_ofVerdict (code : UInt8) (refusal : Option RefusalKind)
    (verdict : Option VerdictSummary) (message : OutcomeMessage) :
    (OutcomeFields.ofVerdict code refusal verdict message.str).Bounded where
  result := Nat.zero_le _
  count := by
    cases verdict with
    | none => exact Nat.zero_le _
    | some verdict => exact verdict.bounded
  reasons := by
    intro reason hreason
    cases verdict with
    | none => cases hreason
    | some verdict =>
      have hdisplay := verdict.displayable reason hreason
      refine ⟨fun hempty => ?_, displayText_size hdisplay⟩
      rw [hempty] at hdisplay
      exact absurd hdisplay (by decide)
  message := displayText_size message.checked

omit [Cbor] [LawfulCbor] in
theorem bounded_outcomeFields (outcome : ExchangeOutcome) : (outcomeFields outcome).Bounded := by
  cases outcome with
  | completed result bounded =>
    exact ⟨bounded, Nat.zero_le _, fun _ h => (List.not_mem_nil h).elim, Nat.zero_le _⟩
  | refused kind verdict message => exact bounded_ofVerdict _ _ _ _
  | indeterminate verdict message => exact bounded_ofVerdict _ _ _ _

theorem reads_reasons {fields : OutcomeFields} (h : fields.Bounded) :
    Reads reasons (encodeList Cbor.text fields.reasons) fields.reasons := by
  have hreason : ∀ text ∈ fields.reasons, Reads reason (Cbor.text text) text := by
    intro text htext
    have hbounds := h.reasons text htext
    have hlength : text.utf8ByteSize < 2 ^ 64 := lt_of_le_of_lt hbounds.2 (by decide)
    exact (reads_str hlength).then ((Reads.ensure _ hbounds).then (Reads.pure text))
  have hcount : fields.reasons.length < 2 ^ 64 := lt_of_le_of_lt h.count (by decide)
  exact (reads_exactArray hcount).bind ((Reads.ensure _ h.count).bind (Reads.many hreason))

theorem reads_metrics (value : ExchangeMetrics) : Reads metrics (encodeMetrics value) value := by
  refine ((reads_exactMap (by decide)).seq (Reads.readsIf ?_)).always
  refine reads_keyed 1 (reads_u64 value.verificationMicros) ?_
  exact reads_keyed 2 (reads_u64 value.executionMicros) (Reads.pure _)

theorem reads_response (r : ActionResponse) : Reads response (encodeResponse r)
    (r.requestId, outcomeFields r.outcome, r.metrics) := by
  have hbounded := bounded_outcomeFields r.outcome
  have hresult : (outcomeFields r.outcome).result.length < 2 ^ 64 :=
    lt_of_le_of_lt hbounded.result (by decide)
  have hmessage : (outcomeFields r.outcome).message.utf8ByteSize < 2 ^ 64 :=
    lt_of_le_of_lt hbounded.message (by decide)
  refine ((reads_exactMap (by decide)).seq (Reads.readsIf ?_)).always
  refine reads_keyed 1 reads_exactVersion ?_
  refine reads_keyed 2 (reads_nullable (fun id _ => notNull_digest id) fun id _ => reads_digest id) ?_
  refine reads_keyed 3 (reads_u8 _) ?_
  refine reads_keyed 4 (reads_bytes hresult) ((Reads.ensure _ hbounded.result).bind ?_)
  refine reads_keyed 5 (reads_nullableCode refusalFromWire_toWire _) ?_
  refine reads_keyed 6 (reads_nullableCode decisionFromWire_toWire _) ?_
  refine reads_keyed 7 (reads_reasons hbounded) ?_
  refine reads_keyed 8 (reads_str hmessage) ((Reads.ensure _ hbounded.message).bind ?_)
  exact reads_keyed 9 (reads_metrics r.metrics) (Reads.pure _)

omit [Cbor] [LawfulCbor] in
theorem verdictOf_verdict (verdict : Option VerdictSummary) :
    verdictOf (verdict.map VerdictSummary.decision)
      ((verdict.map VerdictSummary.reasons).getD []) = .ok verdict := by
  cases verdict with
  | none => rfl
  | some verdict =>
    show ((VerdictSummary.new verdict.decision verdict.reasons).mapError CodecError.model).map some = _
    rw [VerdictSummary.new_self]
    rfl

omit [Cbor] [LawfulCbor] in
/-- The outcome is rebuilt from its members: the code tells the three kinds apart. -/
theorem outcomeOf_outcomeFields (outcome : ExchangeOutcome) :
    outcomeOf (outcomeFields outcome) = .ok outcome := by
  cases outcome with
  | completed result bounded =>
    simp [outcomeOf, outcomeFields, ExchangeOutcome.newCompleted, bounded, Except.mapError]
  | refused kind verdict message =>
    have hverdict := verdictOf_verdict verdict
    simp only [outcomeOf, outcomeFields, OutcomeFields.ofVerdict, hverdict,
      ExchangeOutcome.newRefused, parseChecked_str]
    rfl
  | indeterminate verdict message =>
    have hverdict := verdictOf_verdict verdict
    simp only [outcomeOf, outcomeFields, OutcomeFields.ofVerdict, hverdict,
      ExchangeOutcome.newIndeterminate, parseChecked_str]
    rfl

/-! ## Whole messages -/

omit [Cbor] [LawfulCbor] in
theorem finished_of_reads {α : Type} {read : Decoder α} {bs : Bytes} {a : α} (h : Reads read bs a) :
    finished read bs = .ok a := by
  have hrun := h []
  rw [List.append_nil] at hrun
  rw [finished, hrun]
  rfl

theorem decodeCapabilities_encode (c : ExchangeCapabilities) :
    decodeCapabilities (encodeCapabilities c) = .ok c := by
  simp only [decodeCapabilities, finished_of_reads (reads_capabilities c), bind, Except.bind,
    ExchangeCapabilities.new_self, Except.mapError, ensureCanonical, if_true]
  rfl

theorem decodeChallenge_encode (c : ActionChallenge) :
    decodeChallenge (encodeChallenge c) = .ok c := by
  simp only [decodeChallenge, finished_of_reads (reads_challenge c), bind, Except.bind,
    ProfileBinding.new_self, ActionChallenge.new_self, Except.mapError, ensureCanonical, if_true]
  rfl

theorem decodeRequest_encode (s : ActionSubmission) {c : ActionChallenge}
    (h : s.matchesChallenge c = true) : decodeRequest (encodeRequest s) c = .ok s := by
  have hrepeats : repeatsChallenge c s.challenge s.profile.authsProtocol s.profile.profileId
      s.profile.profileVersion s = true := by
    have hfields := h
    simp only [ActionSubmission.matchesChallenge, Bool.and_eq_true, decide_eq_true_eq] at hfields
    obtain ⟨⟨⟨hchallenge, hprofile⟩, -⟩, -⟩ := hfields
    simp [repeatsChallenge, h, hchallenge, hprofile]
  simp only [decodeRequest, finished_of_reads (reads_request s h), bind, Except.bind,
    ActionSubmission.new_of_matches h, Except.mapError, hrepeats, ensureCanonical, if_true]
  rfl

theorem decodeResponse_encode (r : ActionResponse) : decodeResponse (encodeResponse r) = .ok r := by
  simp only [decodeResponse, finished_of_reads (reads_response r), bind, Except.bind,
    outcomeOf_outcomeFields, ensureCanonical, if_true]
  rfl

end Items

/-! ## Accepted bytes -/

section Accepted

variable [Cbor]

omit [Cbor] in
theorem eq_of_ensureCanonical {input encoded : Bytes} (h : ensureCanonical input encoded = .ok ()) :
    encoded = input := by
  unfold ensureCanonical at h
  split at h
  · rename_i heq
    exact heq.symm
  · cases h

theorem encodeCapabilities_of_decode {input : Bytes} {c : ExchangeCapabilities}
    (h : decodeCapabilities input = .ok c) : encodeCapabilities c = input := by
  obtain ⟨_, -, h⟩ := Except.bind_eq_ok.mp h
  obtain ⟨_, -, h⟩ := Except.bind_eq_ok.mp h
  obtain ⟨⟨⟩, hcanonical, h⟩ := Except.bind_eq_ok.mp h
  obtain rfl := Except.ok.inj h
  exact eq_of_ensureCanonical hcanonical

theorem encodeChallenge_of_decode {input : Bytes} {c : ActionChallenge}
    (h : decodeChallenge input = .ok c) : encodeChallenge c = input := by
  obtain ⟨_, -, h⟩ := Except.bind_eq_ok.mp h
  obtain ⟨_, -, h⟩ := Except.bind_eq_ok.mp h
  obtain ⟨_, -, h⟩ := Except.bind_eq_ok.mp h
  obtain ⟨⟨⟩, hcanonical, h⟩ := Except.bind_eq_ok.mp h
  obtain rfl := Except.ok.inj h
  exact eq_of_ensureCanonical hcanonical

theorem encodeRequest_of_decode {input : Bytes} {c : ActionChallenge} {s : ActionSubmission}
    (h : decodeRequest input c = .ok s) :
    encodeRequest s = input ∧ s.matchesChallenge c = true := by
  obtain ⟨_, -, h⟩ := Except.bind_eq_ok.mp h
  obtain ⟨message, hnew, h⟩ := Except.bind_eq_ok.mp h
  split at h
  · rename_i hrepeats
    obtain ⟨⟨⟩, hcanonical, h⟩ := Except.bind_eq_ok.mp h
    obtain rfl := Except.ok.inj h
    simp only [repeatsChallenge, Bool.and_eq_true] at hrepeats
    exact ⟨eq_of_ensureCanonical hcanonical, hrepeats.2⟩
  · cases h

theorem encodeResponse_of_decode {input : Bytes} {r : ActionResponse}
    (h : decodeResponse input = .ok r) : encodeResponse r = input := by
  obtain ⟨_, -, h⟩ := Except.bind_eq_ok.mp h
  obtain ⟨_, -, h⟩ := Except.bind_eq_ok.mp h
  obtain ⟨⟨⟩, hcanonical, h⟩ := Except.bind_eq_ok.mp h
  obtain rfl := Except.ok.inj h
  exact eq_of_ensureCanonical hcanonical

end Accepted

end AuthsProof.Exchange
