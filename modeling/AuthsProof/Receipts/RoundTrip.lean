import AuthsProof.CodecLength
import AuthsProof.Receipts.Codec
import AuthsProof.Receipts.ClaimsRoundTrip

/-! What the decoders of receipts make of the encoders' output, and of anything else they accept. -/

namespace AuthsProof.Receipts

open Wire Read

section Items

variable {ε : Type} [ReadFailure ε]

theorem reads_item {α : Type} {read : Bytes → Option (α × Bytes)} {bs : Bytes} {a : α}
    (h : ∀ rest, read (bs ++ rest) = some (a, rest)) : Reads (item read : Reader ε α) bs a := by
  intro rest
  simp only [item, StateT.run, h]

theorem complete_of_reads {α : Type} {r : Reader ε α} {bs : Bytes} {a : α} (h : Reads r bs a) :
    complete r bs = .ok a := by
  have hrun := h []
  rw [List.append_nil] at hrun
  rw [complete, hrun]
  rfl

variable [Cbor] [LawfulCbor]

theorem reads_uint {width : Nat} {value : UInt64} (h : value.toNat < 2 ^ width) :
    Reads (uint width : Reader ε UInt64) (Cbor.uint value) value :=
  (reads_item fun rest => LawfulCbor.readUint_uint value rest).then
    ((Reads.ensure _ h).then (Reads.pure value))

theorem reads_u8 (value : UInt8) : Reads (u8 : Reader ε UInt8) (encodeU8 value) value := by
  have hlt : value.toUInt64.toNat < 2 ^ 8 := by simpa using value.toNat_lt
  refine (reads_uint hlt).then ?_
  rw [UInt8.toUInt8_toUInt64]
  exact Reads.pure value

theorem reads_u16 (value : UInt16) : Reads (u16 : Reader ε UInt16) (encodeU16 value) value := by
  have hlt : value.toUInt64.toNat < 2 ^ 16 := by simpa using value.toNat_lt
  refine (reads_uint hlt).then ?_
  rw [UInt16.toUInt16_toUInt64]
  exact Reads.pure value

theorem reads_u64 (value : UInt64) : Reads (u64 : Reader ε UInt64) (encodeU64 value) value :=
  reads_item fun rest => LawfulCbor.readUint_uint value rest

theorem reads_str {s : String} (h : s.utf8ByteSize < 2 ^ 64) :
    Reads (str : Reader ε String) (Cbor.text s) s :=
  reads_item fun rest => LawfulCbor.readText_text s rest h

theorem reads_bytes {bs : Bytes} (h : bs.length < 2 ^ 64) :
    Reads (bytes : Reader ε Bytes) (Cbor.bytes bs) bs :=
  reads_item fun rest => LawfulCbor.readBytes_bytes bs rest h

theorem reads_exactMap {n : Nat} (h : n < 2 ^ 64) : Reads (exactMap n : Reader ε Unit) (Cbor.map n) () :=
  (reads_item fun rest => LawfulCbor.readMap_map n rest h).then (Reads.ensure _ rfl)

theorem reads_keyDecode (k : UInt8) : Reads (keyDecode k : Reader ε Unit) (encodeKey k) () :=
  (reads_u8 k).then (Reads.ensure _ rfl)

theorem reads_version : Reads (version : Reader ε Unit) (encodeU16 protocolV1) () :=
  (reads_u16 protocolV1).then (Reads.ensure _ rfl)

theorem reads_digest (value : Digest) : Reads (digest : Reader ε Digest) (encodeDigest value) value := by
  have hlength : value.bytes.length < 2 ^ 64 := by simp [value.length_eq]
  refine (reads_bytes hlength).then ?_
  rw [Digest.new_bytes]
  exact Reads.pure value

theorem reads_parsed {α : Type} {parse : String → Except ModelError α} {s : String} {a : α}
    (h : s.utf8ByteSize < 2 ^ 64) (hparse : parse s = .ok a) :
    Reads (parsed parse : Reader ε α) (Cbor.text s) a := by
  refine (reads_str h).then (Reads.lift ?_)
  rw [hparse]
  rfl

theorem reads_boundedText {maximum : Nat} (x : BoundedString maximum) (error : ModelError)
    (h : maximum < 2 ^ 64) :
    Reads (parsed (parseBounded maximum error) : Reader ε _) (Cbor.text x.str) x := by
  have hsize := x.size_lt
  exact reads_parsed (by omega) (parseBounded_str error x)

theorem reads_nullable {α : Type} {read : Reader ε α} {encode : α → Bytes} {value : Option α}
    (hnull : ∀ a ∈ value, NotNull (encode a)) (h : ∀ a ∈ value, Reads read (encode a) a) :
    Reads (nullable read) (encodeOptional encode value) value := by
  have hpeek {input : Bytes} {value : Bool} (hinput : Cbor.isNull input = some value) :
      (isNull : Reader ε Bool).run input = .ok (value, input) := by
    simp only [isNull, StateT.run, hinput]
  intro rest
  cases value with
  | none =>
    rw [nullable, StateT.run_bind, encodeOptional, hpeek (LawfulCbor.isNull_null rest)]
    have hread : Reads (item Cbor.readNull >>= fun _ => pure none : Reader ε (Option α)) Cbor.null
        none := (reads_item fun rest => LawfulCbor.readNull_null rest).then (Reads.pure none)
    exact hread rest
  | some a =>
    rw [nullable, StateT.run_bind, encodeOptional, hpeek (hnull a rfl rest)]
    have hread : Reads (read >>= fun a => pure (some a)) (encode a) (some a) :=
      (h a rfl).then (Reads.pure (some a))
    exact hread rest

/-- A keyed field, followed by the rest of the object. -/
theorem reads_keyed {α β : Type} (k : UInt8) {r : Reader ε α} {f : α → Reader ε β} {bs : Bytes}
    {css : List Bytes} {a : α} {b : β} (hr : Reads r bs a) (hf : Reads (f a) css.flatten b) :
    Reads (keyDecode k >>= fun _ => r >>= f) (encodeKey k :: bs :: css).flatten b :=
  ((reads_keyDecode k).seq (hr.seq hf.readsIf)).always

/-- A profile spreads over two keyed fields. -/
theorem reads_keyedProfile {β : Type} (k versionKey : UInt8) (p : ProfileRef)
    {f : ProfileRef → Reader ε β} {css : List Bytes} {b : β} (hf : Reads (f p) css.flatten b) :
    Reads (keyDecode k >>= fun _ => profile versionKey >>= f)
      (encodeKey k :: Cbor.text p.id.str :: encodeKey versionKey :: encodeU16 p.version :: css).flatten
      b := by
  have hbuild : (ProfileRef.new p.id p.version).mapError
      (fun _ => (ReadFailure.malformed : ε)) = .ok p := by
    rw [ProfileRef.new_self]
    rfl
  have hprofile : Reads (profile versionKey : Reader ε ProfileRef)
      [Cbor.text p.id.str, encodeKey versionKey, encodeU16 p.version].flatten p :=
    ((reads_boundedText p.id .invalidProfile (by decide)).seq ((reads_keyDecode versionKey).seq
      ((reads_u16 p.version).seq (Reads.lift hbuild).readsIf))).always
  have hboth : Reads (keyDecode k >>= fun _ => profile versionKey >>= f) (encodeKey k ++
      ([Cbor.text p.id.str, encodeKey versionKey, encodeU16 p.version].flatten ++ css.flatten)) b :=
    (reads_keyDecode k).bind (hprofile.bind hf)
  simpa using hboth

omit [ReadFailure ε] in
theorem reads_counted {α : Type} {read : Reader ReceiptError α} {encode : α → Bytes} {items : List α}
    {maximum : Nat} (hbounded : items.length ≤ maximum) (hmaximum : maximum < 2 ^ 64)
    (h : ∀ a ∈ items, Reads read (encode a) a) :
    Reads (counted maximum read) (encodeList encode items) items := by
  have harray : Reads (definiteArray maximum) (Cbor.array items.length) items.length :=
    (reads_item fun rest => LawfulCbor.readArray_array items.length rest (by omega)).then
      ((Reads.ensure _ hbounded).then (Reads.pure items.length))
  exact harray.bind (Reads.many h)

end Items

/-! ## Receipts -/

theorem decisionOfCode_decisionCode (decision : DecisionClass) :
    decisionOfCode (decisionCode decision) = .ok decision := by
  cases decision <;> rfl

theorem outcomeOfCode_outcomeCode (outcome : ExecutionOutcome) :
    outcomeOfCode (outcomeCode outcome) = .ok outcome := by
  cases outcome <;> rfl

theorem tokenText_size {maximum : Nat} {value : String} (h : tokenText maximum value = true) :
    value.utf8ByteSize ≤ maximum := by
  simp only [tokenText, Bool.not_eq_true', Bool.or_eq_false_iff, decide_eq_false_iff_not] at h
  omega

section Claims

variable [ClaimsJson]

theorem length_of_validateProfileClaims {value : Bytes} {profile : Option ProfileRef}
    {phase : ProfileReceiptClaimPhase} (h : validateProfileClaims value profile phase = .ok ()) :
    value.length ≤ maxProfileClaimsBytes := by
  obtain ⟨decoded, hdecoded, -⟩ := Except.bind_eq_ok.mp h
  exact (encode_of_decodeProfileReceiptClaims hdecoded).2

theorem DecisionReceipt.reasons_bounded (r : DecisionReceipt) :
    r.reasons.length ≤ maxReasonCount ∧
      ∀ reason ∈ r.reasons, reason.utf8ByteSize ≤ maxReasonBytes := by
  obtain ⟨-, hcount, hall⟩ := require_eq_ok.mp r.reasonsValid
  exact ⟨hcount, fun reason hreason => tokenText_size (List.all_eq_true.mp hall reason hreason)⟩

variable [Cbor] [LawfulCbor]

theorem reads_decisionMembers (r : DecisionReceipt) :
    Reads decisionMembers (encodeDecision r) (.ok r) := by
  obtain ⟨hcount, hsizes⟩ := r.reasons_bounded
  have hclaims := length_of_validateProfileClaims r.claimsValid
  have hbytes : r.profileClaims.length < 2 ^ 64 := by
    rw [maxProfileClaimsBytes] at hclaims
    omega
  have hreasons : Reads (counted maxReasonCount str) (encodeList Cbor.text r.reasons) r.reasons := by
    refine reads_counted hcount (by decide) fun reason hreason => reads_str ?_
    exact lt_of_le_of_lt (hsizes reason hreason) (by decide)
  have hdecision : Reads (u8 >>= fun code => fromExcept (decisionOfCode code))
      (encodeU8 (decisionCode r.decision)) r.decision :=
    (reads_u8 _).then (Reads.lift (decisionOfCode_decisionCode r.decision))
  have hbuilt : Reads (pure (DecisionReceipt.new r.proofDigest r.actionDigest r.contextDigest
      r.principalStatus r.grantStatus r.profile r.decision r.reasons r.decidedAt r.profileClaims) :
      Reader ReceiptError _) [] (.ok r) := by
    rw [DecisionReceipt.new_self]
    exact Reads.pure _
  unfold decisionMembers
  refine ((reads_exactMap (by decide)).seq (Reads.readsIf ?_)).always
  refine reads_keyed 0 reads_version ?_
  refine reads_keyed 1 (reads_digest r.proofDigest) ?_
  refine reads_keyed 2 (reads_digest r.actionDigest) ?_
  refine reads_keyed 3 (reads_digest r.contextDigest) ?_
  refine reads_keyed 4 (reads_digest r.principalStatus) ?_
  refine reads_keyed 5 (reads_digest r.grantStatus) ?_
  refine reads_keyedProfile 6 7 r.profile ?_
  simp only [← bind_assoc (x := u8)]
  refine reads_keyed 8 hdecision ?_
  refine reads_keyed 9 hreasons ?_
  refine reads_keyed 10 (reads_u64 r.decidedAt) ?_
  exact reads_keyed 11 (reads_bytes hbytes) hbuilt

theorem reads_executionMembers (r : ExecutionReceipt) :
    Reads executionMembers (encodeExecution r) (.ok r) := by
  have hclaims := length_of_validateProfileClaims r.claimsValid
  have hbytes : r.profileClaims.length < 2 ^ 64 := by
    rw [maxProfileClaimsBytes] at hclaims
    omega
  have houtcome : Reads (u8 >>= fun code => fromExcept (outcomeOfCode code))
      (encodeU8 (outcomeCode r.outcome)) r.outcome :=
    (reads_u8 _).then (Reads.lift (outcomeOfCode_outcomeCode r.outcome))
  have hresult : Reads (nullable digest : Reader ReceiptError (Option Digest))
      (encodeOptional encodeDigest r.resultDigest) r.resultDigest :=
    reads_nullable (fun value _ => notNull_digest value) fun value _ => reads_digest value
  have hbuilt : Reads (pure (ExecutionReceipt.new r.decisionReceipt r.executionLease r.commandDigest
      r.outcome r.resultDigest r.completedAt r.profileClaims) : Reader ReceiptError _) [] (.ok r) := by
    rw [ExecutionReceipt.new_self]
    exact Reads.pure _
  unfold executionMembers
  refine ((reads_exactMap (by decide)).seq (Reads.readsIf ?_)).always
  refine reads_keyed 0 reads_version ?_
  refine reads_keyed 1 (reads_digest r.decisionReceipt) ?_
  refine reads_keyed 2 (reads_digest r.executionLease) ?_
  refine reads_keyed 3 (reads_digest r.commandDigest) ?_
  simp only [← bind_assoc (x := u8)]
  refine reads_keyed 4 houtcome ?_
  refine reads_keyed 5 hresult ?_
  refine reads_keyed 6 (reads_u64 r.completedAt) ?_
  exact reads_keyed 7 (reads_bytes hbytes) hbuilt

theorem decodeDecision_encodeDecision (r : DecisionReceipt) :
    decodeDecision (encodeDecision r) = .ok r := by
  unfold decodeDecision
  rw [complete_of_reads (reads_decisionMembers r)]
  show (require (encodeDecision r = encodeDecision r) _ >>= fun _ => pure r) = _
  rw [require_ok rfl]
  rfl

theorem decodeExecution_encodeExecution (r : ExecutionReceipt) :
    decodeExecution (encodeExecution r) = .ok r := by
  unfold decodeExecution
  rw [complete_of_reads (reads_executionMembers r)]
  show (require (encodeExecution r = encodeExecution r) _ >>= fun _ => pure r) = _
  rw [require_ok rfl]
  rfl

omit [LawfulCbor] in
theorem encodeDecision_of_decode {input : Bytes} {r : DecisionReceipt}
    (h : decodeDecision input = .ok r) : encodeDecision r = input := by
  simp only [decodeDecision, Except.bind_eq_ok, require_eq_ok] at h
  obtain ⟨built, -, receipt, -, ⟨⟩, hsame, hreturn⟩ := h
  cases hreturn
  exact hsame

omit [LawfulCbor] in
theorem encodeExecution_of_decode {input : Bytes} {r : ExecutionReceipt}
    (h : decodeExecution input = .ok r) : encodeExecution r = input := by
  simp only [decodeExecution, Except.bind_eq_ok, require_eq_ok] at h
  obtain ⟨built, -, receipt, -, ⟨⟩, hsame, hreturn⟩ := h
  cases hreturn
  exact hsame

end Claims

/-! ## Signed receipts -/

section Attested

variable [Cbor]

/-- A decoder that accepts nothing but encodings returns what they encode. -/
theorem encode_of_decodeAttestedAs {R : Type} {kind : UInt8} {decode : Bytes → Except ReceiptError R}
    {encode : Attested R → Bytes} {input : Bytes} {attested : Attested R}
    (h : decodeAttestedAs kind decode encode input = .ok attested) : encode attested = input := by
  obtain ⟨⟨found, payload, signer, signature⟩, -, h⟩ := Except.bind_eq_ok.mp h
  simp only [Except.bind_eq_ok, require_eq_ok] at h
  obtain ⟨⟨⟩, -, receipt, -, ⟨⟩, hsame, hreturn⟩ := h
  cases hreturn
  exact hsame

variable [LawfulCbor] [CompactCbor]

omit [CompactCbor] in
theorem reads_attestedMembers (kind : UInt8) {payload : Bytes} (hpayload : payload.length < 2 ^ 64)
    (signer : ReceiptSigner) (signature : SignatureBytes) :
    Reads attestedMembers (encodeAttested kind payload signer signature)
      (kind, payload, signer, signature) := by
  have hsignature : Reads (bytes >>= fun bytes => fromExcept ((SignatureBytes.new bytes).mapError
      fun _ => ReceiptError.malformed)) (Cbor.bytes signature.bytes) signature := by
    have hlength : signature.bytes.length < 2 ^ 64 := lt_of_le_of_lt signature.bounded (by decide)
    refine (reads_bytes hlength).then (Reads.lift ?_)
    rw [SignatureBytes.new_bytes]
    rfl
  unfold attestedMembers
  refine ((reads_exactMap (by decide)).seq (Reads.readsIf ?_)).always
  refine reads_keyed 0 reads_version ?_
  refine reads_keyed 1 (reads_u8 kind) ?_
  refine reads_keyed 2 (reads_bytes hpayload) ?_
  refine reads_keyed 3 (reads_parsed signer.verifier.size_lt signer.verifier.parse_str) ?_
  refine reads_keyed 4 (reads_boundedText signer.verificationMethod _ (by decide)) ?_
  refine reads_keyed 5 (reads_boundedText signer.suite _ (by decide)) ?_
  simp only [← bind_assoc (x := bytes)]
  exact reads_keyed 6 hsignature (Reads.pure _)

omit [LawfulCbor] in
theorem length_encodeAttested (kind : UInt8) (payload : Bytes) (signer : ReceiptSigner)
    (signature : SignatureBytes) :
    (encodeAttested kind payload signer signature).length ≤ payload.length + 6000 := by
  have hpayload := CompactCbor.length_bytes payload
  have hverifier : (Cbor.text signer.verifier.str).length ≤ 9 + 512 := by
    have htext := CompactCbor.length_text signer.verifier.str
    have hsize := (⟨signer.verifier.str, signer.verifier.bounded⟩ : BoundedString 512).size_lt
    dsimp only at hsize
    omega
  have hmethod : (Cbor.text signer.verificationMethod.str).length ≤ 9 + 512 := by
    have htext := CompactCbor.length_text signer.verificationMethod.str
    have hsize := signer.verificationMethod.size_lt
    omega
  have hsuite : (Cbor.text signer.suite.str).length ≤ 9 + 128 := by
    have htext := CompactCbor.length_text signer.suite.str
    have hsize := signer.suite.size_lt
    omega
  have hsignature : (Cbor.bytes signature.bytes).length ≤ 9 + 4096 := by
    have hbytes := CompactCbor.length_bytes signature.bytes
    have hbounded : signature.bytes.length ≤ 4096 := signature.bounded
    omega
  have hlength := length_object (n := 7) <|
    length_field 0 (length_encodeU16 protocolV1) <| length_field 1 (length_encodeU8 kind) <|
    length_field 2 hpayload <| length_field 3 hverifier <| length_field 4 hmethod <|
    length_field 5 hsuite <| length_lastField 6 hsignature
  exact hlength.trans (by omega)

/-- A signed receipt is read back where its payload is. -/
theorem decodeAttestedAs_encode {R : Type} {kind : UInt8} {decode : Bytes → Except ReceiptError R}
    {encodeReceipt : R → Bytes} {attested : Attested R}
    (hdecode : decode (encodeReceipt attested.receipt) = .ok attested.receipt)
    (hbounded : (encodeReceipt attested.receipt).length ≤ maxAuditBytes - 6000) :
    decodeAttestedAs kind decode
      (fun a => encodeAttested kind (encodeReceipt a.receipt) a.signer a.signature)
      (encodeAttested kind (encodeReceipt attested.receipt) attested.signer attested.signature) =
        .ok attested := by
  have hmaximum : maxAuditBytes = 16777216 := rfl
  have hlength := length_encodeAttested kind (encodeReceipt attested.receipt) attested.signer
    attested.signature
  have hfits : (encodeAttested kind (encodeReceipt attested.receipt) attested.signer
      attested.signature).length ≤ maxAuditBytes := by omega
  have hread := reads_attestedMembers kind
    (show (encodeReceipt attested.receipt).length < 2 ^ 64 by omega) attested.signer attested.signature
  unfold decodeAttestedAs decodeAttested
  rw [require_ok hfits]
  show (complete attestedMembers _ >>= _) = _
  rw [complete_of_reads hread]
  show (require (kind = kind) _ >>= fun _ => decode (encodeReceipt attested.receipt) >>= _) = _
  rw [require_ok rfl]
  show (decode (encodeReceipt attested.receipt) >>= _) = _
  rw [hdecode]
  show (require (encodeAttested _ _ _ _ = encodeAttested _ _ _ _) _ >>= _) = _
  rw [require_ok rfl]
  rfl

variable [ClaimsJson]

omit [LawfulCbor] in
theorem length_encodeDecision (r : DecisionReceipt) : (encodeDecision r).length ≤ 100000 := by
  obtain ⟨hcount, hsizes⟩ := r.reasons_bounded
  have hclaims : (Cbor.bytes r.profileClaims).length ≤ 9 + 65536 := by
    have hbytes := CompactCbor.length_bytes r.profileClaims
    have hbounded : r.profileClaims.length ≤ 65536 := length_of_validateProfileClaims r.claimsValid
    omega
  have hreasons : (encodeList Cbor.text r.reasons).length ≤ 9 + 32 * 137 := by
    have hlist : (encodeList Cbor.text r.reasons).length ≤ 9 + r.reasons.length * 137 := by
      refine length_encodeList fun reason hreason => ?_
      have htext := CompactCbor.length_text reason
      have hsize : reason.utf8ByteSize ≤ 128 := hsizes reason hreason
      omega
    have hmaximum : r.reasons.length ≤ 32 := hcount
    omega
  have hprofile : (Cbor.text r.profile.id.str).length ≤ 9 + 128 := by
    have htext := CompactCbor.length_text r.profile.id.str
    have hsize := r.profile.id.size_lt
    omega
  have hlength := length_object (n := 12) <|
    length_field 0 (length_encodeU16 protocolV1) <| length_field 1 (length_encodeDigest r.proofDigest) <|
    length_field 2 (length_encodeDigest r.actionDigest) <|
    length_field 3 (length_encodeDigest r.contextDigest) <|
    length_field 4 (length_encodeDigest r.principalStatus) <|
    length_field 5 (length_encodeDigest r.grantStatus) <| length_field 6 hprofile <|
    length_field 7 (length_encodeU16 r.profile.version) <|
    length_field 8 (length_encodeU8 (decisionCode r.decision)) <| length_field 9 hreasons <|
    length_field 10 (length_encodeU64 r.decidedAt) <| length_lastField 11 hclaims
  exact hlength.trans (by omega)

omit [LawfulCbor] in
theorem length_encodeExecution (r : ExecutionReceipt) : (encodeExecution r).length ≤ 100000 := by
  have hclaims : (Cbor.bytes r.profileClaims).length ≤ 9 + 65536 := by
    have hbytes := CompactCbor.length_bytes r.profileClaims
    have hbounded : r.profileClaims.length ≤ 65536 := length_of_validateProfileClaims r.claimsValid
    omega
  have hresult : (encodeOptional encodeDigest r.resultDigest).length ≤ 41 :=
    length_encodeOptional (by decide) length_encodeDigest r.resultDigest
  have hlength := length_object (n := 8) <|
    length_field 0 (length_encodeU16 protocolV1) <|
    length_field 1 (length_encodeDigest r.decisionReceipt) <|
    length_field 2 (length_encodeDigest r.executionLease) <|
    length_field 3 (length_encodeDigest r.commandDigest) <|
    length_field 4 (length_encodeU8 (outcomeCode r.outcome)) <| length_field 5 hresult <|
    length_field 6 (length_encodeU64 r.completedAt) <| length_lastField 7 hclaims
  exact hlength.trans (by omega)

theorem decodeAttestedDecision_encode (attested : AttestedDecisionReceipt) :
    decodeAttestedDecision (encodeAttestedDecision attested) = .ok attested := by
  have hbounded := length_encodeDecision attested.receipt
  have hmaximum : maxAuditBytes = 16777216 := rfl
  exact decodeAttestedAs_encode (decodeDecision_encodeDecision attested.receipt) (by omega)

theorem decodeAttestedExecution_encode (attested : AttestedExecutionReceipt) :
    decodeAttestedExecution (encodeAttestedExecution attested) = .ok attested := by
  have hbounded := length_encodeExecution attested.receipt
  have hmaximum : maxAuditBytes = 16777216 := rfl
  exact decodeAttestedAs_encode (decodeExecution_encodeExecution attested.receipt) (by omega)

end Attested

/-! ## Disclosures -/

section Disclosure

variable [Cbor]

theorem encodeReceiptDisclosure_of_decode {input : Bytes} {d : ReceiptDisclosure}
    (h : decodeReceiptDisclosure input = .ok d) : encodeReceiptDisclosure d = input := by
  simp only [decodeReceiptDisclosure, Except.bind_eq_ok, require_eq_ok] at h
  obtain ⟨⟨⟩, -, built, -, disclosure, -, ⟨⟩, hsame, hreturn⟩ := h
  cases hreturn
  exact hsame

variable [LawfulCbor]

theorem reads_disclosureMembers (d : ReceiptDisclosure) :
    Reads disclosureMembers (encodeReceiptDisclosure d) (.ok d) := by
  have hmaximum : maxDisclosureCommandBytes = 1048576 ∧ maxDisclosureResultBytes = 1048576 :=
    ⟨rfl, rfl⟩
  have hcommand : d.command.length < 2 ^ 64 := by
    have hbounded := d.commandBounded.2
    omega
  have hlengths : ∀ value ∈ d.result, value.length < 2 ^ 64 := by
    intro value hvalue
    have hbounded := (d.resultBounded value hvalue).2
    omega
  have hresult : Reads (nullable bytes : Reader ReceiptInspectionError (Option Bytes))
      (encodeOptional Cbor.bytes d.result) d.result :=
    reads_nullable (fun value hvalue => notNull_bytes (hlengths value hvalue))
      fun value hvalue => reads_bytes (hlengths value hvalue)
  have hkind : Reads (u8 >>= fun kind => ensure (kind = disclosureKind)
      ReceiptInspectionError.unsupportedDisclosure) (encodeU8 disclosureKind) () :=
    (reads_u8 disclosureKind).then (Reads.ensure _ rfl)
  have hbuilt : Reads (pure (ReceiptDisclosure.new d.receiptId d.profile d.command d.result) :
      Reader ReceiptInspectionError _) [] (.ok d) := by
    rw [ReceiptDisclosure.new_self]
    exact Reads.pure _
  unfold disclosureMembers
  refine ((reads_exactMap (by decide)).seq (Reads.readsIf ?_)).always
  refine reads_keyed 0 reads_version ?_
  simp only [← bind_assoc (x := u8)]
  refine reads_keyed 1 hkind ?_
  refine reads_keyed 2 (reads_digest d.receiptId) ?_
  refine reads_keyedProfile 3 4 d.profile ?_
  refine reads_keyed 5 (reads_bytes hcommand) ?_
  exact reads_keyed 6 hresult hbuilt

variable [CompactCbor]

omit [LawfulCbor] in
theorem length_encodeReceiptDisclosure (d : ReceiptDisclosure) : (encodeReceiptDisclosure d).length ≤
    maxDisclosureCommandBytes + maxDisclosureResultBytes + 1024 := by
  have hmaximum : maxDisclosureCommandBytes = 1048576 ∧ maxDisclosureResultBytes = 1048576 :=
    ⟨rfl, rfl⟩
  have hcommand : (Cbor.bytes d.command).length ≤ 9 + 1048576 := by
    have hbytes := CompactCbor.length_bytes d.command
    have hbounded := d.commandBounded.2
    omega
  have hresult : (encodeOptional Cbor.bytes d.result).length ≤ 9 + 1048576 := by
    have hbounded := d.resultBounded
    cases hvalue : d.result with
    | none => exact CompactCbor.length_null.trans (by omega)
    | some value =>
      have hbytes := CompactCbor.length_bytes value
      have hlength := (hbounded value hvalue).2
      rw [encodeOptional]
      omega
  have hprofile : (Cbor.text d.profile.id.str).length ≤ 9 + 128 := by
    have htext := CompactCbor.length_text d.profile.id.str
    have hsize := d.profile.id.size_lt
    omega
  have hlength := length_object (n := 7) <|
    length_field 0 (length_encodeU16 protocolV1) <| length_field 1 (length_encodeU8 disclosureKind) <|
    length_field 2 (length_encodeDigest d.receiptId) <| length_field 3 hprofile <|
    length_field 4 (length_encodeU16 d.profile.version) <| length_field 5 hcommand <|
    length_lastField 6 hresult
  exact hlength.trans (by omega)

theorem decodeReceiptDisclosure_encode (d : ReceiptDisclosure) :
    decodeReceiptDisclosure (encodeReceiptDisclosure d) = .ok d := by
  unfold decodeReceiptDisclosure
  rw [require_ok (length_encodeReceiptDisclosure d)]
  show (complete disclosureMembers _ >>= _) = _
  rw [complete_of_reads (reads_disclosureMembers d)]
  show (require (encodeReceiptDisclosure d = encodeReceiptDisclosure d) _ >>= fun _ => pure d) = _
  rw [require_ok rfl]
  rfl

end Disclosure

end AuthsProof.Receipts
