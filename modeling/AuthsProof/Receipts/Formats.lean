import AuthsProof.Receipts.Linkage

/-! What a receipt format accepts is what it writes, and the three routes to a signed pair accept the
same pairs. -/

namespace AuthsProof.Receipts

open Wire Read

section Exact

variable [Cbor] [ClaimsJson]

omit [ClaimsJson] in
/-- A signed receipt that is decoded carries the kind it was decoded as. -/
theorem kind_of_decodeAttestedAs {R : Type} {kind : UInt8} {decode : Bytes → Except ReceiptError R}
    {encode : Attested R → Bytes} {input : Bytes} {attested : Attested R}
    (h : decodeAttestedAs kind decode encode input = .ok attested) :
    ∃ payload signer signature, decodeAttested input = .ok (kind, payload, signer, signature) := by
  simp only [decodeAttestedAs, Except.bind_eq_ok, require_eq_ok] at h
  obtain ⟨⟨found, payload, signer, signature⟩, hparts, _, rfl, -⟩ := h
  exact ⟨payload, signer, signature, hparts⟩

variable [LawfulCbor] [CompactCbor]

theorem encodeAttested_ne (decision : AttestedDecisionReceipt) (execution : AttestedExecutionReceipt) :
    encodeAttestedDecision decision ≠ encodeAttestedExecution execution := by
  intro hsame
  have hdecision := decodeAttestedDecision_encode decision
  rw [hsame] at hdecision
  obtain ⟨_, _, _, hzero⟩ := kind_of_decodeAttestedAs hdecision
  obtain ⟨_, _, _, hone⟩ := kind_of_decodeAttestedAs (decodeAttestedExecution_encode execution)
  have hkinds := (Prod.mk.inj (Except.ok.inj (hzero.symm.trans hone))).1
  exact absurd hkinds (by decide)

/-- A signed receipt and a disclosure are read from their own encoding and from nothing else, and no
bytes are a decision and an execution at once. -/
theorem receiptFormats_exact :
    (∀ input attested,
      decodeAttestedDecision input = .ok attested ↔ input = encodeAttestedDecision attested) ∧
    (∀ input attested,
      decodeAttestedExecution input = .ok attested ↔ input = encodeAttestedExecution attested) ∧
    (∀ input disclosure,
      decodeReceiptDisclosure input = .ok disclosure ↔ input = encodeReceiptDisclosure disclosure) ∧
    ∀ input decision execution, ¬(decodeAttestedDecision input = .ok decision ∧
      decodeAttestedExecution input = .ok execution) := by
  refine ⟨fun input attested => ⟨fun h => ?_, ?_⟩, fun input attested => ⟨fun h => ?_, ?_⟩,
    fun input disclosure => ⟨fun h => ?_, ?_⟩, fun input decision execution h => ?_⟩
  · exact (encodeAttestedDecision_of_decode h).symm
  · rintro rfl
    exact decodeAttestedDecision_encode attested
  · exact (encodeAttestedExecution_of_decode h).symm
  · rintro rfl
    exact decodeAttestedExecution_encode attested
  · exact (encodeReceiptDisclosure_of_decode h).symm
  · rintro rfl
    exact decodeReceiptDisclosure_encode disclosure
  · obtain ⟨hdecision, hexecution⟩ := h
    exact encodeAttested_ne decision execution ((encodeAttestedDecision_of_decode hdecision).trans
      (encodeAttestedExecution_of_decode hexecution).symm)

variable [Sha256]

omit [CompactCbor] in
/-- A container is read exactly from the bytes it is written to. -/
theorem portableReceipt_exact (input : Bytes) (value : PortableReceipt) :
    decodePortableReceipt input = .ok value ↔ encodePortable value = .ok input := by
  constructor
  · exact encodePortable_of_decode
  · intro h
    obtain ⟨hlinked, rfl, -, hsize⟩ := encodePortable_eq_ok.mp h
    exact (portable_roundTrip hlinked hsize).2

end Exact

section Routes

variable [Cbor] [LawfulCbor] [CompactCbor] [Sha256] [ClaimsJson]

/-- The container of two signed receipts is read as the two of them or not at all. -/
theorem portable_of_signed {decision : AttestedDecisionReceipt} {execution : AttestedExecutionReceipt}
    {value : PortableReceipt}
    (h : decodePortableReceipt (portableExecutionBytes (encodeAttestedDecision decision)
      (encodeAttestedExecution execution)) = .ok value) :
    value = .execution (encodeAttestedDecision decision) (encodeAttestedExecution execution) ∧
      value.Linked := by
  obtain ⟨hlinked, hbytes, -⟩ := encodePortable_eq_ok.mp (encodePortable_of_decode h)
  obtain ⟨hdecision, hexecution⟩ := length_attested decision execution
  have hwide : (encodeAttestedDecision decision).length < 2 ^ 64 := by omega
  have hwide' : (encodeAttestedExecution execution).length < 2 ^ 64 := by omega
  have hpair := reads_portableMembers_execution hwide hwide' []
  have hvalue := reads_portableMembers hlinked []
  rw [← hbytes, hpair] at hvalue
  exact ⟨(Prod.mk.inj (Except.ok.inj hvalue)).1.symm, hlinked⟩

theorem named_of_portable {decision : AttestedDecisionReceipt} {execution : AttestedExecutionReceipt}
    {value : PortableReceipt}
    (h : decodePortableReceipt (portableExecutionBytes (encodeAttestedDecision decision)
      (encodeAttestedExecution execution)) = .ok value) :
    execution.receipt.decisionReceipt = decisionReceiptId decision.receipt := by
  obtain ⟨rfl, decision', execution', hdecision, hexecution, hnamed⟩ := portable_of_signed h
  obtain rfl := Except.ok.inj ((decodeAttestedDecision_encode decision).symm.trans hdecision)
  obtain rfl := Except.ok.inj ((decodeAttestedExecution_encode execution).symm.trans hexecution)
  exact hnamed

theorem named_of_audit {decision : AttestedDecisionReceipt} {execution : AttestedExecutionReceipt}
    (h : checkBundle (decisionReceiptId decision.receipt) (encodeAttestedDecision decision)
      [(executionReceiptId execution.receipt, encodeAttestedExecution execution)] [] = .ok ()) :
    execution.receipt.decisionReceipt = decisionReceiptId decision.receipt := by
  simp only [checkBundle, Except.bind_eq_ok, require_eq_ok] at h
  obtain ⟨-, -, _, -, _, -, _, hexecutions, -⟩ := h
  obtain ⟨execution', hexecution, -, hnamed⟩ := checkExecution_eq_ok.mp
    (Except.ok_of_forM hexecutions _ (List.mem_singleton_self _))
  obtain rfl := Except.ok.inj ((decodeAttestedExecution_encode execution).symm.trans hexecution)
  exact hnamed

/-- A container, an audit export and an inspection accept two signed receipts on the same condition:
that the execution names the decision. -/
theorem routes_accept_iff (decision : AttestedDecisionReceipt) (execution : AttestedExecutionReceipt) :
    ((∃ value, decodePortableReceipt (portableExecutionBytes (encodeAttestedDecision decision)
        (encodeAttestedExecution execution)) = .ok value) ↔
      execution.receipt.decisionReceipt = decisionReceiptId decision.receipt) ∧
    (checkBundle (decisionReceiptId decision.receipt) (encodeAttestedDecision decision)
        [(executionReceiptId execution.receipt, encodeAttestedExecution execution)] [] = .ok () ↔
      execution.receipt.decisionReceipt = decisionReceiptId decision.receipt) ∧
    ∀ decisionPolicy executionPolicy : ReceiptSignatureVerifier,
      decisionPolicy decision.signer (decisionSigningPreimage decision.receipt decision.signer)
        decision.signature = .ok () →
      executionPolicy execution.signer
        (executionSigningPreimage execution.receipt execution.signer) execution.signature = .ok () →
      ((∃ inspection, inspectAttestedExecutionReceipt (encodeAttestedDecision decision)
          (decisionReceiptId decision.receipt) decision.signer.verifier decisionPolicy
          (encodeAttestedExecution execution) (executionReceiptId execution.receipt)
          execution.signer.verifier executionPolicy .opaqueView none none = .ok inspection) ↔
        execution.receipt.decisionReceipt = decisionReceiptId decision.receipt) := by
  refine ⟨⟨?_, fun hnamed => ⟨_, portable_of_linked hnamed⟩⟩, ⟨named_of_audit, audit_of_linked⟩,
    fun decisionPolicy executionPolicy hdecisionPolicy hexecutionPolicy => ⟨?_, fun hnamed =>
      ⟨_, inspection_of_linked hnamed hdecisionPolicy hexecutionPolicy⟩⟩⟩
  · rintro ⟨value, h⟩
    exact named_of_portable h
  · rintro ⟨inspection, h⟩
    obtain ⟨_, execution', -, hexecution, -, -, hnamed, -⟩ := inspection_linked h
    obtain rfl := Except.ok.inj ((decodeAttestedExecution_encode execution).symm.trans hexecution)
    exact hnamed

end Routes

section Sample

local instance formatsCbor : Cbor := rfc8949

local instance formatsSha256 : Sha256 := ⟨fun bytes => ⟨Sha2.sha256 bytes, Sha2.sha256_length bytes⟩⟩

noncomputable local instance formatsJson : ClaimsJson := rfc8785

theorem receiptFormats_exact_release :
    decodeAttestedDecision (encodeAttestedDecision releaseDecision) = .ok releaseDecision ∧
      ∀ execution, decodeAttestedExecution (encodeAttestedDecision releaseDecision) ≠ .ok execution := by
  have : LawfulCbor := rfc8949_lawful
  have : CompactCbor := rfc8949_compact
  obtain ⟨hdecisions, -, -, hkinds⟩ := receiptFormats_exact
  have hdecoded := (hdecisions _ releaseDecision).mpr rfl
  exact ⟨hdecoded, fun execution hexecution => hkinds _ _ execution ⟨hdecoded, hexecution⟩⟩

theorem portableReceipt_exact_release :
    encodePortable (.execution (encodeAttestedDecision releaseDecision)
      (encodeAttestedExecution (executionUnder releaseProfile))) =
        .ok (portableExecutionBytes (encodeAttestedDecision releaseDecision)
          (encodeAttestedExecution (executionUnder releaseProfile))) := by
  have : LawfulCbor := rfc8949_lawful
  have : CompactCbor := rfc8949_compact
  exact (portableReceipt_exact _ _).mp (portable_of_linked rfl)

theorem routes_accept_release :
    (∃ value, decodePortableReceipt (portableExecutionBytes (encodeAttestedDecision releaseDecision)
      (encodeAttestedExecution (executionUnder releaseProfile))) = .ok value) ∧
    ∃ inspection, inspectAttestedExecutionReceipt (encodeAttestedDecision releaseDecision)
      (decisionReceiptId releaseDecision.receipt) releaseDecision.signer.verifier (fun _ _ _ => .ok ())
      (encodeAttestedExecution (executionUnder releaseProfile))
      (executionReceiptId (executionUnder releaseProfile).receipt)
      (executionUnder releaseProfile).signer.verifier (fun _ _ _ => .ok ()) .opaqueView none none =
        .ok inspection := by
  have : LawfulCbor := rfc8949_lawful
  have : CompactCbor := rfc8949_compact
  obtain ⟨hportable, -, hinspection⟩ := routes_accept_iff releaseDecision (executionUnder releaseProfile)
  exact ⟨hportable.mpr rfl, (hinspection _ _ rfl rfl).mpr rfl⟩

end Sample

end AuthsProof.Receipts
