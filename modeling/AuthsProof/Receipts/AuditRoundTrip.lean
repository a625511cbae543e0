import AuthsProof.Receipts.Audit
import AuthsProof.Receipts.ClaimsJson
import AuthsProof.Receipts.RoundTrip

/-! Portable containers and audit exports are read back, an export forgets the order it was given in,
and the limit of its encoding is not the limit of its payload. -/

namespace AuthsProof.Receipts

open Sorting Wire Read

/-! ## Portable containers -/

section Portable

variable [Cbor] [Sha256] [ClaimsJson]

/-- The parts of a container are canonical signed receipts, and the execution names the decision. -/
def PortableReceipt.Linked : PortableReceipt → Prop
  | .decision attestedDecision => ∃ decision, decodeAttestedDecision attestedDecision = .ok decision
  | .execution attestedDecision attestedExecution => ∃ decision execution,
    decodeAttestedDecision attestedDecision = .ok decision ∧
      decodeAttestedExecution attestedExecution = .ok execution ∧
      execution.receipt.decisionReceipt = decisionReceiptId decision.receipt

omit [Sha256] [ClaimsJson] in
def portableBytes : PortableReceipt → Bytes
  | .decision attestedDecision => portableDecisionBytes attestedDecision
  | .execution attestedDecision attestedExecution =>
    portableExecutionBytes attestedDecision attestedExecution

omit [Sha256] in
theorem encodeAttestedDecision_of_decode {input : Bytes} {attested : AttestedDecisionReceipt}
    (h : decodeAttestedDecision input = .ok attested) : encodeAttestedDecision attested = input :=
  encode_of_decodeAttestedAs h

omit [Sha256] in
theorem encodeAttestedExecution_of_decode {input : Bytes} {attested : AttestedExecutionReceipt}
    (h : decodeAttestedExecution input = .ok attested) : encodeAttestedExecution attested = input :=
  encode_of_decodeAttestedAs h

omit [Sha256] [ClaimsJson] in
theorem length_of_decodeAttestedAs {R : Type} {kind : UInt8} {decode : Bytes → Except ReceiptError R}
    {encode : Attested R → Bytes} {input : Bytes} {attested : Attested R}
    (h : decodeAttestedAs kind decode encode input = .ok attested) : input.length ≤ maxAuditBytes := by
  obtain ⟨parts, hparts, -⟩ := Except.bind_eq_ok.mp h
  obtain ⟨⟨⟩, hlimit, -⟩ := Except.bind_eq_ok.mp hparts
  exact require_eq_ok.mp hlimit

/-- A container is encoded exactly when it is linked and fits. -/
theorem encodePortable_eq_ok {value : PortableReceipt} {bytes : Bytes} :
    encodePortable value = .ok bytes ↔ value.Linked ∧ bytes = portableBytes value ∧
      bytes ≠ [] ∧ bytes.length ≤ maxPortableReceiptBytes := by
  cases value with
  | decision attestedDecision =>
    simp only [encodePortable, encodePortableDecision, boundedPortable, Except.bind_eq_ok, require_eq_ok,
      PortableReceipt.Linked, portableBytes]
    constructor
    · intro h
      obtain ⟨decision, hdecision, ⟨⟩, -, ⟨⟩, hbounded, hreturn⟩ := h
      cases hreturn
      exact ⟨⟨decision, hdecision⟩, rfl, hbounded⟩
    · intro h
      obtain ⟨⟨decision, hdecision⟩, rfl, hbounded⟩ := h
      exact ⟨decision, hdecision, (), encodeAttestedDecision_of_decode hdecision, (), hbounded, rfl⟩
  | execution attestedDecision attestedExecution =>
    simp only [encodePortable, encodePortableExecution, boundedPortable, Except.bind_eq_ok,
      require_eq_ok, PortableReceipt.Linked, portableBytes]
    constructor
    · intro h
      obtain ⟨decision, hdecision, execution, hexecution, ⟨⟩, ⟨-, -, hlink⟩, ⟨⟩, hbounded, hreturn⟩ := h
      cases hreturn
      exact ⟨⟨decision, execution, hdecision, hexecution, hlink⟩, rfl, hbounded⟩
    · intro h
      obtain ⟨⟨decision, execution, hdecision, hexecution, hlink⟩, rfl, hbounded⟩ := h
      exact ⟨decision, hdecision, execution, hexecution, (),
        ⟨encodeAttestedDecision_of_decode hdecision, encodeAttestedExecution_of_decode hexecution, hlink⟩,
        (), hbounded, rfl⟩

theorem encodePortable_of_decode {input : Bytes} {value : PortableReceipt}
    (h : decodePortableReceipt input = .ok value) : encodePortable value = .ok input := by
  simp only [decodePortableReceipt, Except.bind_eq_ok, require_eq_ok] at h
  obtain ⟨⟨⟩, -, found, -, canonical, hencode, ⟨⟩, rfl, hreturn⟩ := h
  cases hreturn
  exact hencode

variable [LawfulCbor]

omit [Sha256] [ClaimsJson] in
theorem reads_portableKey (k : UInt8) : Reads (portableKey k) (encodeU8 k) () :=
  (reads_u8 k).then (Reads.ensure _ rfl)

omit [Sha256] [ClaimsJson] in
theorem reads_portableMembers_decision {attestedDecision : Bytes}
    (h : attestedDecision.length < 2 ^ 64) :
    Reads portableMembers (portableDecisionBytes attestedDecision) (.decision attestedDecision) := by
  have hmap : Reads (item Cbor.readMap : Reader ReceiptError _) (Cbor.map 3) (some 3) :=
    reads_item fun rest => LawfulCbor.readMap_map 3 rest (by decide)
  unfold portableMembers
  refine (hmap.seq ((Reads.ensure _ (.inl rfl)).step ?_)).always
  refine (reads_portableKey 1).seq ((reads_portableKey 1).seq ((reads_portableKey 2).seq ?_))
  refine (reads_str (s := "decision") (by decide)).seq ((reads_portableKey 3).seq ?_)
  refine (reads_bytes h).seq ?_
  rw [if_pos ⟨rfl, rfl⟩]
  exact ReadsIf.pure _

omit [Sha256] [ClaimsJson] in
theorem reads_portableMembers_execution {attestedDecision attestedExecution : Bytes}
    (h : attestedDecision.length < 2 ^ 64) (h' : attestedExecution.length < 2 ^ 64) :
    Reads portableMembers (portableExecutionBytes attestedDecision attestedExecution)
      (.execution attestedDecision attestedExecution) := by
  have hmap : Reads (item Cbor.readMap : Reader ReceiptError _) (Cbor.map 4) (some 4) :=
    reads_item fun rest => LawfulCbor.readMap_map 4 rest (by decide)
  have hkind : ¬("execution" = "decision" ∧ some 4 = some 3) := by decide
  unfold portableMembers
  refine (hmap.seq ((Reads.ensure _ (.inr rfl)).step ?_)).always
  refine (reads_portableKey 1).seq ((reads_portableKey 1).seq ((reads_portableKey 2).seq ?_))
  refine (reads_str (s := "execution") (by decide)).seq ((reads_portableKey 3).seq ?_)
  refine (reads_bytes h).seq ?_
  rw [if_neg hkind, if_pos ⟨rfl, rfl⟩]
  exact (reads_portableKey 4).seq ((reads_bytes h').seq (ReadsIf.pure _))

theorem reads_portableMembers {value : PortableReceipt} (h : value.Linked) :
    Reads portableMembers (portableBytes value) value := by
  have hmaximum : maxAuditBytes = 16777216 := rfl
  cases value with
  | decision attestedDecision =>
    obtain ⟨decision, hdecision⟩ := h
    have hlength := length_of_decodeAttestedAs hdecision
    exact reads_portableMembers_decision (by omega)
  | execution attestedDecision attestedExecution =>
    obtain ⟨decision, execution, hdecision, hexecution, -⟩ := h
    have hlength := length_of_decodeAttestedAs hdecision
    have hlength' := length_of_decodeAttestedAs hexecution
    exact reads_portableMembers_execution (by omega) (by omega)

omit [Sha256] [ClaimsJson] in
/-- A map header takes at least one byte: without any it could not be told from another. -/
theorem map_ne_nil {n m : Nat} (hn : n < 2 ^ 64) (hm : m < 2 ^ 64) (hne : n ≠ m) : Cbor.map n ≠ [] := by
  intro hempty
  have hread := LawfulCbor.readMap_map n (Cbor.map m ++ []) hn
  rw [hempty, List.nil_append, LawfulCbor.readMap_map m [] hm] at hread
  simp only [Option.some.injEq, Prod.mk.injEq] at hread
  exact hne hread.1.symm

omit [Sha256] [ClaimsJson] in
theorem portableBytes_ne_nil (value : PortableReceipt) : portableBytes value ≠ [] := by
  intro hempty
  cases value with
  | decision attestedDecision =>
    have hmap := List.flatten_eq_nil_iff.mp hempty (Cbor.map 3) List.mem_cons_self
    exact map_ne_nil (m := 4) (by decide) (by decide) (by decide) hmap
  | execution attestedDecision attestedExecution =>
    have hmap := List.flatten_eq_nil_iff.mp hempty (Cbor.map 4) List.mem_cons_self
    exact map_ne_nil (m := 3) (by decide) (by decide) (by decide) hmap

/-- A linked container within the limit is encoded, and decoded to what it was. -/
theorem portable_roundTrip {value : PortableReceipt} (hlinked : value.Linked)
    (hsize : (portableBytes value).length ≤ maxPortableReceiptBytes) :
    encodePortable value = .ok (portableBytes value) ∧
      decodePortableReceipt (portableBytes value) = .ok value := by
  have hencode : encodePortable value = .ok (portableBytes value) :=
    encodePortable_eq_ok.mpr ⟨hlinked, rfl, portableBytes_ne_nil value, hsize⟩
  refine ⟨hencode, ?_⟩
  unfold decodePortableReceipt
  rw [require_ok ⟨portableBytes_ne_nil value, hsize⟩]
  show (complete portableMembers _ >>= _) = _
  rw [complete_of_reads (reads_portableMembers hlinked)]
  show (encodePortable value >>= _) = _
  rw [hencode]
  show (require (portableBytes value = portableBytes value) _ >>= fun _ => pure value) = _
  rw [require_ok rfl]
  rfl

end Portable

/-! ## Audit exports -/

section Audit

variable [Cbor] [Sha256] [ClaimsJson]

theorem AuditBundle.ext {a b : AuditBundle} (hid : a.decisionId = b.decisionId)
    (hdecision : a.decision = b.decision) (hexecutions : a.executions = b.executions)
    (hartifacts : a.artifacts = b.artifacts) : a = b := by
  obtain ⟨_, _, _, _, _, _, _⟩ := a
  obtain ⟨_, _, _, _, _, _, _⟩ := b
  dsimp only at hid hdecision hexecutions hartifacts
  subst hid hdecision hexecutions hartifacts
  rfl

theorem AuditBundle.new_eq_ok {decisionId : ReceiptId} {decision : Bytes}
    {executions : List (ReceiptId × Bytes)} {artifacts : List AuditArtifact} {b : AuditBundle} :
    AuditBundle.new decisionId decision executions artifacts = .ok b ↔
      b.decisionId = decisionId ∧ b.decision = decision ∧
        b.executions = sortByKey Prod.fst executions ∧
        b.artifacts = sortByKey AuditArtifact.key artifacts := by
  unfold AuditBundle.new
  constructor
  · intro h
    split at h
    · cases h
    · cases h
      exact ⟨rfl, rfl, rfl, rfl⟩
  · intro h
    obtain ⟨rfl, rfl, hexecutions, hartifacts⟩ := h
    have hchecked := b.checked
    rw [hexecutions, hartifacts] at hchecked
    split
    · next herror =>
      rw [hchecked] at herror
      cases herror
    · exact congrArg Except.ok (AuditBundle.ext rfl rfl hexecutions.symm hartifacts.symm)

theorem AuditBundle.new_eq_error {decisionId : ReceiptId} {decision : Bytes}
    {executions : List (ReceiptId × Bytes)} {artifacts : List AuditArtifact} {error : ReceiptError} :
    AuditBundle.new decisionId decision executions artifacts = .error error ↔
      checkBundle decisionId decision (sortByKey Prod.fst executions)
        (sortByKey AuditArtifact.key artifacts) = .error error := by
  unfold AuditBundle.new
  split
  · next found hfound =>
    rw [hfound]
    constructor <;> exact fun h => congrArg Except.error (Except.error.inj h)
  · next hok =>
    constructor
    · intro h
      cases h
    · intro h
      rw [hok] at h
      cases h

theorem AuditBundle.new_self (b : AuditBundle) :
    AuditBundle.new b.decisionId b.decision b.executions b.artifacts = .ok b :=
  AuditBundle.new_eq_ok.mpr ⟨rfl, rfl, (sortByKey_of_pairwise b.executionsSorted).symm,
    (sortByKey_of_pairwise b.artifactsSorted).symm⟩

/-- Only the sorted collections matter. -/
theorem AuditBundle.new_congr {decisionId : ReceiptId} {decision : Bytes}
    {executions executions' : List (ReceiptId × Bytes)} {artifacts artifacts' : List AuditArtifact}
    (hexecutions : sortByKey Prod.fst executions = sortByKey Prod.fst executions')
    (hartifacts : sortByKey AuditArtifact.key artifacts = sortByKey AuditArtifact.key artifacts') :
    AuditBundle.new decisionId decision executions artifacts =
      AuditBundle.new decisionId decision executions' artifacts' := by
  cases hnew : AuditBundle.new decisionId decision executions artifacts with
  | error error =>
    rw [AuditBundle.new_eq_error, hexecutions, hartifacts] at hnew
    exact (AuditBundle.new_eq_error.mpr hnew).symm
  | ok b =>
    rw [AuditBundle.new_eq_ok, hexecutions, hartifacts] at hnew
    exact (AuditBundle.new_eq_ok.mpr hnew).symm

/-- Where both checks fail the same way, so do the constructors. -/
theorem AuditBundle.new_of_check {decisionId : ReceiptId} {decision : Bytes}
    {executions executions' : List (ReceiptId × Bytes)} {artifacts artifacts' : List AuditArtifact}
    (hcheck : checkBundle decisionId decision (sortByKey Prod.fst executions)
        (sortByKey AuditArtifact.key artifacts) =
      checkBundle decisionId decision (sortByKey Prod.fst executions')
        (sortByKey AuditArtifact.key artifacts'))
    (hfails : checkBundle decisionId decision (sortByKey Prod.fst executions)
        (sortByKey AuditArtifact.key artifacts) ≠ .ok ()) :
    AuditBundle.new decisionId decision executions artifacts =
      AuditBundle.new decisionId decision executions' artifacts' := by
  cases hresult : checkBundle decisionId decision (sortByKey Prod.fst executions)
      (sortByKey AuditArtifact.key artifacts) with
  | ok u => exact absurd hresult hfails
  | error error =>
    have hfirst := AuditBundle.new_eq_error.mpr hresult
    rw [hcheck] at hresult
    exact hfirst.trans (AuditBundle.new_eq_error.mpr hresult).symm

omit [Cbor] [Sha256] [ClaimsJson] in
/-- In a sorted collection, neighbours differ exactly when no two members agree. -/
theorem adjacentDistinct_iff_nodup {α β : Type} [LinearOrder β] {key : α → β} {xs : List α}
    (hsort : xs.Pairwise fun a b => key a ≤ key b) :
    adjacentDistinct (xs.map key) = true ↔ (xs.map key).Nodup := by
  constructor
  · intro h
    exact List.pairwise_map.mpr ((pairwise_lt_of_adjacentDistinct hsort h).imp fun hab => hab.ne)
  · intro h
    have hne := List.pairwise_map.mp h
    exact adjacentDistinct_of_pairwise_lt
      ((hsort.and hne).imp fun hab => lt_of_le_of_ne hab.1 hab.2)

omit [Cbor] [Sha256] [ClaimsJson] in
theorem sortedExecutions_iff {executions : List (ReceiptId × Bytes)} :
    adjacentDistinct ((sortByKey Prod.fst executions).map Prod.fst) = true ↔
      (executions.map Prod.fst).Nodup := by
  rw [adjacentDistinct_iff_nodup (sortByKey_pairwise Prod.fst executions)]
  exact ((sortByKey_perm Prod.fst executions).map Prod.fst).nodup_iff

omit [Cbor] [Sha256] [ClaimsJson] in
theorem AuditArtifact.digest_le_of_key {a b : AuditArtifact} (h : a.key ≤ b.key) :
    a.digest ≤ b.digest := by
  rcases Prod.Lex.le_iff.mp h with hlt | ⟨heq, -⟩
  · exact hlt.le
  · exact heq.le

omit [Cbor] [Sha256] [ClaimsJson] in
theorem sortedArtifacts_iff {artifacts : List AuditArtifact} :
    adjacentDistinct ((sortByKey AuditArtifact.key artifacts).map AuditArtifact.digest) = true ↔
      (artifacts.map AuditArtifact.digest).Nodup := by
  rw [adjacentDistinct_iff_nodup ((sortByKey_pairwise AuditArtifact.key artifacts).imp
    AuditArtifact.digest_le_of_key)]
  exact ((sortByKey_perm AuditArtifact.key artifacts).map AuditArtifact.digest).nodup_iff

theorem checkBundle_duplicateExecution {decisionId : ReceiptId} {decision : Bytes}
    {executions : List (ReceiptId × Bytes)} {artifacts : List AuditArtifact}
    (h : adjacentDistinct (executions.map Prod.fst) = false) :
    checkBundle decisionId decision executions artifacts = (do
      let _ ← verifyAttestedDecisionBytes decision decisionId
      require (executions.length ≤ maxAuditExecutions ∧ artifacts.length ≤ maxAuditArtifacts)
        .limitExceeded
      .error .duplicate) := by
  have hrequire : require (adjacentDistinct (executions.map Prod.fst) = true)
      ReceiptError.duplicate = .error .duplicate := by
    rw [require, if_neg (by rw [h]; decide)]
  unfold checkBundle
  rw [hrequire]
  rfl

theorem checkBundle_duplicateArtifact {decisionId : ReceiptId} {decision : Bytes}
    {executions : List (ReceiptId × Bytes)} {artifacts : List AuditArtifact}
    (h : adjacentDistinct (artifacts.map AuditArtifact.digest) = false) :
    checkBundle decisionId decision executions artifacts = (do
      let _ ← verifyAttestedDecisionBytes decision decisionId
      require (executions.length ≤ maxAuditExecutions ∧ artifacts.length ≤ maxAuditArtifacts)
        .limitExceeded
      require (adjacentDistinct (executions.map Prod.fst) = true) .duplicate
      executions.forM (checkExecution decisionId)
      .error .duplicate) := by
  have hrequire : require (adjacentDistinct (artifacts.map AuditArtifact.digest) = true)
      ReceiptError.duplicate = .error .duplicate := by
    rw [require, if_neg (by rw [h]; decide)]
  unfold checkBundle
  rw [hrequire]
  rfl

/-- A bundle is the same, or fails the same way, in whatever order its parts are given. -/
theorem AuditBundle.new_perm {decisionId : ReceiptId} {decision : Bytes}
    {executions executions' : List (ReceiptId × Bytes)} {artifacts artifacts' : List AuditArtifact}
    (hexecutions : executions.Perm executions') (hartifacts : artifacts.Perm artifacts') :
    AuditBundle.new decisionId decision executions artifacts =
      AuditBundle.new decisionId decision executions' artifacts' := by
  have hlengths : (sortByKey Prod.fst executions).length = (sortByKey Prod.fst executions').length ∧
      (sortByKey AuditArtifact.key artifacts).length =
        (sortByKey AuditArtifact.key artifacts').length := by
    simp only [length_sortByKey]
    exact ⟨hexecutions.length_eq, hartifacts.length_eq⟩
  have hexecutionsNodup := (hexecutions.map Prod.fst).nodup_iff
  have hartifactsNodup := (hartifacts.map AuditArtifact.digest).nodup_iff
  by_cases hexecutionIds : (executions.map Prod.fst).Nodup
  · have hsorted : sortByKey Prod.fst executions = sortByKey Prod.fst executions' :=
      sortByKey_eq_of_perm hexecutions fun a ha b hb hab =>
        List.inj_on_of_nodup_map hexecutionIds ha hb hab
    by_cases hartifactDigests : (artifacts.map AuditArtifact.digest).Nodup
    · have hsortedArtifacts : sortByKey AuditArtifact.key artifacts =
          sortByKey AuditArtifact.key artifacts' :=
        sortByKey_eq_of_perm hartifacts fun a ha b hb hab =>
          List.inj_on_of_nodup_map hartifactDigests ha hb (congrArg (fun key => (ofLex key).1) hab)
      exact AuditBundle.new_congr hsorted hsortedArtifacts
    · have hfirst := Bool.not_eq_true _ ▸ (@sortedArtifacts_iff artifacts).not.mpr
        hartifactDigests
      have hsecond := Bool.not_eq_true _ ▸ (@sortedArtifacts_iff artifacts').not.mpr
        (hartifactsNodup.not.mp hartifactDigests)
      refine AuditBundle.new_of_check ?_ fun hok => ?_
      · rw [checkBundle_duplicateArtifact hfirst, checkBundle_duplicateArtifact hsecond, hsorted,
          hlengths.2]
      · rw [checkBundle_duplicateArtifact hfirst] at hok
        simp only [Except.bind_eq_ok] at hok
        obtain ⟨_, -, _, -, _, -, _, -, herror⟩ := hok
        cases herror
  · have hfirst := Bool.not_eq_true _ ▸ (@sortedExecutions_iff executions).not.mpr
      hexecutionIds
    have hsecond := Bool.not_eq_true _ ▸ (@sortedExecutions_iff executions').not.mpr
      (hexecutionsNodup.not.mp hexecutionIds)
    refine AuditBundle.new_of_check ?_ fun hok => ?_
    · rw [checkBundle_duplicateExecution hfirst, checkBundle_duplicateExecution hsecond, hlengths.1,
        hlengths.2]
    · rw [checkBundle_duplicateExecution hfirst] at hok
      simp only [Except.bind_eq_ok] at hok
      obtain ⟨_, -, _, -, herror⟩ := hok
      cases herror

end Audit

end AuthsProof.Receipts
