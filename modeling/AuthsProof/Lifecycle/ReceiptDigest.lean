import AuthsProof.Lifecycle.Persistence
import AuthsProof.Signing

/-! What the digest of a lifecycle receipt commits to. Its preimage writes every field, but the
identifiers among them without a length: it determines them only up to where they are cut. -/

namespace AuthsProof.Lifecycle

/-- What a receipt is made of. -/
structure ReceiptArguments where
  record : LifecycleRecord
  revision : UInt64
  fromState : Option LifecycleState
  toState : LifecycleState
  trigger : CommitmentDigest
  domainReceipt : Option DomainReceiptDigest
  verifierTime : VerifierTime

namespace ReceiptArguments

def receipt [Sha256] (x : ReceiptArguments) : LifecycleReceiptEnvelope :=
  makeReceipt x.record x.revision x.fromState x.toState x.trigger x.domainReceipt x.verifierTime

def previous (x : ReceiptArguments) : Option LifecycleReceiptDigest :=
  x.record.receipts.getLast?.map (·.receiptDigest)

end ReceiptArguments

def implementationBytes : Option ImplementationId → Bytes
  | some implementation => 1 :: utf8 implementation.str
  | none => [0]

def configurationPieces (value : ConfigurationCommitment) : List Bytes :=
  [utf8 value.semanticId.str, utf8 value.canonicalizationId.str, value.configurationDigest.bytes,
    implementationBytes value.implementationId]

/-- The fields of a receipt as they are written, one after the other. -/
def ReceiptArguments.pieces (x : ReceiptArguments) : List Bytes :=
  [utf8 x.record.input.lifecycleId.str, utf8 x.record.input.executionId.str,
    x.record.input.recoveryReferenceDigest.bytes, bigEndian64 x.revision.toNat,
    [x.fromState.elim 255 stateCode, stateCode x.toState], x.trigger.bytes,
    bigEndian64 x.verifierTime.toNat] ++
  (configurationPieces x.record.input.commitments.requiredConfiguration ++
    (configurationPieces x.record.input.commitments.executedConfiguration ++
      [utf8 x.record.input.implementationId.str, optionalDigestBytes x.previous,
        optionalDigestBytes x.domainReceipt]))

/-- What the digest of a receipt hashes. -/
def ReceiptArguments.preimage (x : ReceiptArguments) : Bytes :=
  utf8 "AUTHS-LIFECYCLE-RECEIPT" ++ ([0, 2] ++ x.pieces.flatten)

/-- Two receipts that agree in every field the digest is to commit to. -/
structure SameFields [Sha256] (x y : ReceiptArguments) : Prop where
  lifecycleId : x.record.input.lifecycleId = y.record.input.lifecycleId
  executionId : x.record.input.executionId = y.record.input.executionId
  recoveryReferenceDigest :
    x.record.input.recoveryReferenceDigest = y.record.input.recoveryReferenceDigest
  revision : x.receipt.revision = y.receipt.revision
  fromState : x.receipt.fromState = y.receipt.fromState
  toState : x.receipt.toState = y.receipt.toState
  triggerDigest : x.receipt.triggerDigest = y.receipt.triggerDigest
  verifierTime : x.receipt.verifierTime = y.receipt.verifierTime
  requiredConfiguration : x.receipt.requiredConfiguration = y.receipt.requiredConfiguration
  executedConfiguration : x.receipt.executedConfiguration = y.receipt.executedConfiguration
  implementationId : x.receipt.implementationId = y.receipt.implementationId
  previous : x.receipt.previous = y.receipt.previous
  domainReceiptDigest : x.receipt.domainReceiptDigest = y.receipt.domainReceiptDigest

/-- The same bytes, cut into fields at different places. -/
def CutDifferently (x y : ReceiptArguments) : Prop :=
  x.pieces.flatten = y.pieces.flatten ∧ x.pieces.map List.length ≠ y.pieces.map List.length

theorem stateCode_injective : Function.Injective stateCode := by
  intro a b h
  cases a <;> cases b <;> first | rfl | cases h

theorem elim_stateCode_injective {a b : Option LifecycleState}
    (h : a.elim 255 stateCode = b.elim 255 stateCode) : a = b := by
  cases a with
  | none =>
    cases b with
    | none => rfl
    | some b => cases b <;> cases h
  | some a =>
    cases b with
    | none => cases a <;> cases h
    | some b => exact congrArg some (stateCode_injective h)

theorem utf8_semanticId {maximum : Nat} {a b : SemanticId maximum} (h : utf8 a.str = utf8 b.str) :
    a = b :=
  SemanticId.str_injective (utf8_injective h)

theorem implementationBytes_injective : Function.Injective implementationBytes := by
  intro a b h
  cases a with
  | none =>
    cases b with
    | none => rfl
    | some b => cases h
  | some a =>
    cases b with
    | none => cases h
    | some b => exact congrArg some (utf8_semanticId (List.cons_injective h))

theorem optionalDigestBytes_injective : Function.Injective optionalDigestBytes := by
  intro a b h
  cases a with
  | none =>
    cases b with
    | none => rfl
    | some b => cases h
  | some a =>
    cases b with
    | none => cases h
    | some b => exact congrArg some (Digest.bytes_injective (List.cons_injective h))

theorem bigEndian64_injective {a b : UInt64} (h : bigEndian64 a.toNat = bigEndian64 b.toNat) :
    a = b := by
  have hdecoded := congrArg Rfc8949.fromBigEndian h
  unfold bigEndian64 at hdecoded
  rw [Rfc8949.fromBigEndian_bigEndian a.toNat_lt, Rfc8949.fromBigEndian_bigEndian b.toNat_lt]
    at hdecoded
  exact UInt64.toNat_inj.mp hdecoded

theorem configurationPieces_injective {a b : ConfigurationCommitment}
    (h : configurationPieces a = configurationPieces b) : a = b := by
  obtain ⟨semantic, canonicalization, configuration, implementation⟩ := a
  obtain ⟨semantic', canonicalization', configuration', implementation'⟩ := b
  simp only [configurationPieces, List.cons.injEq, and_true] at h
  obtain ⟨hsemantic, hcanonicalization, hconfiguration, himplementation⟩ := h
  rw [utf8_semanticId hsemantic, utf8_semanticId hcanonicalization,
    Digest.bytes_injective hconfiguration, implementationBytes_injective himplementation]

section Digest

variable [Sha256]

theorem receiptDigest_eq (x : ReceiptArguments) :
    x.receipt.receiptDigest = Sha256.digest x.preimage := by
  unfold ReceiptArguments.receipt makeReceipt computeReceiptDigest ReceiptArguments.preimage
    ReceiptArguments.pieces configurationPieces hashConfiguration
  simp only [List.flatten_append, List.flatten_cons, List.flatten_nil, List.append_assoc,
    List.append_nil]
  rfl

theorem sameFields_of_pieces {x y : ReceiptArguments} (h : x.pieces = y.pieces) : SameFields x y := by
  obtain ⟨hhead, hrest⟩ := List.append_inj h rfl
  obtain ⟨hrequired, hrest⟩ := List.append_inj hrest rfl
  obtain ⟨hexecuted, hlast⟩ := List.append_inj hrest rfl
  simp only [List.cons.injEq, and_true] at hhead hlast
  obtain ⟨hlifecycle, hexecution, hrecovery, hrevision, ⟨hfrom, hto⟩, htrigger, htime⟩ := hhead
  obtain ⟨himplementation, hprevious, hdomain⟩ := hlast
  exact {
    lifecycleId := utf8_semanticId hlifecycle
    executionId := utf8_semanticId hexecution
    recoveryReferenceDigest := Digest.bytes_injective hrecovery
    revision := bigEndian64_injective hrevision
    fromState := elim_stateCode_injective hfrom
    toState := stateCode_injective hto
    triggerDigest := Digest.bytes_injective htrigger
    verifierTime := bigEndian64_injective htime
    requiredConfiguration := configurationPieces_injective hrequired
    executedConfiguration := configurationPieces_injective hexecuted
    implementationId := utf8_semanticId himplementation
    previous := optionalDigestBytes_injective hprevious
    domainReceiptDigest := optionalDigestBytes_injective hdomain }

theorem pieces_of_sameFields {x y : ReceiptArguments} (h : SameFields x y) : x.pieces = y.pieces := by
  have hrevision : x.revision = y.revision := h.revision
  have hfrom : x.fromState = y.fromState := h.fromState
  have hto : x.toState = y.toState := h.toState
  have htrigger : x.trigger = y.trigger := h.triggerDigest
  have htime : x.verifierTime = y.verifierTime := h.verifierTime
  have hrequired : x.record.input.commitments.requiredConfiguration =
      y.record.input.commitments.requiredConfiguration := h.requiredConfiguration
  have hexecuted : x.record.input.commitments.executedConfiguration =
      y.record.input.commitments.executedConfiguration := h.executedConfiguration
  have himplementation : x.record.input.implementationId = y.record.input.implementationId :=
    h.implementationId
  have hprevious : x.previous = y.previous := h.previous
  have hdomain : x.domainReceipt = y.domainReceipt := h.domainReceiptDigest
  rw [ReceiptArguments.pieces, ReceiptArguments.pieces, h.lifecycleId, h.executionId,
    h.recoveryReferenceDigest, hrevision, hfrom, hto, htrigger, htime, hrequired, hexecuted,
    himplementation, hprevious, hdomain]

omit [Sha256] in
theorem preimage_eq_iff {x y : ReceiptArguments} :
    x.preimage = y.preimage ↔ x.pieces.flatten = y.pieces.flatten := by
  rw [ReceiptArguments.preimage, ReceiptArguments.preimage, List.append_right_inj,
    List.append_right_inj]

/-- Equal receipt digests imply equal fields, unless the two receipts write the same bytes and cut
them differently. -/
theorem receiptDigest_commits_iff (x y : ReceiptArguments)
    (hcollision : CollisionFree [x.preimage, y.preimage]) :
    (x.receipt.receiptDigest = y.receipt.receiptDigest → SameFields x y) ↔ ¬CutDifferently x y := by
  constructor
  · intro hcommits ⟨hflatten, hlengths⟩
    have hdigest : x.receipt.receiptDigest = y.receipt.receiptDigest := by
      rw [receiptDigest_eq, receiptDigest_eq, preimage_eq_iff.mpr hflatten]
    exact hlengths (congrArg _ (pieces_of_sameFields (hcommits hdigest)))
  · intro hcut hdigest
    rw [receiptDigest_eq, receiptDigest_eq] at hdigest
    have hflatten := preimage_eq_iff.mp (hcollision _ (by simp) _ (by simp) hdigest)
    have hlengths : x.pieces.map List.length = y.pieces.map List.length := by
      by_contra hdiffer
      exact hcut ⟨hflatten, hdiffer⟩
    exact sameFields_of_pieces (List.eq_iff_flatten_eq.mpr ⟨hflatten, hlengths⟩)

/-- A decision under other identifiers. -/
def DecisionInput.identified (input : DecisionInput) (lifecycle execution : SemanticId 64) :
    DecisionInput :=
  { input with lifecycleId := lifecycle, executionId := execution }

/-- The receipt of a decision. -/
def DecisionInput.firstReceipt (input : DecisionInput) (now : VerifierTime) : ReceiptArguments where
  record := decisionRecord input now
  revision := 1
  fromState := none
  toState := .decisionRecorded
  trigger := input.decisionReceiptDigest
  domainReceipt := some input.domainDecisionReceiptDigest
  verifierTime := now

omit [Sha256] in
theorem firstReceipt_lengths (input : DecisionInput) (now : VerifierTime)
    {lifecycle lifecycle' : SemanticId 64} (execution : SemanticId 64)
    (h : (utf8 lifecycle.str).length = (utf8 lifecycle'.str).length) :
    ((input.identified lifecycle execution).firstReceipt now).pieces.map List.length =
      ((input.identified lifecycle' execution).firstReceipt now).pieces.map List.length :=
  congrArg (· :: _) h

omit [Sha256] in
theorem firstReceipt_flatten (input : DecisionInput) (now : VerifierTime)
    {lifecycle lifecycle' execution execution' : SemanticId 64}
    (h : utf8 lifecycle.str ++ utf8 execution.str = utf8 lifecycle'.str ++ utf8 execution'.str) :
    ((input.identified lifecycle execution).firstReceipt now).pieces.flatten =
      ((input.identified lifecycle' execution').firstReceipt now).pieces.flatten := by
  have hcut (first second : Bytes) (rest : List Bytes) :
      (first :: second :: rest).flatten = (first ++ second) ++ rest.flatten := by simp
  exact (hcut _ _ _).trans ((congrArg (· ++ _) h).trans (hcut _ _ _).symm)

omit [Sha256] in
theorem exists_of_isOk {ε α : Type} {x : Except ε α} (h : x.isOk = true) : ∃ a, x = .ok a := by
  cases x with
  | error e => cases h
  | ok a => exact ⟨a, rfl⟩

theorem applyTransition_firstReceipt {input : DecisionInput} {context : TransitionContext}
    {result : TransitionResult}
    (h : applyTransition none (.recordDecision input) context = .ok result) :
    result.record.receipts = [(input.firstReceipt context.verifierTime).receipt] ∧
      result.record.input = input := by
  rcases applyTransition_ok h with ⟨-, hadvances⟩ | ⟨-, hcurrent, -⟩
  · generalize result.record = record at hadvances
    cases hadvances with
    | decision _ _ _ => exact ⟨rfl, rfl⟩
  · cases hcurrent

end Digest

section Sample

local instance sampleReceiptSha256 : Sha256 :=
  ⟨fun bytes => ⟨Sha2.sha256 bytes, Sha2.sha256_length bytes⟩⟩

def sampleAb : SemanticId 64 := ⟨"ab", by decide +kernel⟩
def sampleC : SemanticId 64 := ⟨"c", by decide +kernel⟩
def sampleA : SemanticId 64 := ⟨"a", by decide +kernel⟩
def sampleBc : SemanticId 64 := ⟨"bc", by decide +kernel⟩

/-- Identifiers of the same lengths give receipts of their own. -/
theorem receiptDigest_commits_sample :
    ((sampleInput.identified sampleAb sampleC).firstReceipt 10).receipt.receiptDigest ≠
      ((sampleInput.identified sampleBc sampleC).firstReceipt 10).receipt.receiptDigest := by
  intro hdigest
  have hdistinct : CollisionFree
      [((sampleInput.identified sampleAb sampleC).firstReceipt 10).preimage,
        ((sampleInput.identified sampleBc sampleC).firstReceipt 10).preimage] := by
    unfold CollisionFree
    decide +kernel
  have hlengths := firstReceipt_lengths sampleInput 10 sampleC
    (show (utf8 sampleAb.str).length = (utf8 sampleBc.str).length by decide +kernel)
  have hsame := (receiptDigest_commits_iff _ _ hdistinct).mpr (fun hcut => hcut.2 hlengths) hdigest
  exact absurd hsame.lifecycleId (by decide +kernel)

/-- Two decisions are recorded under different identifiers, and their receipts share the digest. -/
theorem receiptDigest_shared :
    ∃ a b, applyTransition none (.recordDecision (sampleInput.identified sampleAb sampleC))
          (sampleContext 10) = .ok a ∧
      applyTransition none (.recordDecision (sampleInput.identified sampleA sampleBc))
          (sampleContext 10) = .ok b ∧
      a.record.receipts =
        [((sampleInput.identified sampleAb sampleC).firstReceipt 10).receipt] ∧
      b.record.receipts =
        [((sampleInput.identified sampleA sampleBc).firstReceipt 10).receipt] ∧
      ((sampleInput.identified sampleAb sampleC).firstReceipt 10).receipt.receiptDigest =
        ((sampleInput.identified sampleA sampleBc).firstReceipt 10).receipt.receiptDigest ∧
      ¬SameFields ((sampleInput.identified sampleAb sampleC).firstReceipt 10)
        ((sampleInput.identified sampleA sampleBc).firstReceipt 10) := by
  have hrecorded : (applyTransition none
        (.recordDecision (sampleInput.identified sampleAb sampleC)) (sampleContext 10)).isOk = true ∧
      (applyTransition none (.recordDecision (sampleInput.identified sampleA sampleBc))
        (sampleContext 10)).isOk = true := by decide +kernel
  have hflatten := firstReceipt_flatten sampleInput 10
    (show utf8 sampleAb.str ++ utf8 sampleC.str = utf8 sampleA.str ++ utf8 sampleBc.str by
      decide +kernel)
  obtain ⟨a, ha⟩ := exists_of_isOk hrecorded.1
  obtain ⟨b, hb⟩ := exists_of_isOk hrecorded.2
  refine ⟨a, b, ha, hb, (applyTransition_firstReceipt ha).1, (applyTransition_firstReceipt hb).1, ?_,
    fun hsame => ?_⟩
  · rw [receiptDigest_eq, receiptDigest_eq, preimage_eq_iff.mpr hflatten]
  · exact absurd hsame.lifecycleId (by decide +kernel)

end Sample

end AuthsProof.Lifecycle
