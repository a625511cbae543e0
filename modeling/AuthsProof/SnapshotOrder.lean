import AuthsProof.ContextRoundTrip
import AuthsProof.Lib.Arrange

/-! When the construction of a status snapshot depends on the order its statements are given in: the
repeated statements are looked for between neighbours, after a sort by four of their fields. -/

namespace AuthsProof

open Arrange Sorting

section Snapshot

variable {σ : Type} [LinearOrder σ]

/-- The checks of a snapshot that no order of its parts changes. -/
structure SnapshotFits (observedAt validUntil : Timestamp) (statements : List (SignedStatus σ))
    (checkpoints : List EvidenceId) (trust : List StatusTrustRule) : Prop where
  ordered : observedAt ≤ validUntil
  statementsBounded : statements.length ≤ hardMaxStatus
  checkpointsBounded : checkpoints.length ≤ hardMaxEvidence
  trustBounded : trust.length ≤ hardMaxRegistryEntries
  statementsCover : ∀ status ∈ statements, status.statement.observedAt ≤ observedAt ∧
    validUntil ≤ status.statement.validUntil
  trustDistinct : (trust.map StatusTrustRule.named).Nodup

/-- A statement repeated so often that the others of its place in the snapshot order cannot keep its
copies apart. -/
def Crowded (statements : List (SignedStatus σ)) : Prop :=
  ∃ status ∈ statements, (statements.filter fun other => other.key = status.key).length + 1 <
    2 * occurs SignedStatus.statement statements status.statement

omit [LinearOrder σ] in
theorem SnapshotFits.perm {observedAt validUntil : Timestamp} {statements ss : List (SignedStatus σ)}
    {checkpoints cs : List EvidenceId} {trust ts : List StatusTrustRule}
    (h : SnapshotFits observedAt validUntil statements checkpoints trust)
    (hstatements : ss.Perm statements) (hcheckpoints : cs.Perm checkpoints)
    (htrust : ts.Perm trust) : SnapshotFits observedAt validUntil ss cs ts where
  ordered := h.ordered
  statementsBounded := hstatements.length_eq.trans_le h.statementsBounded
  checkpointsBounded := hcheckpoints.length_eq.trans_le h.checkpointsBounded
  trustBounded := htrust.length_eq.trans_le h.trustBounded
  statementsCover status hmem := h.statementsCover status (hstatements.mem_iff.mp hmem)
  trustDistinct := (htrust.map _).nodup_iff.mpr h.trustDistinct

/-- Trust rules are told apart by method and issuer, which their order compares first. -/
theorem adjacentDistinct_rules {trust : List StatusTrustRule} :
    adjacentDistinct ((sortByKey StatusTrustRule.key trust).map StatusTrustRule.named) = true ↔
      (trust.map StatusTrustRule.named).Nodup := by
  have hperm := (sortByKey_perm StatusTrustRule.key trust).map StatusTrustRule.named
  have hsorted : (sortByKey StatusTrustRule.key trust).Pairwise fun a b => a.named ≤ b.named :=
    (sortByKey_pairwise StatusTrustRule.key trust).imp StatusTrustRule.named_le_of_key_le
  rw [← hperm.nodup_iff]
  constructor
  · intro h
    exact List.pairwise_map.mpr ((pairwise_lt_of_adjacentDistinct hsorted h).imp fun hlt => hlt.ne)
  · intro h
    exact adjacentDistinct_iff.mpr h.isChain

omit [LinearOrder σ] in
theorem SignedStatus.key_eq_of_statement {a b : SignedStatus σ} (h : a.statement = b.statement) :
    a.key = b.key := by
  rw [SignedStatus.key, SignedStatus.key, h]

/-- Equal statements share a place in the snapshot order, so they are neighbours only within it. -/
theorem adjacentDistinct_statements {statements : List (SignedStatus σ)} :
    adjacentDistinct ((sortByKey SignedStatus.key statements).map SignedStatus.statement) = true ↔
      ∀ v, (statements.filter fun status => status.key = v).IsChain
        fun a b => a.statement ≠ b.statement := by
  have hkeys := fun (a b : SignedStatus σ) => @SignedStatus.key_eq_of_statement σ a b
  constructor
  · intro h v
    have hgroup := adjacentDistinct_filter (p := fun status => decide (status.key = v))
      (sortByKey_pairwise SignedStatus.key statements) (fun a b hab => by rw [hab]) hkeys h
    rw [filter_key_sortByKey, adjacentDistinct_iff, List.isChain_map] at hgroup
    exact hgroup
  · intro h
    rw [adjacentDistinct_iff, List.isChain_map]
    refine chain_of_filter hkeys fun v => ?_
    rw [filter_key_sortByKey]
    exact h v

theorem withTrust_ok_iff {id : StatusSnapshotId} {observedAt validUntil : Timestamp}
    {statements : List (SignedStatus σ)} {checkpoints : List EvidenceId}
    {trust : List StatusTrustRule} :
    (∃ snapshot, StatusSnapshot.withTrust id observedAt validUntil statements checkpoints trust =
        .ok snapshot) ↔
      SnapshotFits observedAt validUntil statements checkpoints trust ∧
        ∀ v, (statements.filter fun status => status.key = v).IsChain
          fun a b => a.statement ≠ b.statement := by
  rw [← adjacentDistinct_statements, StatusSnapshot.withTrust]
  constructor
  · rintro ⟨snapshot, h⟩
    split at h
    · next hchecks =>
      obtain ⟨hordered, hstatements, hcheckpoints, htrust, hdistinct, hcover, hrules⟩ := hchecks
      exact ⟨⟨hordered, hstatements, hcheckpoints, htrust,
        fun status hmem => hcover status (mem_sortByKey.mpr hmem), adjacentDistinct_rules.mp hrules⟩,
        hdistinct⟩
    · cases h
  · rintro ⟨hfits, hdistinct⟩
    exact ⟨_, dif_pos ⟨hfits.ordered, hfits.statementsBounded, hfits.checkpointsBounded,
      hfits.trustBounded, hdistinct,
      fun status hmem => hfits.statementsCover status (mem_sortByKey.mp hmem),
      adjacentDistinct_rules.mpr hfits.trustDistinct⟩⟩

theorem withTrust_error {id : StatusSnapshotId} {observedAt validUntil : Timestamp}
    {statements : List (SignedStatus σ)} {checkpoints : List EvidenceId}
    {trust : List StatusTrustRule}
    (h : ¬∃ snapshot, StatusSnapshot.withTrust id observedAt validUntil statements checkpoints trust =
      .ok snapshot) :
    StatusSnapshot.withTrust id observedAt validUntil statements checkpoints trust =
      .error .invalidStatusSnapshot := by
  rw [StatusSnapshot.withTrust] at h ⊢
  split at h
  · exact absurd ⟨_, rfl⟩ h
  · next hchecks => exact dif_neg hchecks

/-- What is asked of a snapshot's construction: it fails on repeated statements, and the order of the
statements, of the checkpoints and of the trust rules does not decide whether it fails. -/
def OrderFree (id : StatusSnapshotId) (observedAt validUntil : Timestamp)
    (statements : List (SignedStatus σ)) (checkpoints : List EvidenceId)
    (trust : List StatusTrustRule) : Prop :=
  (¬(statements.map SignedStatus.statement).Nodup →
    StatusSnapshot.withTrust id observedAt validUntil statements checkpoints trust =
      .error .invalidStatusSnapshot) ∧
  ∀ ss cs ts, ss.Perm statements → cs.Perm checkpoints → ts.Perm trust →
    ((∃ snapshot, StatusSnapshot.withTrust id observedAt validUntil ss cs ts = .ok snapshot) ↔
      ∃ snapshot, StatusSnapshot.withTrust id observedAt validUntil statements checkpoints trust =
        .ok snapshot)

theorem crowded_iff {statements : List (SignedStatus σ)} :
    Crowded statements ↔ ¬∃ ss : List (SignedStatus σ), ss.Perm statements ∧
      ∀ v, (ss.filter fun status => status.key = v).IsChain fun a b => a.statement ≠ b.statement := by
  rw [exists_perm_groups_iff fun a b => SignedStatus.key_eq_of_statement, Crowded]
  push Not
  rfl

/-- The construction of a snapshot is as asked exactly when another check fails, or no statement is
repeated, or one is repeated so often that every order leaves two copies side by side. -/
theorem withTrust_orderFree_iff (id : StatusSnapshotId) (observedAt validUntil : Timestamp)
    (statements : List (SignedStatus σ)) (checkpoints : List EvidenceId)
    (trust : List StatusTrustRule) :
    OrderFree id observedAt validUntil statements checkpoints trust ↔
      ¬SnapshotFits observedAt validUntil statements checkpoints trust ∨
        (statements.map SignedStatus.statement).Nodup ∨ Crowded statements := by
  constructor
  · rintro ⟨hrepeated, horder⟩
    by_contra hnot
    push Not at hnot
    obtain ⟨hfits, hnodup, hcrowded⟩ := hnot
    obtain ⟨ss, hperm, hchain⟩ := not_not.mp (crowded_iff.not.mp hcrowded)
    obtain ⟨snapshot, hok⟩ := (horder ss checkpoints trust hperm .rfl .rfl).mp
      (withTrust_ok_iff.mpr ⟨hfits.perm hperm .rfl .rfl, hchain⟩)
    cases hok.symm.trans (hrepeated hnodup)
  · intro h
    have hnever : ¬(SnapshotFits observedAt validUntil statements checkpoints trust ∧
        (statements.map SignedStatus.statement).Nodup) → ∀ ss cs ts, ss.Perm statements →
        cs.Perm checkpoints → ts.Perm trust →
        ¬∃ snapshot, StatusSnapshot.withTrust id observedAt validUntil ss cs ts = .ok snapshot := by
      intro hnot ss cs ts hss hcs hts hok
      obtain ⟨hfits, hchain⟩ := withTrust_ok_iff.mp hok
      have hfits' := hfits.perm hss.symm hcs.symm hts.symm
      rcases h with hunfit | hnodup | hcrowded
      · exact hunfit hfits'
      · exact hnot ⟨hfits', hnodup⟩
      · exact crowded_iff.mp hcrowded ⟨ss, hss, hchain⟩
    by_cases hgood : SnapshotFits observedAt validUntil statements checkpoints trust ∧
        (statements.map SignedStatus.statement).Nodup
    · obtain ⟨hfits, hnodup⟩ := hgood
      have hok : ∀ ss cs ts, ss.Perm statements → cs.Perm checkpoints → ts.Perm trust →
          ∃ snapshot, StatusSnapshot.withTrust id observedAt validUntil ss cs ts = .ok snapshot := by
        intro ss cs ts hss hcs hts
        refine withTrust_ok_iff.mpr ⟨hfits.perm hss hcs hts, fun v => ?_⟩
        have hdistinct := List.pairwise_map.mp ((hss.map _).nodup_iff.mpr hnodup)
        exact (hdistinct.sublist List.filter_sublist).isChain
      exact ⟨fun hrepeated => absurd hnodup hrepeated, fun ss cs ts hss hcs hts =>
        iff_of_true (hok ss cs ts hss hcs hts) (hok _ _ _ .rfl .rfl .rfl)⟩
    · have hfails := hnever hgood
      exact ⟨fun _ => withTrust_error (hfails _ _ _ .rfl .rfl .rfl), fun ss cs ts hss hcs hts =>
        iff_of_false (hfails ss cs ts hss hcs hts) (hfails _ _ _ .rfl .rfl .rfl)⟩

end Snapshot

section Sample

/-- A statement about a subject, one of two that share their place in the snapshot order. -/
def repeatedStatus {σ : Type} (subject : σ) (state : LifecycleState) : SignedStatus σ where
  statement := {
    method := sampleId
    subject
    state
    sequence := 1
    observedAt := 0
    validUntil := 100
    issuer := sampleRoot
    extensions := .empty
    ordered := sampleWindow_ordered }
  signature := sampleOtherSignature

theorem repeatedStatus_fits {σ : Type} (subject : σ) {states : List LifecycleState}
    (h : states.length ≤ hardMaxStatus) :
    SnapshotFits 50 100 (states.map (repeatedStatus subject)) [] [] where
  ordered := by decide
  statementsBounded := (List.length_map _).trans_le h
  checkpointsBounded := Nat.zero_le _
  trustBounded := Nat.zero_le _
  statementsCover status hmem := by
    obtain ⟨state, -, rfl⟩ := List.mem_map.mp hmem
    exact ⟨(by decide : (0 : UInt64) ≤ 50), le_refl (100 : UInt64)⟩
  trustDistinct := List.nodup_nil

theorem repeatedStatus_filter {σ : Type} [LinearOrder σ] (subject : σ) (states : List LifecycleState) :
    ((states.map (repeatedStatus subject)).filter fun status =>
        status.key = (repeatedStatus subject .active).key) = states.map (repeatedStatus subject) := by
  refine List.filter_eq_self.mpr fun status hmem => decide_eq_true ?_
  obtain ⟨state, -, rfl⟩ := List.mem_map.mp hmem
  rfl

/-- Statements about one subject make a snapshot when no state is given twice in a row. -/
theorem repeatedStatus_ok_iff {σ : Type} [LinearOrder σ] (subject : σ) {states : List LifecycleState}
    (h : states.length ≤ hardMaxStatus) :
    (∃ snapshot, StatusSnapshot.withTrust .zero 50 100 (states.map (repeatedStatus subject)) [] [] =
      .ok snapshot) ↔ states.IsChain (· ≠ ·) := by
  have hstates : ∀ a b : LifecycleState, (repeatedStatus subject a).statement ≠
      (repeatedStatus subject b).statement ↔ a ≠ b := fun a b =>
    not_congr ⟨fun heq => congrArg StatusStatement.state heq, fun heq => heq ▸ rfl⟩
  rw [withTrust_ok_iff]
  constructor
  · rintro ⟨-, hchain⟩
    have hown := hchain (repeatedStatus subject .active).key
    rw [repeatedStatus_filter, List.isChain_map] at hown
    exact hown.imp fun a b => (hstates a b).mp
  · intro hchain
    refine ⟨repeatedStatus_fits subject h, fun v => ?_⟩
    by_cases hv : (repeatedStatus subject .active).key = v
    · rw [← hv, repeatedStatus_filter, List.isChain_map]
      exact hchain.imp fun a b => (hstates a b).mpr
    · rw [List.filter_eq_nil_iff.mpr]
      · exact .nil
      · intro status hmem hkey
        obtain ⟨state, -, rfl⟩ := List.mem_map.mp hmem
        exact hv (of_decide_eq_true hkey)

/-- A statement, its revocation and the statement again make a snapshot of principals and of grants;
the same three with the copies side by side do not. -/
theorem withTrust_repeated :
    (∃ snapshot : PrincipalStatusSnapshot, StatusSnapshot.withTrust .zero 50 100
        ([.active, .revoked, .active].map (repeatedStatus sampleAgent)) [] [] = .ok snapshot) ∧
      (¬∃ snapshot : PrincipalStatusSnapshot, StatusSnapshot.withTrust .zero 50 100
        ([.active, .active, .revoked].map (repeatedStatus sampleAgent)) [] [] = .ok snapshot) ∧
      (∃ snapshot : GrantStatusSnapshot, StatusSnapshot.withTrust .zero 50 100
        ([.active, .revoked, .active].map (repeatedStatus .zero)) [] [] = .ok snapshot) ∧
      ¬∃ snapshot : GrantStatusSnapshot, StatusSnapshot.withTrust .zero 50 100
        ([.active, .active, .revoked].map (repeatedStatus .zero)) [] [] = .ok snapshot := by
  refine ⟨(repeatedStatus_ok_iff _ (by decide)).mpr (by decide),
    (repeatedStatus_ok_iff _ (by decide)).not.mpr (by decide),
    (repeatedStatus_ok_iff _ (by decide)).mpr (by decide),
    (repeatedStatus_ok_iff _ (by decide)).not.mpr (by decide)⟩

end Sample

end AuthsProof
