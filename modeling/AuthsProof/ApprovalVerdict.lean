import AuthsProof.ApprovalStage
import AuthsProof.Covering
import AuthsProof.Injectivity
import Mathlib.Data.Set.Card

/-! What an approval requirement counts: the distinct approvers with a passing approval, whatever the
order of the approvals, however often one is repeated and whichever branch asks first. -/

namespace AuthsProof

open Sorting Threshold

/-- Counting the members of a list without repetition counts the set they form. -/
theorem countP_eq_ncard {α : Type} [DecidableEq α] {xs : List α} (hnodup : xs.Nodup) {p : α → Bool}
    {s : Set α} (h : ∀ x, x ∈ s ↔ x ∈ xs ∧ p x = true) : xs.countP p = s.ncard := by
  have hset : s = ↑(xs.filter p).toFinset := by
    ext x
    simp [h]
  rw [hset, Set.ncard_coe_finset, List.toFinset_card_of_nodup (hnodup.filter p),
    List.countP_eq_length_filter]

theorem BoundedSet.new_ok {α : Type} [LinearOrder α] {maximum : Nat} {items : List α}
    (hne : items ≠ []) (hlen : items.length ≤ maximum) (hnodup : items.Nodup) :
    ∃ s : BoundedSet α maximum, BoundedSet.new maximum items = .ok s ∧ s.items.Perm items := by
  have hsorted : (sortByKey id items).Pairwise (· < ·) := by
    have hle := sortByKey_pairwise id items
    have hdistinct : (sortByKey id items).Nodup := (sortByKey_perm id items).nodup_iff.mpr hnodup
    exact hle.imp₂ (fun _ _ hab hne => lt_of_le_of_ne hab hne) hdistinct
  have hdistinct : adjacentDistinct (sortByKey id items) = true := by
    simpa using @adjacentDistinct_of_pairwise_lt α α _ id _ hsorted
  refine ⟨⟨sortByKey id items, fun h => hne (h ▸ sortByKey_perm id items).nil_eq.symm, by simpa using hlen,
    hsorted⟩, ?_, sortByKey_perm id items⟩
  rw [BoundedSet.new, dif_neg hne, dif_neg hlen.not_gt, dif_pos hdistinct]

/-- Only exhaustion depends on the work already charged. -/
abbrev MeterFree {α : Type} (x : Metered α) : Prop := Run.Steady (· = exhausted) x

theorem meterFree_reserve (maximum : UInt64) : MeterFree (reserve maximum) := by
  refine ⟨.ok (), fun meter => ?_⟩
  unfold reserve
  split_ifs
  · exact Or.inr ⟨exhausted, rfl, rfl⟩
  · exact Or.inr ⟨exhausted, rfl, rfl⟩
  · exact Or.inl rfl

theorem meterFree_evaluateSignature (context : ContextParts) (registries : ImmutableRegistries)
    (principal : PrincipalId) (signature : SignatureEnvelope) (preimage : Bytes)
    (purpose : ControlPurpose) (signedAt : Timestamp)
    (evidence : Except VerificationFailure (List EvidenceObject)) :
    MeterFree (evaluateSignature context registries principal signature preimage purpose signedAt
      evidence) := by
  refine (Run.steady_ofOption _ _).bind fun method => (Run.steady_ofOption _ _).bind fun suite => ?_
  refine (Run.steady_ofExcept _).bind fun evidence => (Run.steady_ensure _ _).bind fun _ => ?_
  refine (meterFree_reserve _).bind fun _ => (meterFree_reserve _).bind fun _ => ?_
  refine (Run.steady_ofExcept _).bind fun control => (Run.steady_ensure _ _).bind fun _ => ?_
  exact (Run.steady_ofExcept _).bind fun _ => Run.steady_pure _

namespace ApprovalInputs

variable [Cbor] [Sha256] (inputs : ApprovalInputs)

omit [Sha256] in
theorem meterFree_signatureVerdict (approval : SignedApproval) :
    MeterFree (inputs.signatureVerdict approval) := by
  refine Run.Steady.attempt_bind (meterFree_evaluateSignature _ _ _ _ _ _ _ _) (fun outcome => ?_)
    fun e he meter => ?_
  · cases outcome with
    | ok control => exact Run.steady_pure _
    | error failure => exact Run.steady_ofExcept _
  · subst he
    exact ⟨exhausted, rfl, rfl⟩

theorem meterFree_statusVerdict (anchor : ApproverAnchor) :
    MeterFree (statusVerdict inputs.controls inputs.context inputs.registries anchor) := by
  unfold statusVerdict
  split
  · exact Run.steady_pure _
  · split
    · exact Run.steady_pure _
    · dsimp only
      split
      · exact Run.steady_ofExcept _
      · refine (meterFree_reserve _).bind fun _ => ?_
        split
        · exact Run.steady_ofExcept _
        · exact Run.steady_pure _

theorem meterFree_approvalVerdict (approval : SignedApproval) (anchor : ApproverAnchor) :
    MeterFree (inputs.approvalVerdict approval anchor) := by
  refine (inputs.meterFree_signatureVerdict approval).bind fun verdict => ?_
  cases verdict with
  | counted => exact inputs.meterFree_statusVerdict anchor
  | pending => exact Run.steady_pure _
  | ignored => exact Run.steady_pure _

theorem meterFree_collect (authority : List PrincipalId) (identifier : ApprovalRequirementId)
    (requirement : ApprovalRequirement) (candidates : List (ApprovalDigest × SignedApproval))
    (collected : Collected) :
    MeterFree (inputs.collect authority identifier requirement candidates collected) := by
  induction candidates generalizing collected with
  | nil => exact Run.steady_pure _
  | cons candidate candidates ih =>
    unfold collect
    split
    · exact ih collected
    · exact (inputs.meterFree_approvalVerdict _ _).bind fun verdict => ih _

section Judgement

variable (authority : List PrincipalId) (identifier : ApprovalRequirementId)
  (requirement : ApprovalRequirement)

/-- The checks of an approval before its signature, against the anchor of its approver. -/
structure Applicable (approval : SignedApproval) (anchor : ApproverAnchor) : Prop where
  listed : approval.statement.approver ∈ requirement.approvers.items
  independent : approval.statement.approver ∉ authority
  binds : inputs.bindsExact approval.statement identifier = true
  current : approval.statement.validity.contains inputs.context.evaluationTime = true
  anchored : inputs.context.approverAnchor approval.statement.approver = some anchor
  anchorCurrent : anchor.validity.contains inputs.context.evaluationTime = true
  method : approval.signature.descriptor.principalMethod ∈ anchor.acceptedMethods.items

omit [Cbor] in
theorem applicableAnchor_eq_some {outcomes : List ApprovalOutcome} {approval : SignedApproval}
    {anchor : ApproverAnchor} :
    inputs.applicableAnchor authority identifier requirement outcomes approval = some anchor ↔
      inputs.Applicable authority identifier requirement approval anchor ∧
        ⟨approval.statement.approver, .counted⟩ ∉ outcomes := by
  have hcounted : (outcomes.any fun outcome => outcome.verdict = .counted &&
      principalIdEqual outcome.approver approval.statement.approver) = true ↔
      ⟨approval.statement.approver, .counted⟩ ∈ outcomes := by
    simp only [List.any_eq_true, Bool.and_eq_true, decide_eq_true_eq, principalIdEqual_iff]
    constructor
    · rintro ⟨⟨approver, verdict⟩, hmem, hverdict, happrover⟩
      obtain ⟨rfl, rfl⟩ := And.intro hverdict happrover
      exact hmem
    · intro hmem
      exact ⟨_, hmem, rfl, rfl⟩
  unfold applicableAnchor
  dsimp only
  constructor
  · intro h
    split_ifs at h with hrefused
    simp only [Bool.or_eq_true, Bool.not_eq_true', decide_eq_true_eq, not_or, Bool.not_eq_false,
      hcounted, principalIdsContain_iff] at hrefused
    obtain ⟨⟨⟨⟨hlisted, hindependent⟩, hnew⟩, hbinds⟩, hcurrent⟩ := hrefused
    split at h
    · cases h
    · rename_i found hfound
      split_ifs at h with hanchor
      obtain rfl := Option.some.inj h
      simp only [Bool.or_eq_true, Bool.not_eq_true', decide_eq_true_eq, not_or, Bool.not_eq_false,
        not_not] at hanchor
      exact ⟨⟨hlisted, hindependent, hbinds, hcurrent, hfound, hanchor.1, hanchor.2⟩, hnew⟩
  · rintro ⟨h, hnew⟩
    have hnot : (outcomes.any fun outcome => outcome.verdict = .counted &&
        principalIdEqual outcome.approver approval.statement.approver) = false := by
      simpa using fun hyes => hnew (hcounted.mp hyes)
    simp [principalIdsContain_iff.mpr h.listed, h.independent, hnot, h.binds, h.current, h.anchored,
      h.anchorCurrent, h.method]

/-- What the checks of an approval make of it, by itself. -/
def Judged (approval : SignedApproval) (verdict : ApprovalVerdict) : Prop :=
  ∃ anchor, inputs.Applicable authority identifier requirement approval anchor ∧
    ∃ meter, (inputs.approvalVerdict approval anchor meter).1 = .ok verdict

theorem judged_unique {approval : SignedApproval} {v w : ApprovalVerdict}
    (hv : inputs.Judged authority identifier requirement approval v)
    (hw : inputs.Judged authority identifier requirement approval w) : v = w := by
  obtain ⟨anchor, hanchor, meter, hrun⟩ := hv
  obtain ⟨anchor', hanchor', meter', hrun'⟩ := hw
  obtain rfl := Option.some.inj (hanchor.anchored.symm.trans hanchor'.anchored)
  exact (inputs.meterFree_approvalVerdict approval anchor).ok_unique hrun hrun'

/-- What the loop has collected once it has seen `seen`: every outcome has its approval, every passing
or pending approval has its outcome, and one passing approval was picked for each counted approver. -/
structure Tallied (seen : List (ApprovalDigest × SignedApproval)) (collected : Collected) : Prop where
  sound : ∀ outcome ∈ collected.outcomes, ∃ entry ∈ seen,
    entry.2.statement.approver = outcome.approver ∧
      inputs.Judged authority identifier requirement entry.2 outcome.verdict
  counts : ∀ entry ∈ seen, inputs.Judged authority identifier requirement entry.2 .counted →
    ⟨entry.2.statement.approver, .counted⟩ ∈ collected.outcomes
  pends : ∀ entry ∈ seen, inputs.Judged authority identifier requirement entry.2 .pending →
    ∃ verdict, verdict ≠ .ignored ∧ ⟨entry.2.statement.approver, verdict⟩ ∈ collected.outcomes
  picked : ∃ picked : List (ApprovalDigest × SignedApproval), picked.Sublist seen ∧
    (∀ entry ∈ picked, inputs.Judged authority identifier requirement entry.2 .counted) ∧
    (picked.map fun entry => entry.2.statement.approver).Nodup ∧
    collected.counted = picked.map Prod.fst ∧
    ∀ principal, ⟨principal, .counted⟩ ∈ collected.outcomes ↔
      principal ∈ picked.map fun entry => entry.2.statement.approver

theorem tallied_nil : inputs.Tallied authority identifier requirement [] {} where
  sound := by simp
  counts := by simp
  pends := by simp
  picked := ⟨[], List.Sublist.refl _, by simp, by simp, rfl, by simp⟩

variable {inputs authority identifier requirement} {seen : List (ApprovalDigest × SignedApproval)}
  {collected : Collected} {entry : ApprovalDigest × SignedApproval}

/-- An approval that changes nothing: a passing one finds its approver counted, a pending one finds an
outcome of its approver. -/
theorem Tallied.keep (h : inputs.Tallied authority identifier requirement seen collected)
    (hcounted : inputs.Judged authority identifier requirement entry.2 .counted →
      ⟨entry.2.statement.approver, .counted⟩ ∈ collected.outcomes)
    (hpending : inputs.Judged authority identifier requirement entry.2 .pending →
      ∃ verdict, verdict ≠ .ignored ∧ ⟨entry.2.statement.approver, verdict⟩ ∈ collected.outcomes) :
    inputs.Tallied authority identifier requirement (seen ++ [entry]) collected where
  sound outcome hmem := by
    obtain ⟨found, hfound, hjudged⟩ := h.sound outcome hmem
    exact ⟨found, List.mem_append_left _ hfound, hjudged⟩
  counts other hmem hjudged := by
    rcases List.mem_append.mp hmem with hmem | hmem
    · exact h.counts other hmem hjudged
    · obtain rfl := List.mem_singleton.mp hmem
      exact hcounted hjudged
  pends other hmem hjudged := by
    rcases List.mem_append.mp hmem with hmem | hmem
    · exact h.pends other hmem hjudged
    · obtain rfl := List.mem_singleton.mp hmem
      exact hpending hjudged
  picked := by
    obtain ⟨picked, hsublist, hrest⟩ := h.picked
    exact ⟨picked, hsublist.trans (List.sublist_append_left _ _), hrest⟩

theorem Tallied.skip (h : inputs.Tallied authority identifier requirement seen collected)
    (hskipped : inputs.applicableAnchor authority identifier requirement collected.outcomes entry.2 =
      none) : inputs.Tallied authority identifier requirement (seen ++ [entry]) collected := by
  have halready (verdict : ApprovalVerdict)
      (hjudged : inputs.Judged authority identifier requirement entry.2 verdict) :
      ⟨entry.2.statement.approver, .counted⟩ ∈ collected.outcomes := by
    obtain ⟨anchor, happlicable, -⟩ := hjudged
    by_contra hnew
    rw [(inputs.applicableAnchor_eq_some _ _ _).mpr ⟨happlicable, hnew⟩] at hskipped
    cases hskipped
  exact h.keep (halready .counted) fun hjudged => ⟨.counted, by simp, halready .pending hjudged⟩

theorem Tallied.record (h : inputs.Tallied authority identifier requirement seen collected)
    (hnew : ⟨entry.2.statement.approver, .counted⟩ ∉ collected.outcomes) {verdict : ApprovalVerdict}
    (hjudged : inputs.Judged authority identifier requirement entry.2 verdict) :
    inputs.Tallied authority identifier requirement (seen ++ [entry])
      (collected.record entry.1 entry.2.statement.approver verdict) := by
  have hother (other : ApprovalVerdict)
      (hother : inputs.Judged authority identifier requirement entry.2 other) : other = verdict :=
    inputs.judged_unique _ _ _ hother hjudged
  -- an outcome of this verdict is added, and with a counted one its digest
  have hsound (outcome : ApprovalOutcome)
      (hmem : outcome ∈ collected.outcomes ++ [⟨entry.2.statement.approver, verdict⟩]) :
      ∃ found ∈ seen ++ [entry], found.2.statement.approver = outcome.approver ∧
        inputs.Judged authority identifier requirement found.2 outcome.verdict := by
    rcases List.mem_append.mp hmem with hmem | hmem
    · obtain ⟨found, hfound, hfoundJudged⟩ := h.sound outcome hmem
      exact ⟨found, List.mem_append_left _ hfound, hfoundJudged⟩
    · obtain rfl := List.mem_singleton.mp hmem
      exact ⟨entry, by simp, rfl, hjudged⟩
  have hcounts (other : ApprovalDigest × SignedApproval) (hmem : other ∈ seen ++ [entry])
      (hcounted : inputs.Judged authority identifier requirement other.2 .counted) :
      ⟨other.2.statement.approver, .counted⟩ ∈
        collected.outcomes ++ [⟨entry.2.statement.approver, verdict⟩] := by
    rcases List.mem_append.mp hmem with hmem | hmem
    · exact List.mem_append_left _ (h.counts other hmem hcounted)
    · obtain rfl := List.mem_singleton.mp hmem
      simp [hother _ hcounted]
  have hpends (hverdict : verdict ≠ .ignored) (other : ApprovalDigest × SignedApproval)
      (hmem : other ∈ seen ++ [entry])
      (hpending : inputs.Judged authority identifier requirement other.2 .pending) :
      ∃ found, found ≠ .ignored ∧ ⟨other.2.statement.approver, found⟩ ∈
        collected.outcomes ++ [⟨entry.2.statement.approver, verdict⟩] := by
    rcases List.mem_append.mp hmem with hmem | hmem
    · obtain ⟨found, hfound, hin⟩ := h.pends other hmem hpending
      exact ⟨found, hfound, List.mem_append_left _ hin⟩
    · obtain rfl := List.mem_singleton.mp hmem
      exact ⟨verdict, hverdict, by simp⟩
  obtain ⟨picked, hsublist, hpassing, hnodup, hdigests, happrovers⟩ := h.picked
  cases verdict with
  | ignored =>
    refine h.keep (fun hcounted => ?_) fun hpending => ?_
    · cases hother _ hcounted
    · cases hother _ hpending
  | pending =>
    refine ⟨hsound, hcounts, hpends (by simp), picked, ?_, hpassing, hnodup, hdigests, ?_⟩
    · exact hsublist.trans (List.sublist_append_left _ _)
    · intro principal
      rw [← happrovers principal]
      simp [Collected.record]
  | counted =>
    refine ⟨hsound, hcounts, hpends (by simp), picked ++ [entry], hsublist.append (List.Sublist.refl _),
      ?_, ?_, by simp [Collected.record, hdigests], ?_⟩
    · intro other hmem
      rcases List.mem_append.mp hmem with hmem | hmem
      · exact hpassing other hmem
      · obtain rfl := List.mem_singleton.mp hmem
        exact hjudged
    · rw [List.map_append, List.map_singleton, List.nodup_append]
      refine ⟨hnodup, by simp, fun principal hmem other hother heq => ?_⟩
      obtain rfl := List.mem_singleton.mp hother
      exact hnew ((happrovers _).mpr (heq ▸ hmem))
    · intro principal
      simp [Collected.record, happrovers principal, eq_comm]

/-- The loop over the candidates tallies them all. -/
theorem answers_collect (h : inputs.Tallied authority identifier requirement seen collected)
    (candidates : List (ApprovalDigest × SignedApproval)) :
    Run.Answers (inputs.Tallied authority identifier requirement (seen ++ candidates))
      (inputs.collect authority identifier requirement candidates collected) := by
  induction candidates generalizing seen collected with
  | nil => exact Run.answers_pure (by simpa using h)
  | cons entry candidates ih =>
    obtain ⟨digest, approval⟩ := entry
    rw [List.append_cons]
    unfold collect
    cases hanchor : inputs.applicableAnchor authority identifier requirement collected.outcomes
        approval with
    | none => exact ih (h.skip hanchor)
    | some anchor =>
      obtain ⟨happlicable, hnew⟩ := (inputs.applicableAnchor_eq_some _ _ _).mp hanchor
      refine (Run.answers_self _).bind fun verdict hverdict => ih ?_
      exact @Tallied.record _ _ _ _ _ _ _ _ (digest, approval) h hnew verdict
        ⟨anchor, happlicable, hverdict⟩

end Judgement

section Counts

omit [Cbor] [Sha256]

theorem any_own_verdict {outcomes : List ApprovalOutcome} {approver : PrincipalId}
    {verdict : ApprovalVerdict} :
    ((outcomes.filter fun outcome => principalIdEqual outcome.approver approver).any
      fun outcome => outcome.verdict = verdict) = true ↔ ⟨approver, verdict⟩ ∈ outcomes := by
  simp only [List.any_filter, List.any_eq_true, Bool.and_eq_true, decide_eq_true_eq,
    principalIdEqual_iff]
  constructor
  · rintro ⟨⟨other, found⟩, hmem, happrover, hverdict⟩
    obtain ⟨rfl, rfl⟩ := And.intro happrover hverdict
    exact hmem
  · intro hmem
    exact ⟨_, hmem, rfl, rfl⟩

theorem approverVerdict_counted {outcomes : List ApprovalOutcome} {approver : PrincipalId} :
    approverVerdict outcomes approver = .counted ↔ ⟨approver, .counted⟩ ∈ outcomes := by
  simp only [approverVerdict, any_own_verdict]
  split_ifs <;> simp [*]

theorem approverVerdict_pending {outcomes : List ApprovalOutcome} {approver : PrincipalId} :
    approverVerdict outcomes approver = .pending ↔
      ⟨approver, .counted⟩ ∉ outcomes ∧ ⟨approver, .pending⟩ ∈ outcomes := by
  simp only [approverVerdict, any_own_verdict]
  split_ifs <;> simp [*]

end Counts

end ApprovalInputs

def Verdict.truth : Verdict → Truth
  | .authorized _ => .authorized
  | .denied => .denied
  | .indeterminate => .indeterminate

/-- Every issuer and subject of a grant and every actor of the proof. -/
def AuthorityPrincipal (bundle : ProofBundle) (principal : PrincipalId) : Prop :=
  (∃ grant ∈ bundle.grants,
    principal = grant.statement.issuer ∨ principal = grant.statement.subject) ∨
  ∃ action ∈ bundle.actions, principal = action.envelope.actor

section Candidates

variable [Cbor] [Sha256] {bundle : ProofBundle}

theorem mem_authority {principal : PrincipalId} :
    principal ∈ (Approvals.new bundle).authority ↔ AuthorityPrincipal bundle principal := by
  simp only [Approvals.new, mem_sortDedup, List.mem_append, List.mem_flatMap, List.mem_map,
    List.mem_cons, List.not_mem_nil, or_false, AuthorityPrincipal]
  exact or_congr_right (exists_congr fun action => and_congr_right fun _ => eq_comm)

/-- No two approvals of the proof share a digest. -/
def DistinctDigests (approvals : List SignedApproval) : Prop :=
  ∀ a ∈ approvals, ∀ b ∈ approvals, approvalDigest a = approvalDigest b → a = b

theorem candidates_sorted :
    (Approvals.new bundle).candidates.Pairwise fun a b => a.1 < b.1 :=
  dedupByKey_pairwise (sortByKey_pairwise _ _)

theorem mem_candidates (hdistinct : DistinctDigests bundle.approvals)
    {entry : ApprovalDigest × SignedApproval} :
    entry ∈ (Approvals.new bundle).candidates ↔
      entry.2 ∈ bundle.approvals ∧ entry.1 = approvalDigest entry.2 := by
  have hsource (other : ApprovalDigest × SignedApproval) :
      other ∈ sortByKey Prod.fst (bundle.approvals.map fun approval =>
        (approvalDigest approval, approval)) ↔
      other.2 ∈ bundle.approvals ∧ other.1 = approvalDigest other.2 := by
    rw [mem_sortByKey, List.mem_map]
    constructor
    · intro ⟨approval, hmem, heq⟩
      rw [← heq]
      exact ⟨hmem, rfl⟩
    · intro ⟨hmem, heq⟩
      exact ⟨other.2, hmem, Prod.ext heq.symm rfl⟩
  constructor
  · intro hmem
    exact (hsource entry).mp ((dedupByKey_sublist _ _).subset hmem)
  · intro hentry
    obtain ⟨kept, hkept, hkey⟩ := exists_mem_dedupByKey Prod.fst ((hsource entry).mpr hentry)
    obtain ⟨hmem, hdigest⟩ := (hsource kept).mp ((dedupByKey_sublist _ _).subset hkept)
    have hsame : kept.2 = entry.2 :=
      hdistinct _ hmem _ hentry.1 (hdigest.symm.trans (hkey.trans hentry.2))
    rwa [Prod.ext hkey hsame] at hkept

end Candidates

namespace ApprovalInputs

variable [Cbor] [Sha256] (inputs : ApprovalInputs) (bundle : ProofBundle)
  (requirement : ApprovalRequirement)

/-- The approver has an approval in the proof that the checks judge so. -/
def Standing (verdict : ApprovalVerdict) (principal : PrincipalId) : Prop :=
  ∃ approval ∈ bundle.approvals, approval.statement.approver = principal ∧
    inputs.Judged (Approvals.new bundle).authority (approvalRequirementId requirement) requirement
      approval verdict

/-- The listed principals outside the proof's authority with a passing approval. -/
def countedApprovers : Set PrincipalId :=
  {principal | principal ∈ requirement.approvers.items ∧ ¬AuthorityPrincipal bundle principal ∧
    inputs.Standing bundle requirement .counted principal}

/-- The others of them with a pending approval. -/
def pendingApprovers : Set PrincipalId :=
  {principal | principal ∈ requirement.approvers.items ∧ ¬AuthorityPrincipal bundle principal ∧
    principal ∉ inputs.countedApprovers bundle requirement ∧
    inputs.Standing bundle requirement .pending principal}

variable {inputs bundle requirement}

theorem Standing.eligible {verdict : ApprovalVerdict} {principal : PrincipalId}
    (h : inputs.Standing bundle requirement verdict principal) :
    principal ∈ requirement.approvers.items ∧ ¬AuthorityPrincipal bundle principal := by
  obtain ⟨approval, -, rfl, anchor, happlicable, -⟩ := h
  exact ⟨happlicable.listed, fun hauthority => happlicable.independent (mem_authority.mpr hauthority)⟩

theorem mem_countedApprovers {principal : PrincipalId} :
    principal ∈ inputs.countedApprovers bundle requirement ↔
      inputs.Standing bundle requirement .counted principal :=
  ⟨fun h => h.2.2, fun h => ⟨h.eligible.1, h.eligible.2, h⟩⟩

theorem mem_pendingApprovers {principal : PrincipalId} :
    principal ∈ inputs.pendingApprovers bundle requirement ↔
      ¬inputs.Standing bundle requirement .counted principal ∧
        inputs.Standing bundle requirement .pending principal := by
  rw [← mem_countedApprovers]
  exact ⟨fun h => h.2.2, fun h => ⟨h.2.eligible.1, h.2.eligible.2, h⟩⟩

/-- The loop over all candidates has collected what the requirement counts. -/
abbrev Collects (inputs : ApprovalInputs) (bundle : ProofBundle) (requirement : ApprovalRequirement)
    (collected : Collected) : Prop :=
  inputs.Tallied (Approvals.new bundle).authority (approvalRequirementId requirement) requirement
    (Approvals.new bundle).candidates collected

section Collected

variable {collected : Collected} (hdistinct : DistinctDigests bundle.approvals)
  (h : inputs.Collects bundle requirement collected)
include hdistinct h

theorem Collects.counted_iff {principal : PrincipalId} :
    ⟨principal, .counted⟩ ∈ collected.outcomes ↔
      inputs.Standing bundle requirement .counted principal := by
  constructor
  · intro hmem
    obtain ⟨entry, hentry, happrover, hjudged⟩ := h.sound _ hmem
    exact ⟨entry.2, ((mem_candidates hdistinct).mp hentry).1, happrover, hjudged⟩
  · intro ⟨approval, hmem, happrover, hjudged⟩
    have hentry : (approvalDigest approval, approval) ∈ (Approvals.new bundle).candidates :=
      (mem_candidates hdistinct).mpr ⟨hmem, rfl⟩
    exact happrover ▸ h.counts (approvalDigest approval, approval) hentry hjudged

theorem Collects.pending_iff {principal : PrincipalId} :
    ⟨principal, .counted⟩ ∉ collected.outcomes ∧ ⟨principal, .pending⟩ ∈ collected.outcomes ↔
      ¬inputs.Standing bundle requirement .counted principal ∧
        inputs.Standing bundle requirement .pending principal := by
  rw [Collects.counted_iff hdistinct h]
  refine and_congr_right fun hnot => ⟨fun hmem => ?_, fun hstanding => ?_⟩
  · obtain ⟨entry, hentry, happrover, hjudged⟩ := h.sound _ hmem
    exact ⟨entry.2, ((mem_candidates hdistinct).mp hentry).1, happrover, hjudged⟩
  · obtain ⟨approval, hmem, rfl, hjudged⟩ := hstanding
    have hentry : (approvalDigest approval, approval) ∈ (Approvals.new bundle).candidates :=
      (mem_candidates hdistinct).mpr ⟨hmem, rfl⟩
    obtain ⟨verdict, hverdict, hin⟩ := h.pends (approvalDigest approval, approval) hentry hjudged
    cases verdict with
    | pending => exact hin
    | counted => exact absurd ((Collects.counted_iff hdistinct h).mp hin) hnot
    | ignored => exact absurd rfl hverdict

theorem Collects.counts_eq :
    (approvalCounts requirement.approvers.items collected.outcomes).counted =
        (inputs.countedApprovers bundle requirement).ncard ∧
      (approvalCounts requirement.approvers.items collected.outcomes).pending =
        (inputs.pendingApprovers bundle requirement).ncard := by
  have hnodup : requirement.approvers.items.Nodup := requirement.approvers.sorted.imp fun hlt => hlt.ne
  constructor
  · refine countP_eq_ncard hnodup fun principal => ?_
    rw [decide_eq_true_eq, approverVerdict_counted, Collects.counted_iff hdistinct h,
      mem_countedApprovers]
    exact ⟨fun hstanding => ⟨hstanding.eligible.1, hstanding⟩, fun hboth => hboth.2⟩
  · refine countP_eq_ncard hnodup fun principal => ?_
    rw [decide_eq_true_eq, approverVerdict_pending, Collects.pending_iff hdistinct h,
      mem_pendingApprovers]
    exact ⟨fun hboth => ⟨hboth.2.eligible.1, hboth⟩, fun hboth => hboth.2⟩

end Collected

/-- One passing approval of each counted approver. -/
structure Chosen (inputs : ApprovalInputs) (bundle : ProofBundle) (requirement : ApprovalRequirement)
    (chosen : List SignedApproval) : Prop where
  distinct : (chosen.map fun approval => approval.statement.approver).Nodup
  counted : ∀ principal, principal ∈ inputs.countedApprovers bundle requirement ↔
    principal ∈ chosen.map fun approval => approval.statement.approver
  passing : ∀ approval ∈ chosen, approval ∈ bundle.approvals ∧
    inputs.Judged (Approvals.new bundle).authority (approvalRequirementId requirement) requirement
      approval .counted

theorem Chosen.length_eq {chosen : List SignedApproval} (h : inputs.Chosen bundle requirement chosen) :
    chosen.length = (inputs.countedApprovers bundle requirement).ncard := by
  rw [← @countP_eq_ncard _ _ _ h.distinct (fun _ => true) _ fun principal => by simp [h.counted],
    List.countP_true, List.length_map]

section Concluded

variable {collected : Collected} (hdistinct : DistinctDigests bundle.approvals)
  (h : inputs.Collects bundle requirement collected)
include hdistinct h

theorem Collects.chosen : collected.counted.Nodup ∧ ∃ chosen, inputs.Chosen bundle requirement chosen ∧
    collected.counted = chosen.map approvalDigest := by
  obtain ⟨picked, hsublist, hpassing, hnodup, hdigests, happrovers⟩ := h.picked
  have hentry (entry : ApprovalDigest × SignedApproval) (hmem : entry ∈ picked) :
      entry.2 ∈ bundle.approvals ∧ entry.1 = approvalDigest entry.2 :=
    (mem_candidates hdistinct).mp (hsublist.subset hmem)
  refine ⟨?_, picked.map Prod.snd, ⟨?_, fun principal => ?_, fun approval hmem => ?_⟩, ?_⟩
  · have hsorted := candidates_sorted.sublist hsublist
    rw [hdigests]
    exact List.pairwise_map.mpr (hsorted.imp fun hlt => hlt.ne)
  · rw [List.map_map]
    exact hnodup
  · rw [mem_countedApprovers, ← Collects.counted_iff hdistinct h, happrovers, List.map_map]
    rfl
  · obtain ⟨entry, hentryMem, rfl⟩ := List.mem_map.mp hmem
    exact ⟨(hentry entry hentryMem).1, hpassing entry hentryMem⟩
  · rw [hdigests, List.map_map]
    exact List.map_congr_left fun entry hmem => (hentry entry hmem).2

/-- What the code concludes from a complete collection: the threshold of the two counts, and where it is
reached a satisfaction that is always well formed. -/
theorem Collects.conclude : ∃ evaluated,
    ApprovalInputs.conclude (approvalRequirementId requirement) requirement collected = .ok evaluated ∧
    evaluated.verdict.truth = thresholdCounts requirement.threshold
      (inputs.countedApprovers bundle requirement).ncard
      (inputs.pendingApprovers bundle requirement).ncard ∧
    ∀ satisfaction, evaluated.verdict = .authorized satisfaction →
      satisfaction.requirement = approvalRequirementId requirement ∧
      ∃ chosen, inputs.Chosen bundle requirement chosen ∧
        satisfaction.approvals.items.Perm (chosen.map approvalDigest) := by
  obtain ⟨hcounted, hpending⟩ := Collects.counts_eq hdistinct h
  obtain ⟨hnodup, chosen, hchosen, hdigests⟩ := Collects.chosen hdistinct h
  have hlength : collected.counted.length =
      (approvalCounts requirement.approvers.items collected.outcomes).counted := by
    rw [hcounted, ← hchosen.length_eq, hdigests, List.length_map]
  have hsize : collected.counted.length ≤ maxApproversPerRequirement := by
    rw [hlength]
    exact (List.countP_le_length).trans requirement.approvers.bounded
  unfold ApprovalInputs.conclude
  rw [← hcounted, ← hpending]
  dsimp only
  cases htruth : thresholdCounts requirement.threshold
      (approvalCounts requirement.approvers.items collected.outcomes).counted
      (approvalCounts requirement.approvers.items collected.outcomes).pending with
  | denied => exact ⟨_, rfl, rfl, fun _ heq => nomatch heq⟩
  | indeterminate => exact ⟨_, rfl, rfl, fun _ heq => nomatch heq⟩
  | authorized =>
    -- a reached threshold is positive, so some approver counted
    have hreached : requirement.threshold.toNat ≤ collected.counted.length := by
      rw [hlength]
      unfold thresholdCounts at htruth
      split_ifs at htruth with hle
      exact hle
    have hpositive : 0 < requirement.threshold.toNat := by
      refine Nat.pos_of_ne_zero fun hzero => requirement.positive ?_
      exact UInt16.toNat_inj.mp hzero
    have hne : collected.counted ≠ [] := List.ne_nil_of_length_pos (hpositive.trans_le hreached)
    obtain ⟨digests, hset, hperm⟩ := BoundedSet.new_ok hne hsize hnodup
    simp only [ApprovalSatisfaction.new, hset]
    refine ⟨_, rfl, rfl, fun satisfaction heq => ?_⟩
    obtain rfl := Verdict.authorized.inj heq
    exact ⟨rfl, chosen, hchosen, hdigests ▸ hperm⟩

end Concluded

section Failures

/-- A computation that fails by exhaustion only. -/
abbrev FailsExhausted {α : Type} (x : Metered α) : Prop := Run.FailsIn (· = exhausted) x

omit [Cbor] [Sha256] in
theorem failsExhausted_reserve (maximum : UInt64) : FailsExhausted (reserve maximum) := by
  intro meter
  unfold reserve
  split_ifs
  · exact .error rfl
  · exact .error rfl
  · exact .ok

omit [Cbor] [Sha256] in
theorem classify_failsIn (failure : VerificationFailure) : (classify failure).FailsIn (· = exhausted) := by
  unfold classify
  split
  · exact .error rfl
  · exact .ok
  · exact .ok

variable (inputs)

theorem failsExhausted_statusVerdict (anchor : ApproverAnchor) :
    FailsExhausted (statusVerdict inputs.controls inputs.context inputs.registries anchor) := by
  unfold statusVerdict
  split
  · exact Run.failsIn_pure _
  · split
    · exact Run.failsIn_pure _
    · dsimp only
      split
      · exact Run.failsIn_ofExcept (classify_failsIn _)
      · refine (failsExhausted_reserve _).bind fun _ => ?_
        split
        · exact Run.failsIn_ofExcept (classify_failsIn _)
        · exact Run.failsIn_pure _

theorem failsExhausted_approvalVerdict (approval : SignedApproval) (anchor : ApproverAnchor) :
    FailsExhausted (inputs.approvalVerdict approval anchor) := by
  refine Run.FailsIn.bind (Run.FailsIn.attempt_bind fun outcome => ?_) fun verdict => ?_
  · cases outcome with
    | ok control => exact Run.failsIn_pure _
    | error failure => exact Run.failsIn_ofExcept (classify_failsIn failure)
  · cases verdict with
    | pending => exact Run.failsIn_pure _
    | ignored => exact Run.failsIn_pure _
    | counted => exact failsExhausted_statusVerdict inputs anchor

theorem failsExhausted_collect (authority : List PrincipalId) (identifier : ApprovalRequirementId)
    (candidates : List (ApprovalDigest × SignedApproval)) (collected : Collected) :
    FailsExhausted (inputs.collect authority identifier requirement candidates collected) := by
  induction candidates generalizing collected with
  | nil => exact Run.failsIn_pure _
  | cons candidate candidates ih =>
    unfold collect
    split
    · exact ih collected
    · exact (inputs.failsExhausted_approvalVerdict _ _).bind fun verdict => ih _

end Failures

section Fresh

variable (inputs) (bundle) (requirement)

/-- The loop of one requirement over the proof's approvals. -/
def collectAll : Metered Collected :=
  inputs.collect (Approvals.new bundle).authority (approvalRequirementId requirement) requirement
    (Approvals.new bundle).candidates {}

/-- A requirement evaluated before any other. -/
def freshly (meter : WorkMeter) : Except VerificationFailure Evaluated :=
  (inputs.evaluate (Approvals.new bundle) (approvalRequirementId requirement) requirement
    ⟨meter, []⟩).1

variable {inputs bundle requirement}

/-- A fresh evaluation concludes from what the loop collects. -/
theorem freshly_eq (meter : WorkMeter) :
    inputs.freshly bundle requirement meter = (inputs.collectAll bundle requirement meter).1 >>=
      fun collected => ApprovalInputs.conclude (approvalRequirementId requirement) requirement
        collected := by
  unfold freshly collectAll evaluate
  dsimp only [Progress.get, List.find?_nil, Option.map_none, List.length_nil]
  rw [if_neg (by decide)]
  cases hrun : inputs.collect (Approvals.new bundle).authority (approvalRequirementId requirement)
      requirement (Approvals.new bundle).candidates {} meter with
  | mk outcome meter' =>
    cases outcome with
    | error failure => rfl
    | ok collected =>
      dsimp only
      cases hconclude : ApprovalInputs.conclude (approvalRequirementId requirement) requirement
          collected with
      | error failure => simp [hconclude, bind, Except.bind]
      | ok evaluated => simp [hconclude, bind, Except.bind]

theorem collectAll_collects {meter : WorkMeter} {collected : Collected}
    (h : (inputs.collectAll bundle requirement meter).1 = .ok collected) :
    inputs.Collects bundle requirement collected := by
  have htallied := answers_collect (inputs.tallied_nil (Approvals.new bundle).authority
    (approvalRequirementId requirement) requirement) (Approvals.new bundle).candidates meter collected h
  rwa [List.nil_append] at htallied

/-- Where the work limit is not reached, a requirement has the verdict of its counts. -/
theorem freshly_verdict (hdistinct : DistinctDigests bundle.approvals) {meter : WorkMeter}
    (hwork : (inputs.collectAll bundle requirement meter).1 ≠ .error exhausted) :
    ∃ evaluated, inputs.freshly bundle requirement meter = .ok evaluated ∧
      evaluated.verdict.truth = thresholdCounts requirement.threshold
        (inputs.countedApprovers bundle requirement).ncard
        (inputs.pendingApprovers bundle requirement).ncard ∧
      ∀ satisfaction, evaluated.verdict = .authorized satisfaction →
        satisfaction.requirement = approvalRequirementId requirement ∧
        ∃ chosen, inputs.Chosen bundle requirement chosen ∧
          satisfaction.approvals.items.Perm (chosen.map approvalDigest) := by
  cases hrun : (inputs.collectAll bundle requirement meter).1 with
  | error failure =>
    have hexhausted := failsExhausted_collect inputs (Approvals.new bundle).authority
      (approvalRequirementId requirement) (Approvals.new bundle).candidates {} meter failure hrun
    exact absurd (hexhausted ▸ hrun) hwork
  | ok collected =>
    obtain ⟨evaluated, hconclude, hverdict, hsatisfaction⟩ :=
      Collects.conclude hdistinct (collectAll_collects hrun)
    refine ⟨evaluated, ?_, hverdict, hsatisfaction⟩
    rw [freshly_eq, hrun]
    exact hconclude

/-- A fresh evaluation that answers does not depend on the work already charged. -/
theorem freshly_unique {meter meter' : WorkMeter} {evaluated evaluated' : Evaluated}
    (h : inputs.freshly bundle requirement meter = .ok evaluated)
    (h' : inputs.freshly bundle requirement meter' = .ok evaluated') : evaluated = evaluated' := by
  rw [freshly_eq] at h h'
  obtain ⟨collected, hrun, hconclude⟩ := Except.bind_eq_ok.mp h
  obtain ⟨collected', hrun', hconclude'⟩ := Except.bind_eq_ok.mp h'
  have hmeterFree : MeterFree (inputs.collectAll bundle requirement) := inputs.meterFree_collect _ _ _ _ _
  obtain rfl := hmeterFree.ok_unique hrun hrun'
  exact Except.ok.inj (hconclude.symm.trans hconclude')

end Fresh

end ApprovalInputs

end AuthsProof
