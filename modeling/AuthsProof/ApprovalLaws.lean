import AuthsProof.ApprovalVerdict
import AuthsProof.PlanSemantics
import AuthsProof.Work

/-! The laws of approval counting: a verdict depends on the set of approvals only, grows with it, and
is the same from the table of verdicts as from a fresh evaluation. -/

namespace AuthsProof

open Sorting Threshold

/-- More members that pass, and no fewer that pass or may still do so, never lower a threshold. -/
theorem thresholdCounts_mono {k : UInt16} {a a' i i' : Nat} (hcounted : a ≤ a')
    (hopen : a + i ≤ a' + i') : thresholdCounts k a i ≤ thresholdCounts k a' i' := by
  rw [thresholdCounts_eq, thresholdCounts_eq]
  by_cases hauthorized : k.toNat ≤ a
  · rw [if_pos hauthorized, if_pos (by omega)]
  · rw [if_neg hauthorized]
    by_cases hpending : k.toNat ≤ a + i
    · rw [if_pos hpending]
      by_cases hnow : k.toNat ≤ a'
      · simp [if_pos hnow, Truth.le_iff, Truth.rank]
      · rw [if_neg hnow, if_pos (by omega)]
    · simp [if_neg hpending, Truth.le_iff, Truth.rank]

section Bundles

variable [Cbor] [Sha256] {bundle bundle' : ProofBundle}

theorem distinctDigests_of_collisionFree [LawfulCbor] {approvals : List SignedApproval}
    (h : CollisionFree (approvals.map encodeSignedApproval)) : DistinctDigests approvals := by
  intro a ha b hb hdigest
  have hencoded := h _ (List.mem_map_of_mem ha) _ (List.mem_map_of_mem hb) hdigest
  exact encodeSignedApproval_injective hencoded

/-- The same grants and actions: the approvals meet the same authority. -/
structure SameAuthority (bundle bundle' : ProofBundle) : Prop where
  grants : bundle'.grants = bundle.grants
  actions : bundle'.actions = bundle.actions

theorem SameAuthority.authority_eq (h : SameAuthority bundle bundle') :
    (Approvals.new bundle').authority = (Approvals.new bundle).authority := by
  simp only [Approvals.new, h.grants, h.actions]

omit [Cbor] [Sha256] in
theorem SameAuthority.principal_iff (h : SameAuthority bundle bundle') {principal : PrincipalId} :
    AuthorityPrincipal bundle' principal ↔ AuthorityPrincipal bundle principal := by
  simp only [AuthorityPrincipal, h.grants, h.actions]

/-- Neither the order nor the number of copies of an approval is seen by the approval stage. -/
theorem SameAuthority.approvals_eq (h : SameAuthority bundle bundle')
    (hdistinct : DistinctDigests bundle.approvals)
    (hmem : ∀ approval, approval ∈ bundle'.approvals ↔ approval ∈ bundle.approvals) :
    Approvals.new bundle' = Approvals.new bundle := by
  have hdistinct' : DistinctDigests bundle'.approvals := fun a ha b hb =>
    hdistinct a ((hmem a).mp ha) b ((hmem b).mp hb)
  have hcandidates : (Approvals.new bundle').candidates = (Approvals.new bundle).candidates := by
    refine eq_of_pairwise_key_lt candidates_sorted candidates_sorted fun entry => ?_
    rw [mem_candidates hdistinct', mem_candidates hdistinct, hmem]
  calc Approvals.new bundle'
      = ⟨(Approvals.new bundle').candidates, (Approvals.new bundle').authority⟩ := rfl
    _ = Approvals.new bundle := by rw [hcandidates, h.authority_eq]

end Bundles

namespace ApprovalInputs

variable [Cbor] [Sha256] {inputs : ApprovalInputs} {bundle bundle' : ProofBundle}
  {requirement : ApprovalRequirement}

section Growth

variable (h : SameAuthority bundle bundle') (hsubset : bundle.approvals ⊆ bundle'.approvals)
include h hsubset

theorem Standing.grow {verdict : ApprovalVerdict} {principal : PrincipalId}
    (hstanding : inputs.Standing bundle requirement verdict principal) :
    inputs.Standing bundle' requirement verdict principal := by
  obtain ⟨approval, hmem, happrover, hjudged⟩ := hstanding
  exact ⟨approval, hsubset hmem, happrover, h.authority_eq ▸ hjudged⟩

theorem countedApprovers_grow :
    inputs.countedApprovers bundle requirement ⊆ inputs.countedApprovers bundle' requirement := by
  intro principal hmem
  rw [mem_countedApprovers] at hmem ⊢
  exact hmem.grow h hsubset

/-- An approver that may still pass either still may or has passed. -/
theorem openApprovers_grow :
    inputs.countedApprovers bundle requirement ∪ inputs.pendingApprovers bundle requirement ⊆
      inputs.countedApprovers bundle' requirement ∪ inputs.pendingApprovers bundle' requirement := by
  intro principal hmem
  by_cases hcounted : inputs.Standing bundle' requirement .counted principal
  · exact Or.inl (mem_countedApprovers.mpr hcounted)
  · refine Or.inr (mem_pendingApprovers.mpr ⟨hcounted, ?_⟩)
    rcases hmem with hmem | hmem
    · exact absurd ((mem_countedApprovers.mp hmem).grow h hsubset) hcounted
    · exact (mem_pendingApprovers.mp hmem).2.grow h hsubset

end Growth

theorem countedApprovers_finite : (inputs.countedApprovers bundle requirement).Finite :=
  (List.finite_toSet requirement.approvers.items).subset fun _ h => h.1

theorem pendingApprovers_finite : (inputs.pendingApprovers bundle requirement).Finite :=
  (List.finite_toSet requirement.approvers.items).subset fun _ h => h.1

theorem ncard_open : (inputs.countedApprovers bundle requirement ∪
    inputs.pendingApprovers bundle requirement).ncard =
      (inputs.countedApprovers bundle requirement).ncard +
        (inputs.pendingApprovers bundle requirement).ncard := by
  refine Set.ncard_union_eq ?_ countedApprovers_finite pendingApprovers_finite
  exact Set.disjoint_left.mpr fun principal hcounted hpending => hpending.2.2.1 hcounted

/-- More approvals never lower the threshold's verdict. -/
theorem thresholdCounts_grow (h : SameAuthority bundle bundle')
    (hsubset : bundle.approvals ⊆ bundle'.approvals) :
    thresholdCounts requirement.threshold (inputs.countedApprovers bundle requirement).ncard
        (inputs.pendingApprovers bundle requirement).ncard ≤
      thresholdCounts requirement.threshold (inputs.countedApprovers bundle' requirement).ncard
        (inputs.pendingApprovers bundle' requirement).ncard := by
  refine thresholdCounts_mono
    (Set.ncard_le_ncard (countedApprovers_grow h hsubset) countedApprovers_finite) ?_
  rw [← ncard_open, ← ncard_open]
  exact Set.ncard_le_ncard (openApprovers_grow h hsubset)
    (countedApprovers_finite.union pendingApprovers_finite)

section Table

variable (inputs bundle)

/-- The requests of a verification so far, whichever branch made them, and the progress they reached:
work is charged in between and each request answers from the table or adds to it. -/
inductive Asked : List ApprovalRequirement → Progress → Prop
  | start (meter : WorkMeter) : Asked [] ⟨meter, []⟩
  | work {asked : List ApprovalRequirement} {progress : Progress} (meter : WorkMeter) :
      Asked asked progress → Asked asked { progress with meter }
  | ask {asked : List ApprovalRequirement} {progress : Progress} (requirement : ApprovalRequirement) :
      Asked asked progress → Asked (requirement :: asked)
        (inputs.evaluate (Approvals.new bundle) (approvalRequirementId requirement) requirement
          progress).2

variable {inputs bundle}

/-- A request without an entry runs the loop as a fresh one does, and remembers what it concludes. -/
theorem evaluate_remembers (progress : Progress) {identifier : ApprovalRequirementId}
    {evaluated : Evaluated} (hmem : (identifier, evaluated) ∈
      (inputs.evaluate (Approvals.new bundle) (approvalRequirementId requirement) requirement
        progress).2.evaluated) :
    (identifier, evaluated) ∈ progress.evaluated ∨
      identifier = approvalRequirementId requirement ∧
        inputs.freshly bundle requirement progress.meter = .ok evaluated := by
  rw [freshly_eq]
  unfold collectAll
  unfold evaluate at hmem
  split at hmem
  · exact Or.inl hmem
  · split at hmem
    · exact Or.inl hmem
    · split at hmem
      · exact Or.inl hmem
      · rename_i collected meter hrun
        split at hmem
        · exact Or.inl hmem
        · rename_i concluded hconclude
          rcases List.mem_append.mp hmem with hmem | hmem
          · exact Or.inl hmem
          · obtain ⟨rfl, rfl⟩ := Prod.mk.inj (List.mem_singleton.mp hmem)
            rw [hrun]
            exact Or.inr ⟨rfl, hconclude⟩

/-- Every entry of the table is a fresh evaluation of a requirement that was asked. -/
theorem Asked.table {asked : List ApprovalRequirement} {progress : Progress}
    (h : Asked inputs bundle asked progress) {identifier : ApprovalRequirementId}
    {evaluated : Evaluated} (hmem : (identifier, evaluated) ∈ progress.evaluated) :
    ∃ requirement ∈ asked, identifier = approvalRequirementId requirement ∧
      ∃ meter, inputs.freshly bundle requirement meter = .ok evaluated := by
  induction h with
  | start meter => exact absurd hmem List.not_mem_nil
  | work meter _ ih => exact ih hmem
  | @ask asked progress requirement _ ih =>
    rcases evaluate_remembers progress hmem with hold | ⟨rfl, hfresh⟩
    · obtain ⟨found, hfound, hrest⟩ := ih hold
      exact ⟨found, List.mem_cons_of_mem _ hfound, hrest⟩
    · exact ⟨requirement, List.mem_cons_self, rfl, _, hfresh⟩

theorem approvalRequirementId_inj [LawfulCbor] {requirements : List ApprovalRequirement}
    (hcollision : CollisionFree
      (requirements.map fun requirement => idPreimage 12 (encodeApprovalRequirement requirement)))
    {r s : ApprovalRequirement} (hr : r ∈ requirements) (hs : s ∈ requirements)
    (h : approvalRequirementId r = approvalRequirementId s) : r = s := by
  have hpreimage := hcollision _ (List.mem_map_of_mem hr) _ (List.mem_map_of_mem hs) h
  exact encodeApprovalRequirement_injective (idPreimage_injective hpreimage).2

/-- What the table remembers of a requirement is what a fresh evaluation of it gives. -/
theorem Asked.get_fresh [LawfulCbor] {asked : List ApprovalRequirement} {progress : Progress}
    (h : Asked inputs bundle asked progress)
    (hcollision : CollisionFree ((requirement :: asked).map fun requirement =>
      idPreimage 12 (encodeApprovalRequirement requirement)))
    {remembered fresh : Evaluated} {meter : WorkMeter}
    (hget : progress.get (approvalRequirementId requirement) = some remembered)
    (hfresh : inputs.freshly bundle requirement meter = .ok fresh) : remembered = fresh := by
  unfold Progress.get at hget
  obtain ⟨⟨identifier, found⟩, hfind, rfl⟩ := Option.map_eq_some_iff.mp hget
  have hidentifier : identifier = approvalRequirementId requirement := by
    simpa using List.find?_some hfind
  obtain ⟨other, hother, hid, meter', hremembered⟩ := h.table (List.mem_of_find?_eq_some hfind)
  have hsame : other = requirement := approvalRequirementId_inj hcollision
    (List.mem_cons_of_mem _ hother) List.mem_cons_self (hid.symm.trans hidentifier)
  exact freshly_unique (hsame ▸ hremembered) hfresh

/-- A request answers as a fresh evaluation does, from the table or not. -/
theorem Asked.evaluate_fresh [LawfulCbor] {asked : List ApprovalRequirement} {progress : Progress}
    (h : Asked inputs bundle asked progress)
    (hcollision : CollisionFree ((requirement :: asked).map fun requirement =>
      idPreimage 12 (encodeApprovalRequirement requirement)))
    {evaluated fresh : Evaluated} {meter : WorkMeter}
    (hevaluate : (inputs.evaluate (Approvals.new bundle) (approvalRequirementId requirement)
      requirement progress).1 = .ok evaluated)
    (hfresh : inputs.freshly bundle requirement meter = .ok fresh) : evaluated = fresh := by
  cases hget : progress.get (approvalRequirementId requirement) with
  | some remembered =>
    have hanswer : inputs.evaluate (Approvals.new bundle) (approvalRequirementId requirement)
        requirement progress = (.ok remembered, progress) := by
      unfold evaluate
      rw [hget]
    rw [hanswer] at hevaluate
    exact Except.ok.inj hevaluate ▸ h.get_fresh hcollision hget hfresh
  | none =>
    -- the loop runs on the meter the earlier requests left
    have hrun : inputs.freshly bundle requirement progress.meter = .ok evaluated := by
      rw [freshly_eq]
      unfold collectAll
      unfold evaluate at hevaluate
      rw [hget] at hevaluate
      dsimp only at hevaluate
      split at hevaluate
      · cases hevaluate
      · split at hevaluate
        · cases hevaluate
        · rename_i collected left hcollect
          rw [hcollect]
          split at hevaluate
          · cases hevaluate
          · rename_i concluded hconclude
            exact hconclude.trans hevaluate
    exact freshly_unique hrun hfresh

end Table

section Runs

variable (inputs bundle)

/-- Whatever requests led to `before`, further ones lead to `after`. -/
def Continues (before after : Progress) : Prop :=
  (∃ asked, Asked inputs bundle asked before) → ∃ asked, Asked inputs bundle asked after

instance : Std.Refl (Continues inputs bundle) := ⟨fun _ h => h⟩

instance : IsTrans Progress (Continues inputs bundle) := ⟨fun _ _ _ hab hbc h => hbc (hab h)⟩

abbrev Continuing {α : Type} (x : Approving α) : Prop :=
  Run.Sat (Continues inputs bundle) (fun _ => True) (fun _ => True) x

theorem continuing_onMeter {α : Type} (x : Metered α) : Continuing inputs bundle (onMeter x) :=
  ⟨fun _ h => h.imp fun _ hasked => hasked.work _, fun _ _ _ => trivial, fun _ _ _ => trivial⟩

theorem continuing_evaluate (requirement : ApprovalRequirement) : Continuing inputs bundle
    (inputs.evaluate (Approvals.new bundle) (approvalRequirementId requirement) requirement) :=
  ⟨fun _ h => h.elim fun asked hasked => ⟨requirement :: asked, hasked.ask requirement⟩,
    fun _ _ _ => trivial, fun _ _ _ => trivial⟩

/-- Every requirement stands under its own identifier. -/
def Identified (requirements : List (ApprovalRequirementId × ApprovalRequirement)) : Prop :=
  ∀ entry ∈ requirements, entry.1 = approvalRequirementId entry.2

theorem continuing_evaluateList {requirements : List (ApprovalRequirementId × ApprovalRequirement)}
    (h : Identified requirements) (unavailable : Bool) :
    Continuing inputs bundle (inputs.evaluateList (Approvals.new bundle) requirements unavailable) := by
  induction requirements generalizing unavailable with
  | nil =>
    unfold evaluateList
    split
    · exact Run.sat_fail trivial
    · exact Run.sat_pure trivial
  | cons entry requirements ih =>
    obtain ⟨identifier, requirement⟩ := entry
    have hrest := ih fun other hmem => h other (List.mem_cons_of_mem _ hmem)
    obtain rfl : identifier = approvalRequirementId requirement := h _ List.mem_cons_self
    refine (inputs.continuing_evaluate bundle requirement).bind fun evaluated _ => ?_
    split
    · exact hrest unavailable
    · exact Run.sat_fail trivial
    · exact hrest true

theorem identified_addApprovalRequirements
    {known added : List (ApprovalRequirementId × ApprovalRequirement)} (h : Identified known)
    {extension : CriticalExtension} (hadd : addApprovalRequirements known extension = .ok added) :
    Identified added := by
  unfold addApprovalRequirements at hadd
  split at hadd
  · exact Except.ok.inj hadd ▸ h
  · obtain ⟨decoded, -, hadded⟩ := Except.bind_eq_ok.mp hadd
    rw [← Except.ok.inj hadded]
    refine List.foldlRecOn (motive := Identified) decoded.items _ h fun known hknown requirement _ => ?_
    dsimp only
    split
    · exact hknown
    · intro entry hmem
      rcases List.mem_append.mp hmem with hmem | hmem
      · exact hknown entry hmem
      · rw [List.mem_singleton.mp hmem]

theorem identified_chainApprovalRequirements {chain : List SignedGrant}
    {requirements : List (ApprovalRequirementId × ApprovalRequirement)}
    (h : chainApprovalRequirements chain = .ok requirements) : Identified requirements := by
  obtain ⟨collected, hcollected, h⟩ := Except.bind_eq_ok.mp h
  obtain ⟨-, -, h⟩ := Except.bind_eq_ok.mp h
  rw [← Except.ok.inj h]
  refine Except.foldlM_keeps (P := Identified) (fun known extension added hknown hadd => ?_) ?_ hcollected
  · exact identified_addApprovalRequirements hknown hadd
  · exact fun _ hmem => absurd hmem List.not_mem_nil

theorem identified_contextApprovalRequirements (context : ContextParts) :
    Identified (contextApprovalRequirements context) := by
  intro entry hmem
  obtain ⟨requirement, -, rfl⟩ := List.mem_map.mp hmem
  rfl

end Runs

end ApprovalInputs

section Verification

open ApprovalInputs

variable [Cbor] [Sha256] (bundle : ProofBundle)

theorem continuing_verifyBranchFromAnchor (branch : BranchInput) (anchor : TrustAnchor) :
    Continuing branch.approvalInputs bundle
      (branch.verifyBranchFromAnchor anchor (Approvals.new bundle)) := by
  refine (continuing_onMeter _ _ _).bind fun established _ => ?_
  refine Run.Sat.bind (Run.sat_ofExcept (P := Identified) ?_ fun _ _ => trivial)
    fun requirements hidentified => ?_
  · intro requirements hrequirements
    exact identified_chainApprovalRequirements hrequirements
  · exact (continuing_evaluateList _ _ hidentified false).bind fun _ _ => Run.sat_pure trivial

theorem continuing_verifyFromAnchors (branch : BranchInput) (anchors : List TrustAnchor)
    (firstFailure : Option VerificationFailure) :
    Continuing branch.approvalInputs bundle
      (branch.verifyFromAnchors (Approvals.new bundle) anchors firstFailure) := by
  induction anchors generalizing firstFailure with
  | nil => exact Run.sat_fail trivial
  | cons anchor anchors ih =>
    refine (continuing_verifyBranchFromAnchor bundle branch anchor).attempt.bind fun outcome _ => ?_
    cases outcome with
    | ok authority => exact Run.sat_pure trivial
    | error failure => exact ih _

variable (controlled : ControlVerifiedProof) (canonical : CanonicalAction) (context : ContextParts)
  (registries : ImmutableRegistries)

/-- The approval inputs of every branch and of the context's own requirements. -/
def verificationInputs : ApprovalInputs where
  controls := controlled.controls
  canonical := canonical
  context := context
  registries := registries

theorem continuing_verifyBranch (reference : ProofRef) :
    Continuing (verificationInputs controlled canonical context registries) bundle
      (verifyBranch controlled.resolved controlled.controls canonical context registries
        (Approvals.new bundle) reference) := by
  refine Run.Sat.bind (Run.sat_ofExcept (P := fun branch => branch.approvalInputs =
    verificationInputs controlled canonical context registries) ?_ fun _ _ => trivial)
    fun branch hbranch => ?_
  · intro branch hbranch
    obtain ⟨action, chain, rootControl, -, -, -, rfl⟩ := branchInput_ok hbranch
    rfl
  · rw [← hbranch]
    exact continuing_verifyFromAnchors bundle branch _ none

/-- The progress of an authority verification comes from requests, whatever branches made them. -/
def AuthorityState.Reached (state : AuthorityState) : Prop :=
  ∃ asked, Asked (verificationInputs controlled canonical context registries) bundle asked
    state.progress

def AuthorityState.Continues (before after : AuthorityState) : Prop :=
  before.Reached bundle controlled canonical context registries →
    after.Reached bundle controlled canonical context registries

instance : Std.Refl (AuthorityState.Continues bundle controlled canonical context registries) :=
  ⟨fun _ h => h⟩

instance : IsTrans AuthorityState
    (AuthorityState.Continues bundle controlled canonical context registries) :=
  ⟨fun _ _ _ hab hbc h => hbc (hab h)⟩

theorem branchStep_continues (reference : ProofRef) (state : AuthorityState) :
    state.Continues bundle controlled canonical context registries
      (branchStep controlled canonical context registries (Approvals.new bundle) reference state).2 := by
  have hbranch := (continuing_verifyBranch bundle controlled canonical context registries
    reference).state state.progress
  unfold branchStep
  split <;> rename_i hrun <;> rw [hrun] at hbranch <;> exact hbranch

theorem evaluatePlan_continues (state : AuthorityState) :
    state.Continues bundle controlled canonical context registries
      (evaluatePlan controlled canonical context registries (Approvals.new bundle) state).2 := by
  intro h
  have hplan := evaluateObserved_related
    (R := fun s t : AuthorityState => s = t ∧
      s.Reached bundle controlled canonical context registries)
    (b := branchStep controlled canonical context registries (Approvals.new bundle))
    (c := branchStep controlled canonical context registries (Approvals.new bundle))
    (o := observePlanEvent) (p := observePlanEvent)
    controlled.resolved.decoded.bundle.plan.plan context.limits ?_ ?_
    (s := state) (t := state) ⟨rfl, h⟩
  · exact hplan.2.2
  · intro reference _ s t hst
    obtain ⟨rfl, hreached⟩ := hst
    exact ⟨rfl, rfl,
      branchStep_continues bundle controlled canonical context registries reference s hreached⟩
  · intro event s t hst
    exact ⟨congrArg (observePlanEvent event) hst.1, hst.2⟩

/-- Every request of a verification, of a branch or of the context, is made in a state that requests
led to: they all share one table. -/
theorem authorize_continues :
    Run.Sat (AuthorityState.Continues bundle controlled canonical context registries) (fun _ => True)
      (fun _ => True) (authorize controlled canonical context registries (Approvals.new bundle)) := by
  have hplan : Run.Sat (AuthorityState.Continues bundle controlled canonical context registries)
      (fun _ => True) (fun _ => True)
      (evaluatePlan controlled canonical context registries (Approvals.new bundle)) :=
    ⟨evaluatePlan_continues bundle controlled canonical context registries, fun _ _ _ => trivial,
      fun _ _ _ => trivial⟩
  have hcomposition : Run.Sat
      (AuthorityState.Continues bundle controlled canonical context registries) (fun _ => True)
      (fun _ => True) (checkComposition context) := by
    refine ⟨fun state => ?_, fun _ _ _ => trivial, fun _ _ _ => trivial⟩
    unfold checkComposition
    dsimp only
    split <;> exact fun h => h
  have happrovals : Run.Sat
      (AuthorityState.Continues bundle controlled canonical context registries) (fun _ => True)
      (fun _ => True)
      (evaluateContextApprovals controlled canonical context registries (Approvals.new bundle)) :=
    ⟨fun state => (continuing_evaluateList
      (verificationInputs controlled canonical context registries) bundle
      (identified_contextApprovalRequirements context) false).state state.progress,
      fun _ _ _ => trivial, fun _ _ _ => trivial⟩
  exact hplan.bind fun outcome _ =>
    Run.Sat.bind (P := fun _ => True) (Run.sat_ofExcept (fun _ _ => trivial) fun _ _ => trivial)
      fun _ _ => hcomposition.bind fun _ _ => happrovals

end Verification

open ApprovalInputs in
/-- A requirement, where the work limit is not reached, has the threshold verdict of the distinct
listed principals outside the proof's authority with a passing approval, and of the others of them with
a pending one. Neither order nor repetition of approvals changes its evaluation, more approvals never
lower it, and a request in any state of a verification answers the same. -/
theorem approvals_countApprovers [Cbor] [LawfulCbor] [Sha256] (inputs : ApprovalInputs)
    (bundle : ProofBundle) (requirement : ApprovalRequirement) (meter : WorkMeter)
    (hcollision : CollisionFree (bundle.approvals.map encodeSignedApproval))
    (hwork : (inputs.collectAll bundle requirement meter).1 ≠ .error exhausted) :
    ∃ evaluated, inputs.freshly bundle requirement meter = .ok evaluated ∧
      evaluated.verdict.truth = thresholdCounts requirement.threshold
        (inputs.countedApprovers bundle requirement).ncard
        (inputs.pendingApprovers bundle requirement).ncard ∧
      (∀ satisfaction, evaluated.verdict = .authorized satisfaction →
        satisfaction.requirement = approvalRequirementId requirement ∧
        ∃ chosen, inputs.Chosen bundle requirement chosen ∧
          satisfaction.approvals.items.Perm (chosen.map approvalDigest)) ∧
      (∀ bundle', SameAuthority bundle bundle' →
        (∀ approval, approval ∈ bundle'.approvals ↔ approval ∈ bundle.approvals) →
        ∀ progress, inputs.evaluate (Approvals.new bundle') (approvalRequirementId requirement)
            requirement progress =
          inputs.evaluate (Approvals.new bundle) (approvalRequirementId requirement) requirement
            progress) ∧
      (∀ bundle' meter' evaluated', SameAuthority bundle bundle' →
        bundle.approvals ⊆ bundle'.approvals →
        CollisionFree (bundle'.approvals.map encodeSignedApproval) →
        inputs.freshly bundle' requirement meter' = .ok evaluated' →
        evaluated.verdict.truth ≤ evaluated'.verdict.truth) ∧
      ∀ asked progress used, Asked inputs bundle asked progress →
        CollisionFree ((requirement :: asked).map fun requirement =>
          idPreimage 12 (encodeApprovalRequirement requirement)) →
        (inputs.evaluate (Approvals.new bundle) (approvalRequirementId requirement) requirement
          progress).1 = .ok used → used = evaluated := by
  have hdistinct := distinctDigests_of_collisionFree hcollision
  obtain ⟨evaluated, hfresh, hverdict, hsatisfaction⟩ := freshly_verdict hdistinct hwork
  refine ⟨evaluated, hfresh, hverdict, hsatisfaction, ?_, ?_, ?_⟩
  · intro bundle' hsame hmem progress
    rw [hsame.approvals_eq hdistinct hmem]
  · intro bundle' meter' evaluated' hsame hsubset hcollision' hfresh'
    have hwork' : (inputs.collectAll bundle' requirement meter').1 ≠ .error exhausted := by
      intro hexhausted
      rw [freshly_eq, hexhausted] at hfresh'
      cases hfresh'
    obtain ⟨found, hfound, hverdict', -⟩ :=
      freshly_verdict (distinctDigests_of_collisionFree hcollision') hwork'
    obtain rfl := Except.ok.inj (hfound.symm.trans hfresh')
    rw [hverdict, hverdict']
    exact thresholdCounts_grow hsame hsubset
  · intro asked progress used hasked hrequirements hused
    exact hasked.evaluate_fresh hrequirements hused hfresh

section Sample

local instance sampleConsentCbor : Cbor := rfc8949

local instance sampleConsentSha256 : Sha256 :=
  ⟨fun bytes => ⟨Sha2.sha256 bytes, Sha2.sha256_length bytes⟩⟩

/-- The agent's approval of the root's own action, under one of the two sample principals. -/
def sampleConsent : SignedApproval :=
  { sampleApproval 0 (by decide) with
    statement := {
      (sampleApproval 0 (by decide)).statement with
      requirement := approvalRequirementId (sampleRequirement 1 sampleVersion_ne sampleThreshold_le)
      bodyDigest := bodyDigest sampleCanonical.body
      validity := ⟨0, 100, sampleWindow_ordered⟩ } }

def sampleApproved (copies : Nat) (h : copies ≤ hardLimit .approvals) : ProofBundle :=
  { sampleRootBundle with
    approvals := List.replicate copies sampleConsent
    approvalsBounded := by simpa using h }

def sampleApprovalInputs : ApprovalInputs where
  controls := []
  canonical := sampleCanonical
  context := sampleOwnDeployment.toContextParts
  registries := sampleImplementations []

/-- One approval of the agent meets the requirement, and so do two copies of it. -/
theorem approvals_countApprovers_sample :
    let requirement := sampleRequirement 1 (by decide) (by decide)
    ∃ evaluated, sampleApprovalInputs.freshly (sampleApproved 1 (by decide)) requirement
        (WorkMeter.new 100) = .ok evaluated ∧
      evaluated.verdict.truth = .authorized ∧
      sampleApprovalInputs.freshly (sampleApproved 2 (by decide)) requirement (WorkMeter.new 100) =
        .ok evaluated := by
  intro requirement
  have : LawfulCbor := rfc8949_lawful
  have hcollision : CollisionFree ((sampleApproved 1 (by decide)).approvals.map encodeSignedApproval) := by
    intro x hx y hy _
    rw [List.mem_singleton.mp hx, List.mem_singleton.mp hy]
  have hauthorized : ((sampleApprovalInputs.freshly (sampleApproved 1 (by decide)) requirement
      (WorkMeter.new 100)).toOption.map fun evaluated => evaluated.verdict.truth) = some .authorized := by
    decide +kernel
  have hcollected : (sampleApprovalInputs.collectAll (sampleApproved 1 (by decide)) requirement
      (WorkMeter.new 100)).1.toBool = true := by
    decide +kernel
  have hwork : (sampleApprovalInputs.collectAll (sampleApproved 1 (by decide)) requirement
      (WorkMeter.new 100)).1 ≠ .error exhausted := by
    intro hexhausted
    rw [hexhausted] at hcollected
    cases hcollected
  obtain ⟨evaluated, hfresh, -, -, hcopies, -⟩ := approvals_countApprovers sampleApprovalInputs
    (sampleApproved 1 (by decide)) requirement (WorkMeter.new 100) hcollision hwork
  refine ⟨evaluated, hfresh, ?_, ?_⟩
  · rw [hfresh] at hauthorized
    exact Option.some.inj hauthorized
  · have hsame := hcopies (sampleApproved 2 (by decide)) ⟨rfl, rfl⟩ (fun approval => by
      simp [sampleApproved]) ⟨WorkMeter.new 100, []⟩
    exact (congrArg Prod.fst hsame).trans hfresh

end Sample

end AuthsProof
