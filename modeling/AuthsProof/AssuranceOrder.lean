import AuthsProof.EntryPoints

/-! The assurance list of an authority: sorted by role and principal, and rid of the repetitions that
this order brings together. -/

namespace AuthsProof

open Sorting

section State

variable {σ : Type} (branch : ProofRef → σ → BranchOutcome × σ)

mutual

/-- An evaluation visits the references of a plan once each, in the order they stand. -/
theorem evaluateNode_state : ∀ (plan : AuthorizationPlan) (s : σ),
    (evaluateNode branch (fun _ s => s) plan s).2 =
      plan.references.foldl (fun s reference => (branch reference s).2) s
  | .proof _, _ => rfl
  | .allOf members, s => evaluateMembers_state members {} s
  | .anyOf members, s => evaluateMembers_state members {} s
  | .kOfN _ members, s => evaluateMembers_state members {} s

theorem evaluateMembers_state : ∀ (members : List AuthorizationPlan) (tally : Tally) (s : σ),
    (evaluateMembers branch (fun _ s => s) members tally s).2 =
      (AuthorizationPlan.memberReferences members).foldl
        (fun s reference => (branch reference s).2) s
  | [], _, _ => rfl
  | member :: members, tally, s => by
    rw [evaluateMembers, AuthorizationPlan.memberReferences, List.foldl_append,
      ← evaluateNode_state member]
    exact evaluateMembers_state members _ _

end

end State

section Authority

variable [Cbor] [Sha256] (controlled : ControlVerifiedProof) (canonical : CanonicalAction)
  (context : ContextParts) (registries : ImmutableRegistries)

/-- The state that verifying branches one after another leaves. -/
def verifyBranches (approvals : Approvals) (references : List ProofRef) (state : AuthorityState) :
    AuthorityState :=
  references.foldl (fun state reference =>
    (branchStep controlled canonical context registries approvals reference state).2) state

theorem evaluatePlan_branches {approvals : Approvals} {state : AuthorityState}
    {outcome : BranchOutcome}
    (h : (evaluatePlan controlled canonical context registries approvals state).1 = .ok outcome) :
    (evaluatePlan controlled canonical context registries approvals state).2.branches =
      (verifyBranches controlled canonical context registries approvals
        controlled.resolved.decoded.bundle.plan.plan.references state).branches := by
  have hplan := evaluateObserved_related _ context.limits
    (branchStep_sameWork controlled canonical context registries approvals
      controlled.resolved.decoded.bundle.plan.plan.references)
    (o := observePlanEvent) (p := fun _ state => state) (fun _ _ _ hst => hst)
    (⟨rfl, rfl⟩ : SameWork state state)
  rw [evaluatePlan] at h ⊢
  refine hplan.2.2.trans ?_
  cases hvalid : controlled.resolved.decoded.bundle.plan.plan.validate context.limits with
  | error _ =>
    simp only [evaluateObserved, hvalid] at h
    cases h
  | ok shape =>
    simp only [evaluateObserved, hvalid]
    rw [evaluateNode_state]
    rfl

omit [Cbor] [Sha256] in
theorem checkComposition_branches (state : AuthorityState) :
    (checkComposition context state).2.branches = state.branches := by
  simp only [checkComposition]
  split <;> rfl

theorem authorize_branches {approvals : Approvals} {state : AuthorityState}
    {requirements : List ApprovalRequirementId}
    (h : (authorize controlled canonical context registries approvals state).1 = .ok requirements) :
    (authorize controlled canonical context registries approvals state).2.branches =
      (verifyBranches controlled canonical context registries approvals
        controlled.resolved.decoded.bundle.plan.plan.references state).branches := by
  rw [authorize, Run.bind_apply] at h ⊢
  cases hplan : evaluatePlan controlled canonical context registries approvals state with
  | mk result afterPlan =>
    cases result with
    | error failure =>
      rw [hplan] at h
      cases h
    | ok outcome =>
      have hbranches := evaluatePlan_branches controlled canonical context registries
        (by rw [hplan] : (evaluatePlan controlled canonical context registries approvals state).1 =
          .ok outcome)
      rw [hplan] at h hbranches
      rw [← hbranches]
      simp only [Run.bind_apply, Run.ofExcept_apply] at h ⊢
      cases houtcome : requireAuthorized outcome with
      | error failure =>
        rw [houtcome] at h
      | ok _ =>
        simp only [houtcome] at h ⊢
        have hkeeps := checkComposition_branches context afterPlan
        cases hcomposition : checkComposition context afterPlan with
        | mk result afterComposition =>
          rw [hcomposition] at h hkeeps
          cases result with
          | error failure => cases h
          | ok _ => exact hkeeps

end Authority

/-- The reports of the branches that authorize, in the order of the plan's references. -/
def branchReports [Cbor] [Sha256] (controlled : ControlVerifiedProof) (canonical : CanonicalAction)
    (registries : ImmutableRegistries) (context : TrustedContext) (meter : WorkMeter) :
    List ParticipantAssurance :=
  let bundle := controlled.resolved.decoded.bundle
  let meter := (validateActionBinding context.toContextParts registries bundle canonical meter).2
  (verifyBranches controlled canonical context.toContextParts registries (Approvals.new bundle)
    bundle.plan.plan.references ⟨⟨meter, []⟩, {}, .discard⟩).branches.assurance

/-- The assurance list of an authority is sorted by role and principal. It repeats no report exactly
when no two equal reports of its branches stand around a different one of the same participant. -/
theorem verifyAuthorityMeasured_assurance [Cbor] [Sha256] {controlled : ControlVerifiedProof}
    {canonical : CanonicalAction} {registries : ImmutableRegistries} {context : TrustedContext}
    {meter : WorkMeter} {diagnostics : AuthorityDiagnostics} {authority : VerifiedAuthority}
    (h : (verifyAuthorityMeasured controlled canonical registries context meter diagnostics).1 =
      .ok authority) :
    (authority.assurance.Pairwise fun a b => a.resultKey ≤ b.resultKey) ∧
      (authority.assurance.Nodup ↔ ∀ report other, other.resultKey = report.resultKey →
        [report, other, report].Sublist
          (branchReports controlled canonical registries context meter) → other = report) := by
  have hassurance : authority.assurance = dedupByKey id (sortByKey ParticipantAssurance.resultKey
      (branchReports controlled canonical registries context meter)) := by
    have hdiscard := (verifyAuthorityMeasured_diagnostics controlled canonical registries context
      meter .discard diagnostics).1.trans h
    rw [branchReports]
    simp only [verifyAuthorityMeasured] at hdiscard
    cases hbinding : validateActionBinding context.toContextParts registries
        controlled.resolved.decoded.bundle canonical meter with
    | mk result bound =>
      rw [hbinding] at hdiscard
      cases result with
      | error failure => cases hdiscard
      | ok _ =>
        simp only at hdiscard ⊢
        generalize hstate : (⟨⟨bound, []⟩, {}, .discard⟩ : AuthorityState) = state at hdiscard ⊢
        cases hauthorize : (authorize controlled canonical context.toContextParts registries
            (Approvals.new controlled.resolved.decoded.bundle) state).1 with
        | error failure =>
          rw [hauthorize] at hdiscard
          cases hdiscard
        | ok requirements =>
          rw [hauthorize] at hdiscard
          have hbranches := authorize_branches controlled canonical context.toContextParts registries
            hauthorize
          rw [← hbranches, ← Except.ok.inj hdiscard]
          rfl
  rw [hassurance]
  exact ⟨(sortByKey_pairwise _ _).sublist (dedupByKey_sublist id _), nodup_dedupByKey_sortByKey⟩

section Sample

local instance sampleAssuranceCbor : Cbor := rfc8949

local instance sampleAssuranceSha256 : Sha256 :=
  ⟨fun bytes => ⟨Sha2.sha256 bytes, Sha2.sha256_length bytes⟩⟩

def repeatedMembers : List AuthorizationPlan :=
  [.proof (.filled 1), .proof (.filled 2), .proof (.filled 3)]

/-- The conjunction of three branches. -/
def repeatedPlan : CanonicalPlan :=
  ⟨.allOf repeatedMembers, rfl, trivial, trivial, trivial, trivial⟩

def repeatedPlanId : PlanId :=
  ⟨[236, 128, 23, 253, 62, 163, 118, 234, 155, 235, 145, 84, 174, 243, 80, 228, 61, 106, 213, 98, 58,
    233, 229, 146, 72, 133, 29, 153, 222, 9, 84, 149], rfl⟩

def repeatedBodyDigest : Digest :=
  ⟨[3, 144, 88, 198, 242, 192, 203, 73, 44, 83, 59, 10, 77, 20, 239, 119, 204, 15, 120, 171, 204, 206,
    213, 40, 125, 132, 161, 162, 1, 28, 251, 129], rfl⟩

/-- The root's own action of one branch. -/
def repeatedAction (reference : ProofRef) : ActionEnvelope :=
  { sampleAction sampleRoot none none with
    canonicalBodyDigest := repeatedBodyDigest
    authorizationPlan := repeatedPlanId
    proofRef := reference }

def repeatedActionId : UInt8 → ActionId
  | 1 => ⟨[178, 233, 79, 250, 217, 227, 88, 249, 64, 236, 75, 62, 20, 225, 186, 199, 122, 27, 60, 97,
      115, 159, 65, 42, 146, 118, 135, 65, 62, 75, 215, 92], rfl⟩
  | 2 => ⟨[70, 93, 206, 111, 221, 153, 5, 73, 108, 87, 31, 187, 195, 151, 177, 92, 219, 59, 69, 6, 72,
      36, 128, 41, 178, 98, 251, 17, 37, 189, 117, 2], rfl⟩
  | _ => ⟨[165, 195, 193, 87, 140, 205, 146, 178, 57, 193, 106, 114, 4, 174, 221, 76, 142, 191, 203,
      212, 58, 14, 193, 171, 10, 226, 213, 87, 146, 205, 237, 94], rfl⟩

/-- Evidence of eight zero bytes. -/
def firstEvidence : EvidenceObject :=
  { sampleEvidence 7 sampleSize_lt with
    id := ⟨[33, 56, 183, 213, 101, 68, 49, 236, 161, 172, 99, 54, 219, 83, 233, 37, 180, 255, 202, 228,
      15, 160, 253, 235, 252, 228, 22, 53, 147, 202, 165, 47], rfl⟩ }

/-- Evidence of nine zero bytes. -/
def secondEvidence : EvidenceObject :=
  { sampleEvidence 8 (by decide) with
    id := ⟨[143, 200, 23, 156, 59, 209, 209, 83, 145, 12, 109, 25, 173, 64, 146, 106, 63, 126, 16, 194,
      11, 199, 221, 82, 156, 194, 249, 31, 41, 74, 153, 119], rfl⟩ }

def repeatedBinding (action : ActionId) (evidence : EvidenceObject) : ControlBinding :=
  ⟨.action action, [evidence.id], List.cons_ne_nil _ _, Nat.le_of_ble_eq_true rfl,
    List.pairwise_singleton _ _⟩

/-- Three actions of the root, the first and the last with the same evidence. -/
def repeatedBundle : ProofBundle where
  header := ⟨0, sampleHeader_zero⟩
  grants := []
  actions := [⟨repeatedAction (.filled 1), sampleSignature⟩,
    ⟨repeatedAction (.filled 2), sampleSignature⟩, ⟨repeatedAction (.filled 3), sampleSignature⟩]
  plan := repeatedPlan
  evidence := [firstEvidence, secondEvidence]
  bindings := [repeatedBinding (repeatedActionId 2) secondEvidence,
    repeatedBinding (repeatedActionId 3) firstEvidence,
    repeatedBinding (repeatedActionId 1) firstEvidence]
  principalStatus := []
  grantStatus := []
  attachments := []
  canonicalBody := none
  approvals := []
  isBounded := rfl
  actionsSorted := by decide +kernel
  evidenceSorted := by decide +kernel
  bindingsSorted := by decide +kernel
  attachmentsSorted := sampleAttachments_sorted
  planValidates := ⟨_, rfl⟩
  approvalsBounded := sampleApprovals_bounded

def repeatedDecoded : DecodedProof := ⟨repeatedBundle, proofDigest repeatedBundle⟩

def repeatedRecord (n : UInt8) : ActionRecord :=
  ⟨repeatedActionId n, ⟨repeatedAction (.filled n), sampleSignature⟩⟩

def repeatedResolved : ResolvedProof :=
  ⟨repeatedDecoded, repeatedPlanId, [], [repeatedRecord 2, repeatedRecord 3, repeatedRecord 1]⟩

def ActionRecord.entry (record : ActionRecord) : ActionId × SignedAction := (record.id, record.action)

theorem ActionRecord.entry_injective : Function.Injective ActionRecord.entry := by
  rintro ⟨id, action⟩ ⟨id', action'⟩ h
  obtain ⟨rfl, rfl⟩ := Prod.mk.inj h
  rfl

theorem repeatedBundle_resolves :
    resolveProof repeatedDecoded sampleOwnDeployment.toContextParts = .ok repeatedResolved := by
  have hresolves : (match resolveProof repeatedDecoded sampleOwnDeployment.toContextParts with
      | .ok resolved => decide (resolved.planId = repeatedPlanId ∧
          resolved.actions.map ActionRecord.entry = repeatedResolved.actions.map ActionRecord.entry)
      | .error _ => false) = true := by decide +kernel
  split at hresolves
  · next resolved hresolved =>
    obtain ⟨hplan, hactions⟩ := of_decide_eq_true hresolves
    have hresolution := (resolves_of_resolveProof hresolved).eq
    have hrecords := List.map_injective_iff.mpr ActionRecord.entry_injective hactions
    have hgrants : resolved.grants = [] := congrArg ResolvedProof.grants hresolution
    have hdecoded : resolved.decoded = repeatedDecoded := congrArg ResolvedProof.decoded hresolution
    rw [hresolved]
    obtain ⟨decoded, plan, grants, actions⟩ := resolved
    simp only at hplan hrecords hgrants hdecoded
    subst hplan hrecords hgrants hdecoded
    rfl
  · cases hresolves

/-- The controls of the three actions, and the branches they authorize. -/
theorem repeatedBundle_authorizes :
    (match verifyControls sampleOwnDeployment.toContextParts (sampleImplementations [])
        repeatedResolved (WorkMeter.new sampleOwnDeployment.limits.maxWorkUnits) with
    | (.ok controls, meter) =>
      controls.all (evidenceConsumed repeatedBundle) &&
        match validateActionBinding sampleOwnDeployment.toContextParts (sampleImplementations [])
            repeatedBundle sampleCanonical
            (WorkMeter.fromUsed sampleOwnDeployment.limits.maxWorkUnits meter.used) with
        | (.ok _, bound) =>
          match authorize ⟨repeatedResolved, controls, meter.used⟩ sampleCanonical
              sampleOwnDeployment.toContextParts (sampleImplementations [])
              (Approvals.new repeatedBundle) ⟨⟨bound, []⟩, {}, .discard⟩ with
          | (.ok _, state) => !decide (dedupByKey id (sortByKey ParticipantAssurance.resultKey
              state.branches.assurance)).Nodup
          | (.error _, _) => false
        | (.error _, _) => false
    | (.error _, _) => false) = true := by decide +kernel

theorem repeatedBundle_verifies :
    ∃ controlled, verifyPrincipalControl sampleOwnDeployment.toContextParts
        (sampleImplementations []) repeatedResolved = .ok controlled ∧
      ∃ authority, (verifyAuthorityMeasured controlled sampleCanonical (sampleImplementations [])
        sampleOwnDeployment (WorkMeter.fromUsed sampleOwnDeployment.limits.maxWorkUnits
          controlled.workUnits) .discard).1 = .ok authority ∧ ¬authority.assurance.Nodup := by
  have hruns := repeatedBundle_authorizes
  split at hruns
  · next controls meter hcontrols =>
    obtain ⟨hconsumed, hruns⟩ := Bool.and_eq_true_iff.mp hruns
    split at hruns
    · next bound hbinding =>
      split at hruns
      · next requirements state hauthorize =>
        have hcontrolled : verifyPrincipalControl sampleOwnDeployment.toContextParts
            (sampleImplementations []) repeatedResolved =
              .ok ⟨repeatedResolved, controls, meter.used⟩ := by
          have hevidence : (repeatedBundle.evidence.all fun evidence => evidence.id ∈
              consumedEvidence sampleOwnDeployment.toContextParts repeatedBundle) = true := by
            decide +kernel
          have hvalue := congrArg Prod.fst hcontrols
          have hmeter := congrArg (fun run => run.2.used) hcontrols
          refine Except.bind_eq_ok.mpr ⟨(), require_eq_ok.mpr rfl, Except.bind_eq_ok.mpr ⟨(),
            require_eq_ok.mpr rfl, Except.bind_eq_ok.mpr ⟨controls, hvalue, Except.bind_eq_ok.mpr
              ⟨(), require_eq_ok.mpr hconsumed, Except.bind_eq_ok.mpr
                ⟨(), require_eq_ok.mpr hevidence, ?_⟩⟩⟩⟩⟩
          exact congrArg (fun units =>
            Except.ok (ControlVerifiedProof.mk repeatedResolved controls units)) hmeter
        refine ⟨_, hcontrolled, sealAuthority ⟨repeatedResolved, controls, meter.used⟩
          sampleCanonical (contextDigest sampleOwnDeployment) requirements state, ?_, ?_⟩
        · simp only [verifyAuthorityMeasured]
          rw [show (ControlVerifiedProof.mk repeatedResolved controls
            meter.used).resolved.decoded.bundle = repeatedBundle from rfl, hbinding]
          simp only [hauthorize]
          rfl
        · exact of_decide_eq_false (Bool.not_eq_true' _ ▸ hruns)
      · cases hruns
    · cases hruns
  · cases hruns

/-- A proof that authorizes with one report of its root twice in the assurance list. -/
theorem verifyAuthorityMeasured_repeats :
    (∀ evidence ∈ repeatedBundle.evidence, evidence.id = evidenceId evidence) ∧
    resolveProof repeatedDecoded sampleOwnDeployment.toContextParts = .ok repeatedResolved ∧
    ∃ controlled authority,
      verifyPrincipalControl sampleOwnDeployment.toContextParts (sampleImplementations [])
        repeatedResolved = .ok controlled ∧
      (verifyAuthorityMeasured controlled sampleCanonical (sampleImplementations [])
        sampleOwnDeployment (WorkMeter.fromUsed sampleOwnDeployment.limits.maxWorkUnits
          controlled.workUnits) .discard).1 = .ok authority ∧
      ¬authority.assurance.Nodup := by
  obtain ⟨controlled, hcontrolled, authority, hauthority, hrepeats⟩ := repeatedBundle_verifies
  exact ⟨by decide +kernel, repeatedBundle_resolves, controlled, authority, hcontrolled, hauthority,
    hrepeats⟩

/-- In that proof a different report stands between two equal ones of the same participant. -/
theorem verifyAuthorityMeasured_assurance_repeated :
    ∃ controlled authority,
      (verifyAuthorityMeasured controlled sampleCanonical (sampleImplementations [])
        sampleOwnDeployment (WorkMeter.fromUsed sampleOwnDeployment.limits.maxWorkUnits
          controlled.workUnits) .discard).1 = .ok authority ∧
      (authority.assurance.Pairwise fun a b => a.resultKey ≤ b.resultKey) ∧
      ∃ report other, other.resultKey = report.resultKey ∧ other ≠ report ∧
        [report, other, report].Sublist (branchReports controlled sampleCanonical
          (sampleImplementations []) sampleOwnDeployment
          (WorkMeter.fromUsed sampleOwnDeployment.limits.maxWorkUnits controlled.workUnits)) := by
  obtain ⟨controlled, -, authority, hauthority, hrepeats⟩ := repeatedBundle_verifies
  obtain ⟨hsorted, hnodup⟩ := verifyAuthorityMeasured_assurance hauthority
  have hbroken := hnodup.not.mp hrepeats
  push Not at hbroken
  obtain ⟨report, other, hkey, hsub, hne⟩ := hbroken
  exact ⟨controlled, authority, hauthority, hsorted, report, other, hkey, hne, hsub⟩

end Sample

end AuthsProof
