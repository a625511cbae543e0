import AuthsProof.EntryPoints

/-! Two verifications whose contexts differ in their anchors, their status snapshots and their
approval requirements only. Every stage but the choice of the anchors and the status checks is the
same in both. -/

namespace AuthsProof

/-- The context with other anchors, snapshots and approval requirements. -/
def ContextParts.replace (context : ContextParts) (anchors : List TrustAnchor)
    (principal : PrincipalStatusSnapshot) (grant : GrantStatusSnapshot)
    (requirements : List ApprovalRequirement) : ContextParts :=
  { context with
    trustAnchors := anchors
    principalStatusSnapshot := principal
    grantStatusSnapshot := grant
    approvalRequirements := requirements }

section Replace

variable {anchors : List TrustAnchor} {principal : PrincipalStatusSnapshot}
  {grant : GrantStatusSnapshot} {requirements : List ApprovalRequirement}

namespace ObservationStage

def replace (stage : ObservationStage) (anchors : List TrustAnchor)
    (principal : PrincipalStatusSnapshot) (grant : GrantStatusSnapshot)
    (requirements : List ApprovalRequirement) : ObservationStage :=
  { stage with context := stage.context.replace anchors principal grant requirements }

variable (stage : ObservationStage)

theorem conditionValues_replace (policy : ProfilePolicy) (conditions : List ObservationCondition) :
    (stage.replace anchors principal grant requirements).conditionValues policy conditions =
      stage.conditionValues policy conditions := by
  induction conditions with
  | nil => rfl
  | cons condition conditions ih =>
    simp only [conditionValues, ih]
    rfl

variable [Cbor] [Sha256]

theorem scan_replace (requirement : ObservationRequirement) (anchor : ObserverAnchor)
    (subject : ResourceId) (actionValues : List (Option FactValue)) (candidates : List Candidate) :
    (stage.replace anchors principal grant requirements).scan requirement anchor subject actionValues
        candidates =
      stage.scan requirement anchor subject actionValues candidates := by
  induction candidates with
  | nil => rfl
  | cons candidate candidates ih =>
    simp only [scan, ih]
    rfl

theorem candidatesFrom_replace (descriptors : List AttachmentDescriptor) :
    (stage.replace anchors principal grant requirements).candidatesFrom descriptors =
      stage.candidatesFrom descriptors := by
  induction descriptors with
  | nil => rfl
  | cons descriptor descriptors ih =>
    simp only [candidatesFrom, ih]
    rfl

omit [Cbor] [Sha256] in
theorem anchorsFor_replace (observations : List ObservationRequirement) :
    (stage.replace anchors principal grant requirements).anchorsFor observations =
      stage.anchorsFor observations := by
  induction observations with
  | nil => rfl
  | cons requirement observations ih =>
    simp only [anchorsFor, ih]
    rfl

omit [Cbor] [Sha256] in
theorem actionFacts_replace (requirement : ObservationRequirement) (policy : ProfilePolicy) :
    (stage.replace anchors principal grant requirements).actionFacts requirement policy =
      stage.actionFacts requirement policy := by
  simp only [actionFacts, conditionValues_replace]
  rfl

theorem requirement_replace (requirement : ObservationRequirement) (anchor : Option ObserverAnchor)
    (candidates : List Candidate) :
    (stage.replace anchors principal grant requirements).requirement requirement anchor candidates =
      stage.requirement requirement anchor candidates := by
  cases anchor with
  | none => rfl
  | some anchor =>
    simp only [ObservationStage.requirement, actionFacts_replace, scan_replace]
    rfl

theorem evaluateEach_replace (pairs : List (ObservationRequirement × Option ObserverAnchor))
    (candidates : List Candidate) (satisfactions : List ObservationSatisfaction)
    (unavailable : Option VerificationFailure) :
    (stage.replace anchors principal grant requirements).evaluateEach pairs candidates satisfactions
        unavailable =
      stage.evaluateEach pairs candidates satisfactions unavailable := by
  induction pairs generalizing candidates satisfactions unavailable with
  | nil => rfl
  | cons pair pairs ih =>
    simp only [evaluateEach, requirement_replace, ih]

theorem evaluate_replace :
    (stage.replace anchors principal grant requirements).evaluate = stage.evaluate := by
  simp only [evaluate, candidates, candidatesFrom_replace, anchorsFor_replace, evaluateEach_replace]
  rfl

end ObservationStage

end Replace

/-- A context that differs from `c` in its anchors, snapshots and approval requirements only. -/
def ContextParts.Alike (c d : ContextParts) : Prop :=
  ∃ anchors principal grant requirements, d = c.replace anchors principal grant requirements

theorem ContextParts.Alike.limits {c d : ContextParts} (h : c.Alike d) : d.limits = c.limits := by
  obtain ⟨anchors, principal, grant, requirements, rfl⟩ := h
  rfl

/-- Controls that answer alike for every statement. -/
def ControlsAlike (controls others : List VerifiedControl) : Prop :=
  ∀ statement, controlFor others statement = controlFor controls statement

namespace ApprovalInputs

variable [Cbor] [Sha256]

/-- Approval inputs over alike contexts and controls, with the same status of every approver. -/
structure Alike (inputs others : ApprovalInputs) : Prop where
  canonical : others.canonical = inputs.canonical
  registries : others.registries = inputs.registries
  context : inputs.context.Alike others.context
  status : ∀ anchor ∈ inputs.context.approverAnchors,
    statusVerdict others.controls others.context others.registries anchor =
      statusVerdict inputs.controls inputs.context inputs.registries anchor

omit [Cbor] in
theorem mem_of_applicableAnchor {inputs : ApprovalInputs} {authority : List PrincipalId}
    {identifier : ApprovalRequirementId} {requirement : ApprovalRequirement}
    {outcomes : List ApprovalOutcome} {approval : SignedApproval} {anchor : ApproverAnchor}
    (h : inputs.applicableAnchor authority identifier requirement outcomes approval = some anchor) :
    anchor ∈ inputs.context.approverAnchors := by
  simp only [applicableAnchor] at h
  split at h
  · cases h
  · split at h
    · cases h
    · rename_i found hfound
      split at h
      · cases h
      · obtain rfl := Option.some.inj h
        exact List.mem_of_find?_eq_some hfound

variable {inputs others : ApprovalInputs} (h : inputs.Alike others)

include h

theorem Alike.applicableAnchor (authority : List PrincipalId) (identifier : ApprovalRequirementId)
    (requirement : ApprovalRequirement) (outcomes : List ApprovalOutcome) (approval : SignedApproval) :
    others.applicableAnchor authority identifier requirement outcomes approval =
      inputs.applicableAnchor authority identifier requirement outcomes approval := by
  obtain ⟨controls, canonical, context, registries⟩ := others
  obtain ⟨rfl, rfl, ⟨anchors, principal, grant, requirements, rfl⟩, -⟩ := h
  rfl

theorem Alike.signatureVerdict (approval : SignedApproval) :
    others.signatureVerdict approval = inputs.signatureVerdict approval := by
  obtain ⟨controls, canonical, context, registries⟩ := others
  obtain ⟨rfl, rfl, ⟨anchors, principal, grant, requirements, rfl⟩, -⟩ := h
  rfl

theorem Alike.approvalVerdict (approval : SignedApproval) {anchor : ApproverAnchor}
    (hanchor : anchor ∈ inputs.context.approverAnchors) :
    others.approvalVerdict approval anchor = inputs.approvalVerdict approval anchor := by
  simp only [ApprovalInputs.approvalVerdict, h.signatureVerdict, h.status anchor hanchor]

theorem Alike.collect (authority : List PrincipalId) (identifier : ApprovalRequirementId)
    (requirement : ApprovalRequirement) (candidates : List (ApprovalDigest × SignedApproval))
    (collected : Collected) :
    others.collect authority identifier requirement candidates collected =
      inputs.collect authority identifier requirement candidates collected := by
  induction candidates generalizing collected with
  | nil => rfl
  | cons candidate candidates ih =>
    simp only [ApprovalInputs.collect, h.applicableAnchor]
    split
    · exact ih collected
    · rename_i anchor hanchor
      simp only [h.approvalVerdict _ (mem_of_applicableAnchor hanchor), ih]

theorem Alike.evaluateList (approvals : Approvals)
    (requirements : List (ApprovalRequirementId × ApprovalRequirement)) (unavailable : Bool) :
    others.evaluateList approvals requirements unavailable =
      inputs.evaluateList approvals requirements unavailable := by
  have hevaluate : others.evaluate approvals = inputs.evaluate approvals := by
    funext identifier requirement progress
    simp only [ApprovalInputs.evaluate, h.collect]
  induction requirements generalizing unavailable with
  | nil => rfl
  | cons entry requirements ih => simp only [ApprovalInputs.evaluateList, hevaluate, ih]

end ApprovalInputs

namespace BranchInput

variable [Cbor] [Sha256]

/-- Branches over alike contexts and controls. -/
structure Alike (branch other : BranchInput) : Prop where
  action : other.action = branch.action
  actionId : other.actionId = branch.actionId
  chain : other.chain = branch.chain
  rootControl : other.rootControl = branch.rootControl
  canonical : other.canonical = branch.canonical
  registries : other.registries = branch.registries
  context : branch.context.Alike other.context
  controls : ControlsAlike branch.controls other.controls

/-- The status checks of a branch under one anchor, and of every approver, answer alike. -/
structure StatusAlike (branch other : BranchInput) (anchor : TrustAnchor) : Prop where
  root : checkPrincipalStatus other.controls other.context other.registries anchor.statusPolicy
      anchor.principal .required anchor =
    checkPrincipalStatus branch.controls branch.context branch.registries anchor.statusPolicy
      anchor.principal .required anchor
  grant : ∀ grant ∈ branch.chain,
    checkGrantStatus other.controls other.context other.registries grant.statement.statusPolicy
        (grantId grant.statement) anchor =
      checkGrantStatus branch.controls branch.context branch.registries grant.statement.statusPolicy
        (grantId grant.statement) anchor
  subject : ∀ grant ∈ branch.chain,
    checkPrincipalStatus other.controls other.context other.registries anchor.statusPolicy
        grant.statement.subject .revocationList anchor =
      checkPrincipalStatus branch.controls branch.context branch.registries anchor.statusPolicy
        grant.statement.subject .revocationList anchor
  approver : ∀ approver ∈ branch.context.approverAnchors,
    statusVerdict other.controls other.context other.registries approver =
      statusVerdict branch.controls branch.context branch.registries approver

variable {branch other : BranchInput} (h : branch.Alike other)

include h

omit [Cbor] in
theorem Alike.validateResourceConstraints (anchor : TrustAnchor) :
    other.validateResourceConstraints anchor = branch.validateResourceConstraints anchor := by
  obtain ⟨controls, action, actionId, chain, rootControl, canonical, context, registries⟩ := other
  obtain ⟨rfl, rfl, rfl, rfl, rfl, rfl, ⟨anchors, principal, grant, requirements, rfl⟩, -⟩ := h
  rfl

omit [Cbor] in
theorem Alike.attenuateBudgets (chain : List SignedGrant) (parent : Option BudgetCeiling) :
    other.attenuateBudgets chain parent = branch.attenuateBudgets chain parent := by
  obtain ⟨controls, action, actionId, _, rootControl, canonical, context, registries⟩ := other
  obtain ⟨rfl, rfl, rfl, rfl, rfl, rfl, ⟨anchors, principal, grant, requirements, rfl⟩, -⟩ := h
  induction chain generalizing parent with
  | nil => rfl
  | cons grant chain ih =>
    simp only [BranchInput.attenuateBudgets, ih]
    rfl

omit [Cbor] in
theorem Alike.validateBudgetConstraints (anchor : TrustAnchor) :
    other.validateBudgetConstraints anchor = branch.validateBudgetConstraints anchor := by
  simp only [BranchInput.validateBudgetConstraints, h.attenuateBudgets]
  obtain ⟨controls, action, actionId, chain, rootControl, canonical, context, registries⟩ := other
  obtain ⟨rfl, rfl, rfl, rfl, rfl, rfl, ⟨anchors, principal, grant, requirements, rfl⟩, -⟩ := h
  rfl

theorem Alike.delegateFrom (laws : CriticalExtensionLaws) (index : Nat) (parent : Option SignedGrant)
    (chain : List SignedGrant) (authority : EffectiveAuthority) (reports : List ParticipantAssurance) :
    other.delegateFrom laws index parent chain authority reports =
      branch.delegateFrom laws index parent chain authority reports := by
  have hcontrols := h.controls
  obtain ⟨controls, action, actionId, _, rootControl, canonical, context, registries⟩ := other
  obtain ⟨rfl, rfl, rfl, rfl, rfl, rfl, ⟨anchors, principal, grant, requirements, rfl⟩, -⟩ := h
  induction chain generalizing index parent authority reports with
  | nil => rfl
  | cons grant chain ih =>
    simp only [BranchInput.delegateFrom, ih, hcontrols _]
    rfl

theorem Alike.delegateChain (anchor : TrustAnchor) (reports : List ParticipantAssurance) :
    other.delegateChain anchor reports = branch.delegateChain anchor reports := by
  simp only [BranchInput.delegateChain, h.delegateFrom]
  obtain ⟨controls, action, actionId, chain, rootControl, canonical, context, registries⟩ := other
  obtain ⟨rfl, rfl, rfl, rfl, rfl, rfl, ⟨anchors, principal, grant, requirements, rfl⟩, -⟩ := h
  rfl

theorem Alike.checkChainStatus {anchor : TrustAnchor} (hstatus : branch.StatusAlike other anchor) :
    other.checkChainStatus anchor = branch.checkChainStatus anchor := by
  rw [BranchInput.checkChainStatus, BranchInput.checkChainStatus, h.chain]
  refine Run.forEach_congr fun grant hgrant => ?_
  rw [hstatus.grant grant hgrant, hstatus.subject grant hgrant]

theorem Alike.observationStage (anchor : TrustAnchor) :
    (other.observationStage anchor).evaluate = (branch.observationStage anchor).evaluate := by
  obtain ⟨controls, action, actionId, chain, rootControl, canonical, context, registries⟩ := other
  obtain ⟨rfl, rfl, rfl, rfl, rfl, rfl, ⟨anchors, principal, grant, requirements, rfl⟩, -⟩ := h
  exact (branch.observationStage anchor).evaluate_replace

omit [Cbor] in
theorem Alike.evaluateBranchAssurance (reports : List ParticipantAssurance) :
    AuthsProof.evaluateBranchAssurance other.context other.registries reports =
      AuthsProof.evaluateBranchAssurance branch.context branch.registries reports := by
  obtain ⟨anchors, principal, grant, requirements, hcontext⟩ := h.context
  rw [hcontext, h.registries]
  rfl

theorem Alike.verifyFromAnchor {anchor : TrustAnchor} (hstatus : branch.StatusAlike other anchor) :
    other.verifyFromAnchor anchor = branch.verifyFromAnchor anchor := by
  simp only [BranchInput.verifyFromAnchor, h.checkChainStatus hstatus, h.validateResourceConstraints,
    h.validateBudgetConstraints, h.delegateChain, h.observationStage, h.evaluateBranchAssurance,
    hstatus.root, h.controls _, h.actionId, h.chain, h.rootControl]
  obtain ⟨controls, action, actionId, chain, rootControl, canonical, context, registries⟩ := other
  obtain ⟨rfl, rfl, rfl, rfl, rfl, rfl, ⟨anchors, principal, grant, requirements, rfl⟩, -⟩ := h
  rfl

theorem Alike.verifyBranchFromAnchor {anchor : TrustAnchor}
    (hstatus : branch.StatusAlike other anchor) (approvals : Approvals) :
    other.verifyBranchFromAnchor anchor approvals = branch.verifyBranchFromAnchor anchor approvals := by
  have happrovals : branch.approvalInputs.Alike other.approvalInputs :=
    ⟨h.canonical, h.registries, h.context, hstatus.approver⟩
  simp only [BranchInput.verifyBranchFromAnchor, h.verifyFromAnchor hstatus,
    happrovals.evaluateList, h.chain, h.actionId]

theorem Alike.verifyFromAnchors (anchors : List TrustAnchor)
    (hstatus : ∀ anchor ∈ anchors, branch.StatusAlike other anchor) (approvals : Approvals)
    (firstFailure : Option VerificationFailure) :
    other.verifyFromAnchors approvals anchors firstFailure =
      branch.verifyFromAnchors approvals anchors firstFailure := by
  induction anchors generalizing firstFailure with
  | nil => rfl
  | cons anchor anchors ih =>
    have htail := ih fun a ha => hstatus a (List.mem_cons_of_mem anchor ha)
    simp only [BranchInput.verifyFromAnchors,
      h.verifyBranchFromAnchor (hstatus anchor List.mem_cons_self), htail]

end BranchInput

section Authority

variable [Cbor] [Sha256]

/-- Two authority verifications of one resolved proof that may differ in their controls and contexts,
but see the same anchors at the root of every branch, the same status of every principal and grant
they check and the same requirements of the context. -/
structure AuthorityAlike (resolved : ResolvedProof) (registries : ImmutableRegistries)
    (controls others : List VerifiedControl) (c d : ContextParts) : Prop where
  alike : c.Alike d
  sameControls : ControlsAlike controls others
  requirements : contextApprovalRequirements d = contextApprovalRequirements c
  anchors : ∀ action ∈ resolved.decoded.bundle.actions, ∀ chain,
    branchChain resolved action = .ok chain →
      (d.trustAnchors.filter fun anchor => anchor.principal = rootPrincipal action chain) =
        c.trustAnchors.filter fun anchor => anchor.principal = rootPrincipal action chain
  root : ∀ anchor ∈ c.trustAnchors,
    checkPrincipalStatus others d registries anchor.statusPolicy anchor.principal .required anchor =
      checkPrincipalStatus controls c registries anchor.statusPolicy anchor.principal .required anchor
  grant : ∀ anchor ∈ c.trustAnchors, ∀ action ∈ resolved.decoded.bundle.actions, ∀ chain,
    branchChain resolved action = .ok chain → ∀ grant ∈ chain,
      checkGrantStatus others d registries grant.statement.statusPolicy (grantId grant.statement)
          anchor =
        checkGrantStatus controls c registries grant.statement.statusPolicy (grantId grant.statement)
          anchor
  subject : ∀ anchor ∈ c.trustAnchors, ∀ action ∈ resolved.decoded.bundle.actions, ∀ chain,
    branchChain resolved action = .ok chain → ∀ grant ∈ chain,
      checkPrincipalStatus others d registries anchor.statusPolicy grant.statement.subject
          .revocationList anchor =
        checkPrincipalStatus controls c registries anchor.statusPolicy grant.statement.subject
          .revocationList anchor
  approver : ∀ approver ∈ c.approverAnchors,
    statusVerdict others d registries approver = statusVerdict controls c registries approver

variable {resolved : ResolvedProof} {registries : ImmutableRegistries}
  {controls others : List VerifiedControl} {c d : ContextParts}
  (h : AuthorityAlike resolved registries controls others c d)

include h

theorem AuthorityAlike.verifyBranch (canonical : CanonicalAction) (approvals : Approvals)
    (proofRef : ProofRef) :
    verifyBranch resolved others canonical d registries approvals proofRef =
      verifyBranch resolved controls canonical c registries approvals proofRef := by
  simp only [AuthsProof.verifyBranch, branchInput]
  cases hfind : resolved.decoded.bundle.actions.find? fun action =>
      action.envelope.proofRef = proofRef with
  | none => rfl
  | some action =>
    have haction := List.mem_of_find?_eq_some hfind
    dsimp only [bind, Except.bind]
    cases hchain : branchChain resolved action with
    | error failure => rfl
    | ok chain =>
      dsimp only
      rw [h.sameControls]
      cases controlFor controls _ with
      | error failure => rfl
      | ok rootControl =>
        have halike : BranchInput.Alike
            ⟨controls, action, actionId action.envelope, chain, rootControl, canonical, c, registries⟩
            ⟨others, action, actionId action.envelope, chain, rootControl, canonical, d, registries⟩ :=
          ⟨rfl, rfl, rfl, rfl, rfl, rfl, h.alike, h.sameControls⟩
        have hstatus : ∀ anchor ∈ c.trustAnchors, BranchInput.StatusAlike
            ⟨controls, action, actionId action.envelope, chain, rootControl, canonical, c, registries⟩
            ⟨others, action, actionId action.envelope, chain, rootControl, canonical, d, registries⟩
            anchor :=
          fun anchor hanchor => ⟨h.root anchor hanchor, h.grant anchor hanchor action haction chain hchain,
            h.subject anchor hanchor action haction chain hchain, h.approver⟩
        have hfilter := h.anchors action haction chain hchain
        have hanchors := halike.verifyFromAnchors
          (c.trustAnchors.filter fun anchor => anchor.principal = rootPrincipal action chain)
          (fun anchor hanchor => hstatus anchor (List.mem_of_mem_filter hanchor)) approvals none
        refine Eq.trans ?_ hanchors
        rw [← hfilter]
        rfl

omit h in
/-- The two verifications decide alike and charge the same work. -/
theorem AuthorityAlike.authorize (h : AuthorityAlike resolved registries controls others c d)
    (workUnits otherUnits : UInt64) (canonical : CanonicalAction) (approvals : Approvals) :
    authorize ⟨resolved, others, otherUnits⟩ canonical d registries approvals =
      authorize ⟨resolved, controls, workUnits⟩ canonical c registries approvals := by
  have hstep : branchStep ⟨resolved, others, otherUnits⟩ canonical d registries approvals =
      branchStep ⟨resolved, controls, workUnits⟩ canonical c registries approvals := by
    funext reference state
    simp only [branchStep, h.verifyBranch]
  have hinputs : ApprovalInputs.Alike ⟨controls, canonical, c, registries⟩
      ⟨others, canonical, d, registries⟩ := ⟨rfl, rfl, h.alike, h.approver⟩
  have happrovals : evaluateContextApprovals ⟨resolved, others, otherUnits⟩ canonical d registries
      approvals = evaluateContextApprovals ⟨resolved, controls, workUnits⟩ canonical c registries
        approvals := by
    funext state
    simp only [evaluateContextApprovals, h.requirements, hinputs.evaluateList]
  have hplan : evaluatePlan ⟨resolved, others, otherUnits⟩ canonical d registries approvals =
      evaluatePlan ⟨resolved, controls, workUnits⟩ canonical c registries approvals := by
    funext state
    simp only [evaluatePlan, hstep, h.alike.limits]
  have hcomposition : checkComposition d = checkComposition c := by
    obtain ⟨anchors, principal, grant, requirements, hcontext⟩ := h.alike
    rw [hcontext]
    rfl
  simp only [AuthsProof.authorize, hplan, hcomposition, happrovals]

end Authority

def VerifiedAuthority.withContextDigest (authority : VerifiedAuthority) (digest : ContextDigest) :
    VerifiedAuthority :=
  { authority with contextDigest := digest }

def StageRun.withContextDigest (run : StageRun) (digest : ContextDigest) : StageRun :=
  { run with result := run.result.map fun authority => authority.withContextDigest digest }

section Digest

variable (run : StageRun) (digest : ContextDigest)

theorem StageRun.withContextDigest_authorizedBranches :
    (run.withContextDigest digest).authorizedBranches = run.authorizedBranches := by
  obtain ⟨stage, result, bundle, plan, workUnits⟩ := run
  cases result <;> rfl

theorem StageRun.withContextDigest_code :
    (VerificationOutcome.ofResult (run.withContextDigest digest).result).code =
      (VerificationOutcome.ofResult run.result).code := by
  obtain ⟨stage, result, bundle, plan, workUnits⟩ := run
  cases result <;> rfl

theorem StageRun.withContextDigest_action :
    (VerificationOutcome.ofResult (run.withContextDigest digest).result).action =
      (VerificationOutcome.ofResult run.result).action.map
        fun action => { action with contextDigest := digest } := by
  obtain ⟨stage, result, bundle, plan, workUnits⟩ := run
  cases result with
  | error failure => cases failure <;> rfl
  | ok authority => rfl

end Digest

section Stages

variable [Cbor] [Sha256] {registries : ImmutableRegistries} {c d : TrustedContext}

theorem ContextParts.Alike.validateActionBinding {c d : ContextParts} (h : c.Alike d)
    (bundle : ProofBundle) (canonical : CanonicalAction) :
    validateActionBinding d registries bundle canonical =
      validateActionBinding c registries bundle canonical := by
  obtain ⟨anchors, principal, grant, requirements, rfl⟩ := h
  rfl

theorem ContextParts.Alike.decodeProof {c d : ContextParts} (h : c.Alike d)
    (proofBytes : Bytes) : decodeProof proofBytes d = decodeProof proofBytes c := by
  obtain ⟨anchors, principal, grant, requirements, rfl⟩ := h
  rfl

/-- The authority is the same but for the digest of its own context. -/
theorem AuthorityAlike.verifyAuthorityMeasured {resolved : ResolvedProof}
    {controls others : List VerifiedControl}
    (h : AuthorityAlike resolved registries controls others c.toContextParts d.toContextParts)
    (workUnits otherUnits : UInt64) (canonical : CanonicalAction) (meter : WorkMeter) (diagnostics : AuthorityDiagnostics) :
    let measured := verifyAuthorityMeasured ⟨resolved, controls, workUnits⟩ canonical registries c
      meter diagnostics
    verifyAuthorityMeasured ⟨resolved, others, otherUnits⟩ canonical registries d meter diagnostics =
      (measured.1.map fun authority => authority.withContextDigest (contextDigest d), measured.2) := by
  simp only [AuthsProof.verifyAuthorityMeasured, h.alike.validateActionBinding]
  obtain ⟨value, meter⟩ := validateActionBinding c.toContextParts registries
    resolved.decoded.bundle canonical meter
  cases value with
  | error failure => rfl
  | ok _ =>
    dsimp only
    rw [h.authorize workUnits]
    obtain ⟨result, state⟩ := AuthsProof.authorize ⟨resolved, controls, workUnits⟩ canonical
      c.toContextParts registries (Approvals.new resolved.decoded.bundle)
      ⟨⟨meter, []⟩, {}, diagnostics⟩
    cases result <;> rfl

/-- The control stage fails alike, or establishes alike controls for the same work. -/
def ControlStageAlike (registries : ImmutableRegistries) (c d : ContextParts)
    (resolved : ResolvedProof) : Prop :=
  (∃ failure, verifyPrincipalControl c registries resolved = .error failure ∧
      verifyPrincipalControl d registries resolved = .error failure) ∨
    ∃ controls others workUnits,
      verifyPrincipalControl c registries resolved = .ok ⟨resolved, controls, workUnits⟩ ∧
      verifyPrincipalControl d registries resolved = .ok ⟨resolved, others, workUnits⟩ ∧
      AuthorityAlike resolved registries controls others c d

/-- Two verifications that resolve and control alike come to the same but for the digest of the
context. -/
theorem runStages_alike {proofBytes : Bytes} {canonical : CanonicalAction}
    (halike : c.toContextParts.Alike d.toContextParts)
    (hresolve : ∀ decoded,
      resolveProof decoded d.toContextParts = resolveProof decoded c.toContextParts)
    (hcontrol : ∀ decoded resolved, decodeProof proofBytes c.toContextParts = .ok decoded →
      resolveProof decoded c.toContextParts = .ok resolved →
        ControlStageAlike registries c.toContextParts d.toContextParts resolved) :
    runStages d registries proofBytes canonical =
      (runStages c registries proofBytes canonical).withContextDigest (contextDigest d) := by
  simp only [runStages, halike.decodeProof, hresolve, halike.limits]
  cases hdecode : decodeProof proofBytes c.toContextParts with
  | error failure => rfl
  | ok decoded =>
    dsimp only
    cases hresolved : resolveProof decoded c.toContextParts with
    | error failure => rfl
    | ok resolved =>
      dsimp only
      obtain ⟨failure, hc, hd⟩ | ⟨controls, others, workUnits, hc, hd, hauthority⟩ :=
        hcontrol decoded resolved hdecode hresolved
      · rw [hc, hd]
        rfl
      · rw [hc, hd]
        dsimp only
        rw [hauthority.verifyAuthorityMeasured workUnits]
        obtain ⟨result, meter, diagnostics⟩ := verifyAuthorityMeasured ⟨resolved, controls, workUnits⟩
          canonical registries c (WorkMeter.fromUsed c.limits.maxWorkUnits workUnits) .discard
        cases result <;> rfl

end Stages

end AuthsProof
