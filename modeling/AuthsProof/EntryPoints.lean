import AuthsProof.ContextRoundTrip
import AuthsProof.PlanSemantics
import AuthsProof.Verifier

/-! Agreement of the verification entry points: the ordinary, the explained, the portable and the
sealed path decide alike, and neither the trace nor the diagnostics take part in a decision. -/

namespace AuthsProof

open Trace

namespace VerificationOutcome

def code : VerificationOutcome → VerificationCode
  | .authorized _ => .authorized
  | .denied reason => .denied reason
  | .indeterminate requirement => .indeterminate requirement

def action : VerificationOutcome → Option VerifiedAction
  | .authorized action => some action
  | _ => none

/-- The outcome of a pipeline that ends in an authority or in its first failure. -/
def ofResult : Except VerificationFailure VerifiedAuthority → VerificationOutcome
  | .ok authority => .authorized (bindVerifiedAction authority)
  | .error failure => failure.outcome

end VerificationOutcome

/-- Two states that differ at most in their diagnostics. -/
def SameWork (s t : AuthorityState) : Prop := s.progress = t.progress ∧ s.branches = t.branches

section Diagnostics

variable [Cbor] [Sha256] (controlled : ControlVerifiedProof) (canonical : CanonicalAction)
  (context : ContextParts) (registries : ImmutableRegistries)

/-- Two computations that answer alike on states that differ in their diagnostics only. -/
def Oblivious {α : Type} (x : Authorizing α) : Prop :=
  ∀ s t, SameWork s t → (x s).1 = (x t).1 ∧ SameWork (x s).2 (x t).2

omit [Cbor] [Sha256] in
theorem Oblivious.bind {α β : Type} {x : Authorizing α} {f : α → Authorizing β} (hx : Oblivious x)
    (hf : ∀ a, Oblivious (f a)) : Oblivious (x >>= f) := by
  intro s t hst
  obtain ⟨hvalue, hstate⟩ := hx s t hst
  rw [Run.bind_apply, Run.bind_apply]
  cases hs : x s with
  | mk value s' =>
    cases ht : x t with
    | mk value' t' =>
      rw [hs, ht] at hvalue hstate
      obtain rfl : value = value' := hvalue
      cases value with
      | error failure => exact ⟨rfl, hstate⟩
      | ok a => exact hf a s' t' hstate

omit [Cbor] [Sha256] in
theorem oblivious_ofExcept {α : Type} (value : Except VerificationFailure α) :
    Oblivious (Run.ofExcept value) :=
  fun _ _ hst => ⟨rfl, hst⟩

theorem branchStep_sameWork (approvals : Approvals) (references : List ProofRef) :
    LeavesRelated SameWork (branchStep controlled canonical context registries approvals)
      (branchStep controlled canonical context registries approvals) references := by
  intro reference _ s t hst
  obtain ⟨hprogress, hbranches⟩ := hst
  simp only [branchStep, hprogress]
  split <;> exact ⟨rfl, rfl, by simp only [hbranches]⟩

theorem oblivious_evaluatePlan (approvals : Approvals) :
    Oblivious (evaluatePlan controlled canonical context registries approvals) := by
  intro s t hst
  have hplan := evaluateObserved_related _ context.limits
    (branchStep_sameWork controlled canonical context registries approvals
      controlled.resolved.decoded.bundle.plan.plan.references)
    (o := observePlanEvent) (p := observePlanEvent) (fun _ _ _ h => h) hst
  exact ⟨congrArg (Except.mapError VerificationFailure.denied) hplan.1, hplan.2⟩

omit [Cbor] [Sha256] in
theorem oblivious_checkComposition : Oblivious (checkComposition context) := by
  intro s t hst
  obtain ⟨hprogress, hbranches⟩ := hst
  simp only [checkComposition, hbranches]
  split
  · exact ⟨rfl, hprogress, rfl⟩
  · exact ⟨rfl, hprogress, rfl⟩

theorem oblivious_evaluateContextApprovals (approvals : Approvals) :
    Oblivious (evaluateContextApprovals controlled canonical context registries approvals) := by
  intro s t hst
  obtain ⟨hprogress, hbranches⟩ := hst
  simp only [evaluateContextApprovals, hprogress, true_and]
  exact ⟨rfl, hbranches⟩

theorem oblivious_authorize (approvals : Approvals) :
    Oblivious (authorize controlled canonical context registries approvals) :=
  (oblivious_evaluatePlan controlled canonical context registries approvals).bind fun _ =>
    (oblivious_ofExcept _).bind fun _ => (oblivious_checkComposition context).bind fun _ =>
      oblivious_evaluateContextApprovals controlled canonical context registries approvals

/-- The diagnostics change neither the authority that is established nor the work charged. -/
theorem verifyAuthorityMeasured_diagnostics (context : TrustedContext) (meter : WorkMeter)
    (d e : AuthorityDiagnostics) :
    (verifyAuthorityMeasured controlled canonical registries context meter d).1 =
        (verifyAuthorityMeasured controlled canonical registries context meter e).1 ∧
      (verifyAuthorityMeasured controlled canonical registries context meter d).2.1 =
        (verifyAuthorityMeasured controlled canonical registries context meter e).2.1 := by
  simp only [verifyAuthorityMeasured]
  obtain ⟨value, meter⟩ := validateActionBinding context.toContextParts registries
    controlled.resolved.decoded.bundle canonical meter
  cases value with
  | error failure => exact ⟨rfl, rfl⟩
  | ok _ =>
    obtain ⟨hvalue, hprogress, hbranches⟩ := oblivious_authorize controlled canonical
      context.toContextParts registries (Approvals.new controlled.resolved.decoded.bundle)
      ⟨⟨meter, []⟩, {}, d⟩ ⟨⟨meter, []⟩, {}, e⟩ ⟨rfl, rfl⟩
    refine ⟨?_, congrArg Progress.meter hprogress⟩
    simp only [hvalue, sealAuthority, hprogress, hbranches]

end Diagnostics

section Traced

variable [Cbor] [Sha256] (context : TrustedContext) (registries : ImmutableRegistries)

/-- Every run of a traced computation answers `a`. -/
def Answers {α : Type} (x : Tracing α) (a : α) : Prop := ∀ trace, (x trace).1 = a

omit [Cbor] [Sha256] in
theorem answers_pure {α : Type} (a : α) : Answers (pure a) a := fun _ => rfl

omit [Cbor] [Sha256] in
theorem answers_bind {α β : Type} {x : Tracing α} {f : α → Tracing β} {b : β}
    (h : ∀ a, Answers (f a) b) : Answers (x >>= f) b :=
  fun trace => h (x trace).1 (x trace).2

/-- What the stages of a verification come to: the stage reached, the authority or the first failure,
what of the proof was decoded and resolved, and the work charged. -/
structure StageRun where
  stage : VerificationStage
  result : Except VerificationFailure VerifiedAuthority
  bundle : Option ProofBundle
  plan : Option PlanId
  workUnits : UInt64

/-- The stages of a verification without trace and without diagnostics. -/
def runStages (proofBytes : Bytes) (canonical : CanonicalAction) : StageRun :=
  match decodeProof proofBytes context.toContextParts with
  | .error failure => ⟨.decode, .error failure, none, none, 0⟩
  | .ok decoded =>
    match resolveProof decoded context.toContextParts with
    | .error failure => ⟨.resolve, .error failure, some decoded.bundle, none, 0⟩
    | .ok resolved =>
      match verifyPrincipalControl context.toContextParts registries resolved with
      | .error failure =>
        ⟨.principalControl, .error failure, some decoded.bundle, some resolved.planId, 0⟩
      | .ok controlled =>
        match verifyAuthorityMeasured controlled canonical registries context
            (WorkMeter.fromUsed context.limits.maxWorkUnits controlled.workUnits) .discard with
        | (.error failure, meter, _) =>
          ⟨.authority, .error failure, some decoded.bundle, some resolved.planId, meter.used⟩
        | (.ok authority, _, _) =>
          ⟨.complete, .ok authority, some decoded.bundle, some authority.planId, authority.workUnits⟩

theorem answers_verifyAuthorityTraced (canonical : CanonicalAction)
    (controlled : ControlVerifiedProof) (principalNode : Option UInt32) :
    Answers (verifyAuthorityTraced context registries canonical controlled principalNode)
      (VerificationOutcome.ofResult (verifyAuthorityMeasured controlled canonical registries context
        (WorkMeter.fromUsed context.limits.maxWorkUnits controlled.workUnits) .discard).1) := by
  have hdiagnostics := (verifyAuthorityMeasured_diagnostics controlled canonical registries context
    (WorkMeter.fromUsed context.limits.maxWorkUnits controlled.workUnits) .collect .discard).1
  rw [← hdiagnostics, verifyAuthorityTraced]
  obtain ⟨result, meter, diagnostics⟩ := verifyAuthorityMeasured controlled canonical registries
    context (WorkMeter.fromUsed context.limits.maxWorkUnits controlled.workUnits) .collect
  cases result with
  | error failure => exact answers_bind fun _ => answers_bind fun _ => answers_pure _
  | ok authority =>
    exact answers_bind fun _ => answers_bind fun _ => answers_bind fun _ => answers_pure _

/-- The ordinary verifier answers by its stages alone, whatever the trace collects. -/
theorem answers_verifyInternal (proofBytes : Bytes) (canonical : CanonicalAction) :
    Answers (verifyInternal context registries proofBytes canonical)
      (VerificationOutcome.ofResult (runStages context registries proofBytes canonical).result) := by
  refine answers_bind fun nodes => ?_
  rw [runStages]
  cases decodeProof proofBytes context.toContextParts with
  | error failure => exact answers_bind fun _ => answers_bind fun _ => answers_pure _
  | ok decoded =>
    refine answers_bind fun _ => answers_bind fun _ => ?_
    dsimp only
    cases resolveProof decoded context.toContextParts with
    | error failure => exact answers_bind fun _ => answers_bind fun _ => answers_pure _
    | ok resolved =>
      refine answers_bind fun _ => answers_bind fun _ => ?_
      dsimp only
      cases verifyPrincipalControl context.toContextParts registries resolved with
      | error failure => exact answers_bind fun _ => answers_bind fun _ => answers_pure _
      | ok controlled =>
        refine answers_bind fun principalNode => answers_bind fun _ => ?_
        have hauthority :=
          answers_verifyAuthorityTraced context registries canonical controlled principalNode
        dsimp only
        generalize verifyAuthorityMeasured controlled canonical registries context
          (WorkMeter.fromUsed context.limits.maxWorkUnits controlled.workUnits) .discard = measured
          at hauthority ⊢
        obtain ⟨result, meter, diagnostics⟩ := measured
        cases result <;> exact hauthority

end Traced

section Agreement

variable [Cbor] [Sha256] (context : TrustedContext) (registries : ImmutableRegistries)

omit [Cbor] [Sha256] in
theorem failureCode_outcome (failure : VerificationFailure) :
    failureCode failure = failure.outcome.code ∧
      (failureCode failure).decision = failure.outcome.code.decision ∧
      none = failure.outcome.action := by
  cases failure <;> exact ⟨rfl, rfl, rfl⟩

omit [Cbor] [Sha256] in
/-- The resources of a stage run on inputs of the given resources. -/
def StageRun.resources (run : StageRun) (inputs : VerificationResources) (limits : VerifierLimits) :
    VerificationResources :=
  (match run.bundle with
    | some bundle => inputs.withBundle bundle limits
    | none => inputs).withWork run.workUnits

/-- The portable result of a stage run. -/
def StageRun.portable (run : StageRun) (proofBytes : Bytes) (canonical : CanonicalAction) :
    PortableVerificationResult :=
  let actionBytes := encodeCanonicalAction canonical
  let resources := run.resources
    (inputResources proofBytes actionBytes (encodeVerifierContext context)) context.limits
  match run.result with
  | .error failure => portableFailure failure run.stage (bodyDigest proofBytes)
      (bodyDigest actionBytes) (contextDigest context) run.plan resources
      context.acceptedRegistries.manifestId (some context.configuration) registries.configurationId
  | .ok authority =>
    finalizePortable (((PortableVerificationResult.new .authorized run.stage .authorized
      (bodyDigest proofBytes) (bodyDigest actionBytes) (contextDigest context) run.plan
      authority.authorizedBranches authority.assurance authority.assuranceSatisfactions resources
      context.acceptedRegistries.manifestId (some context.configuration)
      registries.configurationId).withObservationSatisfactions
        authority.observationSatisfactions).withApprovalSatisfactions
        authority.approvalSatisfactions)

/-- The portable pipeline is the portable result of its stages, with the action they seal. -/
theorem verifyPortableSealed_eq (proofBytes : Bytes) (canonical : CanonicalAction) :
    let run := runStages context registries proofBytes canonical
    verifyPortableSealed context registries proofBytes canonical =
      (run.portable context registries proofBytes canonical,
        (VerificationOutcome.ofResult run.result).action) := by
  have hnone (failure : VerificationFailure) := (failureCode_outcome failure).2.2
  simp only [runStages, verifyPortableSealed]
  cases decodeProof proofBytes context.toContextParts with
  | error failure => exact Prod.ext rfl (hnone failure)
  | ok decoded =>
    dsimp only
    cases resolveProof decoded context.toContextParts with
    | error failure => exact Prod.ext rfl (hnone failure)
    | ok resolved =>
      dsimp only
      cases verifyPrincipalControl context.toContextParts registries resolved with
      | error failure => exact Prod.ext rfl (hnone failure)
      | ok controlled =>
        dsimp only
        obtain ⟨result, meter, diagnostics⟩ := verifyAuthorityMeasured controlled canonical registries
          context (WorkMeter.fromUsed context.limits.maxWorkUnits controlled.workUnits) .discard
        cases result with
        | error failure => exact Prod.ext rfl (hnone failure)
        | ok authority => exact Prod.ext rfl rfl

/-- The portable result of a stage run decides as the run does. -/
theorem StageRun.portable_agrees (run : StageRun) (proofBytes : Bytes) (canonical : CanonicalAction) :
    let outcome := VerificationOutcome.ofResult run.result
    let portable := run.portable context registries proofBytes canonical
    portable.code = outcome.code ∧ portable.decision = outcome.code.decision := by
  obtain ⟨stage, result, bundle, plan, workUnits⟩ := run
  cases result with
  | error failure => exact ⟨(failureCode_outcome failure).1, (failureCode_outcome failure).2.1⟩
  | ok authority => exact ⟨rfl, rfl⟩

section Fields

variable (run : StageRun) (proofBytes : Bytes) (canonical : CanonicalAction)

theorem StageRun.portable_stage :
    (run.portable context registries proofBytes canonical).stage = run.stage := by
  obtain ⟨stage, result, bundle, plan, workUnits⟩ := run
  cases result <;> rfl

theorem StageRun.portable_workUnits :
    (run.portable context registries proofBytes canonical).resources.workUnits = run.workUnits := by
  obtain ⟨stage, result, bundle, plan, workUnits⟩ := run
  cases result <;> rfl

/-- The branches a run authorizes. -/
def StageRun.authorizedBranches (run : StageRun) : List ProofRef :=
  match run.result with
  | .ok authority => authority.authorizedBranches
  | .error _ => []

theorem StageRun.portable_authorizedBranches :
    (run.portable context registries proofBytes canonical).authorizedBranches =
      run.authorizedBranches := by
  obtain ⟨stage, result, bundle, plan, workUnits⟩ := run
  cases result <;> rfl

end Fields

theorem verifyPortable_eq (proofBytes : Bytes) (canonical : CanonicalAction) :
    verifyPortable context registries proofBytes canonical =
      (runStages context registries proofBytes canonical).portable context registries proofBytes
        canonical :=
  congrArg Prod.fst (verifyPortableSealed_eq context registries proofBytes canonical)

theorem verify_eq (proofBytes : Bytes) (canonical : CanonicalAction) :
    verify context registries proofBytes canonical =
      VerificationOutcome.ofResult (runStages context registries proofBytes canonical).result :=
  answers_verifyInternal context registries proofBytes canonical .discard

theorem verifyExplained_outcome {reserved : Option Nat} {proofBytes : Bytes}
    {canonical : CanonicalAction} {explained : ExplainedVerification}
    (h : verifyExplained context registries reserved proofBytes canonical = .ok explained) :
    explained.outcome = verify context registries proofBytes canonical := by
  rw [verify_eq]
  cases reserved with
  | none => cases h
  | some capacity =>
    have hrun : verifyExplained context registries (some capacity) proofBytes canonical = .ok
        ⟨(verifyInternal context registries proofBytes canonical ⟨true, capacity, [], none⟩).1,
          (verifyInternal context registries proofBytes canonical
            ⟨true, capacity, [], none⟩).2.finish⟩ := rfl
    obtain rfl := Except.ok.inj (hrun.symm.trans h)
    exact answers_verifyInternal context registries proofBytes canonical _

theorem verifyV1Sealed_eq {proofBytes actionCbor contextCbor : Bytes} {canonical : CanonicalAction}
    {context : TrustedContext} (hcontext : decodeVerifierContext contextCbor = .ok context)
    (haction : decodeCanonicalAction actionCbor context.limits = .ok canonical) :
    verifyV1Sealed registries proofBytes actionCbor contextCbor =
      sealPortable (verifyPortableSealed context registries proofBytes canonical).1
        (verifyPortableSealed context registries proofBytes canonical).2 := by
  simp only [verifyV1Sealed, hcontext, haction]

/-- Every entry point decides alike on the same proof, action, context and registries: the explained
path where its trace can be reserved, the portable path, and the byte-oriented path on any bytes that
decode to the action and the context. An action is sealed exactly when the decision is to authorize,
and it is the same one on every path. No trace and no diagnostics change a decision, an authority or
the work charged. -/
theorem entryPoints_agree (proofBytes : Bytes) (canonical : CanonicalAction) :
    let outcome := verify context registries proofBytes canonical
    let portable := verifyPortable context registries proofBytes canonical
    let sealed := verifyPortableSealed context registries proofBytes canonical
    (∀ reserved explained,
      verifyExplained context registries reserved proofBytes canonical = .ok explained →
        explained.outcome = outcome) ∧
    (∀ capacity, ∃ explained,
      verifyExplained context registries (some capacity) proofBytes canonical = .ok explained) ∧
    portable.code = outcome.code ∧ portable.decision = outcome.code.decision ∧
    sealed = (portable, outcome.action) ∧
    (outcome.action.isSome ↔ portable.decision = .authorized) ∧
    (∀ actionCbor contextCbor, decodeVerifierContext contextCbor = .ok context →
      decodeCanonicalAction actionCbor context.limits = .ok canonical →
      verifyV1Sealed registries proofBytes actionCbor contextCbor =
        ⟨portable, encodeVerificationResult portable, outcome.action⟩) ∧
    (∀ trace, (verifyInternal context registries proofBytes canonical trace).1 = outcome) ∧
    (∀ controlled meter d e,
      (verifyAuthorityMeasured controlled canonical registries context meter d).1 =
          (verifyAuthorityMeasured controlled canonical registries context meter e).1 ∧
        (verifyAuthorityMeasured controlled canonical registries context meter d).2.1 =
          (verifyAuthorityMeasured controlled canonical registries context meter e).2.1) := by
  have hsealed := verifyPortableSealed_eq context registries proofBytes canonical
  obtain ⟨hcode, hdecision⟩ := (runStages context registries proofBytes canonical).portable_agrees
    context registries proofBytes canonical
  have haction : (verifyPortableSealed context registries proofBytes canonical).2 =
      (verify context registries proofBytes canonical).action := by
    rw [hsealed, verify_eq]
  rw [← verify_eq, ← verifyPortable_eq] at hcode hdecision
  refine ⟨fun _ _ h => verifyExplained_outcome context registries h, fun _ => ⟨_, rfl⟩, hcode,
    hdecision, Prod.ext rfl haction, ?_, ?_, ?_, ?_⟩
  · rw [hdecision]
    cases verify context registries proofBytes canonical <;>
      simp [VerificationOutcome.action, VerificationOutcome.code, VerificationCode.decision]
  · intro actionCbor contextCbor hcontext hcanonical
    rw [verifyV1Sealed_eq registries hcontext hcanonical, haction]
    rfl
  · intro trace
    rw [verify_eq]
    exact answers_verifyInternal context registries proofBytes canonical trace
  · intro controlled meter d e
    exact verifyAuthorityMeasured_diagnostics controlled canonical registries context meter d e

end Agreement

section Sample

local instance sampleDeploymentCbor : Cbor := rfc8949

local instance sampleDeploymentSha256 : Sha256 :=
  ⟨fun bytes => ⟨Sha2.sha256 bytes, Sha2.sha256_length bytes⟩⟩

/-- A method that takes the evidence bound to a statement and reports `claims`. -/
def sampleMethod (claims : List AssuranceClaim) : PrincipalMethod where
  id := sampleId
  configurationId := .zero
  maximumWorkUnits := 1
  evaluateControl input :=
    ControlEvidence.new [7] claims (input.evidence.map EvidenceObject.id) sampleId 1 1

/-- A suite whose signatures are their keys. -/
def sampleSuite : SignatureSuite where
  id := sampleId
  configurationId := .zero
  workUnits := 1
  verify input :=
    if input.signature = input.verificationKey then .ok () else .error .invalidSignature

theorem samplePure_distinct : PureRegistrySet.distinct {} := by decide +kernel

theorem sampleDetached_sorted :
    ([] : List DetachedAttachment).Pairwise fun a b => a.digest < b.digest := .nil

theorem sampleClaim_bounded : boundedText 128 "self-certifying-identifier" = true := by
  decide +kernel

def sampleImplementations (claims : List AssuranceClaim) : ImmutableRegistries where
  principalMethods := [sampleMethod claims]
  signatureSuites := [sampleSuite]
  pure := {}
  methodsDistinct := List.nodup_singleton _
  suitesDistinct := List.nodup_singleton _
  pureDistinct := samplePure_distinct

def sampleCanonical : CanonicalAction where
  profile := sampleProfile
  mediaType := sampleId
  body := [1, 2, 3]
  permission := samplePermission
  requestedBudget := none
  detachedAttachments := []
  nonempty := by decide
  bounded := by decide
  attachmentsBounded := Nat.zero_le _
  attachmentBytesBounded := Nat.zero_le _
  attachmentsSorted := sampleDetached_sorted

def samplePlan : CanonicalPlan := CanonicalPlan.proof .zero

/-- The root's own action, under the plan of that one action. -/
def sampleRootAction : ActionEnvelope :=
  { sampleAction sampleRoot none none with
    canonicalBodyDigest := bodyDigest sampleCanonical.body
    authorizationPlan := planId samplePlan.plan }

def sampleRootBundle : ProofBundle where
  header := ⟨0, sampleHeader_zero⟩
  grants := []
  actions := [⟨sampleRootAction, sampleSignature⟩]
  plan := samplePlan
  evidence := [sampleEvidence 7 sampleSize_lt]
  bindings := [⟨.action (actionId sampleRootAction), [(sampleEvidence 7 sampleSize_lt).id],
    List.cons_ne_nil _ _, by decide, List.pairwise_singleton _ _⟩]
  principalStatus := []
  grantStatus := []
  attachments := []
  canonicalBody := none
  approvals := []
  isBounded := rfl
  actionsSorted := List.pairwise_singleton _ _
  evidenceSorted := List.pairwise_singleton _ _
  bindingsSorted := List.pairwise_singleton _ _
  attachmentsSorted := sampleAttachments_sorted
  planValidates := ⟨_, rfl⟩
  approvalsBounded := sampleApprovals_bounded

theorem sampleRootBundle_within : sampleRootBundle.Within .defaultDeployment where
  bytes := by decide +kernel
  grantCount := Nat.zero_le _
  grants := fun _ hmem => absurd hmem List.not_mem_nil
  actionCount := Nat.le_of_ble_eq_true rfl
  actions := by
    intro a ha
    obtain rfl := List.mem_singleton.mp ha
    have hextensions : CriticalExtensions.empty.Fits .defaultDeployment :=
      ⟨Nat.zero_le _, fun _ hmem => absurd hmem List.not_mem_nil⟩
    exact ⟨⟨Nat.zero_le _, hextensions⟩, sampleSignature_fits⟩
  plan := ⟨_, rfl⟩
  evidenceCount := Nat.le_of_ble_eq_true rfl
  evidence := by
    intro e he
    obtain rfl := List.mem_singleton.mp he
    exact sampleEvidence_fits _ (by decide)
  bindingCount := Nat.le_of_ble_eq_true rfl
  bindings := by
    intro b hb
    obtain rfl := List.mem_singleton.mp hb
    exact Nat.le_of_ble_eq_true rfl
  principalStatusCount := Nat.zero_le _
  principalStatus := fun _ hmem => absurd hmem List.not_mem_nil
  grantStatusCount := Nat.zero_le _
  grantStatus := fun _ hmem => absurd hmem List.not_mem_nil
  signatures := Nat.le_of_ble_eq_true rfl
  attachments := Nat.zero_le _
  canonicalBody := fun _ hmem => absurd hmem (by simp [sampleRootBundle])
  approvalCount := Nat.zero_le _
  approvals := fun _ hmem => absurd hmem List.not_mem_nil

theorem sampleRootBundle_decodes (context : ContextParts) (h : context.limits = .defaultDeployment) :
    decodeProof (encodeBundle sampleRootBundle) context =
      .ok ⟨sampleRootBundle, proofDigest sampleRootBundle⟩ := by
  have : LawfulCbor := rfc8949_lawful
  have hids : sampleRootBundle.ContentAddressed := by
    refine ⟨fun e he => ?_, fun _ hmem => absurd hmem List.not_mem_nil⟩
    obtain rfl := List.mem_singleton.mp he
    rfl
  have hdecode := ProofBundle.decodeBundle_of_readsIf sampleRootBundle_within hids
    fun _ hmem => absurd hmem List.not_mem_nil
  rw [decodeProof, h, hdecode]
  rfl

/-- An unbounded anchor of the root, under `statusPolicy`. -/
def sampleRootAnchor (statusPolicy : StatusPolicy) : TrustAnchor :=
  { sampleAnchor with
    resourceNamespaces := ⟨[samplePermission.resource], sampleNamespace_bounded, sampleNamespace_sorted⟩
    budgetCeiling := none
    statusPolicy }

/-- The selection of the core registry a deployment of the sample implementations makes. -/
def sampleSelection : AcceptedRegistries :=
  { sampleRegistries ⟨[], sampleFree_bounded, sampleFree_sorted⟩ sampleFree_subset with
    manifestId := targetV1RegistryManifest
    principalStatusMethods := ⟨[principalStatusMethodV1], by decide, List.pairwise_singleton _ _⟩
    assuranceClaims := ⟨[⟨"self-certifying-identifier", sampleClaim_bounded⟩], by decide,
      List.pairwise_singleton _ _⟩
    resourceMatchers := ⟨[uriNamespaceV1], by decide, List.pairwise_singleton _ _⟩
    profilePolicies := ⟨[exactProfileV1], by decide, List.pairwise_singleton _ _⟩
    matchersNonempty := by decide
    policiesNonempty := by decide }

def sampleDeploymentParts (anchors : List TrustAnchor) (snapshot : PrincipalStatusSnapshot) :
    ContextParts :=
  { sampleParts .defaultDeployment snapshot [] with
    configuration := (sampleImplementations []).configurationId
    trustAnchors := anchors
    acceptedRegistries := sampleSelection
    resourceMatcher := uriNamespaceV1
    profilePolicy := exactProfileV1 }

theorem sampleDeploymentParts_approvals (anchors : List TrustAnchor)
    (snapshot : PrincipalStatusSnapshot) :
    (sampleDeploymentParts anchors snapshot).approvalsAccepted = true := by
  change (sampleDeploymentParts [] sampleNoStatus).approvalsAccepted = true
  decide +kernel

def sampleDeployment (anchors : List TrustAnchor) (snapshot : PrincipalStatusSnapshot)
    (hsorted : anchors.Pairwise fun a b => a.id < b.id)
    (hbase : (sampleDeploymentParts anchors snapshot).baseAccepted = true) : TrustedContext where
  toContextParts := sampleDeploymentParts anchors snapshot
  anchorsSorted := hsorted
  isAccepted := hbase
  observersSorted := sampleObservers_sorted
  observersOk := rfl
  approversSorted := sampleApprovers_sorted
  approvalsOk := sampleDeploymentParts_approvals anchors snapshot

def sampleOwnDeployment : TrustedContext :=
  sampleDeployment [sampleRootAnchor .expiryOnly] sampleNoStatus (List.pairwise_singleton _ _)
    (by decide +kernel)

def sampleDecoded : DecodedProof := ⟨sampleRootBundle, proofDigest sampleRootBundle⟩

def sampleResolved : ResolvedProof :=
  ⟨sampleDecoded, planId sampleRootBundle.plan.plan, grantRecords sampleRootBundle.grants,
    actionRecords sampleRootBundle.actions⟩

theorem sampleRootBundle_resolves :
    resolveProof sampleDecoded sampleOwnDeployment.toContextParts = .ok sampleResolved := by
  have hresolves : (resolveProof sampleDecoded sampleOwnDeployment.toContextParts).toBool = true := by
    decide +kernel
  cases h : resolveProof sampleDecoded sampleOwnDeployment.toContextParts with
  | error failure =>
    rw [h] at hresolves
    cases hresolves
  | ok resolved => exact congrArg Except.ok (resolves_of_resolveProof h).eq

/-- The control of the root's own action, which consumes the evidence bound to it. -/
theorem sampleRootBundle_controlled : ∃ controlled,
    verifyPrincipalControl sampleOwnDeployment.toContextParts (sampleImplementations []) sampleResolved =
      .ok controlled := by
  have hcontrols : ((verifyControls sampleOwnDeployment.toContextParts (sampleImplementations [])
      sampleResolved (WorkMeter.new defaultMaxWorkUnits)).1.toOption.any fun controls =>
        controls.all (evidenceConsumed sampleRootBundle)) = true := by
    decide +kernel
  cases hrun : (verifyControls sampleOwnDeployment.toContextParts (sampleImplementations [])
      sampleResolved (WorkMeter.new sampleOwnDeployment.limits.maxWorkUnits)).1 with
  | error failure =>
    rw [show defaultMaxWorkUnits = sampleOwnDeployment.limits.maxWorkUnits from rfl, hrun] at hcontrols
    cases hcontrols
  | ok controls =>
    rw [show defaultMaxWorkUnits = sampleOwnDeployment.limits.maxWorkUnits from rfl, hrun] at hcontrols
    have hevidence : (sampleRootBundle.evidence.all fun evidence => evidence.id ∈
        consumedEvidence sampleOwnDeployment.toContextParts sampleRootBundle) = true := by
      decide +kernel
    exact ⟨_, Except.bind_eq_ok.mpr ⟨(), require_eq_ok.mpr rfl, Except.bind_eq_ok.mpr ⟨(),
      require_eq_ok.mpr rfl, Except.bind_eq_ok.mpr ⟨controls, hrun, Except.bind_eq_ok.mpr ⟨(),
        require_eq_ok.mpr hcontrols, Except.bind_eq_ok.mpr ⟨(), require_eq_ok.mpr hevidence, rfl⟩⟩⟩⟩⟩⟩

/-- The explained path on the root's own action, with the trace of one node. -/
theorem entryPoints_agree_sample :
    let proofBytes := encodeBundle sampleRootBundle
    let registries := sampleImplementations []
    ∃ explained, verifyExplained sampleOwnDeployment registries (some 1) proofBytes sampleCanonical =
        .ok explained ∧
      explained.outcome = verify sampleOwnDeployment registries proofBytes sampleCanonical ∧
      (verifyPortable sampleOwnDeployment registries proofBytes sampleCanonical).code =
        explained.outcome.code := by
  intro proofBytes registries
  obtain ⟨hexplained, hreserved, hcode, -⟩ :=
    entryPoints_agree sampleOwnDeployment registries proofBytes sampleCanonical
  obtain ⟨explained, hrun⟩ := hreserved 1
  have hsame := hexplained (some 1) explained hrun
  exact ⟨explained, hrun, hsame, hsame ▸ hcode⟩

end Sample

end AuthsProof
