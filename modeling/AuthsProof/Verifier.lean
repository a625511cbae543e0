import AuthsProof.Branch
import AuthsProof.Trace

/-! The verification entry points: authority over a whole plan, the outcome with its trace, and the
portable result of the in-process and of the byte-oriented interface. -/

namespace AuthsProof

open Sorting

/-- What a verification of authority observes for the trace. -/
structure AuthorityDiagnostics where
  collecting : Bool
  planEvents : List EvaluationEvent := []
  authorizedBranches : Nat := 0
  distinctActors : Nat := 0
  distinctRoots : Nat := 0
  contextApprovals : List (Nat × UInt16 × Trace.FactResult) := []

namespace AuthorityDiagnostics

def discard : AuthorityDiagnostics := { collecting := false }

def collect : AuthorityDiagnostics := { collecting := true }

variable (diagnostics : AuthorityDiagnostics)

def recordContextApproval (evaluated : Evaluated) : AuthorityDiagnostics :=
  if diagnostics.collecting then
    let result := match evaluated.verdict with
      | .authorized _ => Trace.FactResult.satisfied
      | .denied => .contradicted
      | .indeterminate => .unavailable
    { diagnostics with contextApprovals := diagnostics.contextApprovals ++
        [(evaluated.counts.counted, evaluated.threshold, result)] }
  else diagnostics

def recordPlanEvent (event : EvaluationEvent) : AuthorityDiagnostics :=
  if diagnostics.collecting then
    { diagnostics with planEvents := diagnostics.planEvents ++ [event] }
  else diagnostics

def recordCompositionCounts (authorizedBranches distinctActors distinctRoots : Nat) :
    AuthorityDiagnostics :=
  if diagnostics.collecting then
    { diagnostics with authorizedBranches, distinctActors, distinctRoots }
  else diagnostics

end AuthorityDiagnostics

/-- What an authorizing plan establishes, over every branch that authorized. -/
structure VerifiedAuthority where
  canonicalAction : CanonicalAction
  proofDigest : Digest
  contextDigest : ContextDigest
  planId : PlanId
  actionIds : List ActionId
  authorizedBranches : List ProofRef
  assurance : List ParticipantAssurance
  assuranceSatisfactions : List AssuranceSatisfaction
  observationSatisfactions : List ObservationSatisfaction
  approvalSatisfactions : List ApprovalSatisfaction
  workUnits : UInt64

/-- The sealed data downstream consumers decode. -/
structure VerifiedAction where
  canonicalAction : CanonicalAction
  proofDigest : Digest
  contextDigest : ContextDigest
  planId : PlanId
  actionIds : List ActionId
  authorizedBranches : List ProofRef
  assurance : List ParticipantAssurance
  assuranceSatisfactions : List AssuranceSatisfaction
  observationSatisfactions : List ObservationSatisfaction
  approvalSatisfactions : List ApprovalSatisfaction
  workUnits : UInt64

def bindVerifiedAction (authority : VerifiedAuthority) : VerifiedAction where
  canonicalAction := authority.canonicalAction
  proofDigest := authority.proofDigest
  contextDigest := authority.contextDigest
  planId := authority.planId
  actionIds := authority.actionIds
  authorizedBranches := authority.authorizedBranches
  assurance := authority.assurance
  assuranceSatisfactions := authority.assuranceSatisfactions
  observationSatisfactions := authority.observationSatisfactions
  approvalSatisfactions := authority.approvalSatisfactions
  workUnits := authority.workUnits

/-- What the branches that authorized have established so far, in evaluation order. -/
structure AuthorizedBranches where
  references : List ProofRef := []
  actionIds : List ActionId := []
  assurance : List ParticipantAssurance := []
  assuranceSatisfactions : List AssuranceSatisfaction := []
  observationSatisfactions : List ObservationSatisfaction := []
  approvalRequirements : List ApprovalRequirementId := []

def AuthorizedBranches.add (branches : AuthorizedBranches) (reference : ProofRef)
    (branch : BranchAuthority) : AuthorizedBranches where
  references := branches.references ++ [reference]
  actionIds := branches.actionIds ++ [branch.actionId]
  assurance := branches.assurance ++ branch.assurance
  assuranceSatisfactions := branches.assuranceSatisfactions ++ branch.assuranceSatisfactions
  observationSatisfactions := branches.observationSatisfactions ++ branch.observationSatisfactions
  approvalRequirements := branches.approvalRequirements ++ branch.approvalRequirements

/-- The distinct principals of one role. -/
def AuthorizedBranches.distinctPrincipals (branches : AuthorizedBranches) (role : ParticipantRole) :
    List PrincipalId :=
  ((branches.assurance.filter fun report => report.role = role).map
    ParticipantAssurance.principal).dedup

/-- The state of an authority verification. -/
structure AuthorityState where
  progress : Progress
  branches : AuthorizedBranches
  diagnostics : AuthorityDiagnostics

abbrev Authorizing (α : Type) := Run VerificationFailure AuthorityState α

def onProgress {α : Type} (x : Approving α) : Authorizing α :=
  Run.zoom AuthorityState.progress (fun progress state => { state with progress }) x

section Authority

variable [Cbor] [Sha256] (controlled : ControlVerifiedProof) (canonical : CanonicalAction)
  (context : ContextParts) (registries : ImmutableRegistries)

/-- The leaf of a plan: the branch of one reference, added to the others where it authorizes. -/
def branchStep (approvals : Approvals) (reference : ProofRef) (state : AuthorityState) :
    BranchOutcome × AuthorityState :=
  match verifyBranch controlled.resolved controlled.controls canonical context registries approvals
      reference state.progress with
  | (.ok branch, progress) =>
    (.authorized, { state with progress, branches := state.branches.add reference branch })
  | (.error (.denied reason), progress) => (.denied reason, { state with progress })
  | (.error (.indeterminate requirement), progress) =>
    (.indeterminate requirement, { state with progress })

omit [Cbor] [Sha256] in
def observePlanEvent (event : EvaluationEvent) (state : AuthorityState) : AuthorityState :=
  { state with diagnostics := state.diagnostics.recordPlanEvent event }

def evaluatePlan (approvals : Approvals) : Authorizing BranchOutcome := fun state =>
  let (outcome, state) := evaluateObserved
    (branchStep controlled canonical context registries approvals) observePlanEvent
    controlled.resolved.decoded.bundle.plan.plan context.limits state
  (outcome.mapError .denied, state)

omit [Cbor] [Sha256] in
def requireAuthorized : BranchOutcome → Except VerificationFailure Unit
  | .authorized => .ok ()
  | .denied reason => .error (.denied reason)
  | .indeterminate requirement => .error (.indeterminate requirement)
  | .structurallyInvalid reason => .error (.denied reason)

omit [Cbor] [Sha256] in
def compositionMet (composition : CompositionRequirement) (branches : AuthorizedBranches) : Bool :=
  composition.minimumAuthorizedBranches.toNat ≤ branches.references.length &&
    composition.minimumDistinctActors.toNat ≤ (branches.distinctPrincipals .actor).length &&
    composition.minimumDistinctRoots.toNat ≤ (branches.distinctPrincipals .root).length

omit [Cbor] [Sha256] in
def checkComposition : Authorizing Unit := fun state =>
  let branches := state.branches
  let diagnostics := state.diagnostics.recordCompositionCounts branches.references.length
    (branches.distinctPrincipals .actor).length (branches.distinctPrincipals .root).length
  if compositionMet context.composition branches then (.ok (), { state with diagnostics })
  else (.error (.denied .compositionRequirementNotMet), { state with diagnostics })

/-- The requirements of the context, each recorded for the trace once it has been evaluated. -/
def evaluateContextApprovals (approvals : Approvals) : Authorizing (List ApprovalRequirementId) :=
  fun state =>
    let inputs : ApprovalInputs := {
      controls := controlled.controls
      canonical, context, registries }
    let requirements := contextApprovalRequirements context
    let (result, progress) := inputs.evaluateList approvals requirements false state.progress
    let diagnostics := (requirements.filterMap fun entry => progress.get entry.1).foldl
      AuthorityDiagnostics.recordContextApproval state.diagnostics
    (result.map fun _ => requirements.map Prod.fst, { state with progress, diagnostics })

/-- Everything an authority verification decides by. -/
def authorize (approvals : Approvals) : Authorizing (List ApprovalRequirementId) := do
  let outcome ← evaluatePlan controlled canonical context registries approvals
  Run.ofExcept (requireAuthorized outcome)
  checkComposition context
  evaluateContextApprovals controlled canonical context registries approvals

/-- The order of the assurance reports of a result. -/
def ParticipantAssurance.resultKey (report : ParticipantAssurance) : UInt8 ×ₗ PrincipalId :=
  toLex (report.role.code, report.principal)

/-- The authority the branches of a final state establish. -/
def sealAuthority (contextDigest : ContextDigest) (contextApprovals : List ApprovalRequirementId)
    (state : AuthorityState) : VerifiedAuthority :=
  let branches := state.branches
  { canonicalAction := canonical
    proofDigest := controlled.resolved.decoded.proofDigest
    contextDigest
    planId := controlled.resolved.planId
    actionIds := sortDedup branches.actionIds
    authorizedBranches := sortDedup branches.references
    assurance := dedupByKey id (sortByKey ParticipantAssurance.resultKey branches.assurance)
    assuranceSatisfactions := sortDedup branches.assuranceSatisfactions
    observationSatisfactions := sortDedup branches.observationSatisfactions
    approvalSatisfactions :=
      state.progress.satisfactions (branches.approvalRequirements ++ contextApprovals)
    workUnits := state.progress.meter.used }

/-- Authority over the whole plan, with the meter and the diagnostics it leaves. -/
def verifyAuthorityMeasured (context : TrustedContext) (meter : WorkMeter)
    (diagnostics : AuthorityDiagnostics) :
    Except VerificationFailure VerifiedAuthority × WorkMeter × AuthorityDiagnostics :=
  let bundle := controlled.resolved.decoded.bundle
  match validateActionBinding context.toContextParts registries bundle canonical meter with
  | (.error failure, meter) => (.error failure, meter, diagnostics)
  | (.ok _, meter) =>
    let (result, state) := authorize controlled canonical context.toContextParts registries
      (Approvals.new bundle) ⟨⟨meter, []⟩, {}, diagnostics⟩
    (result.map fun contextApprovals =>
        sealAuthority controlled canonical (contextDigest context) contextApprovals state,
      state.progress.meter, state.diagnostics)

end Authority

inductive VerificationOutcome where
  | authorized (action : VerifiedAction)
  | denied (reason : DenialReason)
  | indeterminate (requirement : Requirement)

def VerificationFailure.outcome : VerificationFailure → VerificationOutcome
  | .denied reason => .denied reason
  | .indeterminate requirement => .indeterminate requirement

section Explained

open Trace

variable [Cbor] [Sha256] (context : TrustedContext) (registries : ImmutableRegistries)

def recordConfigurationFacts : Tracing (Option UInt32 × Option UInt32) := do
  let configurationMatches : Bool := context.configuration = registries.configurationId
  let configuration ← record .resolve .contextConfigurationMatches .trustedContext
    (.equal configurationMatches) (matchResult configurationMatches)
    (mismatchCode configurationMatches .verifierConfigurationMismatch)
  let registryMatches : Bool := context.acceptedRegistries.manifestId = registries.manifestId
  let registry ← record .resolve .registryManifestAccepted .executableRegistry
    (.equal registryMatches) (matchResult registryMatches)
    (mismatchCode registryMatches .registryManifestMismatch)
  return (configuration, registry)

omit [Cbor] [Sha256] in
/-- Records the nodes of a plan in evaluation order, each aggregate over the nodes of its members.
Returns the root, if the events are those of one whole plan. -/
def recordPlanEvents (principalNode : Option UInt32) :
    List EvaluationEvent → List (Option UInt32) → Tracing (Option UInt32)
  | [], stack =>
    match stack with
    | [root] => pure root
    | _ => pure none
  | .proof _ outcome :: events, stack => do
    let node ← recordWithParents .authority .planNode .proof (.present true)
      (branchFactResult outcome) (some (branchVerificationCode outcome)) principalNode.toList
    recordPlanEvents principalNode events (node :: stack)
  | .aggregate childCount required authorized _ outcome :: events, stack =>
    if stack.length < childCount then pure none
    else do
      let children := (stack.take childCount).reverse
      let node ← recordWithParents .authority .planNode .derived
        (.count (saturatingU64 authorized) required.toUInt64) (branchFactResult outcome)
        (some (branchVerificationCode outcome)) (children.filterMap id)
      recordPlanEvents principalNode events (node :: stack.drop childCount)

omit [Cbor] [Sha256] in
/-- One constraint of the composition requirement; returns its node. -/
def recordConstraint (planRoot : Option UInt32) (kind : FactKind) (actual : Nat) (required : UInt16) :
    Tracing (Option UInt32) :=
  let satisfied : Bool := required.toNat ≤ actual
  recordWithParents .authority kind .trustedContext
    (.count (saturatingU64 actual) required.toUInt64) (matchResult satisfied)
    (mismatchCode satisfied .compositionRequirementNotMet) planRoot.toList

omit [Cbor] [Sha256] in
def recordContextApprovals (planRoot : Option UInt32) :
    List (Nat × UInt16 × FactResult) → Tracing (List UInt32)
  | [] => pure []
  | (counted, threshold, result) :: approvals => do
    let node ← recordWithParents .authority .approvalRequirement .trustedContext
      (.count (saturatingU64 counted) threshold.toUInt64) result (approvalFactCode result)
      planRoot.toList
    let nodes ← recordContextApprovals planRoot approvals
    pure (node.toList ++ nodes)

omit [Cbor] [Sha256] in
def recordCompositionDecision (requirement : CompositionRequirement)
    (diagnostics : AuthorityDiagnostics) (planRoot : Option UInt32) (code : VerificationCode) :
    Tracing (Option UInt32) := do
  let branches ← recordConstraint planRoot .minimumAuthorizedBranches diagnostics.authorizedBranches
    requirement.minimumAuthorizedBranches
  let actors ← recordConstraint planRoot .minimumDistinctActors diagnostics.distinctActors
    requirement.minimumDistinctActors
  let roots ← recordConstraint planRoot .minimumDistinctRoots diagnostics.distinctRoots
    requirement.minimumDistinctRoots
  let approvals ← recordContextApprovals planRoot diagnostics.contextApprovals
  recordWithParents .complete .decision .derived (.present (code = .authorized))
    (codeFactResult code) (some code)
    (planRoot.toList ++ branches.toList ++ actors.toList ++ roots.toList ++ approvals)

omit [Cbor] [Sha256] in
/-- The node of a refused authority. Once the plan authorizes, only the composition floors and the
context's approval requirements can refuse. -/
def recordAuthorityFailure (composition : CompositionRequirement) (diagnostics : AuthorityDiagnostics)
    (principalNode : Option UInt32) (failure : VerificationFailure) : Tracing (Option UInt32) := do
  let planRoot ← recordPlanEvents principalNode diagnostics.planEvents []
  if planRoot.isSome ∧ diagnostics.planEvents.getLast?.map EvaluationEvent.outcome = some .authorized ∧
      failure ≠ exhausted then
    recordCompositionDecision composition diagnostics planRoot (failureCode failure)
  else if planRoot.isSome then pure planRoot
  else recordFailure .authority .derived (.present false) failure principalNode.toList

/-- The last stage of the ordinary verifier. -/
def verifyAuthorityTraced (canonical : CanonicalAction) (controlled : ControlVerifiedProof)
    (principalNode : Option UInt32) : Tracing VerificationOutcome := do
  let meter := WorkMeter.fromUsed context.limits.maxWorkUnits controlled.workUnits
  let (result, _, diagnostics) :=
    verifyAuthorityMeasured controlled canonical registries context meter .collect
  match result with
  | .error failure =>
    let node ← recordAuthorityFailure context.composition diagnostics principalNode failure
    setFinalNode node
    return failure.outcome
  | .ok authority =>
    let action := bindVerifiedAction authority
    let planRoot ← recordPlanEvents principalNode diagnostics.planEvents []
    let node ← recordCompositionDecision context.composition diagnostics planRoot .authorized
    setFinalNode node
    return .authorized action

/-- The ordinary verifier, recording the facts of every stage on the way. -/
def verifyInternal (proofBytes : Bytes) (canonical : CanonicalAction) :
    Tracing VerificationOutcome := do
  let (configurationNode, registryNode) ← recordConfigurationFacts context registries
  match decodeProof proofBytes context.toContextParts with
  | .error failure =>
    let node ← recordFailure .decode .proof (.present false) failure []
    setFinalNode node
    return failure.outcome
  | .ok decoded =>
    let decodeNode ← record .decode .attachment .proof (.present true) .satisfied none
    setFinalNode decodeNode
    match resolveProof decoded context.toContextParts with
    | .error failure =>
      let node ← recordFailure .resolve .trustedContext (.equal false) failure decodeNode.toList
      setFinalNode node
      return failure.outcome
    | .ok resolved =>
      let resolveNode ← recordWithParents .resolve .expectedPlanMatches .derived (.equal true)
        .satisfied none decodeNode.toList
      setFinalNode resolveNode
      let parents := resolveNode.toList ++ configurationNode.toList ++ registryNode.toList
      match verifyPrincipalControl context.toContextParts registries resolved with
      | .error failure =>
        let node ← recordFailure .principalControl .executableRegistry (.present false) failure parents
        setFinalNode node
        return failure.outcome
      | .ok controlled =>
        let principalNode ← recordWithParents .principalControl .principalControl
          .executableRegistry (.present true) .satisfied none parents
        setFinalNode principalNode
        verifyAuthorityTraced context registries canonical controlled principalNode

def verify (proofBytes : Bytes) (canonical : CanonicalAction) : VerificationOutcome :=
  (verifyInternal context registries proofBytes canonical .discard).1

structure ExplainedVerification where
  outcome : VerificationOutcome
  trace : VerificationTrace

/-- `reserved` is the capacity the allocator grants the trace, if any. -/
def verifyExplained (reserved : Option Nat) (proofBytes : Bytes) (canonical : CanonicalAction) :
    Except TraceError ExplainedVerification := do
  let trace ← TraceCollector.collect hardMaxTraceEvents reserved
  let (outcome, trace) := verifyInternal context registries proofBytes canonical trace
  return ⟨outcome, trace.finish⟩

end Explained

section Portable

variable [Cbor] [Sha256]

def finalizePortable (result : PortableVerificationResult) : PortableVerificationResult :=
  result.withResultDigest (verificationResultDigest result)

def portableFailure (failure : VerificationFailure) (stage : VerificationStage)
    (proofDigest actionDigest : Digest) (contextDigest : ContextDigest) (planId : Option PlanId)
    (resources : VerificationResources) (manifest : RegistryManifestId)
    (requiredConfiguration : Option VerifierConfigurationId)
    (localConfiguration : VerifierConfigurationId) : PortableVerificationResult :=
  finalizePortable <| PortableVerificationResult.new (failureCode failure).decision stage
    (failureCode failure) proofDigest actionDigest contextDigest planId [] [] [] resources manifest
    requiredConfiguration localConfiguration

omit [Cbor] [Sha256] in
def objectCount (bundle : ProofBundle) : Nat :=
  bundle.grants.length + bundle.actions.length + bundle.evidence.length + bundle.bindings.length +
    bundle.principalStatus.length + bundle.grantStatus.length + bundle.attachments.length +
    bundle.approvals.length

omit [Cbor] [Sha256] in
/-- The resources of the inputs alone. -/
def inputResources (proofBytes actionBytes contextBytes : Bytes) : VerificationResources where
  proofBytes := saturatingU64 proofBytes.length
  actionBytes := saturatingU64 actionBytes.length
  contextBytes := saturatingU64 contextBytes.length
  objectCount := 0
  planLeaves := 0
  planDepth := 0
  workUnits := 0

omit [Cbor] [Sha256] in
/-- The resources once the bundle is decoded. -/
def VerificationResources.withBundle (resources : VerificationResources) (bundle : ProofBundle)
    (limits : VerifierLimits) : VerificationResources :=
  let shape := (bundle.plan.plan.validate limits).toOption
  { resources with
    objectCount := saturatingU64 (AuthsProof.objectCount bundle)
    planLeaves := (shape.map fun shape => saturatingU64 shape.leaves.length).getD 0
    planDepth := (shape.map fun shape => saturatingU64 shape.maximumDepth).getD 0 }

omit [Cbor] [Sha256] in
def VerificationResources.withWork (resources : VerificationResources) (workUnits : UInt64) :
    VerificationResources :=
  { resources with workUnits }

variable (context : TrustedContext) (registries : ImmutableRegistries)

/-- The portable pipeline, with the sealed action of an authorized decision. -/
def verifyPortableSealed (proofBytes : Bytes) (canonical : CanonicalAction) :
    PortableVerificationResult × Option VerifiedAction :=
  let actionBytes := encodeCanonicalAction canonical
  let contextBytes := encodeVerifierContext context
  let proofInputDigest := bodyDigest proofBytes
  let actionDigest := bodyDigest actionBytes
  let publicContextDigest := contextDigest context
  let manifest := context.acceptedRegistries.manifestId
  let resources := inputResources proofBytes actionBytes contextBytes
  let failed (failure : VerificationFailure) (stage : VerificationStage) (plan : Option PlanId)
      (resources : VerificationResources) : PortableVerificationResult × Option VerifiedAction :=
    (portableFailure failure stage proofInputDigest actionDigest publicContextDigest plan resources
      manifest (some context.configuration) registries.configurationId, none)
  match decodeProof proofBytes context.toContextParts with
  | .error failure => failed failure .decode none resources
  | .ok decoded =>
    let resources := resources.withBundle decoded.bundle context.limits
    match resolveProof decoded context.toContextParts with
    | .error failure => failed failure .resolve none resources
    | .ok resolved =>
      let plan := some resolved.planId
      match verifyPrincipalControl context.toContextParts registries resolved with
      | .error failure => failed failure .principalControl plan resources
      | .ok controlled =>
        let meter := WorkMeter.fromUsed context.limits.maxWorkUnits controlled.workUnits
        match verifyAuthorityMeasured controlled canonical registries context meter .discard with
        | (.ok authority, _, _) =>
          (finalizePortable (((PortableVerificationResult.new .authorized .complete .authorized
            proofInputDigest actionDigest publicContextDigest (some authority.planId)
            authority.authorizedBranches authority.assurance authority.assuranceSatisfactions
            (resources.withWork authority.workUnits) manifest (some context.configuration)
            registries.configurationId).withObservationSatisfactions
              authority.observationSatisfactions).withApprovalSatisfactions
              authority.approvalSatisfactions),
            some (bindVerifiedAction authority))
        | (.error failure, meter, _) =>
          failed failure .authority plan (resources.withWork meter.used)

def verifyPortable (proofBytes : Bytes) (canonical : CanonicalAction) : PortableVerificationResult :=
  (verifyPortableSealed context registries proofBytes canonical).1

end Portable

/-- Portable decision data with its canonical bytes and the sealed action of the same run. -/
structure SealedVerificationResult where
  portable : PortableVerificationResult
  cbor : Bytes
  action : Option VerifiedAction

section Bytes

variable [Cbor] [Sha256]

def sealPortable (portable : PortableVerificationResult) (action : Option VerifiedAction) :
    SealedVerificationResult :=
  ⟨portable, encodeVerificationResult portable, action⟩

variable (registries : ImmutableRegistries)

/-- The byte-oriented interface. A context or action that does not decode gives a decode-stage
result. -/
def verifyV1Sealed (proofCbor canonicalActionCbor trustedContextCbor : Bytes) :
    SealedVerificationResult :=
  let proofInputDigest := bodyDigest proofCbor
  let actionInputDigest := bodyDigest canonicalActionCbor
  let resources := inputResources proofCbor canonicalActionCbor trustedContextCbor
  match decodeVerifierContext trustedContextCbor with
  | .error error =>
    sealPortable (portableFailure (codecFailure error) .decode proofInputDigest actionInputDigest
      Digest.zero none resources registries.manifestId none registries.configurationId) none
  | .ok context =>
    match decodeCanonicalAction canonicalActionCbor context.limits with
    | .error error =>
      sealPortable (portableFailure (codecFailure error) .decode proofInputDigest actionInputDigest
        (contextDigest context) none resources context.acceptedRegistries.manifestId
        (some context.configuration) registries.configurationId) none
    | .ok canonical =>
      let (portable, action) := verifyPortableSealed context registries proofCbor canonical
      sealPortable portable action

def verifyV1 (proofCbor canonicalActionCbor trustedContextCbor : Bytes) : Bytes :=
  (verifyV1Sealed registries proofCbor canonicalActionCbor trustedContextCbor).cbor

end Bytes

end AuthsProof
