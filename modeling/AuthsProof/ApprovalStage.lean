import AuthsProof.Composition
import AuthsProof.StatusCheck
import AuthsProof.ObservationStage

/-! The approval stage: each requirement counts the distinct approvers whose approval is authentic,
current, bound to the exact action and not from a principal of the proof's authority. -/

namespace AuthsProof

open Sorting

/-- The verdict of one approval requirement. -/
inductive Verdict where
  | authorized (satisfaction : ApprovalSatisfaction)
  | denied
  | indeterminate

structure Evaluated where
  verdict : Verdict
  counts : ApprovalCounts
  threshold : UInt16

/-- The proof's approvals in digest order, and every principal of its authority. -/
structure Approvals where
  candidates : List (ApprovalDigest × SignedApproval)
  authority : List PrincipalId

/-- The work charged so far and the requirements evaluated so far. -/
structure Progress where
  meter : WorkMeter
  evaluated : List (ApprovalRequirementId × Evaluated)

abbrev Approving (α : Type) := Run VerificationFailure Progress α

/-- A metered computation, which evaluates no requirement. -/
def onMeter {α : Type} (x : Metered α) : Approving α :=
  Run.zoom Progress.meter (fun meter progress => { progress with meter }) x

def Progress.get (progress : Progress) (identifier : ApprovalRequirementId) : Option Evaluated :=
  (progress.evaluated.find? fun known => known.1 = identifier).map Prod.snd

def Verdict.satisfaction : Verdict → Option ApprovalSatisfaction
  | .authorized satisfaction => some satisfaction
  | _ => none

/-- The satisfaction of every listed requirement that was met. -/
def Progress.satisfactions (progress : Progress) (identifiers : List ApprovalRequirementId) :
    List ApprovalSatisfaction :=
  sortDedup <| identifiers.filterMap fun identifier =>
    (progress.get identifier).bind fun evaluated => evaluated.verdict.satisfaction

section Requirements

variable [Cbor] [Sha256]

/-- The requirements of one extension that are not yet known, by identifier. -/
def addApprovalRequirements (known : List (ApprovalRequirementId × ApprovalRequirement))
    (extension : CriticalExtension) :
    Except VerificationFailure (List (ApprovalRequirementId × ApprovalRequirement)) :=
  if extension.id ≠ approvalRequirementExtensionV1 then .ok known
  else do
    let decoded ← (decodeApprovalRequirements extension.bytes).mapError limitOrMalformed
    return decoded.items.foldl
      (fun known requirement =>
        let identifier := approvalRequirementId requirement
        if known.any fun entry => entry.1 = identifier then known
        else known ++ [(identifier, requirement)]) known

/-- The distinct requirements of every grant in the chain, in order of first appearance. -/
def chainApprovalRequirements (chain : List SignedGrant) :
    Except VerificationFailure (List (ApprovalRequirementId × ApprovalRequirement)) := do
  let requirements ←
    (chain.flatMap fun grant => grant.statement.extensions.entries).foldlM addApprovalRequirements []
  require (requirements.length ≤ maxApprovalRequirementsPerChain) exhausted
  return requirements

def contextApprovalRequirements (context : ContextParts) :
    List (ApprovalRequirementId × ApprovalRequirement) :=
  (sortedApprovalRequirements context.approvalRequirements).map fun requirement =>
    (approvalRequirementId requirement, requirement)

/-- Orders the approvals by digest without repetition, and collects the issuers and subjects of the
grants and the actors. -/
def Approvals.new (bundle : ProofBundle) : Approvals where
  candidates := dedupByKey Prod.fst <| sortByKey Prod.fst <|
    bundle.approvals.map fun approval => (approvalDigest approval, approval)
  authority := sortDedup <|
    (bundle.grants.flatMap fun grant => [grant.statement.issuer, grant.statement.subject]) ++
      bundle.actions.map fun action => action.envelope.actor

end Requirements

/-- What every approval check reads. -/
structure ApprovalInputs where
  controls : List VerifiedControl
  canonical : CanonicalAction
  context : ContextParts
  registries : ImmutableRegistries

namespace ApprovalInputs

variable [Cbor] [Sha256] (inputs : ApprovalInputs)

omit [Cbor] in
def bindsExact (statement : ApprovalStatement) (requirement : ApprovalRequirementId) : Bool :=
  statement.requirement = requirement ∧
    statement.mediaType = inputs.canonical.mediaType ∧
    statement.bodyDigest = bodyDigest inputs.canonical.body ∧
    statement.permission = inputs.canonical.permission ∧
    statement.requestedBudget = inputs.canonical.requestedBudget ∧
    statement.attributes = none ∧
    statement.audience = inputs.context.expectedAudience ∧
    statement.challenge = inputs.context.expectedChallenge

omit [Sha256] in
/-- The approver's signature, with the approval's own evidence, which must be consumed exactly. -/
def signatureVerdict (approval : SignedApproval) : Metered ApprovalVerdict := do
  let statement := approval.statement
  let preimage := approvalSigningPreimage statement approval.signature.descriptor
    inputs.canonical.profile
  let result ← Run.attempt (evaluateSignature inputs.context inputs.registries statement.approver
    approval.signature preimage .assertion statement.validity.notBefore (.ok approval.evidence))
  match result with
  | .ok control =>
    pure (if control.consumedEvidence = approval.evidence.map EvidenceObject.id then .counted
      else .ignored)
  | .error failure => Run.ofExcept (classify failure)

/-- Whether an approval is worth checking for a requirement, and then against which anchor. -/
def applicableAnchor (authority : List PrincipalId) (identifier : ApprovalRequirementId)
    (requirement : ApprovalRequirement) (outcomes : List ApprovalOutcome) (approval : SignedApproval) :
    Option ApproverAnchor :=
  let statement := approval.statement
  let evaluationTime := inputs.context.evaluationTime
  if !principalIdsContain requirement.approvers.items statement.approver ||
      statement.approver ∈ authority ||
      (outcomes.any fun outcome => outcome.verdict = .counted &&
        principalIdEqual outcome.approver statement.approver) ||
      !inputs.bindsExact statement identifier ||
      !statement.validity.contains evaluationTime then none
  else
    match inputs.context.approverAnchor statement.approver with
    | none => none
    | some anchor =>
      if !anchor.validity.contains evaluationTime ||
          approval.signature.descriptor.principalMethod ∉ anchor.acceptedMethods.items then none
      else some anchor

/-- The approver's status counts only once its signature does. -/
def approvalVerdict (approval : SignedApproval) (anchor : ApproverAnchor) : Metered ApprovalVerdict := do
  match ← inputs.signatureVerdict approval with
  | .counted => statusVerdict inputs.controls inputs.context inputs.registries anchor
  | other => pure other

/-- What the loop over the approvals has collected. -/
structure Collected where
  outcomes : List ApprovalOutcome := []
  counted : List ApprovalDigest := []

omit [Cbor] [Sha256] in
def Collected.record (collected : Collected) (digest : ApprovalDigest) (approver : PrincipalId) :
    ApprovalVerdict → Collected
  | .ignored => collected
  | .pending => { collected with outcomes := collected.outcomes ++ [⟨approver, .pending⟩] }
  | .counted => ⟨collected.outcomes ++ [⟨approver, .counted⟩], collected.counted ++ [digest]⟩

def collect (authority : List PrincipalId) (identifier : ApprovalRequirementId)
    (requirement : ApprovalRequirement) :
    List (ApprovalDigest × SignedApproval) → Collected → Metered Collected
  | [], collected => pure collected
  | (digest, approval) :: candidates, collected =>
    match inputs.applicableAnchor authority identifier requirement collected.outcomes approval with
    | none => collect authority identifier requirement candidates collected
    | some anchor => do
      let verdict ← inputs.approvalVerdict approval anchor
      collect authority identifier requirement candidates
        (collected.record digest approval.statement.approver verdict)

/-- The verdict over the distinct approvers that counted or are pending. -/
def conclude (identifier : ApprovalRequirementId) (requirement : ApprovalRequirement)
    (collected : Collected) : Except VerificationFailure Evaluated :=
  let counts := approvalCounts requirement.approvers.items collected.outcomes
  let evaluated (verdict : Verdict) : Evaluated := ⟨verdict, counts, requirement.threshold⟩
  match thresholdCounts requirement.threshold counts.counted counts.pending with
  | .authorized =>
    match ApprovalSatisfaction.new identifier collected.counted with
    | .ok satisfaction => .ok (evaluated (.authorized satisfaction))
    | .error _ => .error exhausted
  | .indeterminate => .ok (evaluated .indeterminate)
  | .denied => .ok (evaluated .denied)

/-- Each distinct requirement is evaluated at most once. -/
def evaluate (approvals : Approvals) (identifier : ApprovalRequirementId)
    (requirement : ApprovalRequirement) : Approving Evaluated := fun progress =>
  match progress.get identifier with
  | some evaluated => (.ok evaluated, progress)
  | none =>
    if maxApprovalRequirementsPerVerification ≤ progress.evaluated.length then
      (.error exhausted, progress)
    else
      match inputs.collect approvals.authority identifier requirement approvals.candidates {}
          progress.meter with
      | (.error failure, meter) => (.error failure, { progress with meter })
      | (.ok collected, meter) =>
        match conclude identifier requirement collected with
        | .error failure => (.error failure, { progress with meter })
        | .ok evaluated =>
          (.ok evaluated, ⟨meter, progress.evaluated ++ [(identifier, evaluated)]⟩)

/-- The first denied requirement denies; otherwise an indeterminate one leaves the list open. -/
def evaluateList (approvals : Approvals) :
    List (ApprovalRequirementId × ApprovalRequirement) → Bool → Approving Unit
  | [], unavailable =>
    if unavailable then Run.fail (.indeterminate .approvalUnavailable) else pure ()
  | (identifier, requirement) :: requirements, unavailable => do
    let evaluated ← inputs.evaluate approvals identifier requirement
    match evaluated.verdict with
    | .authorized _ => evaluateList approvals requirements unavailable
    | .denied => Run.fail (.denied .approvalThresholdNotMet)
    | .indeterminate => evaluateList approvals requirements true

end ApprovalInputs

end AuthsProof
