import AuthsProof.Control

/-! The assurance stage of one branch: the report each participant makes from the evidence of its
control, and the requirements of the policy over the reports of a role. -/

namespace AuthsProof

open Sorting

def grantIssuerRole (chainIndex : Nat) : ParticipantRole :=
  if chainIndex = 0 then .root else .intermediate

def participantReport (principal : PrincipalId) (evidence : ControlEvidence) (role : ParticipantRole) :
    Except VerificationFailure ParticipantAssurance :=
  (ParticipantAssurance.new principal role evidence.claims evidence.consumedEvidence evidence.adapter
    evidence.adapterVersion).mapError fun _ => exhausted

section Policy

variable (implies : AssuranceClaim → AssuranceClaimId → Bool) (evaluationTime : Timestamp)

/-- Whether one claim of a report meets every constraint of a requirement. -/
def claimMeets (requirement : AssuranceRequirement) (report : ParticipantAssurance)
    (claim : AssuranceClaim) : Bool :=
  (claim.kind = requirement.claimKind || implies claim requirement.claimKind) &&
    (requirement.parameters.entries.all fun parameter => parameter ∈ claim.parameters.entries) &&
    (requirement.source.all fun source => claim.source = source) &&
    (requirement.adapter.all fun adapter => report.adapter = adapter) &&
    (requirement.adapterVersion.all fun version => report.adapterVersion = version) &&
    requirement.maximumAge.all fun maximumAge =>
      claim.observedAt.any fun observedAt =>
        observedAt ≤ evaluationTime && evaluationTime - observedAt ≤ maximumAge.seconds

/-- The first claim, in claim order, that meets a requirement. -/
def selectClaim (requirement : AssuranceRequirement) (report : ParticipantAssurance) :
    Option AssuranceClaim :=
  (sortByKey id (report.claims.items.filter (claimMeets implies evaluationTime requirement report))).head?

/-- Matches a requirement with the reports of its role. One match ends an `any` requirement, and one
report without a match refuses an `every` requirement. -/
def matchReports (requirement : AssuranceRequirement) (requirementIndex : UInt16) :
    List ParticipantAssurance → Nat → List AssuranceSatisfaction →
      Except Requirement (Nat × List AssuranceSatisfaction)
  | [], count, satisfactions => .ok (count, satisfactions)
  | report :: reports, count, satisfactions =>
    match selectClaim implies evaluationTime requirement report with
    | some claim =>
      let satisfactions := satisfactions ++
        [⟨requirementIndex, report.principal, claim, report.evidence.items⟩]
      if requirement.quantifier = .any then .ok (count + 1, satisfactions)
      else matchReports requirement requirementIndex reports (count + 1) satisfactions
    | none =>
      if requirement.quantifier = .every then .error .assuranceRequirementNotMet
      else matchReports requirement requirementIndex reports count satisfactions

def satisfyRequirement (reports : List ParticipantAssurance) (index : Nat)
    (requirement : AssuranceRequirement) (satisfactions : List AssuranceSatisfaction) :
    Except Requirement (List AssuranceSatisfaction) :=
  let selected := reports.filter fun report => report.role = requirement.role
  if selected.isEmpty then .error .assuranceRequirementNotMet
  else if 65536 ≤ index then .error .assuranceRequirementNotMet
  else
    let required := match requirement.quantifier with
      | .any => 1
      | .every => selected.length
    match matchReports implies evaluationTime requirement (UInt16.ofNat index) selected 0
        satisfactions with
    | .error failure => .error failure
    | .ok (count, satisfactions) =>
      if count < required then .error .assuranceRequirementNotMet else .ok satisfactions

def satisfyRequirements (reports : List ParticipantAssurance) :
    Nat → List AssuranceRequirement → List AssuranceSatisfaction →
      Except Requirement (List AssuranceSatisfaction)
  | _, [], satisfactions => .ok satisfactions
  | index, requirement :: requirements, satisfactions => do
    let satisfactions ←
      satisfyRequirement implies evaluationTime reports index requirement satisfactions
    satisfyRequirements reports (index + 1) requirements satisfactions

def evaluateWithImplications (policy : AssurancePolicy) (reports : List ParticipantAssurance) :
    Except Requirement (List AssuranceSatisfaction) := do
  let satisfactions ←
    satisfyRequirements implies evaluationTime reports 0 policy.requirements.items []
  return sortDedup satisfactions

end Policy

section Branch

variable [Sha256] (context : ContextParts) (registries : ImmutableRegistries)

def validateAssuranceClaim (claim : AssuranceClaim) : Metered Unit := do
  let rule ← Run.ofOption (registries.assuranceClaim context.acceptedRegistries claim.kind)
    (.indeterminate .unsupportedAssuranceClaim)
  reserve (rule.maximumWorkUnits claim)
  Run.ofExcept ((rule.validate claim).mapError registryOperationFailure)

def validateAssuranceClaims (reports : List ParticipantAssurance) : Metered Unit :=
  Run.forEach (reports.flatMap fun report => report.claims.items)
    (validateAssuranceClaim context registries)

omit [Sha256] in
/-- Whether an accepted implication takes a claim to the target; one that fails does not. -/
def impliedBy (implications : List AssuranceImplication) (claim : AssuranceClaim)
    (target : AssuranceClaimId) : Bool :=
  implications.any fun implication =>
    implication.source = claim.kind && implication.target = target &&
      match implication.implies claim with
      | .ok implied => implied
      | .error _ => false

def evaluateBranchAssurance (reports : List ParticipantAssurance) :
    Metered (List AssuranceSatisfaction) := do
  validateAssuranceClaims context registries reports
  let implications := registries.assuranceImplications context.acceptedRegistries
  Run.forEach implications fun implication => reserve implication.maximumWorkUnits
  Run.ofExcept <| (evaluateWithImplications (impliedBy implications) context.evaluationTime
    context.assurancePolicy reports).mapError .indeterminate

end Branch

end AuthsProof
