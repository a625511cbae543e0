import AuthsProof.Anchor
import AuthsProof.Outcome

/-! The authority kernel: accumulated authority, the evaluation of one grant edge and the terminal
coverage of an action. -/

namespace AuthsProof

/-- Authority accumulated along one chain from a local root. -/
structure EffectiveAuthority where
  root : PrincipalId
  subject : PrincipalId
  allowedProfiles : List ProfileRef
  profile : Option ProfileRef
  permissions : PermissionSet
  validity : ValidityWindow
  audiences : AudienceSet
  actionConstraint : ActionConstraint
  budgetCeiling : Option BudgetCeiling
  remainingDepth : UInt16
  lastGrant : Option GrantId
  assurancePolicy : AssurancePolicyId
  statusPolicy : StatusPolicy
  extensions : Option CriticalExtensions

structure AttenuationChecks where
  rootPreserved : Bool
  depthDecreases : Bool
  profileAttenuates : Bool
  permissionsAttenuate : Bool
  validityAttenuates : Bool
  audiencesAttenuate : Bool
  actionConstraintAttenuates : Bool
  budgetAttenuates : Bool
  statusAttenuates : Bool
  assuranceAttenuates : Bool
  extensionsAttenuate : Bool

def attenuationChecksAccept (checks : AttenuationChecks) : Bool :=
  checks.rootPreserved && checks.depthDecreases && checks.profileAttenuates &&
    checks.permissionsAttenuate && checks.validityAttenuates && checks.audiencesAttenuate &&
    checks.actionConstraintAttenuates && checks.budgetAttenuates && checks.statusAttenuates &&
    checks.assuranceAttenuates && checks.extensionsAttenuate

/-- The state changes of an accepted grant. -/
structure AcceptedTransition where
  subject : PrincipalId
  profile : ProfileRef
  permissions : PermissionSet
  validity : ValidityWindow
  audiences : AudienceSet
  actionConstraint : ActionConstraint
  budgetCeiling : Option BudgetCeiling
  remainingDepth : UInt16
  grantId : GrantId
  statusPolicy : StatusPolicy
  extensions : CriticalExtensions

inductive DelegationOutcome where
  | accepted (transition : AcceptedTransition)
  | denied (reason : DenialReason)

structure DelegationEvaluation where
  checks : AttenuationChecks
  outcome : DelegationOutcome

section Extensions

variable (laws : CriticalExtensionLaws)

def parentExtensionRetained (child : CriticalExtensions) (parentExtension : CriticalExtension) :
    Bool :=
  match criticalExtensionFind child parentExtension.id with
  | some childExtension =>
    laws.attenuates parentExtension.id (some childExtension.bytes) (some parentExtension.bytes)
  | none => false

def childExtensionAdmitted (childExtension : CriticalExtension) (parent : CriticalExtensions) :
    Bool :=
  match criticalExtensionFind parent childExtension.id with
  | some _ => true
  | none => laws.attenuates childExtension.id (some childExtension.bytes) none

def parentExtensionsRetained (child parent : CriticalExtensions) : Bool :=
  parent.entries.all fun extension => parentExtensionRetained laws child extension

def childExtensionsAdmitted (child parent : CriticalExtensions) : Bool :=
  child.entries.all fun extension => childExtensionAdmitted laws extension parent

def criticalExtensionsAttenuate (child parent : CriticalExtensions) : Bool :=
  parentExtensionsRetained laws child parent && childExtensionsAdmitted laws child parent

def extensionsAttenuate (parentExtensions : Option CriticalExtensions)
    (grantExtensions : CriticalExtensions) : Bool :=
  match parentExtensions with
  | some parent => criticalExtensionsAttenuate laws grantExtensions parent
  | none => true

end Extensions

def depthDecreases (parentRemaining grantRemaining : UInt16) : Bool :=
  if parentRemaining = 0 then false else grantRemaining < parentRemaining

def rootPreserved (parent : EffectiveAuthority) (issuer : PrincipalId) : Bool :=
  (parent.lastGrant.isSome || principalIdEqual parent.root parent.subject) &&
    principalIdEqual issuer parent.subject

def profileSliceContains (profiles : List ProfileRef) (profile : ProfileRef) : Bool :=
  sliceContains profileRefEqual profiles profile

def selectedProfileAttenuates (selected : Option ProfileRef) (allowedProfiles : List ProfileRef)
    (child : ProfileRef) : Bool :=
  match selected with
  | some parent => profileRefEqual parent child
  | none => profileSliceContains allowedProfiles child

def attenuationChecks (laws : CriticalExtensionLaws) (parent : EffectiveAuthority)
    (grant : GrantStatement) : AttenuationChecks where
  rootPreserved := rootPreserved parent grant.issuer
  depthDecreases := depthDecreases parent.remainingDepth grant.remainingDepth
  profileAttenuates :=
    selectedProfileAttenuates parent.profile parent.allowedProfiles grant.profile
  permissionsAttenuate := permissionSetIsSubset grant.permissions parent.permissions
  validityAttenuates := validityWindowContains parent.validity grant.validity
  audiencesAttenuate := audienceSetIsSubset grant.audiences parent.audiences
  actionConstraintAttenuates :=
    actionConstraintAttenuates grant.actionConstraint parent.actionConstraint
  budgetAttenuates := optionalBudgetAttenuates grant.budgetCeiling parent.budgetCeiling
  statusAttenuates := statusPolicyAttenuates grant.statusPolicy parent.statusPolicy
  assuranceAttenuates := assurancePolicyIdEqual grant.assuranceFloor parent.assurancePolicy
  extensionsAttenuate := extensionsAttenuate laws parent.extensions grant.extensions

def evaluateGrant (laws : CriticalExtensionLaws) (parent : EffectiveAuthority) (grantId : GrantId)
    (grant : GrantStatement) : DelegationEvaluation :=
  let checks := attenuationChecks laws parent grant
  if !checks.rootPreserved || !optionalGrantIdEqual grant.parent parent.lastGrant then
    ⟨checks, .denied .brokenGrantChain⟩
  else if !attenuationChecksAccept checks then ⟨checks, .denied .delegationExpanded⟩
  else
    ⟨checks, .accepted {
      subject := grant.subject
      profile := grant.profile
      permissions := grant.permissions
      validity := grant.validity
      audiences := grant.audiences
      actionConstraint := grant.actionConstraint
      budgetCeiling := grant.budgetCeiling
      remainingDepth := grant.remainingDepth
      grantId
      statusPolicy := grant.statusPolicy
      extensions := grant.extensions }⟩

inductive CoverageDecision where
  | authorized
  | denied (reason : DenialReason)
  deriving DecidableEq

def evaluateActionCoverage (authority : EffectiveAuthority) (action : ActionEnvelope)
    (expression : ProfileBudgetExpression) : CoverageDecision :=
  if !rootPreserved authority action.actor ||
      !optionalGrantIdEqual action.terminalGrant authority.lastGrant then
    .denied .brokenGrantChain
  else if !selectedProfileAttenuates authority.profile authority.allowedProfiles action.profile then
    .denied .brokenGrantChain
  else if !permissionSetContains authority.permissions action.permission then
    .denied .permissionNotGranted
  else if !validityWindowContains authority.validity action.validity then
    .denied .actionOutsideValidity
  else if !audienceSetContains authority.audiences action.audience then .denied .audienceMismatch
  else if !actionConstraintAllows authority.actionConstraint action.canonicalBodyDigest then
    .denied .actionConstraintMismatch
  else if !budgetCeilingCoversAction authority.budgetCeiling action.requestedBudget expression then
    .denied .budgetCeilingExceeded
  else .authorized

namespace EffectiveAuthority

def fromAnchor (anchor : TrustAnchor) : EffectiveAuthority where
  root := anchor.principal
  subject := anchor.principal
  allowedProfiles := anchor.profiles.items
  profile := none
  permissions := anchor.permissions
  validity := anchor.validity
  audiences := anchor.audiences
  actionConstraint := .anyBody
  budgetCeiling := anchor.budgetCeiling
  remainingDepth := anchor.maxDelegationDepth
  lastGrant := none
  assurancePolicy := anchor.assurancePolicy
  statusPolicy := anchor.statusPolicy
  extensions := none

def delegate (laws : CriticalExtensionLaws) (authority : EffectiveAuthority) (grantId : GrantId)
    (grant : GrantStatement) : Except DenialReason EffectiveAuthority :=
  match (evaluateGrant laws authority grantId grant).outcome with
  | .denied reason => .error reason
  | .accepted transition =>
    .ok { authority with
      subject := transition.subject
      profile := some transition.profile
      permissions := transition.permissions
      validity := transition.validity
      audiences := transition.audiences
      actionConstraint := transition.actionConstraint
      budgetCeiling := transition.budgetCeiling
      remainingDepth := transition.remainingDepth
      lastGrant := some transition.grantId
      statusPolicy := transition.statusPolicy
      extensions := some transition.extensions }

def authorizes (authority : EffectiveAuthority) (action : ActionEnvelope)
    (registries : AcceptedRegistries) : Except DenialReason Unit :=
  match evaluateActionCoverage authority action
      (registries.profileBudgetExpression action.profile) with
  | .authorized => .ok ()
  | .denied reason => .error reason

end EffectiveAuthority

end AuthsProof
