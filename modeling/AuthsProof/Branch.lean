import Mathlib.Data.Finset.Basic
import AuthsProof.ApprovalStage
import AuthsProof.AssuranceStage
import AuthsProof.Authority

/-! Authority of one branch of a plan: the binding of every action to the canonical one, the chain of
grants from a local anchor, and the stages a branch passes in order. -/

namespace AuthsProof

open Sorting

section ActionBinding

variable [Cbor] [Sha256] (context : ContextParts) (registries : ImmutableRegistries)

def evaluateExtension (extension : CriticalExtension) : Metered Unit := do
  Run.ensure (context.acceptedRegistries.acceptsCriticalExtension extension.id = true)
    (.denied .criticalExtensionUnknown)
  let handler ← Run.ofOption
    (registries.extensionHandler context.acceptedRegistries extension.id)
    (.indeterminate .unsupportedCriticalExtension)
  reserve (handler.maximumWorkUnits extension)
  Run.ofExcept ((handler.evaluate extension).mapError registryOperationFailure)

def evaluateExtensions (extensions : CriticalExtensions) : Metered Unit :=
  Run.forEach extensions.entries (evaluateExtension context registries)

omit [Cbor] [Sha256] in
def sameSharedAction (left right : ActionEnvelope) : Bool :=
  left.profile = right.profile ∧ left.bodyMediaType = right.bodyMediaType ∧
    left.canonicalBodyDigest = right.canonicalBodyDigest ∧ left.permission = right.permission ∧
    left.requestedBudget = right.requestedBudget ∧ left.audience = right.audience ∧
    left.challenge = right.challenge ∧ left.validity = right.validity ∧
    left.authorizationPlan = right.authorizationPlan ∧ left.channelBinding = right.channelBinding ∧
    left.attachments = right.attachments ∧ left.extensions = right.extensions

omit [Cbor] in
/-- The checks of one envelope against the canonical action, the context and the first envelope. -/
def checkEnvelope (canonical : CanonicalAction) (first action : ActionEnvelope) :
    Except VerificationFailure Unit := do
  require (action.profile = canonical.profile ∧ action.bodyMediaType = canonical.mediaType ∧
      action.canonicalBodyDigest = bodyDigest canonical.body ∧
      action.permission = canonical.permission ∧
      action.requestedBudget = canonical.requestedBudget) (.denied .actionBodyMismatch)
  require (context.acceptedRegistries.acceptsProfile action.profile = true)
    (.indeterminate .unsupportedProfile)
  require (action.audience = context.expectedAudience) (.denied .audienceMismatch)
  require (action.challenge = context.expectedChallenge) (.denied .challengeMismatch)
  require (action.validity.contains context.evaluationTime = true) (.denied .actionOutsideValidity)
  require (action.channelBinding = context.channelPolicy) (.denied .localPolicyDenied)
  require (sameSharedAction first action = true) (.denied .planActionMismatch)

def bindAction (canonical : CanonicalAction) (first : ActionEnvelope) (signed : SignedAction) :
    Metered Unit := do
  Run.ofExcept (checkEnvelope context canonical first signed.envelope)
  evaluateExtensions context registries signed.envelope.extensions
  Run.ofExcept (validateObservationAttachments signed)

omit [Cbor] in
def checkDescriptor (canonical : CanonicalAction) (descriptor : AttachmentDescriptor) :
    Except VerificationFailure Unit :=
  match canonical.detachedAttachments.find? fun attachment =>
      attachment.digest = descriptor.digest with
  | none => require (descriptor.presence ≠ .required) (.denied .attachmentMissing)
  | some detached => do
    require (detached.bytes.length = descriptor.byteLength.toNat) (.denied .attachmentLengthMismatch)
    require (attachmentDigest detached.bytes = descriptor.digest) (.denied .attachmentDigestMismatch)
    require (¬(descriptor.confidentiality = .encrypted ∧ descriptor.opacity = .mustBeInspectable))
      (.denied .opaqueAttachmentNotAllowed)

omit [Cbor] in
def validateAttachments (bundle : ProofBundle) (canonical : CanonicalAction) :
    Except VerificationFailure Unit := do
  let descriptors := match bundle.actions.head? with
    | some action => action.envelope.attachments
    | none => []
  require (descriptors = bundle.attachments) (.denied .unusedCriticalAttachment)
  require (adjacentDistinct (descriptors.map AttachmentDescriptor.digest) = true ∧
      adjacentDistinct (canonical.detachedAttachments.map DetachedAttachment.digest) = true)
    (.denied .duplicateAttachment)
  require (detachedBytes canonical.detachedAttachments ≤ context.limits.get .attachmentBytes)
    exhausted
  descriptors.forM (checkDescriptor canonical)
  require (∀ attachment ∈ canonical.detachedAttachments,
      ∃ descriptor ∈ descriptors, descriptor.digest = attachment.digest)
    (.denied .unusedCriticalAttachment)

def validateActionBinding (bundle : ProofBundle) (canonical : CanonicalAction) : Metered Unit := do
  Run.ensure (∀ body ∈ bundle.canonicalBody, body = canonical.body) (.denied .actionBodyMismatch)
  let first ← Run.ofOption bundle.actions.head? (.denied .authorizationPlanInvalid)
  Run.forEach bundle.actions (bindAction context registries canonical first.envelope)
  Run.ofExcept (validateAttachments context bundle canonical)
  let policy ← Run.ofOption
    (registries.profilePolicy context.acceptedRegistries context.profilePolicy)
    (.indeterminate .unsupportedProfilePolicy)
  reserve (policy.maximumWorkUnits canonical)
  let decision ← Run.ofExcept ((policy.evaluate canonical).mapError registryOperationFailure)
  Run.ensure (decision = .accept) (.denied .localPolicyDenied)

end ActionBinding

/-- The chain below `cursor`, terminal grant first. Resolution has met every link already, so the
walk ends within one step more than there are grants. -/
def chainFrom (grants : List GrantRecord) :
    Nat → Option GrantId → Except VerificationFailure (List SignedGrant)
  | _, none => .ok []
  | 0, some _ => .error (.denied .referenceCycle)
  | steps + 1, some id => do
    let grant ← findGrant grants id
    let rest ← chainFrom grants steps grant.statement.parent
    return grant :: rest

/-- The grants above an action, root first. -/
def grantChain (grants : List GrantRecord) (action : SignedAction) :
    Except VerificationFailure (List SignedGrant) := do
  let reversed ← chainFrom grants (grants.length + 1) action.envelope.terminalGrant
  return reversed.reverse

def branchChain (resolved : ResolvedProof) (action : SignedAction) :
    Except VerificationFailure (List SignedGrant) :=
  grantChain resolved.grants action

/-- The root principal of a chain: the first grant's issuer, or the actor when there is no grant. -/
def rootPrincipal (action : SignedAction) (chain : List SignedGrant) : PrincipalId :=
  match chain.head? with
  | some grant => grant.statement.issuer
  | none => action.envelope.actor

def actionOrFirstMethod (action : SignedAction) (chain : List SignedGrant) : PrincipalMethodId :=
  match chain.head? with
  | some grant => grant.signature.descriptor.principalMethod
  | none => action.signature.descriptor.principalMethod

/-- What one authorized branch establishes. -/
structure BranchAuthority where
  actionId : ActionId
  assurance : List ParticipantAssurance
  assuranceSatisfactions : List AssuranceSatisfaction
  observationSatisfactions : List ObservationSatisfaction
  approvalRequirements : List ApprovalRequirementId

/-- The inputs of one branch that do not depend on the anchor. -/
structure BranchInput where
  controls : List VerifiedControl
  action : SignedAction
  actionId : ActionId
  chain : List SignedGrant
  rootControl : PrincipalId × ControlEvidence
  canonical : CanonicalAction
  context : ContextParts
  registries : ImmutableRegistries

namespace BranchInput

section Constraints

variable [Sha256] (branch : BranchInput) (anchor : TrustAnchor)

/-- Whether some namespace matches; every namespace is tried. -/
def resourceAllowed (matcher : ResourceMatcher) (resource : ResourceId) :
    List ResourceId → Bool → Metered Bool
  | [], allowed => pure allowed
  | namespaceId :: namespaces, allowed => do
    reserve (matcher.maximumWorkUnits namespaceId resource)
    let matched ← Run.ofExcept ((matcher.isMatch namespaceId resource).mapError registryOperationFailure)
    resourceAllowed matcher resource namespaces (allowed || matched)

def validateResourceConstraints : Metered Unit := do
  let matcher ← Run.ofOption
    (branch.registries.resourceMatcher branch.context.acceptedRegistries branch.context.resourceMatcher)
    (.indeterminate .unsupportedResourceMatcher)
  let resources := (branch.chain.flatMap fun grant =>
    grant.statement.permissions.items.map Permission.resource) ++
      [branch.action.envelope.permission.resource]
  Run.forEach resources fun resource => do
    let allowed ← resourceAllowed matcher resource anchor.resourceNamespaces.items false
    Run.ensure (allowed = true) (.denied .resourceNamespaceMismatch)

/-- The ceiling below each grant of the chain must attenuate the one above it; returns the last. -/
def attenuateBudgets : List SignedGrant → Option BudgetCeiling → Metered (Option BudgetCeiling)
  | [], parent => pure parent
  | grant :: grants, parent => do
    let child := grant.statement.budgetCeiling
    match parent with
    | none => attenuateBudgets grants child
    | some parentBudget => do
      let childBudget ← Run.ofOption child (.denied .delegationExpanded)
      let algebra ← Run.ofOption
        (branch.registries.budgetAlgebra branch.context.acceptedRegistries parentBudget.algebra)
        (.indeterminate .unsupportedBudgetAlgebra)
      reserve algebra.maximumWorkUnits
      let narrower ← Run.ofExcept
        ((algebra.attenuates childBudget parentBudget).mapError registryOperationFailure)
      Run.ensure (narrower = true) (.denied .delegationExpanded)
      attenuateBudgets grants child

/-- A bounded terminal authority needs a bounded request, unless the profile cannot state one. -/
def validateBudgetConstraints : Metered Unit := do
  let terminal ← branch.attenuateBudgets branch.chain anchor.budgetCeiling
  let action := branch.action.envelope
  match terminal with
  | none => pure ()
  | some ceiling =>
    match action.requestedBudget with
    | none =>
      match branch.context.acceptedRegistries.profileBudgetExpression action.profile with
      | .inexpressible => pure ()
      | .expressible => Run.fail (.denied .budgetCeilingExceeded)
    | some requested => do
      let algebra ← Run.ofOption
        (branch.registries.budgetAlgebra branch.context.acceptedRegistries ceiling.algebra)
        (.indeterminate .unsupportedBudgetAlgebra)
      reserve algebra.maximumWorkUnits
      let covered ← Run.ofExcept ((algebra.covers ceiling requested).mapError registryOperationFailure)
      Run.ensure (covered = true) (.denied .budgetCeilingExceeded)

end Constraints

section Chain

variable [Cbor] [Sha256] (branch : BranchInput) (anchor : TrustAnchor)

/-- The status of every grant of the chain under its own policy, and of its subject under the
anchor's. -/
def checkChainStatus : Metered Unit :=
  Run.forEach branch.chain fun grant => do
    checkGrantStatus branch.controls branch.context branch.registries grant.statement.statusPolicy
      (grantId grant.statement) anchor
    checkPrincipalStatus branch.controls branch.context branch.registries anchor.statusPolicy
      grant.statement.subject .revocationList anchor

/-- Applies the delegation edges from `authority` on, with the report of every issuer. -/
def delegateFrom (laws : CriticalExtensionLaws) :
    Nat → Option SignedGrant → List SignedGrant → EffectiveAuthority → List ParticipantAssurance →
      Metered (EffectiveAuthority × List ParticipantAssurance)
  | _, _, [], authority, reports => pure (authority, reports)
  | index, parent, grant :: grants, authority, reports => do
    match parent with
    | none => pure ()
    | some parent => do
      Run.ofExcept (requireParentRequirements parent grant)
      reserve (branch.registries.extensionLawWorkUnits branch.context.acceptedRegistries
        grant.statement.extensions parent.statement.extensions)
    let id := grantId grant.statement
    let authority ← Run.ofExcept ((authority.delegate laws id grant.statement).mapError .denied)
    let control ← Run.ofExcept (controlFor branch.controls (.grant id))
    let report ← Run.ofExcept (participantReport control.1 control.2 (grantIssuerRole index))
    evaluateExtensions branch.context branch.registries grant.statement.extensions
    delegateFrom laws (index + 1) (some grant) grants authority (reports ++ [report])

/-- Walks the chain from the anchor and checks the action against the terminal authority. -/
def delegateChain (reports : List ParticipantAssurance) : Metered (List ParticipantAssurance) := do
  let accepted := branch.context.acceptedRegistries
  let (authority, reports) ← branch.delegateFrom (branch.registries.extensionLaws accepted) 0 none
    branch.chain (EffectiveAuthority.fromAnchor anchor) reports
  Run.ofExcept ((authority.authorizes branch.action.envelope accepted).mapError .denied)
  pure reports

omit [Cbor] [Sha256] in
def observationStage : ObservationStage where
  chain := branch.chain
  root := anchor.principal
  action := branch.action
  canonical := branch.canonical
  context := branch.context
  registries := branch.registries

omit [Cbor] [Sha256] in
def approvalInputs : ApprovalInputs where
  controls := branch.controls
  canonical := branch.canonical
  context := branch.context
  registries := branch.registries

/-- The stages of a branch before its approvals: status, constraints, delegation, assurance and
observation. -/
def verifyFromAnchor : Metered (List ParticipantAssurance × List AssuranceSatisfaction ×
    List ObservationSatisfaction) := do
  Run.ensure (actionOrFirstMethod branch.action branch.chain ∈ anchor.acceptedMethods.items ∧
      anchor.assurancePolicy = branch.context.assurancePolicy.id) (.denied .untrustedRoot)
  checkPrincipalStatus branch.controls branch.context branch.registries anchor.statusPolicy
    anchor.principal .required anchor
  branch.checkChainStatus anchor
  branch.validateResourceConstraints anchor
  branch.validateBudgetConstraints anchor
  let rootReports ← Run.ofExcept <|
    if branch.chain.isEmpty then
      (participantReport branch.rootControl.1 branch.rootControl.2 .root).map fun report => [report]
    else .ok []
  let reports ← branch.delegateChain anchor rootReports
  let actionControl ← Run.ofExcept (controlFor branch.controls (.action branch.actionId))
  let actorReport ← Run.ofExcept (participantReport actionControl.1 actionControl.2 .actor)
  let reports := reports ++ [actorReport]
  let assuranceSatisfactions ← evaluateBranchAssurance branch.context branch.registries reports
  let observationSatisfactions ← (branch.observationStage anchor).evaluate
  pure (reports, assuranceSatisfactions, observationSatisfactions)

def verifyBranchFromAnchor (approvals : Approvals) : Approving BranchAuthority := do
  let (assurance, assuranceSatisfactions, observationSatisfactions) ←
    onMeter (branch.verifyFromAnchor anchor)
  let requirements ← Run.ofExcept (chainApprovalRequirements branch.chain)
  branch.approvalInputs.evaluateList approvals requirements false
  pure {
    actionId := branch.actionId
    assurance, assuranceSatisfactions, observationSatisfactions
    approvalRequirements := requirements.map Prod.fst }

/-- Tries the anchors in order; the first that authorizes decides, else the first failure does. -/
def verifyFromAnchors (approvals : Approvals) :
    List TrustAnchor → Option VerificationFailure → Approving BranchAuthority
  | [], firstFailure => Run.fail (firstFailure.getD (.denied .untrustedRoot))
  | anchor :: anchors, firstFailure => do
    match ← Run.attempt (branch.verifyBranchFromAnchor anchor approvals) with
    | .ok authority => pure authority
    | .error failure => verifyFromAnchors approvals anchors (some (firstFailure.getD failure))

end Chain

end BranchInput

section Branch

variable [Cbor] [Sha256] (resolved : ResolvedProof) (controls : List VerifiedControl)
  (canonical : CanonicalAction) (context : ContextParts) (registries : ImmutableRegistries)

/-- The anchor-independent part of a branch: its action, its chain and the control of its root. -/
def branchInput (proofRef : ProofRef) : Except VerificationFailure BranchInput := do
  let action ← match resolved.decoded.bundle.actions.find? fun action =>
      action.envelope.proofRef = proofRef with
    | some action => .ok action
    | none => .error (.denied .missingReference)
  let actionId := actionId action.envelope
  let chain ← branchChain resolved action
  let rootStatement := match chain.head? with
    | some grant => StatementRef.grant (grantId grant.statement)
    | none => StatementRef.action actionId
  let rootControl ← controlFor controls rootStatement
  return { controls, action, actionId, chain, rootControl, canonical, context, registries }

def verifyBranch (approvals : Approvals) (proofRef : ProofRef) : Approving BranchAuthority := do
  let branch ← Run.ofExcept (branchInput resolved controls canonical context registries proofRef)
  let root := rootPrincipal branch.action branch.chain
  branch.verifyFromAnchors approvals
    (context.trustAnchors.filter fun anchor => anchor.principal = root) none

end Branch

end AuthsProof
