import AuthsProof.Approval
import AuthsProof.Observation

/-! Trusted contexts: everything a verifier decides by, cross-checked once when it is built. -/

namespace AuthsProof

open Sorting

/-- What a relying party asks of a plan beyond what the proof carries. -/
structure CompositionRequirement where
  expectedPlan : Option PlanId
  minimumAuthorizedBranches : UInt16
  minimumDistinctActors : UInt16
  minimumDistinctRoots : UInt16
  bounded : minimumAuthorizedBranches ≠ 0 ∧ minimumDistinctActors ≠ 0 ∧ minimumDistinctRoots ≠ 0 ∧
    minimumDistinctActors ≤ minimumAuthorizedBranches ∧
    minimumDistinctRoots ≤ minimumAuthorizedBranches ∧
    minimumAuthorizedBranches.toNat ≤ hardLimit .planLeaves
  deriving DecidableEq

def CompositionRequirement.new (expectedPlan : Option PlanId)
    (minimumAuthorizedBranches minimumDistinctActors minimumDistinctRoots : UInt16) :
    Except ModelError CompositionRequirement :=
  if h : minimumAuthorizedBranches ≠ 0 ∧ minimumDistinctActors ≠ 0 ∧ minimumDistinctRoots ≠ 0 ∧
      minimumDistinctActors ≤ minimumAuthorizedBranches ∧
      minimumDistinctRoots ≤ minimumAuthorizedBranches ∧
      minimumAuthorizedBranches.toNat ≤ hardLimit .planLeaves then
    .ok ⟨expectedPlan, minimumAuthorizedBranches, minimumDistinctActors, minimumDistinctRoots, h⟩
  else .error .invalidVerifierContext

@[simp] theorem CompositionRequirement.new_self (c : CompositionRequirement) :
    CompositionRequirement.new c.expectedPlan c.minimumAuthorizedBranches c.minimumDistinctActors
      c.minimumDistinctRoots = .ok c :=
  dif_pos c.bounded

/-- The scope of the first rule that names an issuer. -/
def firstScope (trust : List StatusTrustRule) (issuer : PrincipalId) : Option StatusScope :=
  (trust.find? fun rule => rule.issuer = issuer).map StatusTrustRule.scope

def statusScopesApply (trust : List StatusTrustRule) (anchors : List TrustAnchor) : Bool :=
  trust.all fun rule =>
    (match rule.scope with
      | .ownAnchor => anchors.any fun anchor => anchor.principal = rule.issuer
      | .anchors listed => listed.items.all fun id => anchors.any fun anchor => anchor.id = id
      | .anyAnchor => true) &&
    firstScope trust rule.issuer = some rule.scope

/-- Whether the registries accept the principal-status method of a policy that names one. -/
def statusPolicyAccepted (registries : AcceptedRegistries) : StatusPolicy → Bool
  | .expiryOnly => true
  | .snapshotRequired method _ => registries.acceptsPrincipalStatusMethod method

def trustAnchorAccepted (registries : AcceptedRegistries) (anchor : TrustAnchor) : Bool :=
  (anchor.acceptedMethods.items.all fun method => registries.acceptsPrincipalMethod method) &&
    (anchor.profiles.items.all fun profile => registries.acceptsProfile profile) &&
    statusPolicyAccepted registries anchor.statusPolicy

def observerAnchorAccepted (registries : AcceptedRegistries) (anchor : ObserverAnchor) : Bool :=
  anchor.acceptedMethods.items.all fun method => registries.acceptsPrincipalMethod method

def approverAnchorAccepted (registries : AcceptedRegistries) (anchor : ApproverAnchor) : Bool :=
  (anchor.acceptedMethods.items.all fun method => registries.acceptsPrincipalMethod method) &&
    statusPolicyAccepted registries anchor.statusPolicy

/-- The data of a context, before the cross-checks. -/
structure ContextParts where
  configuration : VerifierConfigurationId
  composition : CompositionRequirement
  trustAnchors : List TrustAnchor
  acceptedRegistries : AcceptedRegistries
  expectedAudience : Audience
  expectedChallenge : Challenge
  evaluationTime : Timestamp
  assurancePolicy : AssurancePolicy
  principalStatusSnapshot : PrincipalStatusSnapshot
  grantStatusSnapshot : GrantStatusSnapshot
  resourceMatcher : ResourceMatcherId
  profilePolicy : ProfilePolicyId
  channelPolicy : ChannelBindingId
  limits : VerifierLimits
  observerAnchors : List ObserverAnchor
  approverAnchors : List ApproverAnchor
  approvalRequirements : List ApprovalRequirement

namespace ContextParts

variable (parts : ContextParts)

/-- The bounds and registry selections `TrustedContext::new` checks. -/
def baseAccepted : Bool :=
  !parts.trustAnchors.isEmpty &&
    parts.composition.minimumAuthorizedBranches.toNat ≤ parts.limits.get .planLeaves &&
    parts.trustAnchors.length ≤ parts.limits.get .trustAnchors &&
    parts.trustAnchors.all (trustAnchorAccepted parts.acceptedRegistries) &&
    (parts.assurancePolicy.requirements.items.all fun requirement =>
      parts.acceptedRegistries.acceptsAssuranceClaim requirement.claimKind) &&
    parts.acceptedRegistries.acceptsResourceMatcher parts.resourceMatcher &&
    parts.acceptedRegistries.acceptsProfilePolicy parts.profilePolicy &&
    parts.acceptedRegistries.maximumEntryCount ≤ parts.limits.get .registryEntries &&
    parts.assurancePolicy.requirements.items.length ≤ parts.limits.get .evidenceObjects &&
    parts.principalStatusSnapshot.statements.length ≤
      parts.limits.get .principalStatusStatements &&
    parts.grantStatusSnapshot.statements.length ≤ parts.limits.get .grantStatusStatements &&
    parts.principalStatusSnapshot.checkpoints.items.length ≤ parts.limits.get .evidenceObjects &&
    parts.grantStatusSnapshot.checkpoints.items.length ≤ parts.limits.get .evidenceObjects &&
    parts.principalStatusSnapshot.trust.length ≤ parts.limits.get .registryEntries &&
    parts.grantStatusSnapshot.trust.length ≤ parts.limits.get .registryEntries &&
    statusScopesApply parts.principalStatusSnapshot.trust parts.trustAnchors &&
    statusScopesApply parts.grantStatusSnapshot.trust parts.trustAnchors

def observersAccepted : Bool :=
  parts.observerAnchors.length ≤ maxObserverAnchors &&
    parts.observerAnchors.all (observerAnchorAccepted parts.acceptedRegistries)

def anchored (principal : PrincipalId) : Bool :=
  parts.approverAnchors.any fun anchor => anchor.principal = principal

def approverAnchor (principal : PrincipalId) : Option ApproverAnchor :=
  parts.approverAnchors.find? fun anchor => anchor.principal = principal

def approvalsAccepted : Bool :=
  parts.approverAnchors.length ≤ parts.limits.get .approverAnchors &&
    parts.approvalRequirements.length ≤ parts.limits.get .approvalRequirements &&
    parts.approverAnchors.all (approverAnchorAccepted parts.acceptedRegistries) &&
    parts.approvalRequirements.Nodup &&
    parts.approvalRequirements.all fun requirement =>
      requirement.approvers.items.all parts.anchored

end ContextParts

/-- An explicit, immutable trusted context. -/
structure TrustedContext extends ContextParts where
  anchorsSorted : trustAnchors.Pairwise fun a b => a.id < b.id
  isAccepted : toContextParts.baseAccepted = true
  observersSorted : observerAnchors.Pairwise fun a b => a.id < b.id
  observersOk : toContextParts.observersAccepted = true
  approversSorted : approverAnchors.Pairwise fun a b => a.principal < b.principal
  approvalsOk : toContextParts.approvalsAccepted = true

namespace TrustedContext

theorem toContextParts_injective : Function.Injective toContextParts := by
  intro a b h
  cases a
  cases b
  cases h
  rfl

def new (configuration : VerifierConfigurationId) (composition : CompositionRequirement)
    (trustAnchors : List TrustAnchor) (acceptedRegistries : AcceptedRegistries)
    (expectedAudience : Audience) (expectedChallenge : Challenge) (evaluationTime : Timestamp)
    (assurancePolicy : AssurancePolicy) (principalStatusSnapshot : PrincipalStatusSnapshot)
    (grantStatusSnapshot : GrantStatusSnapshot) (resourceMatcher : ResourceMatcherId)
    (profilePolicy : ProfilePolicyId) (channelPolicy : ChannelBindingId) (limits : VerifierLimits) :
    Except ModelError TrustedContext :=
  let parts : ContextParts := {
    configuration, composition, acceptedRegistries, expectedAudience, expectedChallenge,
    evaluationTime, assurancePolicy, principalStatusSnapshot, grantStatusSnapshot, resourceMatcher,
    profilePolicy, channelPolicy, limits
    trustAnchors := sortByKey TrustAnchor.id trustAnchors
    observerAnchors := []
    approverAnchors := []
    approvalRequirements := [] }
  if h : adjacentDistinct (parts.trustAnchors.map TrustAnchor.id) = true ∧ parts.baseAccepted = true
  then
    .ok { parts with
      anchorsSorted := pairwise_lt_of_adjacentDistinct (sortByKey_pairwise _ _) h.1
      isAccepted := h.2
      observersSorted := List.Pairwise.nil
      observersOk := rfl
      approversSorted := List.Pairwise.nil
      approvalsOk := rfl }
  else .error .invalidVerifierContext

def withObserverAnchors (context : TrustedContext) (observerAnchors : List ObserverAnchor) :
    Except ModelError TrustedContext :=
  let parts : ContextParts :=
    { context.toContextParts with observerAnchors := sortByKey ObserverAnchor.id observerAnchors }
  if h : adjacentDistinct (parts.observerAnchors.map ObserverAnchor.id) = true ∧
      parts.observersAccepted = true then
    .ok { context with
      observerAnchors := parts.observerAnchors
      observersSorted := pairwise_lt_of_adjacentDistinct (sortByKey_pairwise _ _) h.1
      observersOk := h.2 }
  else .error .invalidVerifierContext

def withApprovals (context : TrustedContext) (approverAnchors : List ApproverAnchor)
    (approvalRequirements : List ApprovalRequirement) : Except ModelError TrustedContext :=
  let parts : ContextParts := {
    context.toContextParts with
    approverAnchors := sortByKey ApproverAnchor.principal approverAnchors
    approvalRequirements }
  if h : adjacentDistinct (parts.approverAnchors.map ApproverAnchor.principal) = true ∧
      parts.approvalsAccepted = true then
    .ok { context with
      approverAnchors := parts.approverAnchors
      approvalRequirements
      approversSorted := pairwise_lt_of_adjacentDistinct (sortByKey_pairwise _ _) h.1
      approvalsOk := h.2 }
  else .error .invalidVerifierContext

/-- A context rebuilt by its constructors is the context itself. -/
theorem new_withApprovals (c : TrustedContext) :
    (new c.configuration c.composition c.trustAnchors c.acceptedRegistries c.expectedAudience
      c.expectedChallenge c.evaluationTime c.assurancePolicy c.principalStatusSnapshot
      c.grantStatusSnapshot c.resourceMatcher c.profilePolicy c.channelPolicy c.limits >>= fun base =>
      base.withObserverAnchors c.observerAnchors >>= fun observed =>
        observed.withApprovals c.approverAnchors c.approvalRequirements) = .ok c := by
  have hanchors := sortByKey_of_pairwise (c.anchorsSorted.imp fun h => h.le)
  have hobservers := sortByKey_of_pairwise (c.observersSorted.imp fun h => h.le)
  have happrovers := sortByKey_of_pairwise (c.approversSorted.imp fun h => h.le)
  have hanchorIds := adjacentDistinct_of_pairwise_lt c.anchorsSorted
  have hobserverIds := adjacentDistinct_of_pairwise_lt c.observersSorted
  have happroverIds := adjacentDistinct_of_pairwise_lt c.approversSorted
  have hbase : ContextParts.baseAccepted { c.toContextParts with
      observerAnchors := [], approverAnchors := [], approvalRequirements := [] } = true :=
    c.isAccepted
  have hobserved : ContextParts.observersAccepted { c.toContextParts with
      approverAnchors := [], approvalRequirements := [] } = true := c.observersOk
  have happroved : ContextParts.approvalsAccepted c.toContextParts = true := c.approvalsOk
  simp only [new, hanchors, hanchorIds, hbase, and_self, dif_pos, bind, Except.bind,
    withObserverAnchors, hobservers, hobserverIds, hobserved, withApprovals, happrovers, happroverIds,
    happroved]

end TrustedContext

end AuthsProof
