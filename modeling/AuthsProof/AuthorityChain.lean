import AuthsProof.Authority
import AuthsProof.Lib.Attenuation

/-! Attenuation over whole delegation chains: what the terminal authority covers lies inside the
anchor and inside every grant on the way. -/

namespace AuthsProof

open Attenuation

/-- What an accepted grant edge establishes between the authority before and after it. -/
structure DelegationEdge (parent : EffectiveAuthority) (grantId : GrantId) (grant : GrantStatement)
    (child : EffectiveAuthority) : Prop where
  issuer_eq : grant.issuer = parent.subject
  parent_eq : grant.parent = parent.lastGrant
  depth_lt : grant.remainingDepth < parent.remainingDepth
  profile : selectedProfileAttenuates parent.profile parent.allowedProfiles grant.profile = true
  permissions : permissionSetIsSubset grant.permissions parent.permissions = true
  validity : validityWindowContains parent.validity grant.validity = true
  audiences : audienceSetIsSubset grant.audiences parent.audiences = true
  constraint : actionConstraintAttenuates grant.actionConstraint parent.actionConstraint = true
  budget : optionalBudgetAttenuates grant.budgetCeiling parent.budgetCeiling = true
  status : statusPolicyAttenuates grant.statusPolicy parent.statusPolicy = true
  assurance : grant.assuranceFloor = parent.assurancePolicy
  child_eq : child = { parent with
    subject := grant.subject
    profile := some grant.profile
    permissions := grant.permissions
    validity := grant.validity
    audiences := grant.audiences
    actionConstraint := grant.actionConstraint
    budgetCeiling := grant.budgetCeiling
    remainingDepth := grant.remainingDepth
    lastGrant := some grantId
    statusPolicy := grant.statusPolicy
    extensions := some grant.extensions }

theorem delegate_ok {laws : CriticalExtensionLaws} {parent child : EffectiveAuthority}
    {grantId : GrantId} {grant : GrantStatement}
    (h : parent.delegate laws grantId grant = .ok child) :
    DelegationEdge parent grantId grant child := by
  rw [EffectiveAuthority.delegate, evaluateGrant] at h
  by_cases hlink : (!(attenuationChecks laws parent grant).rootPreserved ||
      !optionalGrantIdEqual grant.parent parent.lastGrant) = true
  · simp [hlink] at h
  · by_cases haccept : (!attenuationChecksAccept (attenuationChecks laws parent grant)) = true
    · simp [hlink, haccept] at h
    · simp only [hlink, haccept, Bool.false_eq_true, if_false, Except.ok.injEq] at h
      simp only [attenuationChecks, attenuationChecksAccept, rootPreserved, Bool.or_eq_true,
        Bool.not_eq_true', Bool.and_eq_true, not_or, Bool.not_eq_false, principalIdEqual_iff,
        optionalGrantIdEqual_iff, assurancePolicyIdEqual_iff] at hlink haccept
      have hdepth : grant.remainingDepth < parent.remainingDepth := by
        have hd := haccept.1.1.1.1.1.1.1.1.1.2
        rw [depthDecreases] at hd
        split_ifs at hd
        simpa using hd
      exact {
        issuer_eq := hlink.1.2
        parent_eq := hlink.2
        depth_lt := hdepth
        profile := haccept.1.1.1.1.1.1.1.1.2
        permissions := haccept.1.1.1.1.1.1.1.2
        validity := haccept.1.1.1.1.1.1.2
        audiences := haccept.1.1.1.1.1.2
        constraint := haccept.1.1.1.1.2
        budget := haccept.1.1.1.2
        status := haccept.1.1.2
        assurance := haccept.1.2
        child_eq := h.symm }

theorem delegate_extensions {laws : CriticalExtensionLaws} {parent child : EffectiveAuthority}
    {grantId : GrantId} {grant : GrantStatement}
    (h : parent.delegate laws grantId grant = .ok child) :
    extensionsAttenuate laws parent.extensions grant.extensions = true := by
  rw [EffectiveAuthority.delegate, evaluateGrant] at h
  by_cases haccept : attenuationChecksAccept (attenuationChecks laws parent grant) = true
  · simp only [attenuationChecks, attenuationChecksAccept, Bool.and_eq_true] at haccept
    exact haccept.2
  · simp only [haccept, Bool.not_false, if_true] at h
    split_ifs at h

/-- The actions whose scope fields an authority covers; linkage is left out. -/
def coveredActions (registries : AcceptedRegistries) (authority : EffectiveAuthority) :
    Set ActionEnvelope := fun action =>
  selectedProfileAttenuates authority.profile authority.allowedProfiles action.profile = true ∧
  permissionSetContains authority.permissions action.permission = true ∧
  validityWindowContains authority.validity action.validity = true ∧
  audienceSetContains authority.audiences action.audience = true ∧
  actionConstraintAllows authority.actionConstraint action.canonicalBodyDigest = true ∧
  budgetCeilingCoversAction authority.budgetCeiling action.requestedBudget
    (registries.profileBudgetExpression action.profile) = true

theorem authorizes_ok {authority : EffectiveAuthority} {action : ActionEnvelope}
    {registries : AcceptedRegistries} (h : authority.authorizes action registries = .ok ()) :
    action.actor = authority.subject ∧ action.terminalGrant = authority.lastGrant ∧
      action ∈ coveredActions registries authority := by
  rw [EffectiveAuthority.authorizes, evaluateActionCoverage] at h
  split_ifs at h with hlink hprofile hperm hvalid haud hbody hbudget
  simp only [rootPreserved, Bool.or_eq_true, Bool.not_eq_true', not_or, Bool.not_eq_false,
    Bool.and_eq_true, principalIdEqual_iff, optionalGrantIdEqual_iff] at *
  exact ⟨hlink.1.2, hlink.2, hprofile, hperm, hvalid, haud, hbody, hbudget⟩

theorem budgetCeilingCoversAction_of_attenuates {child parent requested : Option BudgetCeiling}
    {expression : ProfileBudgetExpression} (h : optionalBudgetAttenuates child parent = true)
    (hc : budgetCeilingCoversAction child requested expression = true) :
    budgetCeilingCoversAction parent requested expression = true := by
  cases requested with
  | none =>
    cases expression with
    | inexpressible => rfl
    | expressible => exact optionalBudgetCovers_of_attenuates h hc
  | some requested => exact optionalBudgetCovers_of_attenuates h hc

/-- The actions inside the scope a grant states. -/
def grantedActions (registries : AcceptedRegistries) (grant : GrantStatement) : Set ActionEnvelope :=
  fun action =>
    action.profile = grant.profile ∧
    permissionSetContains grant.permissions action.permission = true ∧
    validityWindowContains grant.validity action.validity = true ∧
    audienceSetContains grant.audiences action.audience = true ∧
    actionConstraintAllows grant.actionConstraint action.canonicalBodyDigest = true ∧
    budgetCeilingCoversAction grant.budgetCeiling action.requestedBudget
      (registries.profileBudgetExpression action.profile) = true

/-- One edge narrows: the child covers nothing outside its parent or outside its grant. -/
theorem DelegationEdge.coveredActions_subset {registries : AcceptedRegistries}
    {parent child : EffectiveAuthority} {grantId : GrantId} {grant : GrantStatement}
    (h : DelegationEdge parent grantId grant child) :
    coveredActions registries child ⊆
      coveredActions registries parent ∩ grantedActions registries grant := by
  rintro action ⟨hprofile, hperm, hvalid, haud, hbody, hbudget⟩
  rw [h.child_eq] at hprofile hperm hvalid haud hbody hbudget
  have hprofile' : grant.profile = action.profile := by
    simpa [selectedProfileAttenuates] using hprofile
  refine ⟨⟨hprofile' ▸ h.profile, ?_, validityWindowContains_trans h.validity hvalid, ?_,
    actionConstraintAllows_of_attenuates h.constraint hbody,
    budgetCeilingCoversAction_of_attenuates h.budget hbudget⟩,
    hprofile'.symm, hperm, hvalid, haud, hbody, hbudget⟩
  · rw [permissionSetContains_iff] at hperm ⊢
    exact permissionSetIsSubset_iff.mp h.permissions hperm
  · rw [audienceSetContains_iff] at haud ⊢
    exact audienceSetIsSubset_iff.mp h.audiences haud

def delegateStep (laws : CriticalExtensionLaws) (authority : EffectiveAuthority)
    (grant : GrantId × GrantStatement) : Except DenialReason EffectiveAuthority :=
  authority.delegate laws grant.1 grant.2

theorem delegateStep_ok {laws : CriticalExtensionLaws} {parent child : EffectiveAuthority}
    {grant : GrantId × GrantStatement} (h : delegateStep laws parent grant = .ok child) :
    DelegationEdge parent grant.1 grant.2 child :=
  delegate_ok h

abbrev delegateChain (laws : CriticalExtensionLaws) (anchor : TrustAnchor)
    (grants : List (GrantId × GrantStatement)) : Except DenialReason EffectiveAuthority :=
  run (delegateStep laws) (EffectiveAuthority.fromAnchor anchor) grants

/-- What every authority on a chain from `anchor` keeps: the root, the assurance floor, and a status
policy no weaker than the anchor's. -/
structure Rooted (anchor : TrustAnchor) (authority : EffectiveAuthority) : Prop where
  root_eq : authority.root = anchor.principal
  assurance_eq : authority.assurancePolicy = anchor.assurancePolicy
  status : statusPolicyAttenuates authority.statusPolicy anchor.statusPolicy = true

theorem rooted_fromAnchor (anchor : TrustAnchor) :
    Rooted anchor (EffectiveAuthority.fromAnchor anchor) :=
  ⟨rfl, rfl, statusPolicyAttenuates_refl _⟩

/-- What every grant of a chain from `anchor` keeps of it. -/
structure RootedGrant (anchor : TrustAnchor) (grant : GrantId × GrantStatement) : Prop where
  assurance_eq : grant.2.assuranceFloor = anchor.assurancePolicy
  status : statusPolicyAttenuates grant.2.statusPolicy anchor.statusPolicy = true

theorem DelegationEdge.rooted {anchor : TrustAnchor} {parent child : EffectiveAuthority}
    {grant : GrantId × GrantStatement} (h : DelegationEdge parent grant.1 grant.2 child)
    (hparent : Rooted anchor parent) : Rooted anchor child ∧ RootedGrant anchor grant := by
  have hstatus := statusPolicyAttenuates_trans h.status hparent.status
  rw [h.child_eq]
  exact ⟨⟨hparent.root_eq, hparent.assurance_eq, hstatus⟩,
    ⟨h.assurance.trans hparent.assurance_eq, hstatus⟩⟩

/-- The principal, grant and depth an authority hands to its next edge. -/
structure Handover where
  subject : PrincipalId
  lastGrant : Option GrantId
  remainingDepth : UInt16

def EffectiveAuthority.handover (authority : EffectiveAuthority) : Handover :=
  ⟨authority.subject, authority.lastGrant, authority.remainingDepth⟩

def grantHandover (grant : GrantId × GrantStatement) : Handover :=
  ⟨grant.2.subject, some grant.1, grant.2.remainingDepth⟩

/-- A grant issued by the principal it is handed, naming the grant before it, with less depth. -/
structure Follows (handover : Handover) (grant : GrantId × GrantStatement) : Prop where
  issuer_eq : grant.2.issuer = handover.subject
  parent_eq : grant.2.parent = handover.lastGrant
  depth_lt : grant.2.remainingDepth < handover.remainingDepth

theorem DelegationEdge.follows {parent child : EffectiveAuthority}
    {grant : GrantId × GrantStatement} (h : DelegationEdge parent grant.1 grant.2 child) :
    Follows parent.handover grant ∧ child.handover = grantHandover grant := by
  refine ⟨⟨h.issuer_eq, h.parent_eq, h.depth_lt⟩, ?_⟩
  rw [h.child_eq]
  rfl

section Chain

variable {laws : CriticalExtensionLaws} {anchor : TrustAnchor}
  {grants : List (GrantId × GrantStatement)} {terminal : EffectiveAuthority}
  (hchain : delegateChain laws anchor grants = .ok terminal)
include hchain

theorem delegateChain_rooted :
    Rooted anchor terminal ∧ ∀ grant ∈ grants, RootedGrant anchor grant :=
  run_invariant (delegateStep laws)
    (fun _ _ _ hstep hparent => (delegateStep_ok hstep).rooted hparent) hchain (rooted_fromAnchor anchor)

theorem delegateChain_linked :
    Linked Follows grantHandover (EffectiveAuthority.fromAnchor anchor).handover grants :=
  run_linked (delegateStep laws) EffectiveAuthority.handover (fun _ _ _ hstep => (delegateStep_ok hstep).follows) hchain

theorem delegateChain_subject :
    terminal.subject = (grants.map fun grant => grant.2.subject).getLastD anchor.principal :=
  run_last (delegateStep laws) EffectiveAuthority.subject
    (fun _ _ _ hstep => congrArg Handover.subject (delegateStep_ok hstep).follows.2) hchain

theorem delegateChain_lastGrant :
    terminal.lastGrant = (grants.map fun grant => some grant.1).getLastD none :=
  run_last (delegateStep laws) EffectiveAuthority.lastGrant
    (fun _ _ _ hstep => congrArg Handover.lastGrant (delegateStep_ok hstep).follows.2) hchain

theorem delegateChain_length : grants.length ≤ anchor.maxDelegationDepth.toNat := by
  have hlength := run_length (delegateStep laws)
    (fun authority : EffectiveAuthority => authority.remainingDepth.toNat) (fun parent grant child hstep => by
      have hedge := delegateStep_ok hstep
      have hlt := UInt16.lt_iff_toNat_lt.mp hedge.depth_lt
      rw [hedge.child_eq]
      exact hlt) hchain
  have hstart : (EffectiveAuthority.fromAnchor anchor).remainingDepth.toNat =
      anchor.maxDelegationDepth.toNat := rfl
  omega

theorem delegateChain_covered (registries : AcceptedRegistries) :
    coveredActions registries terminal ⊆
        coveredActions registries (EffectiveAuthority.fromAnchor anchor) ∧
      ∀ grant ∈ grants, coveredActions registries terminal ⊆ grantedActions registries grant.2 :=
  run_admits (delegateStep laws) (coveredActions registries) (fun grant => grantedActions registries grant.2)
    (fun _ _ _ hstep => (delegateStep_ok hstep).coveredActions_subset) hchain

end Chain

/-- The action's fields lie inside one scope. A ceiling bounds the request, unless the action's
profile is accepted as one whose actions cannot state a budget and none is requested. -/
structure InsideScope (registries : AcceptedRegistries) (action : ActionEnvelope)
    (permissions : PermissionSet) (audiences : AudienceSet) (validity : ValidityWindow)
    (constraint : ActionConstraint) (ceiling : Option BudgetCeiling) : Prop where
  permission : action.permission ∈ permissions.items
  audience : action.audience ∈ audiences.items
  notBefore : validity.notBefore ≤ action.validity.notBefore
  expiresAt : action.validity.expiresAt ≤ validity.expiresAt
  body : actionConstraintAllows constraint action.canonicalBodyDigest = true
  budget : ∀ bound, ceiling = some bound →
    (∃ requested, action.requestedBudget = some requested ∧ requested.algebra = bound.algebra ∧
      requested.value ≤ bound.value) ∨
    (action.requestedBudget = none ∧ action.profile ∈ registries.budgetFreeProfiles.items)

theorem budgetCeilingCoversAction_iff {registries : AcceptedRegistries} {action : ActionEnvelope}
    {ceiling : Option BudgetCeiling} :
    budgetCeilingCoversAction ceiling action.requestedBudget
        (registries.profileBudgetExpression action.profile) = true ↔
      ∀ bound, ceiling = some bound →
        (∃ requested, action.requestedBudget = some requested ∧
          requested.algebra = bound.algebra ∧ requested.value ≤ bound.value) ∨
        (action.requestedBudget = none ∧ action.profile ∈ registries.budgetFreeProfiles.items) := by
  by_cases hfree : action.profile ∈ registries.budgetFreeProfiles.items <;>
    cases hreq : action.requestedBudget <;> cases ceiling <;>
    simp [budgetCeilingCoversAction, optionalBudgetCovers, BudgetCeiling.covers,
      budgetCeilingAttenuates_iff, AcceptedRegistries.profileBudgetExpression, hfree]

theorem insideScope_of_granted {registries : AcceptedRegistries} {action : ActionEnvelope}
    {grant : GrantStatement} (h : action ∈ grantedActions registries grant) :
    action.profile = grant.profile ∧ InsideScope registries action grant.permissions
      grant.audiences grant.validity grant.actionConstraint grant.budgetCeiling := by
  obtain ⟨hprofile, hperm, hvalid, haud, hbody, hbudget⟩ := h
  obtain ⟨hstart, hend⟩ := validityWindowContains_iff.mp hvalid
  exact ⟨hprofile, permissionSetContains_iff.mp hperm, audienceSetContains_iff.mp haud, hstart,
    hend, hbody, budgetCeilingCoversAction_iff.mp hbudget⟩

theorem insideScope_of_anchored {registries : AcceptedRegistries} {action : ActionEnvelope}
    {anchor : TrustAnchor}
    (h : action ∈ coveredActions registries (EffectiveAuthority.fromAnchor anchor)) :
    action.profile ∈ anchor.profiles.items ∧ InsideScope registries action anchor.permissions
      anchor.audiences anchor.validity .anyBody anchor.budgetCeiling := by
  obtain ⟨hprofile, hperm, hvalid, haud, hbody, hbudget⟩ := h
  obtain ⟨hstart, hend⟩ := validityWindowContains_iff.mp hvalid
  exact ⟨(sliceContains_iff profileRefEqual_iff).mp hprofile, permissionSetContains_iff.mp hperm,
    audienceSetContains_iff.mp haud, hstart, hend, hbody, budgetCeilingCoversAction_iff.mp hbudget⟩

/-- An action the terminal authority of a chain accepts lies inside the anchor and inside every grant
of the chain, and the chain is linked, rooted in the anchor and no longer than its depth. -/
theorem delegateChain_sound {laws : CriticalExtensionLaws} {anchor : TrustAnchor}
    {registries : AcceptedRegistries} {action : ActionEnvelope}
    {grants : List (GrantId × GrantStatement)} {terminal : EffectiveAuthority}
    (hchain : delegateChain laws anchor grants = .ok terminal)
    (hcover : terminal.authorizes action registries = .ok ()) :
    terminal.root = anchor.principal ∧
    grants.length ≤ anchor.maxDelegationDepth.toNat ∧
    (∀ first, grants[0]? = some first → first.2.issuer = anchor.principal ∧
      first.2.parent = none ∧ first.2.remainingDepth < anchor.maxDelegationDepth) ∧
    (∀ (i : Nat) grant next, grants[i]? = some grant → grants[i + 1]? = some next →
      next.2.issuer = grant.2.subject ∧ next.2.parent = some grant.1 ∧
      next.2.remainingDepth < grant.2.remainingDepth) ∧
    action.actor = (grants.map fun grant => grant.2.subject).getLastD anchor.principal ∧
    action.terminalGrant = (grants.map fun grant => some grant.1).getLastD none ∧
    action.profile ∈ anchor.profiles.items ∧
    InsideScope registries action anchor.permissions anchor.audiences anchor.validity .anyBody
      anchor.budgetCeiling ∧
    ∀ grant ∈ grants, action.profile = grant.2.profile ∧
      InsideScope registries action grant.2.permissions grant.2.audiences grant.2.validity
        grant.2.actionConstraint grant.2.budgetCeiling ∧
      statusPolicyAttenuates grant.2.statusPolicy anchor.statusPolicy = true ∧
      grant.2.assuranceFloor = anchor.assurancePolicy := by
  obtain ⟨hactor, hterminal, hcovered⟩ := authorizes_ok hcover
  obtain ⟨hrooted, hgrants⟩ := delegateChain_rooted hchain
  obtain ⟨hfirst, hnext⟩ := (delegateChain_linked hchain).getElem
  obtain ⟨hadmits, hscopes⟩ := delegateChain_covered hchain registries
  obtain ⟨hprofile, hanchor⟩ := insideScope_of_anchored (hadmits hcovered)
  refine ⟨hrooted.root_eq, delegateChain_length hchain, fun first h => ?_,
    fun i grant next h h' => ?_, hactor.trans (delegateChain_subject hchain),
    hterminal.trans (delegateChain_lastGrant hchain), hprofile, hanchor, fun grant hgrant => ?_⟩
  · have hfollows := hfirst first h
    exact ⟨hfollows.issuer_eq, hfollows.parent_eq, hfollows.depth_lt⟩
  · have hfollows := hnext i grant next h h'
    exact ⟨hfollows.issuer_eq, hfollows.parent_eq, hfollows.depth_lt⟩
  · obtain ⟨hgrantProfile, hinside⟩ := insideScope_of_granted (hscopes grant hgrant hcovered)
    have hkept := hgrants grant hgrant
    exact ⟨hgrantProfile, hinside, hkept.status, hkept.assurance_eq⟩

section Fixture

theorem sampleVersion_ne : (1 : UInt16) ≠ 0 := by decide

theorem sampleWindow_ordered : (0 : Timestamp) ≤ 100 := by decide

theorem sampleAlgebra_bounded : boundedText 128 "numeric-ceiling-v1" = true := by decide

def sampleProfile : ProfileRef := ⟨⟨"deploy", by decide⟩, 1, sampleVersion_ne⟩

def samplePermission : Permission := ⟨⟨"deploy", by decide⟩, ⟨"cluster://production", by decide⟩⟩

def samplePermissions : PermissionSet :=
  ⟨[samplePermission], by decide, by decide, List.pairwise_singleton ..⟩

def sampleAudience : Audience := ⟨"gateway", by decide⟩

def sampleAudiences : AudienceSet :=
  ⟨[sampleAudience], by decide, by decide, List.pairwise_singleton ..⟩

def sampleRoot : PrincipalId := ⟨"raw:root", by decide, by decide⟩

def sampleAgent : PrincipalId := ⟨"raw:agent", by decide, by decide⟩

def sampleBudget (value : UInt64) : BudgetCeiling := ⟨⟨"numeric-ceiling-v1", sampleAlgebra_bounded⟩, value⟩

def sampleId : BoundedString 128 := ⟨"sample", by decide⟩

def sampleIds : RegistryList (BoundedString 128) :=
  ⟨[sampleId], by decide, List.pairwise_singleton ..⟩

def sampleProfiles : RegistryList ProfileRef :=
  ⟨[sampleProfile], by decide, List.pairwise_singleton ..⟩

theorem sampleIds_nonempty : sampleIds.items ≠ [] := by decide

theorem sampleNamespace_bounded : [samplePermission.resource].length ≤ hardMaxPermissions := by
  decide

theorem sampleNamespace_sorted : [samplePermission.resource].Pairwise (· < ·) :=
  List.pairwise_singleton ..

def sampleAnchor : TrustAnchor where
  id := sampleId
  principal := sampleRoot
  acceptedMethods := sampleIds
  profiles := sampleProfiles
  permissions := samplePermissions
  resourceNamespaces := ⟨[], by decide, List.Pairwise.nil⟩
  audiences := sampleAudiences
  validity := ⟨0, 100, by decide⟩
  budgetCeiling := some (sampleBudget 10)
  maxDelegationDepth := 2
  assurancePolicy := sampleId
  statusPolicy := .expiryOnly
  methodsNonempty := by decide
  profilesNonempty := by decide

def sampleGrant : GrantStatement where
  issuer := sampleRoot
  subject := sampleAgent
  profile := sampleProfile
  permissions := samplePermissions
  validity := ⟨10, 90, by decide⟩
  audiences := sampleAudiences
  actionConstraint := .exactBodyDigest (.filled 7)
  budgetCeiling := some (sampleBudget 5)
  remainingDepth := 1
  parent := none
  statusPolicy := .expiryOnly
  assuranceFloor := sampleId
  extensions := .empty

/-- An action by `actor` under `grant` that requests `budget`. -/
def sampleAction (actor : PrincipalId) (grant : Option GrantId) (budget : Option BudgetCeiling) :
    ActionEnvelope where
  profile := sampleProfile
  bodyMediaType := sampleId
  canonicalBodyDigest := .filled 7
  permission := samplePermission
  requestedBudget := budget
  audience := sampleAudience
  challenge := .zero
  validity := ⟨20, 80, by decide⟩
  actor
  terminalGrant := grant
  authorizationPlan := .zero
  channelBinding := sampleId
  proofRef := .zero
  attachments := []
  extensions := .empty

/-- Registries whose budget-free profiles are `free`. -/
def sampleRegistries (free : RegistryList ProfileRef) (h : free.items ⊆ sampleProfiles.items) :
    AcceptedRegistries where
  manifestId := .zero
  principalMethods := sampleIds
  signatureSuites := sampleIds
  evidenceTypes := sampleIds
  principalStatusMethods := sampleIds
  grantStatusMethods := sampleIds
  assuranceClaims := sampleIds
  assuranceImplications := sampleIds
  resourceMatchers := sampleIds
  budgetAlgebras := sampleIds
  criticalExtensions := sampleIds
  profiles := sampleProfiles
  profilePolicies := sampleIds
  budgetFreeProfiles := free
  methodsNonempty := by decide
  suitesNonempty := by decide
  matchersNonempty := by decide
  profilesNonempty := by decide
  policiesNonempty := by decide
  budgetFreeAccepted := h

def sampleLaws : CriticalExtensionLaws := ⟨fun _ _ _ => false⟩

end Fixture

theorem delegateChain_sample :
    sampleGrant.assuranceFloor = sampleAnchor.assurancePolicy ∧
      ∃ requested, (sampleAction sampleAgent (some (.filled 1)) (some (sampleBudget 4))).requestedBudget
        = some requested ∧ requested.value ≤ 5 := by
  have hsound := @delegateChain_sound sampleLaws sampleAnchor
    (sampleRegistries ⟨[], by decide, List.Pairwise.nil⟩ (by simp))
    (sampleAction sampleAgent (some (.filled 1)) (some (sampleBudget 4)))
    [(.filled 1, sampleGrant)] _ rfl rfl
  obtain ⟨-, hinside, -, hassurance⟩ :=
    hsound.2.2.2.2.2.2.2.2 (.filled 1, sampleGrant) (by simp)
  refine ⟨hassurance, ?_⟩
  rcases hinside.budget (sampleBudget 5) rfl with ⟨requested, hrequested, -, hvalue⟩ | ⟨hnone, -⟩
  · exact ⟨requested, hrequested, hvalue⟩
  · cases hnone

/-- A ceiling need not bound the request: an action of a budget-free profile that requests nothing
is accepted under one. -/
theorem authorizes_budgetFree :
    delegateChain sampleLaws sampleAnchor [] = .ok (EffectiveAuthority.fromAnchor sampleAnchor) ∧
      (EffectiveAuthority.fromAnchor sampleAnchor).authorizes (sampleAction sampleRoot none none)
        (sampleRegistries sampleProfiles (by simp)) = .ok () ∧
      sampleAnchor.budgetCeiling = some (sampleBudget 10) ∧
      ¬ ∃ requested, (sampleAction sampleRoot none none).requestedBudget = some requested ∧
        requested.algebra = (sampleBudget 10).algebra ∧
        requested.value ≤ (sampleBudget 10).value :=
  ⟨rfl, rfl, rfl, fun ⟨_, h, _⟩ => nomatch h⟩

end AuthsProof
