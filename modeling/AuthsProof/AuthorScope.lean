import AuthsProof.AuthorityChain

/-! The scope check an author runs before signing a child grant, and its agreement with the kernel that
judges the signed grant against the authority of the whole chain. -/

namespace AuthsProof

open Attenuation

/-- Ordered authority dimension of the pre-signing diagnostics. -/
inductive AuthorityDimension where
  | profile
  | permissions
  | validity
  | audiences
  | actionConstraint
  | budget
  | delegationDepth
  | status
  | assurance
  | extensions
  deriving DecidableEq

inductive AuthorScopeDecision where
  | accepted
  | denied (dimension : AuthorityDimension)
  deriving DecidableEq

structure ScopeAuthorityView where
  profile : ProfileRef
  permissions : PermissionSet
  validity : ValidityWindow
  audiences : AudienceSet
  actionConstraint : ActionConstraint
  budgetCeiling : Option BudgetCeiling
  remainingDepth : UInt16
  statusPolicy : StatusPolicy
  assuranceFloor : AssurancePolicyId
  extensions : CriticalExtensions

/-- `scope_authority_view` of `grant_authority_view`. -/
def scopeAuthorityView (grant : GrantStatement) : ScopeAuthorityView where
  profile := grant.profile
  permissions := grant.permissions
  validity := grant.validity
  audiences := grant.audiences
  actionConstraint := grant.actionConstraint
  budgetCeiling := grant.budgetCeiling
  remainingDepth := grant.remainingDepth
  statusPolicy := grant.statusPolicy
  assuranceFloor := grant.assuranceFloor
  extensions := grant.extensions

/-- The first dimension in which the child is not inside the parent. -/
def evaluateAuthorScopeView (parent child : ScopeAuthorityView) (laws : CriticalExtensionLaws) :
    AuthorScopeDecision :=
  if !profileRefEqual child.profile parent.profile then .denied .profile
  else if !permissionSetIsSubset child.permissions parent.permissions then .denied .permissions
  else if !validityWindowContains parent.validity child.validity then .denied .validity
  else if !audienceSetIsSubset child.audiences parent.audiences then .denied .audiences
  else if !actionConstraintAttenuates child.actionConstraint parent.actionConstraint then
    .denied .actionConstraint
  else if !optionalBudgetAttenuates child.budgetCeiling parent.budgetCeiling then .denied .budget
  else if parent.remainingDepth = 0 ∨ parent.remainingDepth ≤ child.remainingDepth then
    .denied .delegationDepth
  else if !statusPolicyAttenuates child.statusPolicy parent.statusPolicy then .denied .status
  else if !assurancePolicyIdEqual child.assuranceFloor parent.assuranceFloor then .denied .assurance
  else if !criticalExtensionsAttenuate laws child.extensions parent.extensions then
    .denied .extensions
  else .accepted

/-- The kernel's check of one dimension. -/
def AttenuationChecks.dimension (checks : AttenuationChecks) : AuthorityDimension → Bool
  | .profile => checks.profileAttenuates
  | .permissions => checks.permissionsAttenuate
  | .validity => checks.validityAttenuates
  | .audiences => checks.audiencesAttenuate
  | .actionConstraint => checks.actionConstraintAttenuates
  | .budget => checks.budgetAttenuates
  | .delegationDepth => checks.depthDecreases
  | .status => checks.statusAttenuates
  | .assurance => checks.assuranceAttenuates
  | .extensions => checks.extensionsAttenuate

def authorityDimensions : List AuthorityDimension :=
  [.profile, .permissions, .validity, .audiences, .actionConstraint, .budget, .delegationDepth, .status,
    .assurance, .extensions]

theorem mem_authorityDimensions (dimension : AuthorityDimension) : dimension ∈ authorityDimensions := by
  cases dimension <;> decide

/-- The first of the dimensions that the checks refuse. -/
def firstRefused (checks : AttenuationChecks) : List AuthorityDimension → AuthorScopeDecision
  | [] => .accepted
  | dimension :: dimensions =>
    if !checks.dimension dimension then .denied dimension else firstRefused checks dimensions

theorem firstRefused_accepted {checks : AttenuationChecks} {dimensions : List AuthorityDimension} :
    firstRefused checks dimensions = .accepted ↔
      ∀ dimension ∈ dimensions, checks.dimension dimension = true := by
  induction dimensions with
  | nil => simp [firstRefused]
  | cons dimension dimensions ih =>
    by_cases hcheck : checks.dimension dimension = true
    · simp [firstRefused, hcheck, ih]
    · simp [firstRefused, hcheck]

theorem firstRefused_denied {checks : AttenuationChecks} {dimensions : List AuthorityDimension}
    {dimension : AuthorityDimension} (h : firstRefused checks dimensions = .denied dimension) :
    checks.dimension dimension = false := by
  induction dimensions with
  | nil => simp [firstRefused] at h
  | cons first dimensions ih =>
    by_cases hcheck : checks.dimension first = true
    · simp only [firstRefused, hcheck, Bool.not_true, Bool.false_eq_true, if_false] at h
      exact ih h
    · simp only [firstRefused, hcheck, Bool.not_false, if_true, AuthorScopeDecision.denied.injEq] at h
      rw [← h]
      simpa using hcheck

/-- The kernel accepts the checks when the root is preserved and every dimension holds. -/
theorem attenuationChecksAccept_iff {checks : AttenuationChecks} :
    attenuationChecksAccept checks = true ↔
      checks.rootPreserved = true ∧ ∀ dimension, checks.dimension dimension = true := by
  simp only [attenuationChecksAccept, Bool.and_eq_true]
  constructor
  · intro h
    refine ⟨by simp_all, fun dimension => ?_⟩
    cases dimension <;> simp_all [AttenuationChecks.dimension]
  · rintro ⟨hroot, h⟩
    exact ⟨⟨⟨⟨⟨⟨⟨⟨⟨⟨hroot, h .delegationDepth⟩, h .profile⟩, h .permissions⟩, h .validity⟩, h .audiences⟩,
      h .actionConstraint⟩, h .budget⟩, h .status⟩, h .assurance⟩, h .extensions⟩

/-- The accumulated authority is in every scope field that of one grant. -/
structure HoldsGrant (authority : EffectiveAuthority) (grantId : GrantId) (grant : GrantStatement) :
    Prop where
  subject_eq : authority.subject = grant.subject
  profile_eq : authority.profile = some grant.profile
  permissions_eq : authority.permissions = grant.permissions
  validity_eq : authority.validity = grant.validity
  audiences_eq : authority.audiences = grant.audiences
  constraint_eq : authority.actionConstraint = grant.actionConstraint
  budget_eq : authority.budgetCeiling = grant.budgetCeiling
  depth_eq : authority.remainingDepth = grant.remainingDepth
  lastGrant_eq : authority.lastGrant = some grantId
  status_eq : authority.statusPolicy = grant.statusPolicy
  assurance_eq : authority.assurancePolicy = grant.assuranceFloor
  extensions_eq : authority.extensions = some grant.extensions

/-- One edge leaves the authority of its own grant. The kernel never updates the assurance policy, but
accepts only grants that name it. -/
theorem DelegationEdge.holdsGrant {parent child : EffectiveAuthority} {grantId : GrantId}
    {grant : GrantStatement} (h : DelegationEdge parent grantId grant child) :
    HoldsGrant child grantId grant := by
  have hassurance := h.assurance
  rw [h.child_eq]
  exact ⟨rfl, rfl, rfl, rfl, rfl, rfl, rfl, rfl, rfl, rfl, hassurance.symm, rfl⟩

section Agreement

variable {authority : EffectiveAuthority} {grantId : GrantId} {grant : GrantStatement}
  (laws : CriticalExtensionLaws) (child : GrantStatement)

/-- Before signing, the author sees the first dimension that the kernel's checks refuse. -/
theorem evaluateAuthorScopeView_eq (h : HoldsGrant authority grantId grant) :
    evaluateAuthorScopeView (scopeAuthorityView grant) (scopeAuthorityView child) laws =
      firstRefused (attenuationChecks laws authority child) authorityDimensions := by
  have hprofile : profileRefEqual child.profile grant.profile =
      (attenuationChecks laws authority child).dimension .profile := by
    simp only [attenuationChecks, AttenuationChecks.dimension, h.profile_eq, selectedProfileAttenuates]
    rw [Bool.eq_iff_iff, profileRefEqual_iff, profileRefEqual_iff]
    exact eq_comm
  have hpermissions : permissionSetIsSubset child.permissions grant.permissions =
      (attenuationChecks laws authority child).dimension .permissions := by
    rw [← h.permissions_eq]; rfl
  have hvalidity : validityWindowContains grant.validity child.validity =
      (attenuationChecks laws authority child).dimension .validity := by
    rw [← h.validity_eq]; rfl
  have haudiences : audienceSetIsSubset child.audiences grant.audiences =
      (attenuationChecks laws authority child).dimension .audiences := by
    rw [← h.audiences_eq]; rfl
  have hconstraint : actionConstraintAttenuates child.actionConstraint grant.actionConstraint =
      (attenuationChecks laws authority child).dimension .actionConstraint := by
    rw [← h.constraint_eq]; rfl
  have hbudget : optionalBudgetAttenuates child.budgetCeiling grant.budgetCeiling =
      (attenuationChecks laws authority child).dimension .budget := by
    rw [← h.budget_eq]; rfl
  have hdepth : (grant.remainingDepth = 0 ∨ grant.remainingDepth ≤ child.remainingDepth) =
      ((!(attenuationChecks laws authority child).dimension .delegationDepth) = true) := by
    by_cases hzero : grant.remainingDepth = 0
    · simp [attenuationChecks, AttenuationChecks.dimension, h.depth_eq, depthDecreases, hzero]
    · simp [attenuationChecks, AttenuationChecks.dimension, h.depth_eq, depthDecreases, hzero]
  have hstatus : statusPolicyAttenuates child.statusPolicy grant.statusPolicy =
      (attenuationChecks laws authority child).dimension .status := by
    rw [← h.status_eq]; rfl
  have hassurance : assurancePolicyIdEqual child.assuranceFloor grant.assuranceFloor =
      (attenuationChecks laws authority child).dimension .assurance := by
    rw [← h.assurance_eq]; rfl
  have hextensions : criticalExtensionsAttenuate laws child.extensions grant.extensions =
      (attenuationChecks laws authority child).dimension .extensions := by
    simp [attenuationChecks, AttenuationChecks.dimension, h.extensions_eq, extensionsAttenuate]
  simp only [evaluateAuthorScopeView, scopeAuthorityView, hprofile, hpermissions, hvalidity, haudiences,
    hconstraint, hbudget, hdepth, hstatus, hassurance, hextensions, authorityDimensions, firstRefused]

variable {laws child}

theorem HoldsGrant.delegate (h : HoldsGrant authority grantId grant) {childId : GrantId}
    (hissuer : child.issuer = grant.subject) (hparent : child.parent = some grantId) :
    (evaluateAuthorScopeView (scopeAuthorityView grant) (scopeAuthorityView child) laws = .accepted →
      ∃ next, authority.delegate laws childId child = .ok next) ∧
    (evaluateAuthorScopeView (scopeAuthorityView grant) (scopeAuthorityView child) laws ≠ .accepted →
      authority.delegate laws childId child = .error .delegationExpanded) := by
  have hroot : (attenuationChecks laws authority child).rootPreserved = true := by
    simp [attenuationChecks, rootPreserved, h.lastGrant_eq, h.subject_eq, hissuer]
  have hlink : (!(attenuationChecks laws authority child).rootPreserved ||
      !optionalGrantIdEqual child.parent authority.lastGrant) = false := by
    rw [hroot, h.lastGrant_eq, ← hparent, Bool.not_true, Bool.false_or, Bool.not_eq_false',
      optionalGrantIdEqual_iff]
  have haccept : attenuationChecksAccept (attenuationChecks laws authority child) = true ↔
      evaluateAuthorScopeView (scopeAuthorityView grant) (scopeAuthorityView child) laws = .accepted := by
    rw [evaluateAuthorScopeView_eq laws child h, firstRefused_accepted, attenuationChecksAccept_iff]
    exact ⟨fun hchecks dimension _ => hchecks.2 dimension,
      fun hchecks => ⟨hroot, fun dimension => hchecks dimension (mem_authorityDimensions dimension)⟩⟩
  constructor
  · intro haccepted
    have hyes := haccept.mpr haccepted
    simp only [EffectiveAuthority.delegate, evaluateGrant, hlink, hyes, Bool.not_true,
      Bool.false_eq_true, if_false]
    exact ⟨_, rfl⟩
  · intro hrefused
    have hno : attenuationChecksAccept (attenuationChecks laws authority child) = false := by
      simpa using fun hyes => hrefused (haccept.mp hyes)
    simp [EffectiveAuthority.delegate, evaluateGrant, hlink, hno]

end Agreement

/-- Signing what the author's check accepts is what the kernel will accept, whatever authority the chain
has accumulated, and a denied dimension is one the kernel refuses. -/
theorem authorScope_agrees {chainLaws : CriticalExtensionLaws} {anchor : TrustAnchor}
    {grants : List (GrantId × GrantStatement)} {grantId : GrantId} {grant : GrantStatement}
    {authority : EffectiveAuthority}
    (hchain : delegateChain chainLaws anchor (grants ++ [(grantId, grant)]) = .ok authority)
    (laws : CriticalExtensionLaws) (childId : GrantId) {child : GrantStatement}
    (hissuer : child.issuer = grant.subject) (hparent : child.parent = some grantId) :
    ((∃ next, authority.delegate laws childId child = .ok next) ↔
      evaluateAuthorScopeView (scopeAuthorityView grant) (scopeAuthorityView child) laws =
        .accepted) ∧
    ∀ dimension,
      evaluateAuthorScopeView (scopeAuthorityView grant) (scopeAuthorityView child) laws =
        .denied dimension →
      authority.delegate laws childId child = .error .delegationExpanded ∧
        (attenuationChecks laws authority child).dimension dimension = false := by
  obtain ⟨parent, -, hlast⟩ := run_concat_ok hchain
  have hholds : HoldsGrant authority grantId grant := (delegateStep_ok hlast).holdsGrant
  obtain ⟨haccepted, hrefused⟩ := @HoldsGrant.delegate _ _ _ laws child hholds childId hissuer hparent
  refine ⟨⟨fun ⟨next, hnext⟩ => ?_, haccepted⟩, fun dimension hdenied => ?_⟩
  · by_contra hno
    rw [hrefused hno] at hnext
    cases hnext
  · refine ⟨hrefused (by rw [hdenied]; simp), ?_⟩
    rw [evaluateAuthorScopeView_eq laws child hholds] at hdenied
    exact firstRefused_denied hdenied

/-- A child of the sample grant with its own scope, less depth and nothing added. -/
def sampleChild (depth : UInt16) : GrantStatement :=
  { sampleGrant with
    issuer := sampleAgent
    subject := sampleRoot
    remainingDepth := depth
    parent := some (.filled 1) }

theorem authorScope_agrees_sample :
    (∃ authority next, delegateChain sampleLaws sampleAnchor [(.filled 1, sampleGrant)] = .ok authority ∧
      authority.delegate sampleLaws (.filled 2) (sampleChild 0) = .ok next) ∧
    ∃ authority, delegateChain sampleLaws sampleAnchor [(.filled 1, sampleGrant)] = .ok authority ∧
      authority.delegate sampleLaws (.filled 2) (sampleChild 1) = .error .delegationExpanded := by
  obtain ⟨authority, hchain⟩ : ∃ authority,
      delegateChain sampleLaws sampleAnchor ([] ++ [(.filled 1, sampleGrant)]) = .ok authority := ⟨_, rfl⟩
  have haccepted := (@authorScope_agrees sampleLaws sampleAnchor [] (.filled 1) sampleGrant authority
    hchain sampleLaws (.filled 2) (sampleChild 0) rfl rfl).1.mpr (by decide)
  have hdenied := (@authorScope_agrees sampleLaws sampleAnchor [] (.filled 1) sampleGrant authority
    hchain sampleLaws (.filled 2) (sampleChild 1) rfl rfl).2 .delegationDepth (by decide)
  obtain ⟨next, hnext⟩ := haccepted
  exact ⟨⟨authority, next, hchain, hnext⟩, authority, hchain, hdenied.1⟩

end AuthsProof
