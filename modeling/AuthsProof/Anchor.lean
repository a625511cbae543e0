import AuthsProof.Limits
import AuthsProof.Statement

/-! Local trust anchors and the registry selection a context accepts. -/

namespace AuthsProof

open Sorting

def hardMaxRegistryEntries : Nat := 1024

abbrev RegistryList (α : Type) [LinearOrder α] := CanonicalList α hardMaxRegistryEntries

/-- An authority-scoped local root. -/
structure TrustAnchor where
  id : TrustAnchorId
  principal : PrincipalId
  acceptedMethods : RegistryList PrincipalMethodId
  profiles : RegistryList ProfileRef
  permissions : PermissionSet
  resourceNamespaces : CanonicalList ResourceId hardMaxPermissions
  audiences : AudienceSet
  validity : ValidityWindow
  budgetCeiling : Option BudgetCeiling
  maxDelegationDepth : UInt16
  assurancePolicy : AssurancePolicyId
  statusPolicy : StatusPolicy
  methodsNonempty : acceptedMethods.items ≠ []
  profilesNonempty : profiles.items ≠ []
  deriving DecidableEq

def TrustAnchor.new (id : TrustAnchorId) (principal : PrincipalId)
    (acceptedMethods : List PrincipalMethodId) (profiles : List ProfileRef)
    (permissions : PermissionSet) (resourceNamespaces : List ResourceId) (audiences : AudienceSet)
    (validity : ValidityWindow) (budgetCeiling : Option BudgetCeiling) (maxDelegationDepth : UInt16)
    (assurancePolicy : AssurancePolicyId) (statusPolicy : StatusPolicy) :
    Except ModelError TrustAnchor := do
  let acceptedMethods ← CanonicalList.ofSortDedup _ .invalidTrustAnchor acceptedMethods
  let profiles ← CanonicalList.ofSortDedup _ .invalidTrustAnchor profiles
  let resourceNamespaces ← CanonicalList.ofSortDedup _ .invalidTrustAnchor resourceNamespaces
  if h : acceptedMethods.items ≠ [] ∧ profiles.items ≠ [] then
    .ok { id, principal, acceptedMethods, profiles, permissions, resourceNamespaces, audiences,
          validity, budgetCeiling, maxDelegationDepth, assurancePolicy, statusPolicy,
          methodsNonempty := h.1, profilesNonempty := h.2 }
  else .error .invalidTrustAnchor

@[simp] theorem TrustAnchor.new_self (a : TrustAnchor) :
    TrustAnchor.new a.id a.principal a.acceptedMethods.items a.profiles.items a.permissions
      a.resourceNamespaces.items a.audiences a.validity a.budgetCeiling a.maxDelegationDepth
      a.assurancePolicy a.statusPolicy = .ok a := by
  simp [TrustAnchor.new, bind, Except.bind, a.methodsNonempty, a.profilesNonempty]

/-- The exact registry entries a trusted context accepts. -/
structure AcceptedRegistries where
  manifestId : RegistryManifestId
  principalMethods : RegistryList PrincipalMethodId
  signatureSuites : RegistryList SignatureSuiteId
  evidenceTypes : RegistryList EvidenceTypeId
  principalStatusMethods : RegistryList StatusMethodId
  grantStatusMethods : RegistryList StatusMethodId
  assuranceClaims : RegistryList AssuranceClaimId
  assuranceImplications : RegistryList AssuranceImplicationId
  resourceMatchers : RegistryList ResourceMatcherId
  budgetAlgebras : RegistryList BudgetAlgebraId
  criticalExtensions : RegistryList ExtensionId
  profiles : RegistryList ProfileRef
  profilePolicies : RegistryList ProfilePolicyId
  budgetFreeProfiles : RegistryList ProfileRef
  methodsNonempty : principalMethods.items ≠ []
  suitesNonempty : signatureSuites.items ≠ []
  matchersNonempty : resourceMatchers.items ≠ []
  profilesNonempty : profiles.items ≠ []
  policiesNonempty : profilePolicies.items ≠ []
  budgetFreeAccepted : budgetFreeProfiles.items ⊆ profiles.items
  deriving DecidableEq

def canonicalRegistryIds {α : Type} [LinearOrder α] (identifiers : List α) :
    Except ModelError (RegistryList α) :=
  CanonicalList.ofBounded _ .invalidRegistrySelection identifiers

/-- The registry selection with no budget-free profile. Every failure has the one error of the
source, so the mandatory collections are checked after all of them are canonical. -/
def AcceptedRegistries.new (manifestId : RegistryManifestId)
    (principalMethods : List PrincipalMethodId) (signatureSuites : List SignatureSuiteId)
    (evidenceTypes : List EvidenceTypeId) (principalStatusMethods : List StatusMethodId)
    (grantStatusMethods : List StatusMethodId) (assuranceClaims : List AssuranceClaimId)
    (assuranceImplications : List AssuranceImplicationId)
    (resourceMatchers : List ResourceMatcherId) (budgetAlgebras : List BudgetAlgebraId)
    (criticalExtensions : List ExtensionId) (profiles : List ProfileRef)
    (profilePolicies : List ProfilePolicyId) : Except ModelError AcceptedRegistries := do
  let criticalExtensions ← canonicalRegistryIds criticalExtensions
  let profiles ← canonicalRegistryIds profiles
  let principalMethods ← canonicalRegistryIds principalMethods
  let signatureSuites ← canonicalRegistryIds signatureSuites
  let evidenceTypes ← canonicalRegistryIds evidenceTypes
  let principalStatusMethods ← canonicalRegistryIds principalStatusMethods
  let grantStatusMethods ← canonicalRegistryIds grantStatusMethods
  let assuranceClaims ← canonicalRegistryIds assuranceClaims
  let assuranceImplications ← canonicalRegistryIds assuranceImplications
  let resourceMatchers ← canonicalRegistryIds resourceMatchers
  let budgetAlgebras ← canonicalRegistryIds budgetAlgebras
  let profilePolicies ← canonicalRegistryIds profilePolicies
  if h : principalMethods.items ≠ [] ∧ signatureSuites.items ≠ [] ∧ resourceMatchers.items ≠ [] ∧
      profiles.items ≠ [] ∧ profilePolicies.items ≠ [] then
    .ok {
      manifestId, principalMethods, signatureSuites, evidenceTypes, principalStatusMethods,
      grantStatusMethods, assuranceClaims, assuranceImplications, resourceMatchers, budgetAlgebras,
      criticalExtensions, profiles, profilePolicies
      budgetFreeProfiles := ⟨[], Nat.zero_le _, List.Pairwise.nil⟩
      methodsNonempty := h.1
      suitesNonempty := h.2.1
      matchersNonempty := h.2.2.1
      profilesNonempty := h.2.2.2.1
      policiesNonempty := h.2.2.2.2
      budgetFreeAccepted := List.nil_subset _ }
  else .error .invalidRegistrySelection

def AcceptedRegistries.withBudgetFreeProfiles (registries : AcceptedRegistries)
    (budgetFreeProfiles : List ProfileRef) : Except ModelError AcceptedRegistries := do
  let budgetFreeProfiles ← canonicalRegistryIds budgetFreeProfiles
  if h : budgetFreeProfiles.items ⊆ registries.profiles.items then
    .ok { registries with budgetFreeProfiles, budgetFreeAccepted := h }
  else .error .invalidRegistrySelection

/-- Registries rebuilt by their constructors are the registries themselves. -/
theorem AcceptedRegistries.new_withBudgetFreeProfiles (r : AcceptedRegistries) :
    (AcceptedRegistries.new r.manifestId r.principalMethods.items r.signatureSuites.items
      r.evidenceTypes.items r.principalStatusMethods.items r.grantStatusMethods.items
      r.assuranceClaims.items r.assuranceImplications.items r.resourceMatchers.items
      r.budgetAlgebras.items r.criticalExtensions.items r.profiles.items r.profilePolicies.items >>=
      fun base => base.withBudgetFreeProfiles r.budgetFreeProfiles.items) = .ok r := by
  simp [AcceptedRegistries.new, AcceptedRegistries.withBudgetFreeProfiles, canonicalRegistryIds,
    bind, Except.bind, r.methodsNonempty, r.suitesNonempty, r.matchersNonempty, r.profilesNonempty,
    r.policiesNonempty, r.budgetFreeAccepted]

namespace AcceptedRegistries

variable (registries : AcceptedRegistries)

def acceptsPrincipalMethod (id : PrincipalMethodId) : Bool := id ∈ registries.principalMethods.items
def acceptsSignatureSuite (id : SignatureSuiteId) : Bool := id ∈ registries.signatureSuites.items
def acceptsEvidenceType (id : EvidenceTypeId) : Bool := id ∈ registries.evidenceTypes.items
def acceptsPrincipalStatusMethod (id : StatusMethodId) : Bool :=
  id ∈ registries.principalStatusMethods.items
def acceptsGrantStatusMethod (id : StatusMethodId) : Bool :=
  id ∈ registries.grantStatusMethods.items
def acceptsAssuranceClaim (id : AssuranceClaimId) : Bool := id ∈ registries.assuranceClaims.items
def acceptsAssuranceImplication (id : AssuranceImplicationId) : Bool :=
  id ∈ registries.assuranceImplications.items
def acceptsResourceMatcher (id : ResourceMatcherId) : Bool := id ∈ registries.resourceMatchers.items
def acceptsBudgetAlgebra (id : BudgetAlgebraId) : Bool := id ∈ registries.budgetAlgebras.items
def acceptsCriticalExtension (id : ExtensionId) : Bool := id ∈ registries.criticalExtensions.items
def acceptsProfile (profile : ProfileRef) : Bool := profile ∈ registries.profiles.items
def acceptsProfilePolicy (id : ProfilePolicyId) : Bool := id ∈ registries.profilePolicies.items

def profileBudgetExpression (profile : ProfileRef) : ProfileBudgetExpression :=
  if profile ∈ registries.budgetFreeProfiles.items then .inexpressible else .expressible

def maximumEntryCount : Nat :=
  [registries.principalMethods.items.length, registries.signatureSuites.items.length,
    registries.evidenceTypes.items.length, registries.principalStatusMethods.items.length,
    registries.grantStatusMethods.items.length, registries.assuranceClaims.items.length,
    registries.assuranceImplications.items.length, registries.resourceMatchers.items.length,
    registries.budgetAlgebras.items.length, registries.criticalExtensions.items.length,
    registries.profiles.items.length, registries.profilePolicies.items.length,
    registries.budgetFreeProfiles.items.length].foldl max 0

end AcceptedRegistries

end AuthsProof
