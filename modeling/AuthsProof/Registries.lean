import AuthsProof.Authority
import AuthsProof.ExtensionCodec
import AuthsProof.StatusMethod

/-! The immutable registries of one verification: the core implementations, the additional ones a
deployment supplies and the selection a trusted context makes among them. -/

namespace AuthsProof

open Sorting

def targetV1RegistryManifest : RegistryManifestId := Digest.filled 0x37

def uriNamespaceV1 : ResourceMatcherId := ⟨"uri-namespace-v1", by decide +kernel⟩
def exactProfileV1 : ProfilePolicyId := ⟨"exact-v1", by decide +kernel⟩
def numericCeilingV1 : BudgetAlgebraId := ⟨"numeric-ceiling-v1", by decide +kernel⟩
def exactMarkerExtensionV1 : ExtensionId := ⟨"exact-marker-v1", by decide +kernel⟩
def observationRequirementExtensionV1 : ExtensionId :=
  ⟨"observation-requirement-v1", by decide +kernel⟩
def approvalRequirementExtensionV1 : ExtensionId := ⟨"approval-requirement-v1", by decide +kernel⟩
def boundedPolicyCommitmentExtensionV1 : ExtensionId :=
  ⟨"bounded-policy-commitment-v1", by decide +kernel⟩
def principalStatusMethodV1 : StatusMethodId := ⟨"auths-principal-status-v1", by decide +kernel⟩
def grantStatusMethodV1 : StatusMethodId := ⟨"auths-grant-status-v1", by decide +kernel⟩

def boundedPolicyAttenuationLaw : String := "attenuation-law:bounded-policy-link-v1"
def markerAttenuationLaw : String := "attenuation-law:byte-equality-v1"
def observationAttenuationLaw : String := "attenuation-law:requirement-narrowing-v1"
def approvalAttenuationLaw : String := "attenuation-law:approval-requirement-covering-v1"

def coreClaims : List AssuranceClaimId :=
  [⟨"self-certifying-identifier", by decide +kernel⟩,
    ⟨"offline-verifiable", by decide +kernel⟩,
    ⟨"controller-state-current-at", by decide +kernel⟩,
    ⟨"historical-at", by decide +kernel⟩,
    ⟨"statement-existence-proven-at", by decide +kernel⟩,
    ⟨"rotation-aware", by decide +kernel⟩,
    ⟨"revocation-checked-at", by decide +kernel⟩,
    ⟨"witness-threshold-met", by decide +kernel⟩,
    ⟨"pki-chain-validated", by decide +kernel⟩,
    ⟨"workload-attested", by decide +kernel⟩,
    ⟨"hardware-attested", by decide +kernel⟩,
    ⟨"user-verified", by decide +kernel⟩,
    ⟨"origin-bound", by decide +kernel⟩]

/-- The namespace itself, or what it is a prefix of up to a separator. -/
def uriNamespaceMatches (namespaceId resource : String) : Bool :=
  resource == namespaceId ||
    (namespaceId.toList.isPrefixOf resource.toList &&
      (namespaceId.toList.getLast? == some '/' ||
        match (resource.toList.drop namespaceId.toList.length).head? with
        | some c => c == '/' || c == '?' || c == '#'
        | none => false))

/-- The attenuation law of a payload that `decode` reads: absent from the child it is dropped, absent
from the parent it is added, and present on both sides it is judged by `law`. -/
def payloadAttenuates {α : Type} (decode : Bytes → Except RegistryOperationError α)
    (law : α → α → Bool) (child parent : Option Bytes) : Except RegistryOperationError Bool :=
  match child with
  | none => .ok false
  | some child => do
    let child ← decode child
    match parent with
    | some parent => do
      let parent ← decode parent
      return law child parent
    | none => return true

def payloadError : CodecError → RegistryOperationError
  | .limitExceeded => .resourceLimitExceeded
  | _ => .invalidInput

/-- The bytes a handler is charged for, and one more. -/
def extensionWorkUnits (extension : CriticalExtension) : UInt64 :=
  saturatingU64 (extension.bytes.length + 1)

section Core

variable [Sha256]

def uriNamespaceMatcher : ResourceMatcher where
  id := uriNamespaceV1
  configurationId := configurationId (utf8 uriNamespaceV1.str) []
  maximumWorkUnits namespaceId resource :=
    saturatingU64 (namespaceId.str.utf8ByteSize + resource.str.utf8ByteSize)
  isMatch namespaceId resource := .ok (uriNamespaceMatches namespaceId.str resource.str)

def exactProfilePolicy : ProfilePolicy where
  id := exactProfileV1
  configurationId := configurationId (utf8 exactProfileV1.str) []
  maximumWorkUnits action := saturatingU64 action.body.length
  evaluate _ := .ok .accept

def numericAttenuates (child parent : BudgetCeiling) : Except RegistryOperationError Bool :=
  if child.algebra ≠ numericCeilingV1 ∨ parent.algebra ≠ numericCeilingV1 then .error .invalidInput
  else .ok (child.value ≤ parent.value)

def numericBudgetAlgebra : BudgetAlgebra where
  id := numericCeilingV1
  configurationId := configurationId (utf8 numericCeilingV1.str) []
  maximumWorkUnits := 1
  attenuates := numericAttenuates
  covers ceiling requested := numericAttenuates requested ceiling

/-- Adding the marker is refused, so it changes no authority. -/
def exactMarkerExtension : CriticalExtensionHandler where
  id := exactMarkerExtensionV1
  configurationId := configurationId (utf8 exactMarkerExtensionV1.str) [utf8 markerAttenuationLaw]
  maximumWorkUnits := extensionWorkUnits
  evaluate extension :=
    if extension.id = exactMarkerExtensionV1 ∧ extension.bytes = [1] then .ok ()
    else .error .invalidInput
  attenuates child parent :=
    match child, parent with
    | some child, some parent => .ok (child == parent)
    | _, _ => .ok false

def exactClaimRule (id : AssuranceClaimId) : AssuranceClaimRule where
  id
  configurationId := configurationId (utf8 id.str) []
  maximumWorkUnits claim := saturatingU64 (claim.parameters.entries.length + 1)
  validate claim := if claim.kind = id then .ok () else .error .invalidInput

variable [Cbor]

def decodeRequirements (bytes : Bytes) : Except RegistryOperationError ObservationRequirements :=
  (decodeObservationRequirements bytes).mapError payloadError

def decodeApprovals (bytes : Bytes) : Except RegistryOperationError ApprovalRequirements :=
  (decodeApprovalRequirements bytes).mapError payloadError

def decodeBoundedPolicy (bytes : Bytes) : Except RegistryOperationError BoundedPolicyCommitment :=
  (decodeBoundedPolicyCommitment bytes).mapError payloadError

/-- A core handler that accepts its own identifier with a payload `decode` reads. -/
def payloadHandler {α : Type} (id : ExtensionId) (law : String)
    (decode : Bytes → Except RegistryOperationError α)
    (attenuates : Option Bytes → Option Bytes → Except RegistryOperationError Bool) :
    CriticalExtensionHandler where
  id
  configurationId := configurationId (utf8 id.str) [utf8 law]
  maximumWorkUnits := extensionWorkUnits
  evaluate extension :=
    if extension.id ≠ id then .error .invalidInput else (decode extension.bytes).map fun _ => ()
  attenuates

def observationRequirementExtension : CriticalExtensionHandler :=
  payloadHandler observationRequirementExtensionV1 observationAttenuationLaw decodeRequirements
    (payloadAttenuates decodeRequirements observationRequirementsAttenuate)

def approvalRequirementExtension : CriticalExtensionHandler :=
  payloadHandler approvalRequirementExtensionV1 approvalAttenuationLaw decodeApprovals
    (payloadAttenuates decodeApprovals approvalRequirementsAttenuate)

/-- The child links the digest of the parent's exact bytes, or nothing where the parent has none. -/
def boundedPolicyAttenuates (child parent : Option Bytes) : Except RegistryOperationError Bool :=
  match child with
  | none => .ok false
  | some child => do
    let child ← decodeBoundedPolicy child
    match parent with
    | some parent => do
      let _ ← decodeBoundedPolicy parent
      return boundedPolicyLinkAccepts child.parent (some (boundedPolicyLink parent))
    | none => return boundedPolicyLinkAccepts child.parent none

def boundedPolicyCommitmentExtension : CriticalExtensionHandler :=
  payloadHandler boundedPolicyCommitmentExtensionV1 boundedPolicyAttenuationLaw decodeBoundedPolicy
    boundedPolicyAttenuates

def coreExtensionHandlers : List CriticalExtensionHandler :=
  [exactMarkerExtension, observationRequirementExtension, boundedPolicyCommitmentExtension,
    approvalRequirementExtension]

omit [Cbor] in
def coreStatusMethods : List StatusMethod :=
  [exactStatusMethod principalStatusMethodV1, exactStatusMethod grantStatusMethodV1]

omit [Cbor] in
def coreClaimRules : List AssuranceClaimRule := coreClaims.map exactClaimRule

end Core

/-- The pure implementations a deployment adds to the core ones. -/
structure PureRegistrySet where
  resourceMatchers : List ResourceMatcher := []
  profilePolicies : List ProfilePolicy := []
  budgetAlgebras : List BudgetAlgebra := []
  extensionHandlers : List CriticalExtensionHandler := []
  statusMethods : List StatusMethod := []
  assuranceClaims : List AssuranceClaimRule := []
  assuranceImplications : List AssuranceImplication := []

/-- No identifier is claimed twice among the added implementations, nor one of the core registry. -/
def PureRegistrySet.distinct (pure : PureRegistrySet) : Prop :=
  (uriNamespaceV1 :: pure.resourceMatchers.map ResourceMatcher.id).Nodup ∧
    (exactProfileV1 :: pure.profilePolicies.map ProfilePolicy.id).Nodup ∧
    (numericCeilingV1 :: pure.budgetAlgebras.map BudgetAlgebra.id).Nodup ∧
    (pure.extensionHandlers.map CriticalExtensionHandler.id).Nodup ∧
    (∀ handler ∈ pure.extensionHandlers, handler.id ∉ [exactMarkerExtensionV1,
      observationRequirementExtensionV1, boundedPolicyCommitmentExtensionV1,
      approvalRequirementExtensionV1]) ∧
    (pure.statusMethods.map StatusMethod.id).Nodup ∧
    (∀ method ∈ pure.statusMethods, method.id ∉ [principalStatusMethodV1, grantStatusMethodV1]) ∧
    (pure.assuranceClaims.map AssuranceClaimRule.id).Nodup ∧
    (∀ rule ∈ pure.assuranceClaims, rule.id ∉ coreClaims) ∧
    (pure.assuranceImplications.map AssuranceImplication.id).Nodup

instance (pure : PureRegistrySet) : Decidable pure.distinct := inferInstanceAs (Decidable (_ ∧ _))

inductive RegistryError where
  | duplicateImplementation
  | invalidBuiltin
  deriving DecidableEq

structure ImmutableRegistries where
  principalMethods : List PrincipalMethod
  signatureSuites : List SignatureSuite
  pure : PureRegistrySet
  methodsDistinct : (principalMethods.map PrincipalMethod.id).Nodup
  suitesDistinct : (signatureSuites.map SignatureSuite.id).Nodup
  pureDistinct : pure.distinct

namespace ImmutableRegistries

def withPure (principalMethods : List PrincipalMethod) (signatureSuites : List SignatureSuite)
    (pure : PureRegistrySet) : Except RegistryError ImmutableRegistries :=
  if h : (principalMethods.map PrincipalMethod.id).Nodup ∧
      (signatureSuites.map SignatureSuite.id).Nodup ∧ pure.distinct then
    .ok ⟨principalMethods, signatureSuites, pure, h.1, h.2.1, h.2.2⟩
  else .error .duplicateImplementation

variable (registries : ImmutableRegistries)

def manifestId (_ : ImmutableRegistries) : RegistryManifestId := targetV1RegistryManifest

section Configuration

variable [Cbor] [Sha256]

/-- Every implementation of the registry, with its kind and its configuration. -/
def configurationEntries : List (UInt8 × String × AdapterConfigurationId) :=
  registries.principalMethods.map (fun method => (0, method.id.str, method.configurationId)) ++
    registries.signatureSuites.map (fun suite => (1, suite.id.str, suite.configurationId)) ++
    (registries.pure.resourceMatchers ++ [uriNamespaceMatcher]).map
      (fun matcher => (2, matcher.id.str, matcher.configurationId)) ++
    (registries.pure.profilePolicies ++ [exactProfilePolicy]).map
      (fun policy => (3, policy.id.str, policy.configurationId)) ++
    (registries.pure.budgetAlgebras ++ [numericBudgetAlgebra]).map
      (fun algebra => (4, algebra.id.str, algebra.configurationId)) ++
    (registries.pure.extensionHandlers ++ coreExtensionHandlers).map
      (fun handler => (5, handler.id.str, handler.configurationId)) ++
    (registries.pure.statusMethods ++ coreStatusMethods).map
      (fun method => (6, method.id.str, method.configurationId)) ++
    (registries.pure.assuranceClaims ++ coreClaimRules).map
      (fun rule => (7, rule.id.str, rule.configurationId)) ++
    registries.pure.assuranceImplications.map
      (fun implication => (8, implication.id.str, implication.configurationId))

def configurationId : VerifierConfigurationId :=
  AuthsProof.configurationId (utf8 "auths-proof-verifier-configuration-v1")
    ((sortByKey (fun entry => (toLex (entry.1, entry.2.1) : UInt8 ×ₗ String))
      registries.configurationEntries).flatMap fun (kind, id, configuration) =>
        [[kind], utf8 id, configuration.bytes])

end Configuration

section Lookup

variable (accepted : AcceptedRegistries)

def principalMethod (id : PrincipalMethodId) : Option PrincipalMethod :=
  if accepted.acceptsPrincipalMethod id then
    registries.principalMethods.find? fun method => method.id = id
  else none

def signatureSuite (id : SignatureSuiteId) : Option SignatureSuite :=
  if accepted.acceptsSignatureSuite id then
    registries.signatureSuites.find? fun suite => suite.id = id
  else none

variable [Sha256]

def resourceMatcher (id : ResourceMatcherId) : Option ResourceMatcher :=
  if accepted.acceptsResourceMatcher id then
    (uriNamespaceMatcher :: registries.pure.resourceMatchers).find? fun matcher => matcher.id = id
  else none

def profilePolicy (id : ProfilePolicyId) : Option ProfilePolicy :=
  if accepted.acceptsProfilePolicy id then
    (exactProfilePolicy :: registries.pure.profilePolicies).find? fun policy => policy.id = id
  else none

def budgetAlgebra (id : BudgetAlgebraId) : Option BudgetAlgebra :=
  if accepted.acceptsBudgetAlgebra id then
    (numericBudgetAlgebra :: registries.pure.budgetAlgebras).find? fun algebra => algebra.id = id
  else none

/-- `status_method`, for a principal or for a grant. -/
def statusMethod (id : StatusMethodId) (principal : Bool) : Option StatusMethod :=
  if (if principal then accepted.acceptsPrincipalStatusMethod id
      else accepted.acceptsGrantStatusMethod id) then
    (coreStatusMethods ++ registries.pure.statusMethods).find? fun method => method.id = id
  else none

def assuranceClaim (id : AssuranceClaimId) : Option AssuranceClaimRule :=
  if accepted.acceptsAssuranceClaim id then
    (coreClaimRules ++ registries.pure.assuranceClaims).find? fun rule => rule.id = id
  else none

omit [Sha256] in
def assuranceImplications : List AssuranceImplication :=
  sortByKey AssuranceImplication.id <| registries.pure.assuranceImplications.filter
    fun implication => accepted.acceptsAssuranceImplication implication.id

variable [Cbor]

def extensionHandler (id : ExtensionId) : Option CriticalExtensionHandler :=
  if accepted.acceptsCriticalExtension id then
    (coreExtensionHandlers ++ registries.pure.extensionHandlers).find? fun handler => handler.id = id
  else none

/-- The laws of the handlers the context accepts; an identifier without one has no law. -/
def extensionLaws : CriticalExtensionLaws where
  attenuates id child parent :=
    match registries.extensionHandler accepted id with
    | some handler =>
      match handler.attenuates child parent with
      | .ok accepted => accepted
      | .error _ => false
    | none => false

def saturatingAdd (a b : UInt64) : UInt64 := saturatingU64 (a.toNat + b.toNat)

/-- The work of judging one edge: the bound of the handler of each payload present. -/
def extensionLawWorkUnits (child parent : CriticalExtensions) : UInt64 :=
  ((child.entries ++ parent.entries).filterMap fun extension =>
    (registries.extensionHandler accepted extension.id).map fun handler =>
      handler.maximumWorkUnits extension).foldl saturatingAdd 0

end Lookup

end ImmutableRegistries

end AuthsProof
