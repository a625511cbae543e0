import AuthsProof.Context
import AuthsProof.Encode

/-! The effect-free ports a verifier calls: principal methods, signature suites and the exact pure
implementations of its registries. -/

namespace AuthsProof

open Sorting

inductive PrincipalControlError where
  | principalMethodMismatch
  | verificationMethodMismatch
  | invalidEvidence
  | signatureSuiteMismatch
  | missingEvidence
  | resourceLimitExceeded
  | externalFactUnavailable
  | historicalStateUnavailable
  | principalRevoked
  deriving DecidableEq

/-- What a principal method established from immutable evidence. -/
@[ext] structure ControlEvidence where
  verificationKey : Bytes
  claims : List AssuranceClaim
  consumedEvidence : List EvidenceId
  adapter : AdapterId
  adapterVersion : UInt16
  workUnits : UInt64
  signatureMessage : Option Bytes
  keyNonempty : verificationKey ≠ []
  evidenceNonempty : consumedEvidence ≠ []
  evidenceSorted : consumedEvidence.Pairwise (· < ·)
  messageNonempty : signatureMessage ≠ some []

instance : DecidableEq ControlEvidence := fun _ _ => decidable_of_iff' _ ControlEvidence.ext_iff

def ControlEvidence.new (verificationKey : Bytes) (claims : List AssuranceClaim)
    (consumedEvidence : List EvidenceId) (adapter : AdapterId) (adapterVersion : UInt16)
    (workUnits : UInt64) : Except PrincipalControlError ControlEvidence :=
  let sorted := sortByKey id consumedEvidence
  if h : verificationKey ≠ [] ∧ sorted ≠ [] ∧ adjacentDistinct (sorted.map id) = true then
    .ok {
      verificationKey, claims, adapter, adapterVersion, workUnits
      consumedEvidence := sorted
      signatureMessage := none
      keyNonempty := h.1
      evidenceNonempty := h.2.1
      evidenceSorted := pairwise_lt_of_adjacentDistinct (sortByKey_pairwise id consumedEvidence) h.2.2
      messageNonempty := by simp }
  else .error .invalidEvidence

def ControlEvidence.withSignatureMessage (evidence : ControlEvidence) (signatureMessage : Bytes) :
    Except PrincipalControlError ControlEvidence :=
  if h : signatureMessage = [] then .error .invalidEvidence
  else .ok { evidence with
    signatureMessage := some signatureMessage
    messageNonempty := fun hsome => h (Option.some.inj hsome) }

/-- The relationship under which a verification method is used. -/
inductive ControlPurpose where
  | capabilityDelegation
  | capabilityInvocation
  | assertion
  deriving DecidableEq

structure PrincipalControlInput where
  principal : PrincipalId
  verificationMethod : VerificationMethod
  signatureSuite : SignatureSuiteId
  purpose : ControlPurpose
  signingPreimage : Bytes
  signature : Bytes
  assertedSigningTime : Timestamp
  evidence : List EvidenceObject
  evaluationTime : Timestamp

/-- A principal-control adapter. `evaluateControl` is the result of the method of that name, whose
diagnostic facts no verification path reads. -/
structure PrincipalMethod where
  id : PrincipalMethodId
  configurationId : AdapterConfigurationId
  maximumWorkUnits : UInt64
  evaluateControl : PrincipalControlInput → Except PrincipalControlError ControlEvidence

structure SignatureInput where
  verificationKey : Bytes
  signingPreimage : Bytes
  signature : Bytes

inductive SignatureError where
  | invalidKey
  | invalidSignatureEncoding
  | invalidSignature
  deriving DecidableEq

structure SignatureSuite where
  id : SignatureSuiteId
  configurationId : AdapterConfigurationId
  workUnits : UInt64
  verify : SignatureInput → Except SignatureError Unit

inductive RegistryOperationError where
  | resourceLimitExceeded
  | invalidInput
  deriving DecidableEq

structure ResourceMatcher where
  id : ResourceMatcherId
  configurationId : AdapterConfigurationId
  maximumWorkUnits (namespaceId resource : ResourceId) : UInt64
  isMatch (namespaceId resource : ResourceId) : Except RegistryOperationError Bool

inductive ProfileDecision where
  | accept
  | deny
  deriving DecidableEq

structure ProfilePolicy where
  id : ProfilePolicyId
  configurationId : AdapterConfigurationId
  maximumWorkUnits (action : CanonicalAction) : UInt64
  evaluate (action : CanonicalAction) : Except RegistryOperationError ProfileDecision
  actionFact (action : CanonicalAction) (name : FactName) :
    Except RegistryOperationError (Option FactValue) := .ok none

structure BudgetAlgebra where
  id : BudgetAlgebraId
  configurationId : AdapterConfigurationId
  maximumWorkUnits : UInt64
  attenuates (child parent : BudgetCeiling) : Except RegistryOperationError Bool
  covers (ceiling requested : BudgetCeiling) : Except RegistryOperationError Bool

structure CriticalExtensionHandler where
  id : ExtensionId
  configurationId : AdapterConfigurationId
  maximumWorkUnits (extension : CriticalExtension) : UInt64
  evaluate (extension : CriticalExtension) : Except RegistryOperationError Unit
  attenuates (child parent : Option Bytes) : Except RegistryOperationError Bool

inductive StatusDecision where
  | active
  | revoked
  | missing
  | stale
  | rollback
  | untrustedIssuer
  | wrongMethod
  deriving DecidableEq

structure StatusMethod where
  id : StatusMethodId
  configurationId : AdapterConfigurationId
  maximumWorkUnits (statementCount : Nat) : UInt64
  principal (policy : StatusPolicy) (snapshot : PrincipalStatusSnapshot) (principal : PrincipalId)
    (view : StatusView) (evaluationTime : Timestamp) : Except RegistryOperationError StatusDecision
  grant (policy : StatusPolicy) (snapshot : GrantStatusSnapshot) (grant : GrantId)
    (view : StatusView) (evaluationTime : Timestamp) : Except RegistryOperationError StatusDecision

structure AssuranceClaimRule where
  id : AssuranceClaimId
  configurationId : AdapterConfigurationId
  maximumWorkUnits (claim : AssuranceClaim) : UInt64
  validate (claim : AssuranceClaim) : Except RegistryOperationError Unit

structure AssuranceImplication where
  id : AssuranceImplicationId
  configurationId : AdapterConfigurationId
  source : AssuranceClaimId
  target : AssuranceClaimId
  maximumWorkUnits : UInt64
  implies (claim : AssuranceClaim) : Except RegistryOperationError Bool

/-- A domain-separated commitment to ordered configuration components, each framed by its length. -/
def configurationId [Sha256] (domain : Bytes) (components : List Bytes) : AdapterConfigurationId :=
  Sha256.digest (utf8 "auths-proof-adapter-configuration-v1" ++
    (domain :: components).flatMap fun component => bigEndian64 component.length ++ component)

end AuthsProof
