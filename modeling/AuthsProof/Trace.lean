import AuthsProof.Composition
import AuthsProof.Result

/-! The bounded trace of a verification: the facts an explained verification records, each with the
nodes it follows from. -/

namespace AuthsProof

open Sorting

def hardMaxTraceEvents : Nat := 4096

namespace Trace

inductive FactKind where
  | contextConfigurationMatches
  | registryManifestAccepted
  | expectedPlanMatches
  | trustAnchorAcceptedMethod
  | trustAnchorProfile
  | grantLinkage
  | grantPermissionAttenuation
  | actionPermission
  | actionValidity
  | actionAudience
  | actionChallenge
  | actionBodyDigest
  | actionBudget
  | principalControl
  | principalStatus
  | grantStatus
  | assuranceRequirement
  | resourceNamespace
  | profilePolicy
  | criticalExtension
  | attachment
  | planNode
  | minimumAuthorizedBranches
  | minimumDistinctActors
  | minimumDistinctRoots
  | approvalRequirement
  | workReservation
  | decision
  deriving DecidableEq

inductive FactOrigin where
  | trustedContext
  | proof
  | executableRegistry
  | derived
  deriving DecidableEq

inductive FactValue where
  | present (value : Bool)
  | equal (value : Bool)
  | count (actual required : UInt64)
  deriving DecidableEq

inductive FactResult where
  | satisfied
  | contradicted
  | unavailable
  deriving DecidableEq

structure FactEvaluation where
  sequence : UInt32
  stage : VerificationStage
  kind : FactKind
  origin : FactOrigin
  value : FactValue
  result : FactResult
  code : Option VerificationCode
  parents : List UInt32
  deriving DecidableEq

structure VerificationTrace where
  events : List FactEvaluation
  finalNode : UInt32
  deriving DecidableEq

inductive TraceError where
  | capacityExceeded
  deriving DecidableEq

/-- The collector of a trace. `capacity` is the number of events its buffer holds. -/
structure TraceCollector where
  collecting : Bool
  capacity : Nat
  events : List FactEvaluation
  finalNode : Option UInt32

namespace TraceCollector

def discard : TraceCollector := ⟨false, 0, [], none⟩

/-- `reserved` is the capacity the allocator answers a request for `capacity` events with. -/
def collect (capacity : Nat) (reserved : Option Nat) : Except TraceError TraceCollector :=
  if hardMaxTraceEvents < capacity then .error .capacityExceeded
  else
    match reserved with
    | none => .error .capacityExceeded
    | some capacity => .ok ⟨true, capacity, [], none⟩

end TraceCollector

def saturatingU32 (n : Nat) : UInt32 := if n < 2 ^ 32 then UInt32.ofNat n else 0xFFFFFFFF

/-- A computation that records facts. -/
abbrev Tracing (α : Type) := StateM TraceCollector α

/-- Records one fact, unless nothing is collected or the buffer is full. Only earlier nodes can be
its parents. -/
def recordWithParents (stage : VerificationStage) (kind : FactKind) (origin : FactOrigin)
    (value : FactValue) (result : FactResult) (code : Option VerificationCode)
    (parents : List UInt32) : Tracing (Option UInt32) := fun trace =>
  if !trace.collecting || trace.capacity ≤ trace.events.length then (none, trace)
  else
    let sequence := saturatingU32 trace.events.length
    let parents := sortDedup (parents.filter fun parent => parent < sequence)
    (some sequence, { trace with
      events := trace.events ++ [⟨sequence, stage, kind, origin, value, result, code, parents⟩] })

def record (stage : VerificationStage) (kind : FactKind) (origin : FactOrigin) (value : FactValue)
    (result : FactResult) (code : Option VerificationCode) : Tracing (Option UInt32) :=
  recordWithParents stage kind origin value result code []

def setFinalNode (node : Option UInt32) : Tracing Unit := fun trace =>
  ((), match node with
    | some node => { trace with finalNode := some node }
    | none => trace)

def TraceCollector.finish (trace : TraceCollector) : VerificationTrace where
  events := trace.events
  finalNode := trace.finalNode.getD (saturatingU32 (trace.events.length - 1))

def denialFactKind : DenialReason → FactKind
  | .resourceLimitExceeded => .workReservation
  | .invalidSignature | .principalMethodMismatch | .verificationMethodMismatch
  | .signatureSuiteMismatch => .principalControl
  | .untrustedRoot => .trustAnchorAcceptedMethod
  | .brokenGrantChain => .grantLinkage
  | .delegationExpanded | .observationRequirementDropped => .grantPermissionAttenuation
  | .permissionNotGranted => .actionPermission
  | .actionConstraintMismatch | .actionBodyMismatch => .actionBodyDigest
  | .budgetCeilingExceeded => .actionBudget
  | .authorizationPlanInvalid | .planActionMismatch => .planNode
  | .compositionRequirementNotMet => .minimumAuthorizedBranches
  | .audienceMismatch => .actionAudience
  | .challengeMismatch => .actionChallenge
  | .actionOutsideValidity => .actionValidity
  | .principalRevoked | .statusSequenceRollback | .statusMethodMismatch | .statusIssuerUntrusted =>
    .principalStatus
  | .grantRevoked => .grantStatus
  | .registryManifestMismatch => .registryManifestAccepted
  | .verifierConfigurationMismatch => .contextConfigurationMatches
  | .resourceNamespaceMismatch => .resourceNamespace
  | .criticalExtensionUnknown => .criticalExtension
  | .attachmentMissing | .attachmentDigestMismatch | .attachmentLengthMismatch
  | .duplicateAttachment | .unusedCriticalAttachment | .opaqueAttachmentNotAllowed => .attachment
  | .localPolicyDenied => .profilePolicy
  | .observationConditionFalse | .observerInAuthorityChain => .criticalExtension
  | .approvalThresholdNotMet => .approvalRequirement
  | .malformedProof | .nonCanonicalProof | .digestMismatch | .duplicateObject | .missingReference
  | .referenceCycle | .ambiguousTerminalGrant | .unusedCriticalEvidence => .planNode

def requirementFactKind : Requirement → FactKind
  | .unsupportedPrincipalMethod | .unsupportedSignatureSuite | .unsupportedEvidenceType
  | .missingPrincipalEvidence | .historicalStateUnavailable => .principalControl
  | .unsupportedStatusMethod | .missingPrincipalStatus | .staleStatus => .principalStatus
  | .missingGrantStatus => .grantStatus
  | .unsupportedProfile => .trustAnchorProfile
  | .unsupportedProfilePolicy => .profilePolicy
  | .unsupportedResourceMatcher => .resourceNamespace
  | .unsupportedBudgetAlgebra => .actionBudget
  | .unsupportedCriticalExtension | .observationMissing | .observationActionFactUnavailable =>
    .criticalExtension
  | .unsupportedAssuranceClaim | .assuranceRequirementNotMet => .assuranceRequirement
  | .unsupportedProtocol | .externalFactUnavailable => .planNode
  | .approvalUnavailable => .approvalRequirement

def failureFactKind : VerificationFailure → FactKind
  | .denied reason => denialFactKind reason
  | .indeterminate requirement => requirementFactKind requirement

def failureFactResult : VerificationFailure → FactResult
  | .denied _ => .contradicted
  | .indeterminate _ => .unavailable

def recordFailure (stage : VerificationStage) (origin : FactOrigin) (value : FactValue)
    (failure : VerificationFailure) (parents : List UInt32) : Tracing (Option UInt32) :=
  recordWithParents stage (failureFactKind failure) origin value (failureFactResult failure)
    (some (failureCode failure)) parents

/-- The result of a comparison with the context. -/
def matchResult (satisfied : Bool) : FactResult := if satisfied then .satisfied else .contradicted

/-- The code of a comparison that fails. -/
def mismatchCode (satisfied : Bool) (reason : DenialReason) : Option VerificationCode :=
  if satisfied then none else some (.denied reason)

def branchFactResult : BranchOutcome → FactResult
  | .authorized => .satisfied
  | .denied _ | .structurallyInvalid _ => .contradicted
  | .indeterminate _ => .unavailable

def branchVerificationCode : BranchOutcome → VerificationCode
  | .authorized => .authorized
  | .denied reason | .structurallyInvalid reason => .denied reason
  | .indeterminate requirement => .indeterminate requirement

def codeFactResult : VerificationCode → FactResult
  | .authorized => .satisfied
  | .denied _ => .contradicted
  | .indeterminate _ => .unavailable

def approvalFactCode : FactResult → Option VerificationCode
  | .satisfied => none
  | .contradicted => some (.denied .approvalThresholdNotMet)
  | .unavailable => some (.indeterminate .approvalUnavailable)

end Trace

def EvaluationEvent.outcome : EvaluationEvent → BranchOutcome
  | .proof _ outcome => outcome
  | .aggregate _ _ _ _ outcome => outcome

end AuthsProof
