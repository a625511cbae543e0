import AuthsProof.Lib.Checked
import AuthsProof.Lifecycle.Commitment
import Mathlib.Order.WithBot

/-! The lifecycle record and everything it is made of: reservations, capacity, execution intents,
attempts, observations, events and receipts. -/

namespace AuthsProof.Lifecycle

open Sorting

inductive LifecycleState where
  | decisionRecorded
  | reserved
  | executionIntentRecorded
  | executing
  | committed
  | released
  | outcomeUnknown
  | reconciledCommitted
  | reconciledReleased
  deriving DecidableEq

def LifecycleState.isTerminal : LifecycleState → Bool
  | .committed | .released | .reconciledCommitted | .reconciledReleased => true
  | _ => false

inductive ProviderRetryClass where
  | exactIdempotent
  | conditional
  | observeBeforeRetry
  | nonRetryable
  deriving DecidableEq

inductive ReservationMode where
  | additive (unit : UnitId) (amount : UInt64)
  | exclusive
  deriving DecidableEq

structure ReservationRequest where
  reservationId : ReservationId
  algebraId : ReservationAlgebraId
  intentId : IntentId
  scopeDigest : CommitmentDigest
  windowDigest : Option CommitmentDigest
  mode : ReservationMode
  intentDigest : CommitmentDigest
  deriving DecidableEq

def hex (digest : Digest) : String :=
  String.ofList (digest.bytes.flatMap fun (byte : UInt8) =>
    [Nat.digitChar (byte >>> 4).toNat, Nat.digitChar (byte &&& 0x0F).toNat])

def lengthPrefixed (value : String) : Bytes := bigEndian64 value.utf8ByteSize ++ utf8 value

def optionalDigestBytes : Option Digest → Bytes
  | some digest => 1 :: digest.bytes
  | none => [0]

def ReservationMode.bytes : ReservationMode → Bytes
  | .additive unit amount => 0 :: utf8 unit.str ++ bigEndian64 amount.toNat
  | .exclusive => [1]

def ReservationKind.mode : ReservationKind → ReservationMode
  | .additive unit amount => .additive unit amount
  | .exclusive => .exclusive

/-- The request an intent derives, under the hexadecimal SHA-256 key of every input it commits. -/
def ReservationRequest.derive [Sha256] (workflow : WorkflowId) (domain : DomainId)
    (profile : ProfileId) (evaluator : EvaluatorSemanticId) (audience : ExecutorAudienceId)
    (algebraId : ReservationAlgebraId) (intent : ReservationIntentCommitment) :
    Except IdentifierError ReservationRequest := do
  let mode := intent.kind.mode
  let digest := Sha256.digest (utf8 "AUTHS-RESERVATION-KEY" ++ [0, 1] ++
    [workflow.str, domain.str, profile.str, evaluator.str, audience.str, algebraId.str,
      intent.intentId.str].flatMap lengthPrefixed ++
    [intent.scopeDigest, intent.actionDigest, intent.policyDigest, intent.evidenceDigest,
      intent.canonicalDigest].flatMap Digest.bytes ++
    optionalDigestBytes intent.windowDigest ++ mode.bytes)
  let reservationId ← SemanticId.parse 64 (hex digest)
  pure ⟨reservationId, algebraId, intent.intentId, intent.scopeDigest, intent.windowDigest, mode,
    intent.canonicalDigest⟩

inductive ReservationSetError where
  | tooMany
  | duplicate
  | invalidIdentity
  deriving DecidableEq

structure ReservationSet where
  entries : List ReservationRequest
  commitment : ReservationSetDigest
  deriving DecidableEq

def ReservationSet.derive [Sha256] (workflow : WorkflowId) (domain : DomainId)
    (profile : ProfileId) (evaluator : EvaluatorSemanticId) (audience : ExecutorAudienceId)
    (algebraId : ReservationAlgebraId) (outputs : BoundedOutputs) :
    Except ReservationSetError ReservationSet := do
  if maxReservationIntents < outputs.reservationIntents.length then .error .tooMany
  let derived ← outputs.reservationIntents.mapM fun intent =>
    (ReservationRequest.derive workflow domain profile evaluator audience algebraId intent).mapError
      fun _ => .invalidIdentity
  let entries := sortByKey ReservationRequest.reservationId derived
  if !strictlyOrdered (entries.map (·.reservationId)) then .error .duplicate
  pure ⟨entries, Sha256.digest (utf8 "AUTHS-RESERVATION-SET" ++ [0, 1] ++
    entries.flatMap fun entry => utf8 entry.reservationId.str ++ entry.intentDigest.bytes)⟩

structure ReservationEntry where
  request : ReservationRequest
  committed : Bool
  released : Bool
  deriving DecidableEq

def ReservationEntry.reserved (request : ReservationRequest) : ReservationEntry :=
  ⟨request, false, false⟩

def ReservationEntry.markCommitted (entry : ReservationEntry) : ReservationEntry :=
  { entry with committed := true }

def ReservationEntry.markReleased (entry : ReservationEntry) : ReservationEntry :=
  { entry with released := true }

inductive CapacityEntry where
  | additive (scopeDigest : CommitmentDigest) (windowDigest : Option CommitmentDigest)
      (unit : UnitId) (ceiling committed active : UInt64)
  | exclusive (scopeDigest : CommitmentDigest) (windowDigest : Option CommitmentDigest)
      (liveOwner : Option ReservationId)
  deriving DecidableEq

/-- What a capacity entry or rule is about. Additive keys come before exclusive ones, an absent
window before any other. -/
abbrev CapacityKey := Nat ×ₗ Digest ×ₗ WithBot Digest ×ₗ WithBot UnitId

def orBot {α : Type} : Option α → WithBot α
  | some a => a
  | none => ⊥

def additiveKey (scopeDigest : CommitmentDigest) (windowDigest : Option CommitmentDigest)
    (unit : UnitId) : CapacityKey :=
  toLex (0, toLex (scopeDigest, toLex (orBot windowDigest, (unit : WithBot UnitId))))

def exclusiveKey (scopeDigest : CommitmentDigest) (windowDigest : Option CommitmentDigest) :
    CapacityKey :=
  toLex (1, toLex (scopeDigest, toLex (orBot windowDigest, ⊥)))

def CapacityEntry.key : CapacityEntry → CapacityKey
  | .additive scopeDigest windowDigest unit .. => additiveKey scopeDigest windowDigest unit
  | .exclusive scopeDigest windowDigest _ => exclusiveKey scopeDigest windowDigest

def CapacityEntry.overcommitted : CapacityEntry → Bool
  | .additive _ _ _ ceiling committed active =>
    ceiling == 0 || (Checked.add committed active).all fun used => ceiling < used
  | .exclusive .. => false

inductive CapacitySnapshotError where
  | tooMany
  | invalidCapacity
  | duplicate
  deriving DecidableEq

structure CapacitySnapshot where
  entries : List CapacityEntry
  within : entries.length ≤ maxReservationIntents
  fits : ∀ entry ∈ entries, entry.overcommitted = false
  ordered : entries.Pairwise fun a b => a.key < b.key
  deriving DecidableEq

def CapacitySnapshot.new (entries : List CapacityEntry) :
    Except CapacitySnapshotError CapacitySnapshot :=
  if hlength : maxReservationIntents < entries.length then .error .tooMany
  else if hfits : entries.any CapacityEntry.overcommitted then .error .invalidCapacity
  else if hdistinct :
      adjacentDistinct ((sortByKey CapacityEntry.key entries).map CapacityEntry.key) = true then
    .ok {
      entries := sortByKey CapacityEntry.key entries
      within := by
        rw [(sortByKey_perm CapacityEntry.key entries).length_eq]
        omega
      fits := fun entry hentry => by
        have hmem := (sortByKey_perm CapacityEntry.key entries).mem_iff.mp hentry
        rw [List.any_eq_true] at hfits
        by_contra hover
        exact hfits ⟨entry, hmem, by simpa using hover⟩
      ordered := pairwise_lt_of_adjacentDistinct (sortByKey_pairwise CapacityEntry.key entries)
        hdistinct }
  else .error .duplicate

structure RevocationSnapshot where
  revoked : Bool
  snapshotDigest : CommitmentDigest
  deriving DecidableEq

inductive CancellationDisposition where
  | beforeAttemptAllowed
  | evidenceRequired
  deriving DecidableEq

inductive EffectConclusion where
  | effect
  | nonEffect
  | unknown
  | inconclusive
  deriving DecidableEq

/-- An execution intent. Its commitment is computed from the rest, so `intentDigest` is a function
of it. -/
structure ExecutionIntent where
  verifiedCommandDigest : CommitmentDigest
  providerRequestDigest : ProviderRequestDigest
  providerConditionDigest : ProviderConditionDigest
  providerContractId : ProviderContractId
  retryClass : ProviderRetryClass
  deriving DecidableEq

def retryClassCode : ProviderRetryClass → UInt8
  | .exactIdempotent => 0
  | .conditional => 1
  | .observeBeforeRetry => 2
  | .nonRetryable => 3

def ExecutionIntent.intentDigest [Sha256] (intent : ExecutionIntent) : ExecutionIntentDigest :=
  Sha256.digest (utf8 "AUTHS-EXECUTION-INTENT" ++ [0, 1] ++ intent.verifiedCommandDigest.bytes ++
    intent.providerRequestDigest.bytes ++ intent.providerConditionDigest.bytes ++
    utf8 intent.providerContractId.str ++ [retryClassCode intent.retryClass])

def maxProviderAttempts : Nat := 16
def maxReconciliationObservations : Nat := 32
def maxLifecycleEvents : Nat := 128
def maxLifecycleRecordBytes : Nat := 256 * 1024

/-- A one-based attempt ordinal. -/
structure AttemptOrdinal where
  value : UInt8
  valid : 0 < value.toNat ∧ value.toNat ≤ maxProviderAttempts
  deriving DecidableEq

def AttemptOrdinal.new (value : UInt8) : Option AttemptOrdinal :=
  if h : 0 < value.toNat ∧ value.toNat ≤ maxProviderAttempts then some ⟨value, h⟩ else none

@[simp] theorem AttemptOrdinal.new_value (o : AttemptOrdinal) :
    AttemptOrdinal.new o.value = some o := by
  simp [AttemptOrdinal.new, o.valid]

structure ProviderAttempt where
  ordinal : AttemptOrdinal
  startedAt : VerifierTime
  providerRequestDigest : ProviderRequestDigest
  providerConditionDigest : ProviderConditionDigest
  providerContractId : ProviderContractId
  callEntered : Bool
  deriving DecidableEq

structure ReconciliationObservation where
  reconciliationId : ReconciliationId
  sourceId : EvidenceSourceId
  observedAt : VerifierTime
  freshUntil : VerifierTime
  observationDigest : ObservationDigest
  conclusion : EffectConclusion
  providerRequestDigest : ProviderRequestDigest
  deriving DecidableEq

inductive LifecycleEventKind where
  | decisionPersisted
  | reservationPersisted
  | executionIntentPersisted
  | credentialAuthorized
  | attemptPersisted
  | providerCallEntered
  | providerResultPersisted
  | outcomeUnknownPersisted
  | reconciliationObserved
  | reconciliationPersisted
  deriving DecidableEq

structure LifecycleEvent where
  kind : LifecycleEventKind
  revision : UInt64
  verifierTime : VerifierTime
  triggerDigest : CommitmentDigest
  deriving DecidableEq

structure LifecycleReceiptEnvelope where
  revision : UInt64
  previous : Option LifecycleReceiptDigest
  fromState : Option LifecycleState
  toState : LifecycleState
  triggerDigest : CommitmentDigest
  verifierTime : VerifierTime
  requiredConfiguration : ConfigurationCommitment
  executedConfiguration : ConfigurationCommitment
  implementationId : ImplementationId
  domainReceiptDigest : Option DomainReceiptDigest
  receiptDigest : LifecycleReceiptDigest
  deriving DecidableEq

structure DecisionInput where
  coreAuthorized : Bool
  coreAuthorizationDigest : CommitmentDigest
  workflowId : WorkflowId
  lifecycleId : LifecycleId
  executionId : ExecutionId
  recoveryReferenceDigest : RecoveryReferenceDigest
  domainId : DomainId
  executorAudience : ExecutorAudienceId
  reservationAlgebraId : ReservationAlgebraId
  commitments : EvaluationCommitments
  outputs : BoundedOutputs
  reservations : ReservationSet
  decisionReceiptDigest : DecisionReceiptDigest
  domainDecisionReceiptDigest : DomainReceiptDigest
  implementationId : ImplementationId
  implementationBuildDigest : CommitmentDigest
  expiresAt : VerifierTime
  cancellation : CancellationDisposition
  deriving DecidableEq

/-- The reservation set the outputs of the decision itself derive. -/
def DecisionInput.deriveReservations [Sha256] (input : DecisionInput) :
    Except ReservationSetError ReservationSet :=
  ReservationSet.derive input.workflowId input.domainId input.commitments.profileId
    input.commitments.policyCommitment.evaluatorSemanticId input.executorAudience
    input.reservationAlgebraId input.outputs

def DecisionInput.Derived [Sha256] (input : DecisionInput) : Prop :=
  input.deriveReservations = .ok input.reservations

structure LifecycleRecord where
  input : DecisionInput
  state : LifecycleState
  revision : UInt64
  createdAt : VerifierTime
  updatedAt : VerifierTime
  reservationEntries : List ReservationEntry
  executionIntent : Option ExecutionIntent
  credentialAuthorized : Bool
  attempts : List ProviderAttempt
  observations : List ReconciliationObservation
  terminalResult : Option ProviderResultDigest
  events : List LifecycleEvent
  receipts : List LifecycleReceiptEnvelope
  deriving DecidableEq

structure TransitionContext where
  verifierTime : VerifierTime
  executedConfiguration : ConfigurationCommitment
  revocation : RevocationSnapshot
  capacity : CapacitySnapshot
  deriving DecidableEq

inductive TransitionCommand where
  | recordDecision (input : DecisionInput)
  | reserve
  | recordExecutionIntent (intent : ExecutionIntent)
  | authorizeCredential
  | startAttempt
  | markProviderCallEntered
  | commit (resultDigest : ProviderResultDigest) (domainReceiptDigest : DomainReceiptDigest)
  | release (resultDigest : ProviderResultDigest) (domainReceiptDigest : DomainReceiptDigest)
      (conclusion : EffectConclusion)
  | markOutcomeUnknown (domainReceiptDigest : DomainReceiptDigest)
  | reconcile (observation : ReconciliationObservation) (domainReceiptDigest : DomainReceiptDigest)
  deriving DecidableEq

structure StoreTransaction where
  workflowId : WorkflowId
  expectedRevision : Option UInt64
  command : TransitionCommand
  context : TransitionContext
  deriving DecidableEq

/-- The work a transition inspects, each count saturating at 255. -/
structure LifecycleWork where
  reservationIntents : UInt8
  capacityEntries : UInt8
  events : UInt8
  attempts : UInt8
  observations : UInt8
  transitionPredicates : UInt8
  deriving DecidableEq

def LifecycleWork.default : LifecycleWork := ⟨0, 0, 0, 0, 0, 0⟩

def canAppendEvent (record : LifecycleRecord) : Bool := record.events.length < maxLifecycleEvents

def canAppendAttempt (record : LifecycleRecord) : Bool :=
  record.attempts.length < maxProviderAttempts

def canAppendObservation (record : LifecycleRecord) : Bool :=
  record.observations.length < maxReconciliationObservations

end AuthsProof.Lifecycle
