import AuthsProof.Lifecycle.Kernel
import AuthsProof.Lib.Run

/-! One deterministic lifecycle transition: the gates read off a record, the payload a command
writes, and the event and receipt appended for it. -/

namespace AuthsProof.Lifecycle

inductive TransitionDisposition where
  | applied
  | exactReplay
  deriving DecidableEq

structure TransitionResult where
  record : LifecycleRecord
  disposition : TransitionDisposition
  work : LifecycleWork
  deriving DecidableEq

inductive LifecycleFailure where
  | conflict
  | illegalTransition
  | notAuthorized
  | notEligible
  | configurationMismatch
  | revoked
  | expired
  | capacityExceeded
  | executionIntentMissing
  | credentialNotAuthorized
  | attemptMissing
  | providerCallNotEntered
  | effectNotProved
  | nonEffectNotProved
  | reconciliationStale
  | reconciliationMismatch
  | terminal
  | limitExceeded
  | revisionOverflow
  deriving DecidableEq

structure TransitionError where
  failure : LifecycleFailure
  work : LifecycleWork
  deriving DecidableEq

def mapKernelFailure : KernelCode → LifecycleFailure
  | .terminal => .terminal
  | .illegalTransition | .observationOnly | .applied _ => .illegalTransition
  | .notAuthorized => .notAuthorized
  | .notEligible => .notEligible
  | .configurationMismatch => .configurationMismatch
  | .revoked => .revoked
  | .expired => .expired
  | .capacityExceeded => .capacityExceeded
  | .executionIntentMissing => .executionIntentMissing
  | .credentialNotAuthorized => .credentialNotAuthorized
  | .attemptMissing => .attemptMissing
  | .providerCallNotEntered => .providerCallNotEntered
  | .effectNotProved => .effectNotProved
  | .nonEffectNotProved => .nonEffectNotProved
  | .reconciliationStale => .reconciliationStale
  | .reconciliationMismatch => .reconciliationMismatch

def boundedCount (value : Nat) : UInt8 := if value ≤ 255 then UInt8.ofNat value else 255

def inspectedWork (current : Option LifecycleRecord) (context : TransitionContext) :
    LifecycleWork where
  reservationIntents :=
    current.elim 0 fun record => boundedCount record.input.reservations.entries.length
  capacityEntries := boundedCount context.capacity.entries.length
  events := current.elim 0 fun record => boundedCount record.events.length
  attempts := current.elim 0 fun record => boundedCount record.attempts.length
  observations := current.elim 0 fun record => boundedCount record.observations.length
  transitionPredicates := 0

def decisionBindingsComplete (input : DecisionInput) : Bool :=
  let outputs := input.outputs.reservationIntents
  let requests := input.reservations.entries
  input.recoveryReferenceDigest ≠ Digest.zero && outputs.length == requests.length &&
    requests.all fun request => outputs.any fun intent =>
      intent.intentId = request.intentId && intent.canonicalDigest = request.intentDigest &&
        intent.scopeDigest = request.scopeDigest && intent.windowDigest = request.windowDigest

def configurationMatches (input : DecisionInput) (context : TransitionContext) : Bool :=
  input.commitments.executedConfiguration = context.executedConfiguration &&
    configurationMatch input.commitments.requiredConfiguration context.executedConfiguration = .match

def entryAdmits (request : ReservationRequest) (entry : CapacityEntry) : Bool :=
  match request.mode, entry with
  | .additive unit amount, .additive scopeDigest windowDigest capacityUnit ceiling committed active =>
    request.scopeDigest = scopeDigest && request.windowDigest = windowDigest &&
      unit = capacityUnit && additiveCapacityAvailable ceiling committed active amount
  | .exclusive, .exclusive scopeDigest windowDigest liveOwner =>
    request.scopeDigest = scopeDigest && request.windowDigest = windowDigest &&
      exclusiveCapacityAvailable liveOwner.isSome (liveOwner = some request.reservationId)
  | _, _ => false

def capacityAvailable (record : LifecycleRecord) (context : TransitionContext) : Bool :=
  record.input.reservations.entries.all fun request =>
    context.capacity.entries.any fun entry => entryAdmits request entry

def operationFor : TransitionCommand → OperationCode
  | .recordDecision _ => .recordDecision
  | .reserve => .reserve
  | .recordExecutionIntent _ => .recordExecutionIntent
  | .authorizeCredential => .authorizeCredential
  | .startAttempt => .startAttempt
  | .markProviderCallEntered => .markProviderCallEntered
  | .commit .. => .commit
  | .release .. => .release
  | .markOutcomeUnknown _ => .markOutcomeUnknown
  | .reconcile observation _ =>
    match observation.conclusion with
    | .effect => .reconcileEffect
    | .nonEffect => .reconcileNonEffect
    | .unknown | .inconclusive => .reconcileInconclusive

def commandConclusion : TransitionCommand → Option EffectConclusion
  | .commit .. => some .effect
  | .release _ _ conclusion => some conclusion
  | .markOutcomeUnknown _ => some .unknown
  | .reconcile observation _ => some observation.conclusion
  | _ => none

def commandObservation : TransitionCommand → Option ReconciliationObservation
  | .reconcile observation _ => some observation
  | _ => none

def ReconciliationObservation.fresh (observation : ReconciliationObservation) (now : VerifierTime) :
    Bool :=
  observation.observedAt ≤ now && now ≤ observation.freshUntil

def ReconciliationObservation.binds (observation : ReconciliationObservation)
    (record : LifecycleRecord) : Bool :=
  record.executionIntent.any fun intent =>
    observation.providerRequestDigest = intent.providerRequestDigest

def gatesFor (record : LifecycleRecord) (command : TransitionCommand)
    (context : TransitionContext) : TransitionGates where
  coreAuthorized := record.input.coreAuthorized
  policyEligible := true
  configurationMatches := configurationMatches record.input context
  notRevoked := !context.revocation.revoked
  notExpired := context.verifierTime ≤ record.input.expiresAt
  capacityAvailable := capacityAvailable record context
  executionIntentPresent := record.executionIntent.isSome ||
    match command with
    | .recordExecutionIntent _ => true
    | _ => false
  credentialAuthorized := record.credentialAuthorized
  attemptPresent := !record.attempts.isEmpty ||
    match command with
    | .startAttempt => true
    | _ => false
  providerCallEntered := record.attempts.getLast?.any (·.callEntered)
  cancellationAllowed := record.input.cancellation = .beforeAttemptAllowed
  definiteEffect := commandConclusion command = some .effect
  definiteNonEffect := commandConclusion command = some .nonEffect
  reconciliationFresh := (commandObservation command).any (·.fresh context.verifierTime)
  reconciliationMatches := (commandObservation command).any (·.binds record)

/-- What a command writes besides the state, before its event and receipt. -/
def writePayload (record : LifecycleRecord) (command : TransitionCommand) (now : VerifierTime) :
    Except TransitionError LifecycleRecord :=
  match command with
  | .reserve => .ok { record with
      reservationEntries := record.input.reservations.entries.map .reserved }
  | .recordExecutionIntent intent => .ok { record with executionIntent := some intent }
  | .authorizeCredential => .ok { record with credentialAuthorized := true }
  | .startAttempt =>
    match record.executionIntent with
    | none => .error ⟨.executionIntentMissing, .default⟩
    | some intent =>
      -- the narrowing to `u8` fails above 255, the ordinal above 16
      match if record.attempts.length + 1 ≤ 255 then
          AttemptOrdinal.new (UInt8.ofNat (record.attempts.length + 1)) else none with
      | none => .error ⟨.limitExceeded, .default⟩
      | some ordinal => .ok { record with
          attempts := record.attempts ++ [⟨ordinal, now, intent.providerRequestDigest,
            intent.providerConditionDigest, intent.providerContractId, false⟩]
          credentialAuthorized := false }
  | .markProviderCallEntered =>
    match record.attempts.getLast? with
    | none => .error ⟨.attemptMissing, .default⟩
    | some attempt => .ok { record with
        attempts := record.attempts.dropLast ++ [{ attempt with callEntered := true }] }
  | .commit resultDigest _ => .ok { record with
      reservationEntries := record.reservationEntries.map .markCommitted
      terminalResult := some resultDigest }
  | .release resultDigest _ _ => .ok { record with
      reservationEntries := record.reservationEntries.map .markReleased
      terminalResult := some resultDigest }
  | .markOutcomeUnknown _ | .recordDecision _ => .ok record
  | .reconcile observation _ =>
    let observed := { record with observations := record.observations ++ [observation] }
    match observation.conclusion with
    | .effect => .ok { observed with
        reservationEntries := record.reservationEntries.map .markCommitted }
    | .nonEffect => .ok { observed with
        reservationEntries := record.reservationEntries.map .markReleased }
    | .unknown | .inconclusive => .ok observed

def applyPayload (record : LifecycleRecord) (command : TransitionCommand)
    (nextState : LifecycleState) (now : VerifierTime) : Except TransitionError LifecycleRecord := do
  let written ← writePayload record command now
  pure { written with state := nextState }

def stateCode : LifecycleState → UInt8
  | .decisionRecorded => 0
  | .reserved => 1
  | .executionIntentRecorded => 2
  | .executing => 3
  | .committed => 4
  | .released => 5
  | .outcomeUnknown => 6
  | .reconciledCommitted => 7
  | .reconciledReleased => 8

def hashConfiguration (value : ConfigurationCommitment) : Bytes :=
  utf8 value.semanticId.str ++ utf8 value.canonicalizationId.str ++
    value.configurationDigest.bytes ++
    match value.implementationId with
    | some implementation => 1 :: utf8 implementation.str
    | none => [0]

/-- The commitment of a receipt. Of the record it reads the decision input alone. -/
def computeReceiptDigest [Sha256] (input : DecisionInput) (revision : UInt64)
    (previous : Option LifecycleReceiptDigest) (fromState : Option LifecycleState)
    (toState : LifecycleState) (trigger : CommitmentDigest)
    (domainReceipt : Option DomainReceiptDigest) (verifierTime : VerifierTime)
    (required executed : ConfigurationCommitment) : LifecycleReceiptDigest :=
  Sha256.digest (utf8 "AUTHS-LIFECYCLE-RECEIPT" ++ [0, 2] ++ utf8 input.lifecycleId.str ++
    utf8 input.executionId.str ++ input.recoveryReferenceDigest.bytes ++
    bigEndian64 revision.toNat ++ [fromState.elim 255 stateCode, stateCode toState] ++
    trigger.bytes ++ bigEndian64 verifierTime.toNat ++ hashConfiguration required ++
    hashConfiguration executed ++ utf8 input.implementationId.str ++
    optionalDigestBytes previous ++ optionalDigestBytes domainReceipt)

def makeReceipt [Sha256] (record : LifecycleRecord) (revision : UInt64)
    (fromState : Option LifecycleState) (toState : LifecycleState) (trigger : CommitmentDigest)
    (domainReceipt : Option DomainReceiptDigest) (verifierTime : VerifierTime) :
    LifecycleReceiptEnvelope :=
  let previous := record.receipts.getLast?.map (·.receiptDigest)
  let required := record.input.commitments.requiredConfiguration
  let executed := record.input.commitments.executedConfiguration
  { revision, previous, fromState, toState, triggerDigest := trigger, verifierTime
    requiredConfiguration := required
    executedConfiguration := executed
    implementationId := record.input.implementationId
    domainReceiptDigest := domainReceipt
    receiptDigest := computeReceiptDigest record.input revision previous fromState toState trigger
      domainReceipt verifierTime required executed }

def eventKindFor : Option LifecycleState → LifecycleState → LifecycleEventKind
  | none, .decisionRecorded => .decisionPersisted
  | _, .reserved => .reservationPersisted
  | some .reserved, .executionIntentRecorded => .executionIntentPersisted
  | some .executionIntentRecorded, .executionIntentRecorded => .credentialAuthorized
  | some .executionIntentRecorded, .executing => .attemptPersisted
  | some .executing, .executing => .providerCallEntered
  | _, .committed | _, .released => .providerResultPersisted
  | _, .outcomeUnknown => .outcomeUnknownPersisted
  | _, .reconciledCommitted | _, .reconciledReleased => .reconciliationPersisted
  | _, _ => .reconciliationObserved

/-- The record with one more event and receipt, at the given revision. -/
def extended [Sha256] (record : LifecycleRecord) (revision : UInt64)
    (fromState : Option LifecycleState) (toState : LifecycleState) (trigger : CommitmentDigest)
    (domainReceipt : Option DomainReceiptDigest) (now : VerifierTime) : LifecycleRecord :=
  { record with
    revision
    updatedAt := now
    events := record.events ++ [⟨eventKindFor fromState toState, revision, now, trigger⟩]
    receipts := record.receipts ++
      [makeReceipt record revision fromState toState trigger domainReceipt now] }

def appendTransition [Sha256] (record : LifecycleRecord) (fromState : Option LifecycleState)
    (toState : LifecycleState) (trigger : CommitmentDigest)
    (domainReceipt : Option DomainReceiptDigest) (context : TransitionContext) :
    Except TransitionError LifecycleRecord :=
  match Checked.add record.revision 1 with
  | none => .error ⟨.revisionOverflow, .default⟩
  | some revision =>
    .ok (extended record revision fromState toState trigger domainReceipt context.verifierTime)

def triggerDigest [Sha256] (command : TransitionCommand) (record : LifecycleRecord) :
    CommitmentDigest :=
  match command with
  | .recordDecision input => input.decisionReceiptDigest
  | .reserve => record.input.reservations.commitment
  | .recordExecutionIntent intent => intent.intentDigest
  | .authorizeCredential => record.executionIntent.elim Digest.zero (·.intentDigest)
  | .startAttempt | .markProviderCallEntered =>
    record.executionIntent.elim Digest.zero (·.providerRequestDigest)
  | .commit resultDigest _ | .release resultDigest _ _ => resultDigest
  | .markOutcomeUnknown domainReceiptDigest => domainReceiptDigest
  | .reconcile observation _ => observation.observationDigest

def domainReceipt : TransitionCommand → Option DomainReceiptDigest
  | .commit _ domainReceiptDigest | .release _ domainReceiptDigest _
  | .markOutcomeUnknown domainReceiptDigest | .reconcile _ domainReceiptDigest =>
    some domainReceiptDigest
  | _ => none

def decisionGates (input : DecisionInput) (context : TransitionContext) : TransitionGates where
  coreAuthorized := input.coreAuthorized
  policyEligible := true
  configurationMatches := configurationMatches input context
  notRevoked := !context.revocation.revoked
  notExpired := context.verifierTime ≤ input.expiresAt
  capacityAvailable := true
  executionIntentPresent := false
  credentialAuthorized := false
  attemptPresent := false
  providerCallEntered := false
  cancellationAllowed := false
  definiteEffect := false
  definiteNonEffect := false
  reconciliationFresh := false
  reconciliationMatches := false

/-- The record of a decision before its first event. -/
def decisionRecord (input : DecisionInput) (now : VerifierTime) : LifecycleRecord where
  input := input
  state := .decisionRecorded
  revision := 0
  createdAt := now
  updatedAt := now
  reservationEntries := []
  executionIntent := none
  credentialAuthorized := false
  attempts := []
  observations := []
  terminalResult := none
  events := []
  receipts := []

def recordDecision [Sha256] (current : Option LifecycleRecord) (input : DecisionInput)
    (context : TransitionContext) (work : LifecycleWork) :
    Except TransitionError TransitionResult :=
  match current with
  | some existing =>
    if !configurationMatches input context then .error ⟨.configurationMismatch, work⟩
    else match replayCode true (existing.input = input) with
      | .exactReplay => .ok ⟨existing, .exactReplay, work⟩
      | _ => .error ⟨.conflict, work⟩
  | none =>
    if !decisionBindingsComplete input then .error ⟨.notEligible, work⟩
    else
      let work := { work with transitionPredicates := 5 }
      match transitionCode none .recordDecision (decisionGates input context) with
      | .applied .decisionRecorded => do
        let record ← appendTransition (decisionRecord input context.verifierTime) none
          .decisionRecorded input.decisionReceiptDigest (some input.domainDecisionReceiptDigest)
          context
        pure ⟨record, .applied, work⟩
      | other => .error ⟨mapKernelFailure other, work⟩

def applyTransition [Sha256] (current : Option LifecycleRecord) (command : TransitionCommand)
    (context : TransitionContext) : Except TransitionError TransitionResult :=
  let work := inspectedWork current context
  match command, current with
  | .recordDecision input, _ => recordDecision current input context work
  | _, none => .error ⟨.illegalTransition, work⟩
  | _, some existing =>
    if !canAppendEvent existing then .error ⟨.limitExceeded, work⟩
    else if command = .startAttempt && !canAppendAttempt existing then .error ⟨.limitExceeded, work⟩
    else if (commandObservation command).isSome && !canAppendObservation existing then
      .error ⟨.limitExceeded, work⟩
    else
      let work := { work with transitionPredicates := 15 }
      let code := transitionCode (some existing.state) (operationFor command)
        (gatesFor existing command context)
      match code.next existing.state with
      | none => .error ⟨mapKernelFailure code, work⟩
      | some nextState => do
        let payload ← applyPayload existing command nextState context.verifierTime
        let next ← appendTransition payload (some existing.state) nextState
          (triggerDigest command existing) (domainReceipt command) context
        pure ⟨next, .applied, work⟩

end AuthsProof.Lifecycle
