import AuthsProof.Lifecycle.Integrity

/-! The persistence codec of a lifecycle record: the wire structures, the record they reconstruct and
the checks on both sides of the serializer. -/

namespace AuthsProof.Lifecycle

inductive CodecError where
  | tooLarge
  | malformed
  | unsupportedVersion
  | nonCanonical
  | invalidSemantics
  deriving DecidableEq

structure WirePolicy where
  policyType : String
  policyVersion : UInt16
  canonicalizationId : String
  policyDigest : Digest
  evaluatorSemanticId : String

structure WireConfiguration where
  semanticId : String
  canonicalizationId : String
  configurationDigest : Digest
  implementationId : Option String

structure WireCommitments where
  profileId : String
  exactActionDigest : Digest
  policy : WirePolicy
  evidenceSchemaId : String
  evidenceDigest : Digest
  evidenceSourceId : String
  evidenceObservedAt : UInt64
  stateSnapshotSchemaId : String
  stateSnapshotDigest : Digest
  verifierTime : UInt64
  requiredConfiguration : WireConfiguration
  executedConfiguration : WireConfiguration

structure WireReservationIntent where
  schemaId : String
  intentId : String
  scopeDigest : Digest
  kind : UInt8
  unit : Option String
  amount : Option UInt64
  windowDigest : Option Digest
  actionDigest : Digest
  policyDigest : Digest
  evidenceDigest : Digest
  canonicalDigest : Digest
  canonicalBytes : UInt32

structure WireObligation where
  schemaId : String
  obligationId : String
  «class» : UInt8
  payloadDigest : Digest
  canonicalBytes : UInt32

structure WireOutputs where
  reservations : List WireReservationIntent
  obligations : List WireObligation
  reservationIntentsCommitment : Digest
  obligationsCommitment : Digest

structure WireDecision where
  coreAuthorized : Bool
  coreAuthorizationDigest : Digest
  workflowId : String
  lifecycleId : String
  executionId : String
  recoveryReferenceDigest : Digest
  domainId : String
  executorAudience : String
  reservationAlgebraId : String
  commitments : WireCommitments
  outputs : WireOutputs
  decisionReceiptDigest : Digest
  domainDecisionReceiptDigest : Digest
  implementationId : String
  implementationBuildDigest : Digest
  expiresAt : UInt64
  cancellation : UInt8

structure WireExecutionIntent where
  verifiedCommandDigest : Digest
  providerRequestDigest : Digest
  providerConditionDigest : Digest
  providerContractId : String
  retryClass : UInt8

structure WireAttempt where
  ordinal : UInt8
  startedAt : UInt64
  providerRequestDigest : Digest
  providerConditionDigest : Digest
  providerContractId : String
  callEntered : Bool

structure WireObservation where
  reconciliationId : String
  sourceId : String
  observedAt : UInt64
  freshUntil : UInt64
  observationDigest : Digest
  conclusion : UInt8
  providerRequestDigest : Digest

structure WireEvent where
  kind : UInt8
  revision : UInt64
  verifierTime : UInt64
  triggerDigest : Digest

structure WireReceipt where
  revision : UInt64
  previous : Option Digest
  fromState : Option UInt8
  toState : UInt8
  triggerDigest : Digest
  verifierTime : UInt64
  requiredConfiguration : WireConfiguration
  executedConfiguration : WireConfiguration
  implementationId : String
  domainReceiptDigest : Option Digest
  receiptDigest : Digest

structure WireRecord where
  input : WireDecision
  state : UInt8
  revision : UInt64
  createdAt : UInt64
  updatedAt : UInt64
  reservationStatuses : List (Bool × Bool)
  executionIntent : Option WireExecutionIntent
  credentialAuthorized : Bool
  attempts : List WireAttempt
  observations : List WireObservation
  terminalResult : Option Digest
  events : List WireEvent
  receipts : List WireReceipt

structure WireEnvelope where
  version : UInt8
  record : WireRecord

section Codes

def parseState : UInt8 → Except CodecError LifecycleState
  | 0 => .ok .decisionRecorded
  | 1 => .ok .reserved
  | 2 => .ok .executionIntentRecorded
  | 3 => .ok .executing
  | 4 => .ok .committed
  | 5 => .ok .released
  | 6 => .ok .outcomeUnknown
  | 7 => .ok .reconciledCommitted
  | 8 => .ok .reconciledReleased
  | _ => .error .invalidSemantics

@[simp] theorem parseState_stateCode (s : LifecycleState) : parseState (stateCode s) = .ok s := by
  cases s <;> rfl

def parseRetry : UInt8 → Except CodecError ProviderRetryClass
  | 0 => .ok .exactIdempotent
  | 1 => .ok .conditional
  | 2 => .ok .observeBeforeRetry
  | 3 => .ok .nonRetryable
  | _ => .error .invalidSemantics

@[simp] theorem parseRetry_retryClassCode (c : ProviderRetryClass) :
    parseRetry (retryClassCode c) = .ok c := by
  cases c <;> rfl

def conclusionCode : EffectConclusion → UInt8
  | .effect => 0
  | .nonEffect => 1
  | .unknown => 2
  | .inconclusive => 3

def parseConclusion : UInt8 → Except CodecError EffectConclusion
  | 0 => .ok .effect
  | 1 => .ok .nonEffect
  | 2 => .ok .unknown
  | 3 => .ok .inconclusive
  | _ => .error .invalidSemantics

@[simp] theorem parseConclusion_conclusionCode (c : EffectConclusion) :
    parseConclusion (conclusionCode c) = .ok c := by
  cases c <;> rfl

def cancellationCode : CancellationDisposition → UInt8
  | .beforeAttemptAllowed => 0
  | .evidenceRequired => 1

def parseCancellation : UInt8 → Except CodecError CancellationDisposition
  | 0 => .ok .beforeAttemptAllowed
  | 1 => .ok .evidenceRequired
  | _ => .error .invalidSemantics

@[simp] theorem parseCancellation_cancellationCode (c : CancellationDisposition) :
    parseCancellation (cancellationCode c) = .ok c := by
  cases c <;> rfl

def obligationCode : ObligationClass → UInt8
  | .preExecution => 0
  | .commandConstruction => 1
  | .postExecutionObservation => 2

def parseObligation : UInt8 → Except CodecError ObligationClass
  | 0 => .ok .preExecution
  | 1 => .ok .commandConstruction
  | 2 => .ok .postExecutionObservation
  | _ => .error .invalidSemantics

@[simp] theorem parseObligation_obligationCode (c : ObligationClass) :
    parseObligation (obligationCode c) = .ok c := by
  cases c <;> rfl

def eventCode : LifecycleEventKind → UInt8
  | .decisionPersisted => 0
  | .reservationPersisted => 1
  | .executionIntentPersisted => 2
  | .credentialAuthorized => 3
  | .attemptPersisted => 4
  | .providerCallEntered => 5
  | .providerResultPersisted => 6
  | .outcomeUnknownPersisted => 7
  | .reconciliationObserved => 8
  | .reconciliationPersisted => 9

def parseEvent : UInt8 → Except CodecError LifecycleEventKind
  | 0 => .ok .decisionPersisted
  | 1 => .ok .reservationPersisted
  | 2 => .ok .executionIntentPersisted
  | 3 => .ok .credentialAuthorized
  | 4 => .ok .attemptPersisted
  | 5 => .ok .providerCallEntered
  | 6 => .ok .providerResultPersisted
  | 7 => .ok .outcomeUnknownPersisted
  | 8 => .ok .reconciliationObserved
  | 9 => .ok .reconciliationPersisted
  | _ => .error .invalidSemantics

@[simp] theorem parseEvent_eventCode (k : LifecycleEventKind) :
    parseEvent (eventCode k) = .ok k := by
  cases k <;> rfl

/-- Any failure to rebuild a value is the same error. -/
def semantic {ε α : Type} (value : Except ε α) : Except CodecError α :=
  value.mapError fun _ => .invalidSemantics

@[simp] theorem semantic_ok {ε α : Type} (a : α) :
    semantic (.ok a : Except ε α) = .ok a := rfl

@[simp] theorem semantic_error {ε α : Type} (e : ε) :
    semantic (.error e : Except ε α) = .error .invalidSemantics := rfl

def transposed {α β : Type} (f : α → Except CodecError β) : Option α → Except CodecError (Option β)
  | none => .ok none
  | some a => (f a).map some

theorem transposed_map {α β : Type} {f : β → Except CodecError α} {g : α → β} {o : Option α}
    (h : ∀ a, f (g a) = .ok a) : transposed f (o.map g) = .ok o := by
  cases o with
  | none => rfl
  | some a => simp [transposed, h, Except.map]

theorem mapM_map {α β : Type} {f : β → Except CodecError α} {g : α → β} {xs : List α}
    (h : ∀ a ∈ xs, f (g a) = .ok a) : (xs.map g).mapM f = .ok xs := by
  induction xs with
  | nil => rfl
  | cons x xs ih =>
    rw [List.map_cons, List.mapM_cons, h x List.mem_cons_self,
      ih fun a ha => h a (List.mem_cons_of_mem x ha)]
    rfl

end Codes

section Wire

variable [Sha256]

def wireConfiguration (value : ConfigurationCommitment) : WireConfiguration where
  semanticId := value.semanticId.str
  canonicalizationId := value.canonicalizationId.str
  configurationDigest := value.configurationDigest
  implementationId := value.implementationId.map (·.str)

def WireConfiguration.toConfiguration (wire : WireConfiguration) :
    Except CodecError ConfigurationCommitment := do
  let semanticId ← semantic (SemanticId.parse 128 wire.semanticId)
  let canonicalizationId ← semantic (SemanticId.parse 64 wire.canonicalizationId)
  let implementationId ←
    transposed (fun value => semantic (SemanticId.parse 128 value)) wire.implementationId
  pure ⟨semanticId, canonicalizationId, wire.configurationDigest, implementationId⟩

def wirePolicy (value : PolicyCommitment) : WirePolicy where
  policyType := value.policyType.str
  policyVersion := value.policyVersion
  canonicalizationId := value.canonicalizationId.str
  policyDigest := value.policyDigest
  evaluatorSemanticId := value.evaluatorSemanticId.str

def WirePolicy.toPolicy (wire : WirePolicy) : Except CodecError PolicyCommitment := do
  let policyType ← semantic (SemanticId.parse 128 wire.policyType)
  let canonicalizationId ← semantic (SemanticId.parse 64 wire.canonicalizationId)
  let evaluatorSemanticId ← semantic (SemanticId.parse 128 wire.evaluatorSemanticId)
  semantic (PolicyCommitment.new policyType wire.policyVersion canonicalizationId wire.policyDigest
    evaluatorSemanticId)

def wireCommitments (value : EvaluationCommitments) : WireCommitments where
  profileId := value.profileId.str
  exactActionDigest := value.exactActionDigest
  policy := wirePolicy value.policyCommitment
  evidenceSchemaId := value.evidenceSchemaId.str
  evidenceDigest := value.evidenceDigest
  evidenceSourceId := value.evidenceSourceId.str
  evidenceObservedAt := value.evidenceObservedAt
  stateSnapshotSchemaId := value.stateSnapshotSchemaId.str
  stateSnapshotDigest := value.stateSnapshotDigest
  verifierTime := value.verifierTime
  requiredConfiguration := wireConfiguration value.requiredConfiguration
  executedConfiguration := wireConfiguration value.executedConfiguration

def WireCommitments.toCommitments (wire : WireCommitments) :
    Except CodecError EvaluationCommitments := do
  let profileId ← semantic (SemanticId.parse 128 wire.profileId)
  let policyCommitment ← wire.policy.toPolicy
  let evidenceSchemaId ← semantic (SemanticId.parse 128 wire.evidenceSchemaId)
  let evidenceSourceId ← semantic (SemanticId.parse 128 wire.evidenceSourceId)
  let stateSnapshotSchemaId ← semantic (SemanticId.parse 128 wire.stateSnapshotSchemaId)
  let requiredConfiguration ← wire.requiredConfiguration.toConfiguration
  let executedConfiguration ← wire.executedConfiguration.toConfiguration
  pure ⟨profileId, wire.exactActionDigest, policyCommitment, evidenceSchemaId, wire.evidenceDigest,
    evidenceSourceId, wire.evidenceObservedAt, stateSnapshotSchemaId, wire.stateSnapshotDigest,
    wire.verifierTime, requiredConfiguration, executedConfiguration⟩

def wireReservationIntent (value : ReservationIntentCommitment) : WireReservationIntent where
  schemaId := value.schemaId.str
  intentId := value.intentId.str
  scopeDigest := value.scopeDigest
  kind := match value.kind with
    | .additive .. => 0
    | .exclusive => 1
  unit := match value.kind with
    | .additive unit _ => some unit.str
    | .exclusive => none
  amount := match value.kind with
    | .additive _ amount => some amount
    | .exclusive => none
  windowDigest := value.windowDigest
  actionDigest := value.actionDigest
  policyDigest := value.policyDigest
  evidenceDigest := value.evidenceDigest
  canonicalDigest := value.canonicalDigest
  canonicalBytes := value.canonicalBytes

def WireReservationIntent.toKind (wire : WireReservationIntent) :
    Except CodecError ReservationKind :=
  match wire.kind, wire.unit, wire.amount with
  | 0, some unit, some amount => do
    let unit ← semantic (SemanticId.parse 64 unit)
    semantic (ReservationKind.newAdditive unit amount)
  | 1, none, none => .ok .exclusive
  | _, _, _ => .error .invalidSemantics

def WireReservationIntent.toIntent (wire : WireReservationIntent) :
    Except CodecError ReservationIntentCommitment := do
  let kind ← wire.toKind
  let schemaId ← semantic (SemanticId.parse 128 wire.schemaId)
  let intentId ← semantic (SemanticId.parse 96 wire.intentId)
  semantic (ReservationIntentCommitment.new schemaId intentId wire.scopeDigest kind
    wire.windowDigest wire.actionDigest wire.policyDigest wire.evidenceDigest wire.canonicalDigest
    wire.canonicalBytes)

def wireObligation (value : ObligationCommitment) : WireObligation where
  schemaId := value.schemaId.str
  obligationId := value.obligationId.str
  «class» := obligationCode value.class
  payloadDigest := value.payloadDigest
  canonicalBytes := value.canonicalBytes

def WireObligation.toObligation (wire : WireObligation) :
    Except CodecError ObligationCommitment := do
  let schemaId ← semantic (SemanticId.parse 128 wire.schemaId)
  let obligationId ← semantic (SemanticId.parse 96 wire.obligationId)
  let obligationClass ← parseObligation wire.class
  semantic (ObligationCommitment.new schemaId obligationId obligationClass wire.payloadDigest
    wire.canonicalBytes)

def wireOutputs (value : BoundedOutputs) : WireOutputs where
  reservations := value.reservationIntents.map wireReservationIntent
  obligations := value.obligations.map wireObligation
  reservationIntentsCommitment := value.reservationIntentsCommitment
  obligationsCommitment := value.obligationsCommitment

def WireOutputs.toOutputs (wire : WireOutputs) : Except CodecError BoundedOutputs := do
  let reservations ← wire.reservations.mapM WireReservationIntent.toIntent
  let obligations ← wire.obligations.mapM WireObligation.toObligation
  semantic (BoundedOutputs.new reservations obligations wire.reservationIntentsCommitment
    wire.obligationsCommitment)

def wireDecision (input : DecisionInput) : WireDecision where
  coreAuthorized := input.coreAuthorized
  coreAuthorizationDigest := input.coreAuthorizationDigest
  workflowId := input.workflowId.str
  lifecycleId := input.lifecycleId.str
  executionId := input.executionId.str
  recoveryReferenceDigest := input.recoveryReferenceDigest
  domainId := input.domainId.str
  executorAudience := input.executorAudience.str
  reservationAlgebraId := input.reservationAlgebraId.str
  commitments := wireCommitments input.commitments
  outputs := wireOutputs input.outputs
  decisionReceiptDigest := input.decisionReceiptDigest
  domainDecisionReceiptDigest := input.domainDecisionReceiptDigest
  implementationId := input.implementationId.str
  implementationBuildDigest := input.implementationBuildDigest
  expiresAt := input.expiresAt
  cancellation := cancellationCode input.cancellation

/-- Rebuilds a decision; its reservations are not stored but derived again. -/
def WireDecision.toDecision (wire : WireDecision) : Except CodecError DecisionInput := do
  let workflowId ← semantic (WorkflowId.parse wire.workflowId)
  let lifecycleId ← semantic (SemanticId.parse 64 wire.lifecycleId)
  let executionId ← semantic (SemanticId.parse 64 wire.executionId)
  let domainId ← semantic (SemanticId.parse 128 wire.domainId)
  let executorAudience ← semantic (SemanticId.parse 128 wire.executorAudience)
  let reservationAlgebraId ← semantic (SemanticId.parse 128 wire.reservationAlgebraId)
  let commitments ← wire.commitments.toCommitments
  let outputs ← wire.outputs.toOutputs
  let reservations ← semantic (ReservationSet.derive workflowId domainId commitments.profileId
    commitments.policyCommitment.evaluatorSemanticId executorAudience reservationAlgebraId outputs)
  let implementationId ← semantic (SemanticId.parse 128 wire.implementationId)
  let cancellation ← parseCancellation wire.cancellation
  pure {
    coreAuthorized := wire.coreAuthorized
    coreAuthorizationDigest := wire.coreAuthorizationDigest
    workflowId, lifecycleId, executionId
    recoveryReferenceDigest := wire.recoveryReferenceDigest
    domainId, executorAudience, reservationAlgebraId, commitments, outputs, reservations
    decisionReceiptDigest := wire.decisionReceiptDigest
    domainDecisionReceiptDigest := wire.domainDecisionReceiptDigest
    implementationId
    implementationBuildDigest := wire.implementationBuildDigest
    expiresAt := wire.expiresAt
    cancellation }

def wireExecutionIntent (value : ExecutionIntent) : WireExecutionIntent where
  verifiedCommandDigest := value.verifiedCommandDigest
  providerRequestDigest := value.providerRequestDigest
  providerConditionDigest := value.providerConditionDigest
  providerContractId := value.providerContractId.str
  retryClass := retryClassCode value.retryClass

def WireExecutionIntent.toExecutionIntent (wire : WireExecutionIntent) :
    Except CodecError ExecutionIntent := do
  let providerContractId ← semantic (SemanticId.parse 128 wire.providerContractId)
  let retryClass ← parseRetry wire.retryClass
  pure ⟨wire.verifiedCommandDigest, wire.providerRequestDigest, wire.providerConditionDigest,
    providerContractId, retryClass⟩

def wireAttempt (value : ProviderAttempt) : WireAttempt where
  ordinal := value.ordinal.value
  startedAt := value.startedAt
  providerRequestDigest := value.providerRequestDigest
  providerConditionDigest := value.providerConditionDigest
  providerContractId := value.providerContractId.str
  callEntered := value.callEntered

def WireAttempt.toAttempt (wire : WireAttempt) : Except CodecError ProviderAttempt := do
  let ordinal ← match AttemptOrdinal.new wire.ordinal with
    | some ordinal => .ok ordinal
    | none => .error .invalidSemantics
  let providerContractId ← semantic (SemanticId.parse 128 wire.providerContractId)
  pure ⟨ordinal, wire.startedAt, wire.providerRequestDigest, wire.providerConditionDigest,
    providerContractId, wire.callEntered⟩

def wireObservation (value : ReconciliationObservation) : WireObservation where
  reconciliationId := value.reconciliationId.str
  sourceId := value.sourceId.str
  observedAt := value.observedAt
  freshUntil := value.freshUntil
  observationDigest := value.observationDigest
  conclusion := conclusionCode value.conclusion
  providerRequestDigest := value.providerRequestDigest

def WireObservation.toObservation (wire : WireObservation) :
    Except CodecError ReconciliationObservation := do
  let reconciliationId ← semantic (SemanticId.parse 64 wire.reconciliationId)
  let sourceId ← semantic (SemanticId.parse 128 wire.sourceId)
  let conclusion ← parseConclusion wire.conclusion
  pure ⟨reconciliationId, sourceId, wire.observedAt, wire.freshUntil, wire.observationDigest,
    conclusion, wire.providerRequestDigest⟩

def wireEvent (value : LifecycleEvent) : WireEvent where
  kind := eventCode value.kind
  revision := value.revision
  verifierTime := value.verifierTime
  triggerDigest := value.triggerDigest

def WireEvent.toEvent (wire : WireEvent) : Except CodecError LifecycleEvent := do
  let kind ← parseEvent wire.kind
  pure ⟨kind, wire.revision, wire.verifierTime, wire.triggerDigest⟩

def wireReceipt (value : LifecycleReceiptEnvelope) : WireReceipt where
  revision := value.revision
  previous := value.previous
  fromState := value.fromState.map stateCode
  toState := stateCode value.toState
  triggerDigest := value.triggerDigest
  verifierTime := value.verifierTime
  requiredConfiguration := wireConfiguration value.requiredConfiguration
  executedConfiguration := wireConfiguration value.executedConfiguration
  implementationId := value.implementationId.str
  domainReceiptDigest := value.domainReceiptDigest
  receiptDigest := value.receiptDigest

def WireReceipt.toReceipt (wire : WireReceipt) : Except CodecError LifecycleReceiptEnvelope := do
  let fromState ← transposed parseState wire.fromState
  let toState ← parseState wire.toState
  let requiredConfiguration ← wire.requiredConfiguration.toConfiguration
  let executedConfiguration ← wire.executedConfiguration.toConfiguration
  let implementationId ← semantic (SemanticId.parse 128 wire.implementationId)
  pure ⟨wire.revision, wire.previous, fromState, toState, wire.triggerDigest, wire.verifierTime,
    requiredConfiguration, executedConfiguration, implementationId, wire.domainReceiptDigest,
    wire.receiptDigest⟩

def wireRecord (record : LifecycleRecord) : WireRecord where
  input := wireDecision record.input
  state := stateCode record.state
  revision := record.revision
  createdAt := record.createdAt
  updatedAt := record.updatedAt
  reservationStatuses := record.reservationEntries.map fun entry => (entry.committed, entry.released)
  executionIntent := record.executionIntent.map wireExecutionIntent
  credentialAuthorized := record.credentialAuthorized
  attempts := record.attempts.map wireAttempt
  observations := record.observations.map wireObservation
  terminalResult := record.terminalResult
  events := record.events.map wireEvent
  receipts := record.receipts.map wireReceipt

/-- Marks each entry by its stored status; no entry is both committed and released. -/
def applyStatuses : List ReservationEntry → List (Bool × Bool) →
    Except CodecError (List ReservationEntry)
  | entry :: entries, (committed, released) :: statuses =>
    if committed && released then .error .invalidSemantics
    else do
      let entry := if committed then entry.markCommitted else entry
      let entry := if released then entry.markReleased else entry
      let rest ← applyStatuses entries statuses
      pure (entry :: rest)
  | entries, _ => .ok entries

def WireRecord.toRecord (wire : WireRecord) : Except CodecError LifecycleRecord := do
  let input ← wire.input.toDecision
  let state ← parseState wire.state
  let expectedStatuses :=
    if state = .decisionRecorded then 0 else input.reservations.entries.length
  if wire.reservationStatuses.length ≠ expectedStatuses then .error .invalidSemantics
  let reserved := if wire.reservationStatuses.isEmpty then []
    else input.reservations.entries.map .reserved
  let reservationEntries ← applyStatuses reserved wire.reservationStatuses
  let executionIntent ← transposed WireExecutionIntent.toExecutionIntent wire.executionIntent
  let attempts ← wire.attempts.mapM WireAttempt.toAttempt
  let observations ← wire.observations.mapM WireObservation.toObservation
  let events ← wire.events.mapM WireEvent.toEvent
  let receipts ← wire.receipts.mapM WireReceipt.toReceipt
  pure ⟨input, state, wire.revision, wire.createdAt, wire.updatedAt, reservationEntries,
    executionIntent, wire.credentialAuthorized, attempts, observations, wire.terminalResult, events,
    receipts⟩

end Wire

/-- The serializer of the wire structures. -/
class Postcard where
  toAllocvec : WireEnvelope → Option Bytes
  fromBytes : Bytes → Option WireEnvelope

def wireVersion : UInt8 := 2

def wireEnvelope (record : LifecycleRecord) : WireEnvelope := ⟨wireVersion, wireRecord record⟩

section Serialized

variable [Sha256] [Postcard]

def encodeUnchecked (record : LifecycleRecord) : Except CodecError Bytes :=
  match Postcard.toAllocvec (wireEnvelope record) with
  | none => .error .malformed
  | some bytes => if maxLifecycleRecordBytes < bytes.length then .error .tooLarge else .ok bytes

def decodeWire (bytes : Bytes) : Except CodecError LifecycleRecord :=
  match Postcard.fromBytes bytes with
  | none => .error .malformed
  | some wire => if wire.version ≠ wireVersion then .error .unsupportedVersion
    else wire.record.toRecord

def encodeRecord (record : LifecycleRecord) : Except CodecError Bytes := do
  if !validateRecordIntegrity record then .error .invalidSemantics
  let bytes ← encodeUnchecked record
  let reconstructed ← decodeWire bytes
  if reconstructed ≠ record then .error .invalidSemantics
  pure bytes

def decodeRecord (bytes : Bytes) : Except CodecError LifecycleRecord := do
  if maxLifecycleRecordBytes < bytes.length then .error .tooLarge
  let record ← decodeWire bytes
  if !validateRecordIntegrity record then .error .invalidSemantics
  let encoded ← encodeUnchecked record
  if encoded ≠ bytes then .error .nonCanonical
  pure record

end Serialized

end AuthsProof.Lifecycle
