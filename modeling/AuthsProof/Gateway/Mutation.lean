import AuthsProof.Gateway.Engagement
import AuthsProof.Gateway.Journal
import AuthsProof.Lib.Run

/-! The journal record of a mutation, the view its transitions are checked on, and the changes its
owners propose. -/

namespace AuthsProof.Gateway

inductive GatewayAttemptStage where
  | reserved
  | entryGranted
  | notEntered
  | unknown
  | responseRecorded
  | observed
  | observedByProvider
  deriving DecidableEq

def GatewayAttemptStage.kernel : GatewayAttemptStage → Stage
  | .reserved => .reserved
  | .entryGranted => .entryGranted
  | .notEntered => .notEntered
  | .unknown => .unknown
  | .responseRecorded => .responseRecorded
  | .observed => .observed
  | .observedByProvider => .observedByProvider

theorem GatewayAttemptStage.kernel_injective : Function.Injective GatewayAttemptStage.kernel := by
  intro a b h
  cases a <;> cases b <;> first | rfl | cases h

inductive GatewayCounterKind where
  | count
  | sum
  deriving DecidableEq

structure CounterWire where
  kind : GatewayCounterKind
  counter : Digest
  slot : Nat
  deriving DecidableEq

inductive GatewayObservationFact where
  | echoMismatch
  deriving DecidableEq

/-- What a stored observation plan says to the transition rule. -/
structure ObservationTemplate where
  canonical : String
  link : Link
  deriving DecidableEq

structure EvidenceWire where
  channel : String
  locator : String
  echo : String
  evidenceDigest : String
  evidenceB64 : String
  observedAt : UInt64
  deriving DecidableEq

structure MutationState where
  counters : List CounterWire
  stage : GatewayAttemptStage
  refusal : Option String
  responseStatus : Option UInt16
  responseDigest : Option Digest
  responseLocator : Option (List (String × String))
  observationPlan : Option ObservationTemplate
  observationMatch : Option Bool
  observationFact : Option GatewayObservationFact
  providerEvidence : Option EvidenceWire
  preEntry : Option PreEntryWire
  recoveryEvidence : Option String
  createdResource : Option String
  deriving DecidableEq

/-- The fields no transition may change. -/
structure FixedFields where
  schema : String
  bindingCanonical : String
  authorityCanonicalB64 : String
  approvalCanonical : String
  operatorNamespace : String
  operationId : String
  actionCommitment : String
  recipeDigest : String
  nonce : String
  evaluatedAt : UInt64
  counters : List CounterWire
  engagementAllocations : List AllocationRef
  observationPlan : Option ObservationTemplate

/-- What the journal of mutations takes from elsewhere: the serialised forms, the header's checks,
the digest of an allocation's bytes, and the checks of a record's observation contract. -/
structure MutationJournal where
  header : Record MutationState → Except GatewayAttemptError Engagement.EffectBinding
  isMutation : Engagement.EffectBinding → Bool
  digest : Allocation → Digest
  contract : Record MutationState → Except GatewayAttemptError Unit
  fixed : FixedFields → Bytes
  entry : EntryAudit → Bytes
  preEntry : PreEntryWire → Bytes
  response : UInt16 × Digest → Bytes
  locator : List (String × String) → Bytes

/-- Serialised forms are not empty, and tell the fixed fields apart. -/
structure MutationJournal.Lawful (journal : MutationJournal) : Prop where
  fixed : Function.Injective journal.fixed
  entry : ∀ entry, journal.entry entry ≠ []
  preEntry : ∀ preEntry, journal.preEntry preEntry ≠ []
  response : ∀ response, journal.response response ≠ []

namespace Record

def fixedFields (record : Record MutationState) : FixedFields :=
  ⟨record.schema, record.bindingCanonical, record.authorityCanonicalB64, record.approvalCanonical,
    record.operatorNamespace, record.operationId, record.actionCommitment, record.recipeDigest,
    record.nonce, record.evaluatedAt, record.state.counters, record.engagementAllocations,
    record.state.observationPlan⟩

def reading (state : MutationState) : Except GatewayAttemptError Reading :=
  match state.observationMatch, state.observationFact with
  | none, none => .ok .none
  | some true, none => .ok .match
  | some false, none => .ok .mismatch
  | some false, some .echoMismatch => .ok .echoMismatch
  | _, some _ => .error .corrupt

def response (journal : MutationJournal) (state : MutationState) :
    Except GatewayAttemptError Bytes :=
  match state.responseStatus, state.responseDigest with
  | none, none => .ok []
  | some status, some digest => .ok (journal.response (status, digest))
  | _, _ => .error .corrupt

def view (journal : MutationJournal) (record : Record MutationState) :
    Except GatewayAttemptError AttemptView := do
  let reading ← reading record.state
  let response ← response journal record.state
  pure
    { protocol := .mutation
      revision := record.revision
      entry := (record.entry.map journal.entry).getD []
      fixed := journal.fixed record.fixedFields
      stage := record.state.stage.kernel
      refusal := record.state.refusal.isSome
      preEntry := (record.state.preEntry.map journal.preEntry).getD []
      response := response
      acknowledgement := []
      locator := (record.state.responseLocator.map journal.locator).getD []
      reading := reading
      evidence := record.state.providerEvidence.isSome
      observation := record.state.observationPlan.isSome
      link := (record.state.observationPlan.map ObservationTemplate.link).getD .none }

end Record

/-- How the shared engagement admission reads a mutation. -/
def MutationJournal.protocol (journal : MutationJournal) :
    Engagement.JournalProtocol MutationState where
  header := journal.header
  stage record := (record.view journal).map AttemptView.stage
  engagementReservations record := do
    let binding ← journal.header record
    Engagement.validatePartial binding record.engagementAllocations
    pure binding.reservations
  digest := journal.digest

def maxOperationRevisions : UInt64 := 64

def nextOperationRevision (revision : UInt64) : Except GatewayAttemptError UInt64 :=
  if revision = 0 || maxOperationRevisions ≤ revision then .error .invalidTransition
  else .ok (revision + 1)

def maxRefusalBytes : Nat := 128

/-- A stable code: 1–128 bytes of lowercase letters, digits, periods and hyphens. -/
def validCode (code : String) : Bool :=
  !code.isEmpty && code.utf8ByteSize ≤ maxRefusalBytes &&
    code.toList.all fun c => c.isLower || c.isDigit || c == '.' || c == '-'

namespace Record

variable (journal : MutationJournal)

/-- What a stored record must meet before anything is read from it. -/
def validate (record : Record MutationState) : Except GatewayAttemptError Unit := do
  let binding ← Engagement.validateHeader journal.protocol record
  if !journal.isMutation binding || !record.state.refusal.all validCode then throw .corrupt
  else do
    let view ← record.view journal
    if !consistent view ||
        !record.state.responseStatus.all (fun status => 100 ≤ status && status ≤ 599) then
      throw .corrupt
    else journal.contract record

/-- Whether `new` may replace `old`. -/
def validTransition (old new : Record MutationState) : Except GatewayAttemptError Bool := do
  let before ← old.view journal
  let after ← new.view journal
  pure (Gateway.validTransition before after &&
    (Engagement.validateRecord journal.protocol new).isOk && (new.validate journal).isOk)

def decode (value : Value MutationState) : Except GatewayAttemptError (Record MutationState) :=
  match value with
  | .attempt record => do
    let _ ← Engagement.validateHeader journal.protocol record
    Engagement.validateRecord journal.protocol record
    record.validate journal
    pure record
  | _ => .error .corrupt

end Record

/-! ## What the checks say -/

section Laws

variable {journal : MutationJournal} {record old new : Record MutationState}

theorem Record.view_spec {view : AttemptView} (h : record.view journal = .ok view) :
    view.stage = record.state.stage.kernel ∧ view.revision = record.revision ∧
      view.fixed = journal.fixed record.fixedFields ∧
      view.entry = (record.entry.map journal.entry).getD [] ∧
      view.preEntry = (record.state.preEntry.map journal.preEntry).getD [] ∧
      Record.response journal record.state = .ok view.response := by
  obtain ⟨reading, -, h⟩ := Except.bind_eq_ok.mp h
  obtain ⟨response, hresponse, h⟩ := Except.bind_eq_ok.mp h
  obtain rfl := Except.ok.inj h
  exact ⟨rfl, rfl, rfl, rfl, rfl, hresponse⟩

/-- A transition the journal accepts is one of the kernel's on the two views. -/
theorem Record.validTransition_spec (h : Record.validTransition journal old new = .ok true) :
    ∃ before after, old.view journal = .ok before ∧ new.view journal = .ok after ∧
      Step before after ∧ new.validate journal = .ok () := by
  obtain ⟨before, hbefore, h⟩ := Except.bind_eq_ok.mp h
  obtain ⟨after, hafter, h⟩ := Except.bind_eq_ok.mp h
  have hall := Except.ok.inj h
  simp only [Bool.and_eq_true] at hall
  refine ⟨before, after, hbefore, hafter, Gateway.validTransition_spec hall.1.1, ?_⟩
  have hok := hall.2
  cases hvalid : new.validate journal with
  | ok u => rfl
  | error e =>
    rw [hvalid] at hok
    cases hok

end Laws

end AuthsProof.Gateway
