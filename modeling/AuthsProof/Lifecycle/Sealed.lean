import AuthsProof.Lifecycle.History

/-! The boundary between a store and the side effects it permits: the acknowledgement of a stored
transition, and the two sealed authorizations taken from it. -/

namespace AuthsProof.Lifecycle

inductive StoreError where
  | unavailable
  | poolExhausted
  | timeout
  | schemaMismatch
  | conflict
  | rejected (failure : LifecycleFailure)
  | corrupt
  | limitExceeded
  | invalidAcknowledgement
  deriving DecidableEq

structure StoredTransition where
  record : LifecycleRecord
  disposition : TransitionDisposition
  deriving DecidableEq

structure DurableTransition where
  record : LifecycleRecord
  disposition : TransitionDisposition
  deriving DecidableEq

def validateAcknowledgement (transaction : StoreTransaction) (stored : StoredTransition) :
    Except StoreError Unit := do
  if transaction.workflowId ≠ stored.record.input.workflowId then .error .invalidAcknowledgement
  match transaction.command with
  | .recordDecision input =>
    if input.workflowId ≠ transaction.workflowId then .error .invalidAcknowledgement
  | _ => pure ()
  match stored.disposition with
  | .applied =>
    match Checked.add (transaction.expectedRevision.getD 0) 1 with
    | none => .error .invalidAcknowledgement
    | some expected =>
      if stored.record.revision ≠ expected then .error .invalidAcknowledgement
  | .exactReplay =>
    match transaction.command with
    | .recordDecision _ => pure ()
    | _ => .error .invalidAcknowledgement
  match stored.record.events.getLast? with
  | none => .error .invalidAcknowledgement
  | some last =>
    if last.revision ≠ stored.record.revision ||
        stored.record.receipts.getLast?.map (·.revision) ≠ some stored.record.revision then
      .error .invalidAcknowledgement

/-- What remains of `execute_store_transaction` once the store has answered. -/
def acknowledge (transaction : StoreTransaction) (stored : Except StoreError StoredTransition) :
    Except StoreError DurableTransition := do
  let stored ← stored
  validateAcknowledgement transaction stored
  pure ⟨stored.record, stored.disposition⟩

inductive CredentialError where
  | stageNotAuthorized
  | unavailable
  deriving DecidableEq

structure ExecutionAuthorization where
  workflowId : WorkflowId
  lifecycleId : LifecycleId
  executionId : ExecutionId
  revision : UInt64
  executionIntentDigest : ExecutionIntentDigest
  providerContractId : ProviderContractId
  providerRequestDigest : ProviderRequestDigest
  deriving DecidableEq

def ExecutionAuthorization.fromDurable [Sha256] (durable : DurableTransition) :
    Except CredentialError ExecutionAuthorization :=
  let record := durable.record
  match record.executionIntent, record.events.getLast? with
  | some intent, some last =>
    if durable.disposition ≠ .applied || record.state ≠ .executionIntentRecorded ||
        !record.credentialAuthorized || last.kind ≠ .credentialAuthorized ||
        last.revision ≠ record.revision then
      .error .stageNotAuthorized
    else .ok ⟨record.input.workflowId, record.input.lifecycleId, record.input.executionId,
      record.revision, intent.intentDigest, intent.providerContractId,
      intent.providerRequestDigest⟩
  | _, _ => .error .stageNotAuthorized

structure ProviderCallAuthorization where
  workflowId : WorkflowId
  executionId : ExecutionId
  revision : UInt64
  providerRequestDigest : ProviderRequestDigest
  deriving DecidableEq

def ProviderCallAuthorization.fromDurable (durable : DurableTransition) :
    Except CredentialError ProviderCallAuthorization :=
  let record := durable.record
  match record.events.getLast?, record.attempts.getLast? with
  | some lastEvent, some attempt =>
    if durable.disposition ≠ .applied || record.state ≠ .executing || !attempt.callEntered ||
        lastEvent.kind ≠ .providerCallEntered || lastEvent.revision ≠ record.revision then
      .error .stageNotAuthorized
    else .ok ⟨record.input.workflowId, record.input.executionId, record.revision,
      attempt.providerRequestDigest⟩
  | _, _ => .error .stageNotAuthorized

theorem ExecutionAuthorization.of_fromDurable [Sha256] {durable : DurableTransition}
    {token : ExecutionAuthorization} (h : ExecutionAuthorization.fromDurable durable = .ok token) :
    durable.disposition = .applied ∧ durable.record.state = .executionIntentRecorded ∧
      durable.record.credentialAuthorized = true ∧
      ∃ intent, durable.record.executionIntent = some intent ∧
        token.providerRequestDigest = intent.providerRequestDigest := by
  simp only [fromDurable] at h
  split at h
  · next intent last hintent hlast =>
    split at h
    · cases h
    · next hgates =>
      simp only [Bool.or_eq_true, decide_eq_true_eq, Bool.not_eq_true', not_or, ne_eq,
        not_not, Bool.not_eq_false] at hgates
      obtain ⟨⟨⟨⟨happlied, hstate⟩, hcredential⟩, -⟩, -⟩ := hgates
      refine ⟨happlied, hstate, hcredential, intent, hintent, ?_⟩
      rw [← Except.ok.inj h]
  · cases h

theorem ProviderCallAuthorization.of_fromDurable {durable : DurableTransition}
    {token : ProviderCallAuthorization}
    (h : ProviderCallAuthorization.fromDurable durable = .ok token) :
    durable.disposition = .applied ∧ durable.record.state = .executing ∧
      ∃ attempt, durable.record.attempts.getLast? = some attempt ∧ attempt.callEntered = true ∧
        token.providerRequestDigest = attempt.providerRequestDigest := by
  simp only [fromDurable] at h
  split at h
  · next lastEvent attempt hlast hattempt =>
    split at h
    · cases h
    · next hgates =>
      simp only [Bool.or_eq_true, decide_eq_true_eq, Bool.not_eq_true', not_or, ne_eq,
        not_not, Bool.not_eq_false] at hgates
      obtain ⟨⟨⟨⟨happlied, hstate⟩, hentered⟩, -⟩, -⟩ := hgates
      refine ⟨happlied, hstate, attempt, hattempt, hentered, ?_⟩
      rw [← Except.ok.inj h]
  · cases h

theorem workflow_of_acknowledge {transaction : StoreTransaction} {stored : StoredTransition}
    {durable : DurableTransition} (h : acknowledge transaction (.ok stored) = .ok durable) :
    durable = ⟨stored.record, stored.disposition⟩ ∧
      transaction.workflowId = stored.record.input.workflowId := by
  obtain ⟨stored', hstored, h⟩ := Except.bind_eq_ok.mp h
  obtain rfl := Except.ok.inj hstored
  obtain ⟨_, hvalid, h⟩ := Except.bind_eq_ok.mp h
  refine ⟨(Except.ok.inj h).symm, ?_⟩
  by_contra hne
  simp [validateAcknowledgement, hne, bind, Except.bind] at hvalid

end AuthsProof.Lifecycle
