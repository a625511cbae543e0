import AuthsProof.Lifecycle.Persistence
import AuthsProof.Lifecycle.Store

/-! The side effects of a run: which of its transactions yield a sealed authorization, and what must
have been applied before they do. -/

namespace AuthsProof.Lifecycle

section

variable [Sha256]

omit [Sha256] in
/-- What the client of a transaction is left with once the store's answer is acknowledged. -/
def Entry.durable (entry : Entry) : Option DurableTransition :=
  (acknowledge entry.transaction entry.stored).toOption

def Entry.executionAuthorization (entry : Entry) : Option ExecutionAuthorization :=
  entry.durable.bind fun durable => (ExecutionAuthorization.fromDurable durable).toOption

def Entry.providerCallAuthorization (entry : Entry) : Option ProviderCallAuthorization :=
  entry.durable.bind fun durable => (ProviderCallAuthorization.fromDurable durable).toOption

def executionsOn (w : WorkflowId) (entries : List Entry) : List ExecutionAuthorization :=
  entries.filterMap fun entry =>
    if entry.transaction.workflowId = w then entry.executionAuthorization else none

def providerCallsOn (w : WorkflowId) (entries : List Entry) : List ProviderCallAuthorization :=
  entries.filterMap fun entry =>
    if entry.transaction.workflowId = w then entry.providerCallAuthorization else none

/-! ## The transitions behind the tokens -/

omit [Sha256] in
theorem Entry.stored_of_durable {entry : Entry} {durable : DurableTransition}
    (h : entry.durable = some durable) :
    entry.stored = .ok ⟨durable.record, durable.disposition⟩ ∧
      entry.transaction.workflowId = durable.record.input.workflowId := by
  unfold Entry.durable at h
  cases hstored : entry.stored with
  | error error => simp [hstored, acknowledge, bind, Except.bind, Except.toOption] at h
  | ok stored =>
    rw [hstored] at h
    cases hack : acknowledge entry.transaction (.ok stored) with
    | error error => simp [hack, Except.toOption] at h
    | ok durable' =>
      obtain rfl : durable' = durable := by simpa [hack, Except.toOption] using h
      obtain ⟨rfl, hworkflow⟩ := workflow_of_acknowledge hack
      exact ⟨rfl, hworkflow⟩

/-- An execution authorization comes from an applied transition to a record of rank 4. -/
theorem Entry.of_executionAuthorization {entry : Entry} {token : ExecutionAuthorization}
    (h : entry.executionAuthorization = some token) :
    ∃ record intent, entry.stored = .ok ⟨record, .applied⟩ ∧
      entry.transaction.workflowId = record.input.workflowId ∧
      record.state = .executionIntentRecorded ∧ record.credentialAuthorized = true ∧
      record.executionIntent = some intent ∧
      token.providerRequestDigest = intent.providerRequestDigest := by
  obtain ⟨durable, hdurable, h⟩ := Option.bind_eq_some_iff.mp h
  obtain ⟨hstored, hworkflow⟩ := Entry.stored_of_durable hdurable
  cases hfrom : ExecutionAuthorization.fromDurable durable with
  | error error => simp [hfrom, Except.toOption] at h
  | ok token' =>
    obtain rfl : token' = token := by simpa [hfrom, Except.toOption] using h
    obtain ⟨happlied, hstate, hcredential, intent, hintent, hrequest⟩ :=
      ExecutionAuthorization.of_fromDurable hfrom
    rw [happlied] at hstored
    exact ⟨durable.record, intent, hstored, hworkflow, hstate, hcredential, hintent, hrequest⟩

omit [Sha256] in
/-- A provider call authorization comes from an applied transition to a record of rank 6. -/
theorem Entry.of_providerCallAuthorization {entry : Entry} {token : ProviderCallAuthorization}
    (h : entry.providerCallAuthorization = some token) :
    ∃ record attempt, entry.stored = .ok ⟨record, .applied⟩ ∧
      entry.transaction.workflowId = record.input.workflowId ∧
      record.state = .executing ∧ record.attempts.getLast? = some attempt ∧
      attempt.callEntered = true ∧ token.providerRequestDigest = attempt.providerRequestDigest := by
  obtain ⟨durable, hdurable, h⟩ := Option.bind_eq_some_iff.mp h
  obtain ⟨hstored, hworkflow⟩ := Entry.stored_of_durable hdurable
  cases hfrom : ProviderCallAuthorization.fromDurable durable with
  | error error => simp [hfrom, Except.toOption] at h
  | ok token' =>
    obtain rfl : token' = token := by simpa [hfrom, Except.toOption] using h
    obtain ⟨happlied, hstate, attempt, hattempt, hentered, hrequest⟩ :=
      ProviderCallAuthorization.of_fromDurable hfrom
    rw [happlied] at hstored
    exact ⟨durable.record, attempt, hstored, hworkflow, hstate, hattempt, hentered, hrequest⟩

/-! ## One transition of a run -/

/-- A transaction of a run that was applied, with the history before it. -/
structure Stepped (w : WorkflowId) (before : List Entry) (entry : Entry) (a : Applied)
    (r : Option LifecycleRecord) : Prop where
  applied : entry.applied = some a
  command : a.command = entry.transaction.command
  history : ∀ r', r = some r' → Lineage (appliedOn w before) r'
  advances : Advances r a
  revision : r.map (·.revision) = entry.transaction.expectedRevision

theorem StoreRun.stepped {rules : List LifecycleCapacityRule} {maximumRecords : Nat}
    {database : LifecycleDatabase} {before after : List Entry} {entry : Entry}
    {record : LifecycleRecord}
    (h : StoreRun rules maximumRecords .empty (before ++ entry :: after) database)
    (hstored : entry.stored = .ok ⟨record, .applied⟩) :
    ∃ a r, Stepped entry.transaction.workflowId before entry a r ∧ a.record = record := by
  obtain ⟨database', persist, hbefore, hcapacity, hanswer⟩ := h.split
  have hagrees := hbefore.agrees entry.transaction.workflowId
  have hstep := transacted database' rules maximumRecords entry.transaction persist
  generalize htransact :
    transactDatabase database' rules maximumRecords entry.transaction persist = answer at hstep hanswer
  rw [hstored] at hanswer
  cases hstep with
  | failed error => cases hanswer
  | replayed _ _ _ => simp at hanswer
  | @applied capacity record' hrevision _ hsnapshot hadvances =>
    obtain rfl : record = record' := by simpa using hanswer
    refine ⟨_, database'.get entry.transaction.workflowId, ⟨?_, rfl, ?_, hadvances, hrevision⟩, rfl⟩
    · simp only [Entry.applied, hstored, hcapacity, hsnapshot]
    · intro r hr
      rwa [Agrees, hr] at hagrees

/-- What an acknowledgement checks of the last event and the last receipt. -/
theorem Advances.last_revision {r : Option LifecycleRecord} {a : Applied} (h : Advances r a) :
    a.record.events.getLast?.map (·.revision) = some a.record.revision ∧
      a.record.receipts.getLast?.map (·.revision) = some a.record.revision := by
  cases h with
  | decision input context _ => exact ⟨rfl, rfl⟩
  | edge he _ => simp [makeReceipt]

/-- An applied transition other than a decision is acknowledged when the record is the workflow's
own. -/
theorem acknowledge_applied {transaction : StoreTransaction} {r : LifecycleRecord} {a : Applied}
    (h : Advances (some r) a) (hcommand : a.command = transaction.command)
    (hrevision : some r.revision = transaction.expectedRevision)
    (hworkflow : transaction.workflowId = a.record.input.workflowId) :
    acknowledge transaction (.ok ⟨a.record, .applied⟩) = .ok ⟨a.record, .applied⟩ := by
  obtain ⟨hevent, hreceipt⟩ := h.last_revision
  obtain ⟨last, hlast, hevent⟩ := Option.map_eq_some_iff.mp hevent
  have hnext : Checked.add r.revision 1 = some a.record.revision := by
    cases h with
    | edge he hnext => exact Checked.add_eq_some.mpr hnext
  have hother : ∀ input, transaction.command ≠ .recordDecision input := by
    intro input hinput
    obtain ⟨p, hedge⟩ := h.exists_edge
    rw [hcommand, hinput] at hedge
    cases hedge
  have hvalid : validateAcknowledgement transaction ⟨a.record, .applied⟩ = .ok () := by
    simp only [validateAcknowledgement, hworkflow, ← hrevision, Option.getD_some, hnext, hlast,
      hevent, hreceipt]
    cases hc : transaction.command with
    | recordDecision input => exact absurd hc (hother input)
    | _ => simp [pure, Except.pure]
  simp [acknowledge, hvalid, bind, Except.bind, pure, Except.pure]

/-- Only the authorization of a credential leaves one authorized. -/
theorem Advances.authorized {r : Option LifecycleRecord} {a : Applied}
    (hshape : ∀ r', r = some r' → Shaped r') (h : Advances r a)
    (hstate : a.record.state = .executionIntentRecorded)
    (hcredential : a.record.credentialAuthorized = true) :
    ∃ r', r = some r' ∧ a.command = .authorizeCredential ∧ r'.state = .executionIntentRecorded ∧
      r'.executionIntent = a.record.executionIntent ∧
      a.record.events.getLast?.map (·.kind) = some .credentialAuthorized := by
  cases h with
  | decision input context _ => cases hstate
  | edge he _ =>
    cases he with
    | recordExecutionIntent intent hreserved =>
      have hshape := hshape _ rfl
      simp only [Shaped, hreserved] at hshape
      simp [hshape.2.1] at hcredential
    | authorizeCredential hbefore _ _ =>
      exact ⟨_, rfl, rfl, hbefore, rfl, by simp [hbefore, eventKindFor]⟩
    | _ => cases hstate

/-- Only the entry into the provider call leaves an entered attempt in execution. -/
theorem Advances.callEntered {r : Option LifecycleRecord} {a : Applied} (h : Advances r a)
    (hstate : a.record.state = .executing)
    (hentered : a.record.attempts.getLast?.any (·.callEntered) = true) :
    ∃ r', r = some r' ∧ a.command = .markProviderCallEntered ∧ r'.state = .executing ∧
      r'.executionIntent = a.record.executionIntent := by
  cases h with
  | decision input context _ => cases hstate
  | edge he _ =>
    cases he with
    | startAttempt intent ordinal _ _ _ _ => simp at hentered
    | markProviderCallEntered earlier attempt hbefore _ _ => exact ⟨_, rfl, rfl, hbefore, rfl⟩
    | _ => cases hstate

theorem Advances.committed {r : Option LifecycleRecord} {a : Applied} (h : Advances r a)
    (hstate : a.record.state = .committed) :
    ∃ r', r = some r' ∧ a.record.events.dropLast = r'.events ∧
      ∃ attempt ∈ r'.attempts, attempt.callEntered = true := by
  cases h with
  | decision input context _ => cases hstate
  | edge he _ =>
    cases he with
    | commit _ _ earlier attempt _ hattempts hentered =>
      refine ⟨_, rfl, by simp, attempt, ?_, hentered⟩
      simp [hattempts]
    | _ => cases hstate

theorem Advances.reconciledCommitted {r : Option LifecycleRecord} {a : Applied} (h : Advances r a)
    (hstate : a.record.state = .reconciledCommitted) :
    ∃ r' observation receipt, r = some r' ∧ r'.state = .outcomeUnknown ∧
      a.record.attempts = r'.attempts ∧ a.command = .reconcile observation receipt ∧ observation.conclusion = .effect ∧
      Settles r' a.context observation := by
  cases h with
  | decision input context _ => cases hstate
  | edge he _ =>
    cases he with
    | reconcileEffect observation receipt hunknown hconclusion hsettles =>
      exact ⟨_, observation, receipt, rfl, hunknown, rfl, rfl, hconclusion, hsettles⟩
    | _ => cases hstate

/-! ## Whole runs -/

section Run

variable {rules : List LifecycleCapacityRule} {maximumRecords : Nat} {database : LifecycleDatabase}
  {entries before after : List Entry} {entry : Entry} {w : WorkflowId}

theorem StoreRun.pairwise_after (h : StoreRun rules maximumRecords .empty entries database)
    (w : WorkflowId) : (appliedOn w entries).Pairwise fun a b => After a.record b.record := by
  have hagrees := h.agrees w
  unfold Agrees at hagrees
  split at hagrees
  · rw [hagrees]
    exact .nil
  · exact hagrees.pairwise_after

omit [Sha256] in
theorem length_le_one {α : Type} {xs : List α} (h : xs.Pairwise fun _ _ => False) :
    xs.length ≤ 1 := by
  match xs with
  | [] => simp
  | [x] => simp
  | x :: y :: xs => exact absurd (List.rel_of_pairwise_cons h (List.mem_cons_self ..)) id

/-- What is yielded only at one rank, short of an unknown outcome, is yielded at most once. -/
theorem StoreRun.yields_once {τ : Type} {f : Entry → Option τ} {n : Nat}
    (h : StoreRun rules maximumRecords .empty entries database) (hn : n ≠ 7)
    (hf : ∀ entry ∈ entries, ∀ token, f entry = some token →
      ∃ a, entry.applied = some a ∧ a.record.rank = n) :
    (entries.filterMap fun entry =>
      if entry.transaction.workflowId = w then f entry else none).length ≤ 1 := by
  have hafter := h.pairwise_after w
  rw [appliedOn, List.pairwise_filterMap] at hafter
  have hnone : (entries.filterMap fun entry =>
      if entry.transaction.workflowId = w then f entry else none).Pairwise fun _ _ => False := by
    refine List.pairwise_filterMap.mpr (hafter.imp_of_mem ?_)
    intro e e' he he' hrank token htoken token' htoken'
    obtain ⟨hw, htoken⟩ := Option.ite_none_right_eq_some.mp htoken
    obtain ⟨hw', htoken'⟩ := Option.ite_none_right_eq_some.mp htoken'
    obtain ⟨a, ha, hrank1⟩ := hf e he token htoken
    obtain ⟨a', ha', hrank2⟩ := hf e' he' token' htoken'
    have hlater := hrank a (by simpa [hw] using ha) a' (by simpa [hw'] using ha')
    unfold After at hlater
    omega
  exact length_le_one hnone

theorem StoreRun.stepped_of_mem {record : LifecycleRecord}
    (h : StoreRun rules maximumRecords .empty entries database) (hentry : entry ∈ entries)
    (hstored : entry.stored = .ok ⟨record, .applied⟩) :
    ∃ a, entry.applied = some a ∧ a.record = record := by
  obtain ⟨before, after, rfl⟩ := List.append_of_mem hentry
  obtain ⟨a, r, hstep, hrecord⟩ := h.stepped hstored
  exact ⟨a, hstep.applied, hrecord⟩

theorem StoreRun.execution_once (h : StoreRun rules maximumRecords .empty entries database) :
    (executionsOn w entries).length ≤ 1 := by
  refine h.yields_once (n := 4) (by omega) fun entry hentry token htoken => ?_
  obtain ⟨record, intent, hstored, -, hstate, hcredential, -, -⟩ :=
    Entry.of_executionAuthorization htoken
  obtain ⟨a, ha, rfl⟩ := h.stepped_of_mem hentry hstored
  exact ⟨a, ha, by simp [LifecycleRecord.rank, hstate, hcredential]⟩

theorem StoreRun.providerCall_once (h : StoreRun rules maximumRecords .empty entries database) :
    (providerCallsOn w entries).length ≤ 1 := by
  refine h.yields_once (n := 6) (by omega) fun entry hentry token htoken => ?_
  obtain ⟨record, attempt, hstored, -, hstate, hattempt, hentered, -⟩ :=
    Entry.of_providerCallAuthorization htoken
  obtain ⟨a, ha, rfl⟩ := h.stepped_of_mem hentry hstored
  exact ⟨a, ha, by simp [LifecycleRecord.rank, hstate, hattempt, hentered]⟩

omit [Sha256] in
theorem mem_appliedOn {b : Applied} (h : b ∈ appliedOn w entries) :
    ∃ entry ∈ entries, entry.transaction.workflowId = w ∧ entry.applied = some b := by
  obtain ⟨entry, hentry, h⟩ := List.mem_filterMap.mp h
  obtain ⟨hw, h⟩ := Option.ite_none_right_eq_some.mp h
  exact ⟨entry, hentry, hw, h⟩

omit [Sha256] in
theorem Entry.stored_of_applied {a : Applied} (h : entry.applied = some a) :
    entry.stored = .ok ⟨a.record, .applied⟩ := by
  unfold Entry.applied at h
  split at h
  · next record capacity hstored hcapacity =>
    obtain rfl := Option.some.inj h
    exact hstored
  · cases h

omit [Sha256] in
theorem Entry.command_of_applied {a : Applied} (h : entry.applied = some a) :
    a.command = entry.transaction.command := by
  unfold Entry.applied at h
  split at h
  · obtain rfl := Option.some.inj h
    rfl
  · cases h

/-- What was applied to a workflow by the time a credential may be authorized for a request. -/
structure Prepared (w : WorkflowId) (before : List Entry) (request : ProviderRequestDigest) :
    Prop where
  decision : ∃ b ∈ appliedOn w before, ∃ input, b.command = .recordDecision input
  reservation : ∃ b ∈ appliedOn w before, b.command = .reserve ∧
    b.record.reservationEntries = b.record.input.reservations.entries.map .reserved
  intent : ∃ b ∈ appliedOn w before, ∃ intent, b.command = .recordExecutionIntent intent ∧
    intent.providerRequestDigest = request

theorem Lineage.prepared {r : LifecycleRecord} {intent : ExecutionIntent}
    (h : Lineage (appliedOn w before) r) (hstate : r.state ≠ .decisionRecorded)
    (hintent : r.executionIntent = some intent) :
    Prepared w before intent.providerRequestDigest := by
  have hexplained := h.explained
  refine ⟨?_, ?_, ?_⟩
  · obtain ⟨b, hb, hcommand⟩ := hexplained.decision
    exact ⟨b, hb, r.input, hcommand⟩
  · obtain ⟨b, hb, hcommand, hentries⟩ := hexplained.reservation hstate
    rw [← h.input_eq b hb] at hentries
    exact ⟨b, hb, hcommand, hentries⟩
  · obtain ⟨b, hb, hcommand⟩ := hexplained.intent intent hintent
    exact ⟨b, hb, intent, hcommand, rfl⟩

/-- The transition behind an execution authorization. -/
theorem StoreRun.execution_prepared {token : ExecutionAuthorization}
    (h : StoreRun rules maximumRecords .empty (before ++ entry :: after) database)
    (hw : entry.transaction.workflowId = w)
    (htoken : entry.executionAuthorization = some token) :
    Prepared w before token.providerRequestDigest := by
  subst hw
  obtain ⟨record, intent, hstored, -, hstate, hcredential, hintent, hrequest⟩ :=
    Entry.of_executionAuthorization htoken
  obtain ⟨a, r, hstep, rfl⟩ := h.stepped hstored
  obtain ⟨r, rfl, -, hbefore, hsame, -⟩ := hstep.advances.authorized
    (fun r' hr => (hstep.history r' hr).shaped) hstate hcredential
  rw [hrequest]
  exact (hstep.history r rfl).prepared (by simp [hbefore]) (hsame.trans hintent)

/-- Whoever authorizes the credential of a workflow's own record holds an authorization. -/
theorem Stepped.executionAuthorization {a : Applied} {r : Option LifecycleRecord}
    {intent : ExecutionIntent} (h : Stepped w before entry a r)
    (hworkflow : entry.transaction.workflowId = a.record.input.workflowId)
    (hstate : a.record.state = .executionIntentRecorded)
    (hcredential : a.record.credentialAuthorized = true)
    (hintent : a.record.executionIntent = some intent) :
    ∃ token, entry.executionAuthorization = some token ∧
      token.providerRequestDigest = intent.providerRequestDigest := by
  obtain ⟨r, rfl, hcommand, -, -, hkind⟩ :=
    h.advances.authorized (fun r' hr => (h.history r' hr).shaped) hstate hcredential
  obtain ⟨last, hlast, hkind⟩ := Option.map_eq_some_iff.mp hkind
  have hrevision : last.revision = a.record.revision := by
    simpa [hlast] using h.advances.last_revision.1
  have hdurable : entry.durable = some ⟨a.record, .applied⟩ := by
    rw [Entry.durable, Entry.stored_of_applied h.applied,
      acknowledge_applied h.advances h.command h.revision hworkflow]
    rfl
  refine ⟨⟨a.record.input.workflowId, a.record.input.lifecycleId, a.record.input.executionId,
    a.record.revision, intent.intentDigest, intent.providerContractId,
    intent.providerRequestDigest⟩, ?_, rfl⟩
  simp [Entry.executionAuthorization, hdurable, ExecutionAuthorization.fromDurable, hintent, hlast,
    hstate, hcredential, hkind, hrevision, Except.toOption]

/-- The transitions behind a provider call authorization, the execution authorization among them. -/
theorem StoreRun.providerCall_prepared {token : ProviderCallAuthorization}
    (h : StoreRun rules maximumRecords .empty (before ++ entry :: after) database)
    (hw : entry.transaction.workflowId = w)
    (htoken : entry.providerCallAuthorization = some token) :
    Prepared w before token.providerRequestDigest ∧
      (∃ b ∈ appliedOn w before, b.command = .startAttempt) ∧
      ∃ execution ∈ executionsOn w before,
        execution.providerRequestDigest = token.providerRequestDigest := by
  subst hw
  obtain ⟨record, attempt, hstored, hworkflow, hstate, hattempt, hentered, hrequest⟩ :=
    Entry.of_providerCallAuthorization htoken
  obtain ⟨a, r, hstep, rfl⟩ := h.stepped hstored
  obtain ⟨r, rfl, -, hexecuting, hsame⟩ :=
    hstep.advances.callEntered hstate (by simp [hattempt, hentered])
  have hlineage := hstep.history r rfl
  have hinput : a.record.input = r.input := (hstep.advances.adds hlineage.shaped).input
  -- the one attempt of the record is at the request of its intent
  obtain ⟨only, intent, honly, hintent, -, hsole⟩ : Attempted a.record := by
    have hshaped := (hlineage.snoc hstep.advances).shaped
    simp only [Shaped, hstate] at hshaped
    exact hshaped.1
  obtain rfl : only = attempt := by simpa [honly] using hattempt
  have hattempts : r.attempts ≠ [] := by
    have hshaped := hlineage.shaped
    simp only [Shaped, hexecuting] at hshaped
    obtain ⟨⟨_, _, hr, _⟩, _⟩ := hshaped
    simp [hr]
  rw [hrequest, hsole]
  refine ⟨hlineage.prepared (by simp [hexecuting]) (hsame.trans hintent), ?_, ?_⟩
  · exact hlineage.explained.attempt hattempts
  · obtain ⟨b, hb, -, hbstate, hbcredential, hbintent⟩ :=
      hlineage.explained.credential (.inr hattempts)
    obtain ⟨entry', hentry', hw', hb'⟩ := mem_appliedOn hb
    obtain ⟨front, back, hsplit⟩ := List.append_of_mem hentry'
    rw [hsplit, List.append_assoc, List.cons_append] at h
    obtain ⟨b', r', hstep', hrecord⟩ := h.stepped (Entry.stored_of_applied hb')
    obtain rfl : b' = b := Option.some.inj (hstep'.applied.symm.trans hb')
    obtain ⟨execution, hexecution, hdigest⟩ := hstep'.executionAuthorization
      (by rw [hw', hworkflow, hinput, hlineage.input_eq b' hb]) hbstate hbcredential
      (hbintent.trans (hsame.trans hintent))
    exact ⟨execution, List.mem_filterMap.mpr ⟨entry', hentry', by simp [hw', hexecution]⟩, hdigest⟩

/-- A commit comes after the event of the call entry. -/
theorem StoreRun.committed_entered {a : Applied}
    (h : StoreRun rules maximumRecords .empty (before ++ entry :: after) database)
    (hw : entry.transaction.workflowId = w) (ha : entry.applied = some a)
    (hstate : a.record.state = .committed) :
    (∃ b ∈ appliedOn w before, b.command = .markProviderCallEntered) ∧
      ∃ event ∈ a.record.events.dropLast, event.kind = .providerCallEntered := by
  subst hw
  obtain ⟨a', r, hstep, -⟩ := h.stepped (Entry.stored_of_applied ha)
  obtain rfl : a' = a := Option.some.inj (hstep.applied.symm.trans ha)
  obtain ⟨r, rfl, hevents, attempt, hattempt, hentered⟩ := hstep.advances.committed hstate
  rw [hevents]
  exact (hstep.history r rfl).explained.entered attempt hattempt hentered

/-- A reconciled commit comes after an attempt, on a fresh observation about its request. -/
theorem StoreRun.reconciled_observed {a : Applied}
    (h : StoreRun rules maximumRecords .empty (before ++ entry :: after) database)
    (hw : entry.transaction.workflowId = w) (ha : entry.applied = some a)
    (hstate : a.record.state = .reconciledCommitted) :
    (∃ b ∈ appliedOn w before, b.command = .startAttempt) ∧
      ∃ attempt observation receipt, a.record.attempts = [attempt] ∧
        a.command = .reconcile observation receipt ∧ observation.conclusion = .effect ∧
        observation.observedAt ≤ a.context.verifierTime ∧
        a.context.verifierTime ≤ observation.freshUntil ∧
        observation.providerRequestDigest = attempt.providerRequestDigest := by
  subst hw
  obtain ⟨a', r, hstep, -⟩ := h.stepped (Entry.stored_of_applied ha)
  obtain rfl : a' = a := Option.some.inj (hstep.applied.symm.trans ha)
  obtain ⟨r, observation, receipt, rfl, hunknown, hsame, hcommand, heffect, hsettles⟩ :=
    hstep.advances.reconciledCommitted hstate
  have hlineage := hstep.history r rfl
  obtain ⟨attempt, intent, hattempt, hintent, -, hrequest⟩ : Attempted r := by
    have hshaped := hlineage.shaped
    simp only [Shaped, hunknown] at hshaped
    exact hshaped.1
  refine ⟨hlineage.explained.attempt (by simp [hattempt]), attempt, observation, receipt, ?_,
    hcommand, heffect, hsettles.fresh.1, hsettles.fresh.2, ?_⟩
  · rw [← hattempt]
    exact hsame
  · obtain ⟨intent', hintent', hbinds⟩ := hsettles.binds
    obtain rfl : intent' = intent := by simpa [hintent] using hintent'.symm
    rw [hbinds, hrequest]

/-- A history ends with its first terminal record. -/
theorem Lineage.eq_nil_of_terminal {as bs : List Applied} {a : Applied} {r : LifecycleRecord}
    (h : Lineage (as ++ a :: bs) r) (hterminal : a.record.state.isTerminal = true) :
    bs = [] ∧ r = a.record := by
  have hnil : bs = [] := by
    by_contra hne
    obtain ⟨b, rest, rfl⟩ := List.exists_cons_of_ne_nil hne
    have hafter := List.rel_of_pairwise_cons (List.pairwise_append.mp h.pairwise_after).2.1
      (List.mem_cons_self (a := b))
    have hrank := rank_eq_iff_terminal.mpr hterminal
    have hle := rank_le b.record
    unfold After at hafter
    omega
  subst hnil
  refine ⟨rfl, ?_⟩
  generalize hall : as ++ [a] = all at h
  cases h with
  | first h => rw [(List.append_singleton_inj.mp (hall.trans (List.nil_append _).symm)).2]
  | snoc hs h => rw [(List.append_singleton_inj.mp hall).2]

theorem StoreRun.terminal_last {a : Applied}
    (h : StoreRun rules maximumRecords .empty (before ++ entry :: after) database)
    (hw : entry.transaction.workflowId = w) (ha : entry.applied = some a)
    (hterminal : a.record.state.isTerminal = true) :
    appliedOn w after = [] ∧ database.get w = some a.record := by
  have hlist : appliedOn w (before ++ entry :: after) =
      appliedOn w before ++ a :: appliedOn w after := by
    rw [appliedOn_append]
    simp [appliedOn, hw, ha]
  have hagrees := h.agrees w
  unfold Agrees at hagrees
  rw [hlist] at hagrees
  split at hagrees
  · simp at hagrees
  · next record hget =>
    obtain ⟨hnil, rfl⟩ := hagrees.eq_nil_of_terminal hterminal
    exact ⟨hnil, hget⟩

omit [Sha256] in
/-- A reservation is committed or released in a terminal record alone, and never both. -/
theorem settled_once {r : LifecycleRecord} (h : EntriesSettled r) {held : ReservationEntry}
    (hheld : held ∈ r.reservationEntries) :
    ¬(held.committed = true ∧ held.released = true) ∧
      (held.committed = true ∨ held.released = true → r.state.isTerminal = true) := by
  rw [h] at hheld
  cases hstate : r.state <;> rw [hstate] at hheld <;>
    simp only [settledEntries, List.not_mem_nil, List.mem_map] at hheld <;>
    obtain ⟨request, -, rfl⟩ := hheld <;> simp [LifecycleState.isTerminal]

theorem Lineage.take {as bs : List Applied} {a : Applied} {r : LifecycleRecord}
    (h : Lineage (as ++ a :: bs) r) : Lineage (as ++ [a]) a.record := by
  generalize hall : as ++ a :: bs = all at h
  induction h generalizing bs with
  | first h =>
    cases as with
    | nil =>
      obtain ⟨rfl, rfl⟩ := List.cons_eq_cons.mp hall
      exact .first h
    | cons b as => simp at hall
  | @snoc as' r a' hs h ih =>
    rcases List.eq_nil_or_concat bs with rfl | ⟨front, last, rfl⟩
    · obtain ⟨rfl, rfl⟩ := List.append_singleton_inj.mp hall
      exact .snoc hs h
    · rw [List.concat_eq_append, ← List.cons_append, ← List.append_assoc] at hall
      exact ih (List.append_singleton_inj.mp hall).1


theorem StoreRun.entriesSettled {a : Applied}
    (h : StoreRun rules maximumRecords .empty entries database) (ha : a ∈ appliedOn w entries) :
    EntriesSettled a.record := by
  have hagrees := h.agrees w
  unfold Agrees at hagrees
  split at hagrees
  · simp [hagrees] at ha
  · obtain ⟨as, bs, hsplit⟩ := List.append_of_mem ha
    rw [hsplit] at hagrees
    exact hagrees.take.entriesSettled

/-- What a run does to one workflow. -/
structure SideEffects (rules : List LifecycleCapacityRule) (maximumRecords : Nat)
    (entries : List Entry) (database : LifecycleDatabase) (w : WorkflowId) : Prop where
  execution_once : (executionsOn w entries).length ≤ 1
  providerCall_once : (providerCallsOn w entries).length ≤ 1
  execution_prepared : ∀ before entry after token, entries = before ++ entry :: after →
    entry.transaction.workflowId = w → entry.executionAuthorization = some token →
    Prepared w before token.providerRequestDigest
  providerCall_prepared : ∀ before entry after token, entries = before ++ entry :: after →
    entry.transaction.workflowId = w → entry.providerCallAuthorization = some token →
    Prepared w before token.providerRequestDigest ∧
      (∃ b ∈ appliedOn w before, b.command = .startAttempt) ∧
      ∃ execution ∈ executionsOn w before,
        execution.providerRequestDigest = token.providerRequestDigest
  committed_entered : ∀ before entry after a, entries = before ++ entry :: after →
    entry.transaction.workflowId = w → entry.applied = some a → a.record.state = .committed →
    (∃ b ∈ appliedOn w before, b.command = .markProviderCallEntered) ∧
      ∃ event ∈ a.record.events.dropLast, event.kind = .providerCallEntered
  reconciled_observed : ∀ before entry after a, entries = before ++ entry :: after →
    entry.transaction.workflowId = w → entry.applied = some a →
    a.record.state = .reconciledCommitted →
    (∃ b ∈ appliedOn w before, b.command = .startAttempt) ∧
      ∃ attempt observation receipt, a.record.attempts = [attempt] ∧
        a.command = .reconcile observation receipt ∧ observation.conclusion = .effect ∧
        observation.observedAt ≤ a.context.verifierTime ∧
        a.context.verifierTime ≤ observation.freshUntil ∧
        observation.providerRequestDigest = attempt.providerRequestDigest
  terminal_last : ∀ before entry after a, entries = before ++ entry :: after →
    entry.transaction.workflowId = w → entry.applied = some a →
    a.record.state.isTerminal = true →
    appliedOn w after = [] ∧ database.get w = some a.record
  reservation_once : ∀ a ∈ appliedOn w entries, ∀ held ∈ a.record.reservationEntries,
    ¬(held.committed = true ∧ held.released = true)
  reservation_final : (appliedOn w entries).Pairwise fun a b => ∀ (i : Nat) (held : ReservationEntry),
    a.record.reservationEntries[i]? = some held → held.committed = true ∨ held.released = true →
    b.record.reservationEntries[i]? = some held
  absent : database.get w = none → appliedOn w entries = []
  counted : ∀ record, database.get w = some record →
    record.revision.toNat = (appliedOn w entries).length ∧
      record.events.length = (appliedOn w entries).length ∧
      record.receipts.length = (appliedOn w entries).length
  linked : ∀ record, database.get w = some record → Linked record.receipts
  rejected : ∀ transaction persist error,
    (transactDatabase database rules maximumRecords transaction persist).1 = .error error →
    (transactDatabase database rules maximumRecords transaction persist).2 = database

theorem transact_error {transaction : StoreTransaction}
    {persist : LifecycleDatabase → Except StoreError Unit} {error : StoreError}
    (h : (transactDatabase database rules maximumRecords transaction persist).1 = .error error) :
    (transactDatabase database rules maximumRecords transaction persist).2 = database := by
  have hstep := transacted database rules maximumRecords transaction persist
  generalize transactDatabase database rules maximumRecords transaction persist = answer at hstep h ⊢
  cases hstep with
  | failed error => rfl
  | replayed _ _ _ => rfl
  | applied _ _ _ _ => cases h

/-- Side effects are authorized at most once and in order, whatever the transactions of the run. -/
theorem run_sideEffects (rules : List LifecycleCapacityRule) (maximumRecords : Nat)
    (entries : List Entry) (database : LifecycleDatabase)
    (h : StoreRun rules maximumRecords .empty entries database) (w : WorkflowId) :
    SideEffects rules maximumRecords entries database w where
  execution_once := h.execution_once
  providerCall_once := h.providerCall_once
  execution_prepared := fun before entry after token hsplit hw htoken =>
    StoreRun.execution_prepared (hsplit ▸ h) hw htoken
  providerCall_prepared := fun before entry after token hsplit hw htoken =>
    StoreRun.providerCall_prepared (hsplit ▸ h) hw htoken
  committed_entered := fun before entry after a hsplit hw ha hstate =>
    StoreRun.committed_entered (hsplit ▸ h) hw ha hstate
  reconciled_observed := fun before entry after a hsplit hw ha hstate =>
    StoreRun.reconciled_observed (hsplit ▸ h) hw ha hstate
  terminal_last := fun before entry after a hsplit hw ha hterminal =>
    StoreRun.terminal_last (hsplit ▸ h) hw ha hterminal
  reservation_once := fun a ha held hheld => (settled_once (h.entriesSettled ha) hheld).1
  reservation_final := by
    refine (h.pairwise_after w).imp_of_mem fun {a b} ha hb hafter i held hheld hsettled => ?_
    -- settled means terminal, and nothing comes after a terminal record
    have hterminal := (settled_once (h.entriesSettled ha) (List.mem_of_getElem? hheld)).2 hsettled
    have hrank := rank_eq_iff_terminal.mpr hterminal
    have hle := rank_le b.record
    unfold After at hafter
    omega
  absent := fun hget => by
    have hagrees := h.agrees w
    rwa [Agrees, hget] at hagrees
  counted := fun record hget => by
    have hagrees := h.agrees w
    rw [Agrees, hget] at hagrees
    exact hagrees.counts
  linked := fun record hget => by
    have hagrees := h.agrees w
    rw [Agrees, hget] at hagrees
    exact hagrees.linked
  rejected := fun _ _ _ h => transact_error h

end Run

end

section Sample

local instance sampleTokenSha256 : Sha256 :=
  ⟨fun bytes => ⟨Sha2.sha256 bytes, Sha2.sha256_length bytes⟩⟩

def sampleRules : List LifecycleCapacityRule :=
  [.additive (.filled 30) none ⟨"requests", sampleUnit_valid⟩ 10]

def sampleWorkflow : WorkflowId := ⟨"workflow-1", sampleWorkflow_valid⟩

/-- The transactions of one workflow from its decision to its commit. -/
def sampleTransactions : List StoreTransaction :=
  [⟨sampleWorkflow, none, .recordDecision sampleInput, sampleContext 10⟩,
    ⟨sampleWorkflow, some 1, .reserve, sampleContext 11⟩,
    ⟨sampleWorkflow, some 2, .recordExecutionIntent sampleIntent, sampleContext 12⟩,
    ⟨sampleWorkflow, some 3, .authorizeCredential, sampleContext 13⟩,
    ⟨sampleWorkflow, some 4, .startAttempt, sampleContext 14⟩,
    ⟨sampleWorkflow, some 5, .markProviderCallEntered, sampleContext 15⟩,
    ⟨sampleWorkflow, some 6, .commit (.filled 26) (.filled 27), sampleContext 16⟩]

theorem sample_sideEffects :
    (executionsOn sampleWorkflow (transactAll sampleRules 8 sampleTransactions).1).length = 1 ∧
      (providerCallsOn sampleWorkflow (transactAll sampleRules 8 sampleTransactions).1).length = 1 ∧
      SideEffects sampleRules 8 (transactAll sampleRules 8 sampleTransactions).1
        (transactAll sampleRules 8 sampleTransactions).2 sampleWorkflow :=
  ⟨by decide +kernel, by decide +kernel,
    run_sideEffects sampleRules 8 _ _ (storeRun_transactAll sampleRules 8 sampleTransactions)
      sampleWorkflow⟩

end Sample

end AuthsProof.Lifecycle
