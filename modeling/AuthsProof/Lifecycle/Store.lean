import AuthsProof.Lib.SortedMap
import AuthsProof.Lifecycle.Sealed

/-! The lifecycle store: the capacity it derives from its records, one transaction against it, and
the runs of transactions from the empty store on. -/

namespace AuthsProof.Lifecycle

inductive LifecycleCapacityRule where
  | additive (scopeDigest : CommitmentDigest) (windowDigest : Option CommitmentDigest)
      (unit : UnitId) (ceiling : UInt64)
  | exclusive (scopeDigest : CommitmentDigest) (windowDigest : Option CommitmentDigest)
      (retainAfterCommit : Bool)
  deriving DecidableEq

inductive LifecycleStoreConfigurationError where
  | invalidRecordLimit
  | zeroCeiling
  | duplicateRule
  deriving DecidableEq

def LifecycleCapacityRule.key : LifecycleCapacityRule → CapacityKey
  | .additive scopeDigest windowDigest unit _ => additiveKey scopeDigest windowDigest unit
  | .exclusive scopeDigest windowDigest _ => exclusiveKey scopeDigest windowDigest

def validateRules : List CapacityKey → List LifecycleCapacityRule →
    Except LifecycleStoreConfigurationError Unit
  | _, [] => .ok ()
  | keys, rule :: rules => do
    match rule with
    | .additive _ _ _ ceiling => if ceiling = 0 then .error .zeroCeiling
    | .exclusive .. => pure ()
    if rule.key ∈ keys then .error .duplicateRule
    validateRules (rule.key :: keys) rules

def validateConfiguration (rules : List LifecycleCapacityRule) (maximumRecords : Nat) :
    Except LifecycleStoreConfigurationError Unit := do
  if maximumRecords = 0 || 1000000 < maximumRecords then .error .invalidRecordLimit
  validateRules [] rules

abbrev LifecycleDatabase := SortedMap WorkflowId LifecycleRecord

def isCapacityHolding : LifecycleState → Bool
  | .reserved | .executionIntentRecorded | .executing | .outcomeUnknown => true
  | _ => false

/-- The reservations of a list of records, each with the state of its record. -/
def heldReservations (records : List (WorkflowId × LifecycleRecord)) :
    List (LifecycleState × ReservationEntry) :=
  records.flatMap fun (_, record) => record.reservationEntries.map fun entry => (record.state, entry)

/-- The amount a reservation has of an additive rule, if it falls under it. -/
def additiveAmount (scopeDigest : CommitmentDigest) (windowDigest : Option CommitmentDigest)
    (unit : UnitId) (request : ReservationRequest) : Option UInt64 :=
  match request.mode with
  | .additive requestUnit amount =>
    if request.scopeDigest = scopeDigest && request.windowDigest = windowDigest &&
      requestUnit = unit then some amount else none
  | .exclusive => none

def underExclusive (scopeDigest : CommitmentDigest) (windowDigest : Option CommitmentDigest)
    (request : ReservationRequest) : Bool :=
  request.scopeDigest = scopeDigest && request.windowDigest = windowDigest &&
    request.mode = .exclusive

/-- One turn of the loop that adds up committed and active use. -/
def countReservation (scopeDigest : CommitmentDigest) (windowDigest : Option CommitmentDigest)
    (unit : UnitId) (counts : UInt64 × UInt64) (held : LifecycleState × ReservationEntry) :
    Except StoreError (UInt64 × UInt64) :=
  match additiveAmount scopeDigest windowDigest unit held.2.request with
  | none => .ok counts
  | some amount =>
    if held.2.committed then
      match Checked.add counts.1 amount with
      | none => .error .corrupt
      | some committed => .ok (committed, counts.2)
    else if !held.2.released && isCapacityHolding held.1 then
      match Checked.add counts.2 amount with
      | none => .error .corrupt
      | some active => .ok (counts.1, active)
    else .ok counts

/-- Whether a reservation owns an exclusive rule. -/
def ownsExclusive (scopeDigest : CommitmentDigest) (windowDigest : Option CommitmentDigest)
    (retainAfterCommit : Bool) (held : LifecycleState × ReservationEntry) : Bool :=
  underExclusive scopeDigest windowDigest held.2.request && !held.2.released &&
    (isCapacityHolding held.1 || (retainAfterCommit && held.2.committed))

def takeOwner (scopeDigest : CommitmentDigest) (windowDigest : Option CommitmentDigest)
    (retainAfterCommit : Bool) (owner : Option ReservationId)
    (held : LifecycleState × ReservationEntry) : Except StoreError (Option ReservationId) :=
  if ownsExclusive scopeDigest windowDigest retainAfterCommit held then
    if owner.isSome then .error .corrupt else .ok (some held.2.request.reservationId)
  else .ok owner

def capacityEntry (held : List (LifecycleState × ReservationEntry)) :
    LifecycleCapacityRule → Except StoreError CapacityEntry
  | .additive scopeDigest windowDigest unit ceiling => do
    let (committed, active) ← held.foldlM (countReservation scopeDigest windowDigest unit) (0, 0)
    pure (.additive scopeDigest windowDigest unit ceiling committed active)
  | .exclusive scopeDigest windowDigest retainAfterCommit => do
    let owner ← held.foldlM (takeOwner scopeDigest windowDigest retainAfterCommit) none
    pure (.exclusive scopeDigest windowDigest owner)

def capacitySnapshot (database : LifecycleDatabase) (rules : List LifecycleCapacityRule)
    (currentWorkflow : WorkflowId) : Except StoreError CapacitySnapshot := do
  let entries ← rules.mapM (capacityEntry (heldReservations (database.others currentWorkflow)))
  (CapacitySnapshot.new entries).mapError fun _ => .corrupt

variable [Sha256]

/-- One transaction and the database it leaves. Only an applied transition that persists changes
it. -/
def transactDatabase (database : LifecycleDatabase) (rules : List LifecycleCapacityRule)
    (maximumRecords : Nat) (transaction : StoreTransaction)
    (persist : LifecycleDatabase → Except StoreError Unit) :
    Except StoreError StoredTransition × LifecycleDatabase :=
  let current := database.get transaction.workflowId
  if current.map (·.revision) ≠ transaction.expectedRevision then (.error .conflict, database)
  else if current.isNone && maximumRecords ≤ database.entries.length then
    (.error .limitExceeded, database)
  else match capacitySnapshot database rules transaction.workflowId with
    | .error error => (.error error, database)
    | .ok capacity =>
      match applyTransition current transaction.command { transaction.context with capacity } with
      | .error error => (.error (.rejected error.failure), database)
      | .ok result =>
        match result.disposition with
        | .exactReplay => (.ok ⟨result.record, result.disposition⟩, database)
        | .applied =>
          let next := database.insert transaction.workflowId result.record
          match persist next with
          | .error error => (.error error, database)
          | .ok _ => (.ok ⟨result.record, result.disposition⟩, next)

/-- Everything a transaction can do. -/
inductive Transacted (rules : List LifecycleCapacityRule) (maximumRecords : Nat)
    (database : LifecycleDatabase) (transaction : StoreTransaction) :
    Except StoreError StoredTransition × LifecycleDatabase → Prop
  | failed (error : StoreError) :
      Transacted rules maximumRecords database transaction (.error error, database)
  | replayed {record : LifecycleRecord} (hcurrent : database.get transaction.workflowId = some record)
      (hrevision : some record.revision = transaction.expectedRevision)
      (hdecision : ∃ input, transaction.command = .recordDecision input) :
      Transacted rules maximumRecords database transaction (.ok ⟨record, .exactReplay⟩, database)
  | applied {capacity : CapacitySnapshot} {record : LifecycleRecord}
      (hrevision : (database.get transaction.workflowId).map (·.revision) =
        transaction.expectedRevision)
      (hroom : database.get transaction.workflowId = none → database.entries.length < maximumRecords)
      (hcapacity : capacitySnapshot database rules transaction.workflowId = .ok capacity)
      (hadvances : Advances (database.get transaction.workflowId)
        ⟨transaction.command, { transaction.context with capacity }, record⟩) :
      Transacted rules maximumRecords database transaction
        (.ok ⟨record, .applied⟩, database.insert transaction.workflowId record)

theorem transacted (database : LifecycleDatabase) (rules : List LifecycleCapacityRule)
    (maximumRecords : Nat) (transaction : StoreTransaction)
    (persist : LifecycleDatabase → Except StoreError Unit) :
    Transacted rules maximumRecords database transaction
      (transactDatabase database rules maximumRecords transaction persist) := by
  unfold transactDatabase
  dsimp only
  split
  · exact .failed _
  · next hrevision =>
    have hrevision := not_not.mp hrevision
    split
    · exact .failed _
    · next hlimit =>
      have hroom : database.get transaction.workflowId = none →
          database.entries.length < maximumRecords := by
        intro hnone
        simpa [hnone] using hlimit
      split
      · exact .failed _
      next capacity hcapacity =>
      split
      · exact .failed _
      · next result hresult =>
        rcases applyTransition_ok hresult with ⟨happlied, hadvances⟩ | ⟨hreplay, hcurrent, hdecision⟩
        · rw [happlied]
          dsimp only
          split
          · exact .failed _
          · exact .applied hrevision hroom hcapacity hadvances
        · rw [hreplay]
          rw [hcurrent] at hrevision
          exact .replayed hcurrent hrevision hdecision

/-- One transaction of a run: the capacity the store derived for it and what it answered. -/
structure Entry where
  transaction : StoreTransaction
  capacity : Except StoreError CapacitySnapshot
  stored : Except StoreError StoredTransition

/-- The runs of transactions from a store, in any interleaving over any workflows and clients,
whatever each attempt to persist comes to. -/
inductive StoreRun (rules : List LifecycleCapacityRule) (maximumRecords : Nat)
    (initial : LifecycleDatabase) : List Entry → LifecycleDatabase → Prop
  | start : StoreRun rules maximumRecords initial [] initial
  | transact {entries : List Entry} {database : LifecycleDatabase}
      (h : StoreRun rules maximumRecords initial entries database) (transaction : StoreTransaction)
      (persist : LifecycleDatabase → Except StoreError Unit) :
      StoreRun rules maximumRecords initial
        (entries ++ [⟨transaction, capacitySnapshot database rules transaction.workflowId,
          (transactDatabase database rules maximumRecords transaction persist).1⟩])
        (transactDatabase database rules maximumRecords transaction persist).2

/-- One more transaction of a run that persists everything it applies. -/
def transactNext (rules : List LifecycleCapacityRule) (maximumRecords : Nat)
    (run : List Entry × LifecycleDatabase) (transaction : StoreTransaction) :
    List Entry × LifecycleDatabase :=
  let answer := transactDatabase run.2 rules maximumRecords transaction fun _ => .ok ()
  (run.1 ++ [⟨transaction, capacitySnapshot run.2 rules transaction.workflowId, answer.1⟩], answer.2)

def transactAll (rules : List LifecycleCapacityRule) (maximumRecords : Nat)
    (transactions : List StoreTransaction) : List Entry × LifecycleDatabase :=
  transactions.foldl (transactNext rules maximumRecords) ([], .empty)

theorem storeRun_transactAll (rules : List LifecycleCapacityRule) (maximumRecords : Nat)
    (transactions : List StoreTransaction) :
    StoreRun rules maximumRecords .empty (transactAll rules maximumRecords transactions).1
      (transactAll rules maximumRecords transactions).2 := by
  suffices hfrom : ∀ run : List Entry × LifecycleDatabase,
      StoreRun rules maximumRecords .empty run.1 run.2 →
        StoreRun rules maximumRecords .empty
          (transactions.foldl (transactNext rules maximumRecords) run).1
          (transactions.foldl (transactNext rules maximumRecords) run).2 from hfrom _ .start
  induction transactions with
  | nil => exact fun run h => h
  | cons transaction transactions ih => exact fun run h => ih _ (h.transact transaction _)

/-- The database a run was in before one of its transactions. -/
theorem StoreRun.split {rules : List LifecycleCapacityRule} {maximumRecords : Nat}
    {initial database : LifecycleDatabase} {before after : List Entry} {entry : Entry}
    (h : StoreRun rules maximumRecords initial (before ++ entry :: after) database) :
    ∃ database' persist, StoreRun rules maximumRecords initial before database' ∧
      entry.capacity = capacitySnapshot database' rules entry.transaction.workflowId ∧
      entry.stored =
        (transactDatabase database' rules maximumRecords entry.transaction persist).1 := by
  generalize hall : before ++ entry :: after = all at h
  induction h generalizing after with
  | start => simp at hall
  | @transact entries database h transaction persist ih =>
    rcases List.eq_nil_or_concat after with rfl | ⟨front, last, rfl⟩
    · obtain ⟨rfl, rfl⟩ := List.append_singleton_inj.mp hall
      exact ⟨database, persist, h, rfl, rfl⟩
    · rw [List.concat_eq_append, ← List.cons_append, ← List.append_assoc] at hall
      exact ih (List.append_singleton_inj.mp hall).1

def Entry.applied (entry : Entry) : Option Applied :=
  match entry.stored, entry.capacity with
  | .ok ⟨record, .applied⟩, .ok capacity =>
    some ⟨entry.transaction.command, { entry.transaction.context with capacity }, record⟩
  | _, _ => none

/-- The transitions a run applied to a workflow. -/
def appliedOn (w : WorkflowId) (entries : List Entry) : List Applied :=
  entries.filterMap fun entry => if entry.transaction.workflowId = w then entry.applied else none

omit [Sha256] in
@[simp] theorem appliedOn_append (w : WorkflowId) (xs ys : List Entry) :
    appliedOn w (xs ++ ys) = appliedOn w xs ++ appliedOn w ys :=
  List.filterMap_append

/-- A database that agrees with the history of each of its workflows. -/
def Agrees (entries : List Entry) (database : LifecycleDatabase) (w : WorkflowId) : Prop :=
  match database.get w with
  | none => appliedOn w entries = []
  | some record => Lineage (appliedOn w entries) record

/-- Every record of the store is the end of the history its workflow has in the run. -/
theorem StoreRun.agrees {rules : List LifecycleCapacityRule} {maximumRecords : Nat}
    {entries : List Entry} {database : LifecycleDatabase}
    (h : StoreRun rules maximumRecords .empty entries database) (w : WorkflowId) :
    Agrees entries database w := by
  induction h with
  | start => rfl
  | @transact entries database h transaction persist ih =>
    have hstep := transacted database rules maximumRecords transaction persist
    generalize transactDatabase database rules maximumRecords transaction persist = answer at hstep ⊢
    have hsame : ∀ stored, (∀ record, stored ≠ .ok ⟨record, .applied⟩) →
        Agrees (entries ++ [⟨transaction, capacitySnapshot database rules transaction.workflowId,
          stored⟩]) database w := by
      intro stored hstored
      have hnone : Entry.applied ⟨transaction,
          capacitySnapshot database rules transaction.workflowId, stored⟩ = none := by
        unfold Entry.applied
        split
        · next record capacity hs hc => exact absurd hs (hstored record)
        · rfl
      simpa [Agrees, appliedOn, hnone] using ih
    cases hstep with
    | failed error => exact hsame _ fun record h => (nomatch h)
    | replayed hcurrent hrevision hdecision => exact hsame _ fun record h => by simp at h
    | @applied capacity record hrevision _ hcapacity hadvances =>
      rw [hcapacity]
      by_cases hw : transaction.workflowId = w
      · subst hw
        have hlist : appliedOn transaction.workflowId (entries ++
            [⟨transaction, .ok capacity, .ok ⟨record, .applied⟩⟩]) =
            appliedOn transaction.workflowId entries ++
              [⟨transaction.command, { transaction.context with capacity }, record⟩] := by
          rw [appliedOn_append]
          simp [appliedOn, Entry.applied]
        unfold Agrees at ih ⊢
        rw [SortedMap.get_insert_self, hlist]
        cases hget : database.get transaction.workflowId with
        | none =>
          rw [hget] at ih hadvances
          rw [show appliedOn transaction.workflowId entries = [] from ih]
          exact .first hadvances
        | some r =>
          rw [hget] at ih hadvances
          exact .snoc ih hadvances
      · have hget := SortedMap.get_insert_of_ne database record (Ne.symm hw)
        unfold Agrees at ih ⊢
        rw [hget]
        simpa [appliedOn, hw] using ih

end AuthsProof.Lifecycle
