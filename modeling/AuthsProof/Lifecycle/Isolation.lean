import AuthsProof.Lifecycle.SideEffects

/-! Transactions are atomic, touch one workflow, and are put in one order per workflow by the revision
they expect. -/

namespace AuthsProof.Lifecycle

section

variable [Sha256]

/-- A transaction changes nothing when it fails and at most its own workflow when it succeeds. -/
structure Isolated (database : LifecycleDatabase) (transaction : StoreTransaction)
    (answer : Except StoreError StoredTransition × LifecycleDatabase) : Prop where
  failed : ∀ error, answer.1 = .error error → answer.2 = database
  others : ∀ stored, answer.1 = .ok stored → ∀ w, w ≠ transaction.workflowId →
    answer.2.get w = database.get w

theorem Transacted.isolated {rules : List LifecycleCapacityRule} {maximumRecords : Nat}
    {database : LifecycleDatabase} {transaction : StoreTransaction}
    {answer : Except StoreError StoredTransition × LifecycleDatabase}
    (h : Transacted rules maximumRecords database transaction answer) :
    Isolated database transaction answer := by
  cases h with
  | failed error => exact ⟨fun _ _ => rfl, fun _ _ _ _ => rfl⟩
  | replayed _ _ _ => exact ⟨fun _ _ => rfl, fun _ _ _ _ => rfl⟩
  | applied _ _ _ _ =>
    exact ⟨fun _ h => (nomatch h), fun _ _ w hw => SortedMap.get_insert_of_ne _ _ hw⟩

omit [Sha256] in
/-- How far a workflow has come in a database. -/
def level (database : LifecycleDatabase) (w : WorkflowId) : Nat :=
  match database.get w with
  | none => 0
  | some record => record.revision.toNat + 1

omit [Sha256] in
/-- The level a transaction that expects a revision is applied at. -/
def expectedLevel : Option UInt64 → Nat
  | none => 0
  | some revision => revision.toNat + 1

omit [Sha256] in
theorem level_eq_expectedLevel {database : LifecycleDatabase} {w : WorkflowId}
    {expected : Option UInt64} (h : (database.get w).map (·.revision) = expected) :
    level database w = expectedLevel expected := by
  rw [← h, level]
  cases database.get w <;> rfl

/-- A record that still has everything an earlier one had. -/
def Extends (r r' : LifecycleRecord) : Prop :=
  r.input = r'.input ∧ r.events <+: r'.events ∧ r.receipts <+: r'.receipts

omit [Sha256] in
theorem Extends.refl (r : LifecycleRecord) : Extends r r :=
  ⟨rfl, List.prefix_rfl, List.prefix_rfl⟩

omit [Sha256] in
theorem Extends.trans {a b c : LifecycleRecord} (hab : Extends a b) (hbc : Extends b c) :
    Extends a c :=
  ⟨hab.1.trans hbc.1, hab.2.1.trans hbc.2.1, hab.2.2.trans hbc.2.2⟩

theorem Advances.extends {r : LifecycleRecord} {a : Applied} (h : Advances (some r) a) :
    Extends r a.record ∧ r.revision.toNat < a.record.revision.toNat := by
  cases h with
  | edge he hrevision =>
    have hsame := he.sameHistory
    refine ⟨⟨hsame.input.symm, ?_, ?_⟩, ?_⟩
    · rw [extended_events, hsame.events]
      exact List.prefix_append _ _
    · rw [extended_receipts, hsame.receipts]
      exact List.prefix_append _ _
    · rw [extended_revision]
      omega

/-- A database that lost nothing of what another one had on a workflow. -/
def Later (database database' : LifecycleDatabase) (w : WorkflowId) : Prop :=
  level database w ≤ level database' w ∧
    ∀ r, database.get w = some r → ∃ r', database'.get w = some r' ∧ Extends r r'

omit [Sha256] in
theorem Later.refl (database : LifecycleDatabase) (w : WorkflowId) : Later database database w :=
  ⟨le_rfl, fun r hr => ⟨r, hr, .refl r⟩⟩

omit [Sha256] in
theorem Later.trans {a b c : LifecycleDatabase} {w : WorkflowId} (hab : Later a b w)
    (hbc : Later b c w) : Later a c w := by
  refine ⟨hab.1.trans hbc.1, fun r hr => ?_⟩
  obtain ⟨r', hr', h⟩ := hab.2 r hr
  obtain ⟨r'', hr'', h'⟩ := hbc.2 r' hr'
  exact ⟨r'', hr'', h.trans h'⟩

/-- One transaction: nothing is lost, and what is applied raises the level of its workflow from the
one it expects. -/
theorem Transacted.later {rules : List LifecycleCapacityRule} {maximumRecords : Nat}
    {database : LifecycleDatabase} {transaction : StoreTransaction}
    {answer : Except StoreError StoredTransition × LifecycleDatabase}
    (h : Transacted rules maximumRecords database transaction answer) (w : WorkflowId) :
    Later database answer.2 w ∧ ∀ record, answer.1 = .ok ⟨record, .applied⟩ →
      level database transaction.workflowId = expectedLevel transaction.expectedRevision ∧
      level database transaction.workflowId < level answer.2 transaction.workflowId ∧
      answer.2.get transaction.workflowId = some record := by
  cases h with
  | failed error => exact ⟨.refl _ _, fun _ h => (nomatch h)⟩
  | replayed _ _ _ => exact ⟨.refl _ _, fun _ h => by simp at h⟩
  | @applied capacity record hrevision _ _ hadvances =>
    have hself := SortedMap.get_insert_self database transaction.workflowId record
    have hraise : level database transaction.workflowId <
        level (database.insert transaction.workflowId record) transaction.workflowId := by
      rw [level, level, hself]
      cases hget : database.get transaction.workflowId with
      | none => simp
      | some r =>
        rw [hget] at hadvances
        have hlt := hadvances.extends.2
        dsimp only at hlt ⊢
        omega
    refine ⟨?_, fun record' h => ?_⟩
    · by_cases hw : w = transaction.workflowId
      · subst hw
        refine ⟨hraise.le, fun r hr => ⟨record, hself, ?_⟩⟩
        rw [hr] at hadvances
        exact hadvances.extends.1
      · have hother := SortedMap.get_insert_of_ne database record hw
        refine ⟨?_, fun r hr => ⟨r, hother.trans hr, .refl r⟩⟩
        rw [level, level, hother]
    · obtain rfl : record = record' := by simpa using h
      exact ⟨level_eq_expectedLevel hrevision, hraise, hself⟩

omit [Sha256] in
def Entry.isApplied (entry : Entry) : Bool :=
  match entry.stored with
  | .ok ⟨_, .applied⟩ => true
  | _ => false

omit [Sha256] in
theorem Entry.isApplied_iff {entry : Entry} :
    entry.isApplied = true ↔ ∃ record, entry.stored = .ok ⟨record, .applied⟩ := by
  unfold Entry.isApplied
  split
  · next record h => exact ⟨fun _ => ⟨record, h⟩, fun _ => rfl⟩
  · next h => exact ⟨fun hf => (nomatch hf), fun ⟨record, hr⟩ => absurd hr (h record)⟩

/-- The applied transactions of a run on a workflow stand in the order of the revisions they expect,
and the database still has what each of them wrote. -/
structure Ordered (entries : List Entry) (database : LifecycleDatabase) (w : WorkflowId) : Prop where
  below : ∀ entry ∈ entries, entry.transaction.workflowId = w → entry.isApplied = true →
    expectedLevel entry.transaction.expectedRevision < level database w
  kept : ∀ entry ∈ entries, entry.transaction.workflowId = w → ∀ record,
    entry.stored = .ok ⟨record, .applied⟩ → ∃ r, database.get w = some r ∧ Extends record r
  pairwise : entries.Pairwise fun e e' => e.transaction.workflowId = w → e.isApplied = true →
    e'.transaction.workflowId = w → e'.isApplied = true →
    expectedLevel e.transaction.expectedRevision < expectedLevel e'.transaction.expectedRevision

theorem StoreRun.ordered {rules : List LifecycleCapacityRule} {maximumRecords : Nat}
    {initial database : LifecycleDatabase} {entries : List Entry}
    (h : StoreRun rules maximumRecords initial entries database) (w : WorkflowId) :
    Ordered entries database w := by
  induction h with
  | start => exact ⟨by simp, by simp, .nil⟩
  | @transact entries database h transaction persist ih =>
    have hstep := transacted database rules maximumRecords transaction persist
    generalize transactDatabase database rules maximumRecords transaction persist = answer at hstep ⊢
    obtain ⟨hlater, happlied⟩ := hstep.later w
    refine ⟨fun e he hw ha => ?_, fun e he hw record ha => ?_, ?_⟩
    · rcases List.mem_append.mp he with he | he
      · exact (ih.below e he hw ha).trans_le hlater.1
      · obtain rfl := List.mem_singleton.mp he
        obtain ⟨record, hrecord⟩ := Entry.isApplied_iff.mp ha
        obtain ⟨hlevel, hlt, -⟩ := happlied record hrecord
        rw [← hw, ← hlevel]
        exact hlt
    · rcases List.mem_append.mp he with he | he
      · obtain ⟨r, hr, hextends⟩ := ih.kept e he hw record ha
        obtain ⟨r', hr', hextends'⟩ := hlater.2 r hr
        exact ⟨r', hr', hextends.trans hextends'⟩
      · obtain rfl := List.mem_singleton.mp he
        obtain ⟨-, -, hget⟩ := happlied record ha
        rw [← hw]
        exact ⟨record, hget, .refl record⟩
    · refine List.pairwise_append.mpr ⟨ih.pairwise, List.pairwise_singleton _ _, ?_⟩
      intro e he e' he' hw ha hw' ha'
      obtain rfl := List.mem_singleton.mp he'
      obtain ⟨record, hrecord⟩ := Entry.isApplied_iff.mp ha'
      obtain ⟨hlevel, -, -⟩ := happlied record hrecord
      have hbelow := ih.below e he hw ha
      rw [← hw', hlevel] at hbelow
      exact hbelow

/-- Every transaction on every database is isolated, and over any run from any database at most one
transaction that expects a given revision of a workflow is applied, its record never lost. -/
theorem transactions_linearised (rules : List LifecycleCapacityRule) (maximumRecords : Nat)
    (database : LifecycleDatabase) :
    (∀ transaction persist, Isolated database transaction
      (transactDatabase database rules maximumRecords transaction persist)) ∧
    ∀ entries database', StoreRun rules maximumRecords database entries database' → ∀ w,
      (∀ expected, (entries.filter fun entry => entry.transaction.workflowId = w &&
        entry.transaction.expectedRevision = expected && entry.isApplied).length ≤ 1) ∧
      ∀ entry ∈ entries, entry.transaction.workflowId = w → ∀ record,
        entry.stored = .ok ⟨record, .applied⟩ → ∃ r, database'.get w = some r ∧ Extends record r := by
  refine ⟨fun transaction persist =>
    (transacted database rules maximumRecords transaction persist).isolated, ?_⟩
  intro entries database' h w
  have hordered := h.ordered w
  refine ⟨fun expected => length_le_one (List.pairwise_filter.mpr ?_), hordered.kept⟩
  refine hordered.pairwise.imp ?_
  intro e e' hlt he he'
  simp only [Bool.and_eq_true, decide_eq_true_eq] at he he'
  obtain ⟨⟨hw, hexpected⟩, ha⟩ := he
  obtain ⟨⟨hw', hexpected'⟩, ha'⟩ := he'
  have hlt := hlt hw ha hw' ha'
  rw [hexpected, hexpected'] at hlt
  exact absurd hlt (lt_irrefl _)

end

section Sample

local instance sampleRaceSha256 : Sha256 :=
  ⟨fun bytes => ⟨Sha2.sha256 bytes, Sha2.sha256_length bytes⟩⟩

/-- Two clients reserve at the same revision. -/
def sampleRace : List StoreTransaction :=
  [⟨sampleWorkflow, none, .recordDecision sampleInput, sampleContext 10⟩,
    ⟨sampleWorkflow, some 1, .reserve, sampleContext 11⟩,
    ⟨sampleWorkflow, some 1, .reserve, sampleContext 12⟩]

/-- One of them wins. -/
theorem sample_linearised :
    (transactAll sampleRules 8 sampleRace).1.map (·.isApplied) = [true, true, false] ∧
      ((transactAll sampleRules 8 sampleRace).1.filter fun entry =>
        entry.transaction.workflowId = sampleWorkflow &&
          entry.transaction.expectedRevision = some 1 && entry.isApplied).length ≤ 1 :=
  ⟨by decide +kernel, ((transactions_linearised sampleRules 8 .empty).2 _ _
    (storeRun_transactAll sampleRules 8 sampleRace) sampleWorkflow).1 (some 1)⟩

end Sample

end AuthsProof.Lifecycle
