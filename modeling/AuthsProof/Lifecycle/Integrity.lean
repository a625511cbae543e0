import AuthsProof.Lifecycle.History

/-! The integrity check of a stored record, written independently of the transitions that make it:
the shape of each state, the event of each edge and the hash links between the receipts. -/

namespace AuthsProof.Lifecycle

def reservationsAreLive (record : LifecycleRecord) : Bool :=
  record.reservationEntries.all fun entry => !entry.committed && !entry.released

def recordShapeIsValid (record : LifecycleRecord) : Bool :=
  let planned := record.input.reservations.entries.length
  let reserved := record.reservationEntries.length
  let intentPresent := record.executionIntent.isSome
  let attemptsPresent := !record.attempts.isEmpty
  match record.state with
  | .decisionRecorded =>
    reserved == 0 && !intentPresent && !record.credentialAuthorized && !attemptsPresent
  | .reserved =>
    reserved == planned && !intentPresent && !record.credentialAuthorized && !attemptsPresent &&
      reservationsAreLive record
  | .executionIntentRecorded =>
    reserved == planned && intentPresent && !attemptsPresent && reservationsAreLive record
  | .executing | .outcomeUnknown =>
    reserved == planned && intentPresent && attemptsPresent && !record.credentialAuthorized &&
      reservationsAreLive record
  | .committed | .reconciledCommitted =>
    reserved == planned && intentPresent && attemptsPresent &&
      record.reservationEntries.all fun entry => entry.committed && !entry.released
  | .released | .reconciledReleased =>
    reserved == planned &&
      record.reservationEntries.all fun entry => entry.released && !entry.committed

def validTraceEvent (fromState : Option LifecycleState) (toState : LifecycleState)
    (kind : LifecycleEventKind) : Bool :=
  match fromState, toState, kind with
  | none, .decisionRecorded, .decisionPersisted
  | some .decisionRecorded, .reserved, .reservationPersisted
  | some .reserved, .executionIntentRecorded, .executionIntentPersisted
  | some .executionIntentRecorded, .executionIntentRecorded, .credentialAuthorized
  | some .executionIntentRecorded, .executing, .attemptPersisted
  | some .executing, .executing, .providerCallEntered
  | some .executing, .committed, .providerResultPersisted
  | some .executing, .released, .providerResultPersisted
  | some .reserved, .released, .providerResultPersisted
  | some .executionIntentRecorded, .released, .providerResultPersisted
  | some .executing, .outcomeUnknown, .outcomeUnknownPersisted
  | some .outcomeUnknown, .outcomeUnknown, .reconciliationObserved
  | some .outcomeUnknown, .reconciledCommitted, .reconciliationPersisted
  | some .outcomeUnknown, .reconciledReleased, .reconciliationPersisted => true
  | _, _, _ => false

variable [Sha256]

def traceEntryIsValid (input : DecisionInput) (index : Nat)
    (previousDigest : Option LifecycleReceiptDigest) (previousState : Option LifecycleState)
    (event : LifecycleEvent) (receipt : LifecycleReceiptEnvelope) : Bool :=
  event.revision.toNat == index + 1 && receipt.revision.toNat == index + 1 &&
    event.triggerDigest = receipt.triggerDigest && receipt.previous = previousDigest &&
    receipt.fromState = previousState &&
    receipt.requiredConfiguration = input.commitments.requiredConfiguration &&
    receipt.executedConfiguration = input.commitments.executedConfiguration &&
    receipt.implementationId = input.implementationId &&
    validTraceEvent receipt.fromState receipt.toState event.kind &&
    receipt.receiptDigest = computeReceiptDigest input receipt.revision receipt.previous
      receipt.fromState receipt.toState receipt.triggerDigest receipt.domainReceiptDigest
      receipt.verifierTime receipt.requiredConfiguration receipt.executedConfiguration

/-- Walks the trace with the digest and state the next receipt must link to; `none` at the first
entry that does not. -/
def checkTrace (input : DecisionInput) : Nat →
    Option LifecycleReceiptDigest × Option LifecycleState →
    List (LifecycleEvent × LifecycleReceiptEnvelope) →
    Option (Option LifecycleReceiptDigest × Option LifecycleState)
  | _, previous, [] => some previous
  | index, previous, (event, receipt) :: rest =>
    if traceEntryIsValid input index previous.1 previous.2 event receipt then
      checkTrace input (index + 1) (some receipt.receiptDigest, some receipt.toState) rest
    else none

def validateRecordIntegrity (record : LifecycleRecord) : Bool :=
  if record.revision == 0 || record.events.length != record.revision.toNat ||
      record.receipts.length != record.revision.toNat || record.updatedAt < record.createdAt ||
      record.receipts.getLast?.map (·.toState) != some record.state ||
      !recordShapeIsValid record then false
  else if (checkTrace record.input 0 (none, none) (record.events.zip record.receipts)).isNone then
    false
  else record.attempts.zipIdx.all fun (attempt, index) =>
    attempt.ordinal.value.toNat == index + 1

omit [Sha256] in
theorem recordShapeIsValid_of_shaped {r : LifecycleRecord} (hentries : EntriesSettled r)
    (hshape : Shaped r) : recordShapeIsValid r = true := by
  unfold EntriesSettled at hentries
  have hattempted : Attempted r → r.executionIntent.isSome = true ∧ r.attempts.isEmpty = false := by
    intro ⟨attempt, intent, hattempts, hintent, _⟩
    simp [hattempts, hintent]
  cases hstate : r.state <;>
    simp only [Shaped, recordShapeIsValid, reservationsAreLive, settledEntries,
      hstate] at hentries hshape ⊢
  case decisionRecorded => simp [hentries, hshape]
  case reserved => simp [hentries, hshape]
  case executionIntentRecorded =>
    simp [hentries, hshape, Option.isSome_iff_ne_none]
  case executing => simp [hentries, hshape, hattempted hshape.1]
  case outcomeUnknown => simp [hentries, hshape, hattempted hshape.1]
  case committed => simp [hentries, hattempted hshape.1]
  case reconciledCommitted => simp [hentries, hattempted hshape.1]
  case released => simp [hentries]
  case reconciledReleased => simp [hentries]

/-- A reconciliation whose observation settles nothing. -/
def TransitionCommand.inconclusive : TransitionCommand → Bool
  | .reconcile observation _ =>
    match observation.conclusion with
    | .unknown | .inconclusive => true
    | _ => false
  | _ => false

omit [Sha256] in
/-- The writer and the checker agree on the event of every edge but one: an inconclusive
reconciliation is written as another unknown outcome, and only an observation is accepted. -/
theorem Edge.validTraceEvent_eq {r p : LifecycleRecord} {context : TransitionContext}
    {command : TransitionCommand} (h : Edge r context command p) :
    validTraceEvent (some r.state) p.state (eventKindFor (some r.state) p.state) =
      !command.inconclusive := by
  cases h with
  | reserve hstate _ => rw [hstate]; rfl
  | recordExecutionIntent intent hstate => rw [hstate]; rfl
  | authorizeCredential hstate _ _ => rw [hstate]; rfl
  | startAttempt intent ordinal hstate _ _ _ => rw [hstate]; rfl
  | markProviderCallEntered earlier attempt hstate _ _ => rw [hstate]; rfl
  | commit _ _ earlier attempt hstate _ _ => rw [hstate]; rfl
  | release _ _ conclusion hrelease =>
    rcases hrelease with ⟨hstate, -, -⟩ | ⟨hstate, -⟩ | ⟨hstate, -, -⟩ <;> rw [hstate] <;> rfl
  | markOutcomeUnknown _ hstate _ => rw [hstate]; rfl
  | reconcileEffect _ _ hstate hconclusion _ =>
    rw [hstate]
    simp [TransitionCommand.inconclusive, hconclusion, validTraceEvent, eventKindFor]
  | reconcileNonEffect _ _ hstate hconclusion _ =>
    rw [hstate]
    simp [TransitionCommand.inconclusive, hconclusion, validTraceEvent, eventKindFor]
  | reconcileInconclusive _ _ hstate hconclusion _ =>
    rw [hstate]
    rcases hconclusion with h | h <;>
      simp [TransitionCommand.inconclusive, h, validTraceEvent, eventKindFor]

theorem checkTrace_append {input : DecisionInput} {index : Nat}
    {previous : Option LifecycleReceiptDigest × Option LifecycleState}
    {xs ys : List (LifecycleEvent × LifecycleReceiptEnvelope)} :
    checkTrace input index previous (xs ++ ys) =
      (checkTrace input index previous xs).bind fun last =>
        checkTrace input (index + xs.length) last ys := by
  induction xs generalizing index previous with
  | nil => rfl
  | cons x xs ih =>
    obtain ⟨event, receipt⟩ := x
    simp only [List.cons_append, checkTrace]
    split
    · rw [ih, List.length_cons, Nat.add_right_comm, Nat.add_assoc]
    · rfl

/-- The trace of a record as the checker walks it. -/
def traceOf (r : LifecycleRecord) : Option (Option LifecycleReceiptDigest × Option LifecycleState) :=
  checkTrace r.input 0 (none, none) (r.events.zip r.receipts)

/-- The links the next receipt of a record has to carry. -/
def lastLinks (r : LifecycleRecord) : Option LifecycleReceiptDigest × Option LifecycleState :=
  (r.receipts.getLast?.map (·.receiptDigest), some r.state)

/-- What the checker makes of the entry an edge appends. -/
theorem traceEntryIsValid_edge {r p : LifecycleRecord} {context : TransitionContext}
    {command : TransitionCommand} {revision : UInt64} {trigger : CommitmentDigest}
    {receipt : Option DomainReceiptDigest} {now : VerifierTime} (he : Edge r context command p)
    (hrevision : r.revision.toNat + 1 = revision.toNat) :
    traceEntryIsValid r.input r.revision.toNat (lastLinks r).1 (lastLinks r).2
        ⟨eventKindFor (some r.state) p.state, revision, now, trigger⟩
        (makeReceipt p revision (some r.state) p.state trigger receipt now) =
      !command.inconclusive := by
  have hsame := he.sameHistory
  simp [traceEntryIsValid, makeReceipt, lastLinks, hsame.input, hsame.receipts, hrevision,
    he.validTraceEvent_eq]

/-- The checker walks the whole trace of a record unless its history reconciled inconclusively. -/
theorem Lineage.traceOf_eq {as : List Applied} {r : LifecycleRecord} (h : Lineage as r) :
    traceOf r = if as.any (·.command.inconclusive) then none else some (lastLinks r) := by
  induction h with
  | first h =>
    cases h with
    | decision input context _ =>
      simp [traceOf, checkTrace, traceEntryIsValid, makeReceipt, decisionRecord, validTraceEvent,
        eventKindFor, TransitionCommand.inconclusive, lastLinks]
  | @snoc as r a hs h ih =>
    obtain ⟨hcount, hevents, hreceipts⟩ := hs.counts
    cases h with
    | @edge _ p command context revision he hrevision =>
      have hsame := he.sameHistory
      have hlength : (r.events.zip r.receipts).length = r.revision.toNat := by
        rw [List.length_zip, hevents, hreceipts, hcount, Nat.min_self]
      have hzip : (extended p revision (some r.state) p.state (triggerDigest command r)
            (domainReceipt command) context.verifierTime).events.zip
          (extended p revision (some r.state) p.state (triggerDigest command r)
            (domainReceipt command) context.verifierTime).receipts =
          r.events.zip r.receipts ++
            [(⟨eventKindFor (some r.state) p.state, revision, context.verifierTime,
              triggerDigest command r⟩, makeReceipt p revision (some r.state) p.state
                (triggerDigest command r) (domainReceipt command) context.verifierTime)] := by
        rw [extended_events, extended_receipts, hsame.events, hsame.receipts,
          List.zip_append (hevents.trans hreceipts.symm)]
        rfl
      rw [traceOf, hzip, extended_input, hsame.input, checkTrace_append, hlength, Nat.zero_add]
      change (traceOf r).bind _ = _
      rw [ih, List.any_append]
      by_cases hany : as.any (·.command.inconclusive) = true
      · simp [hany]
      · simp only [hany, Bool.false_eq_true, if_false, Option.bind_some, checkTrace,
          traceEntryIsValid_edge he hrevision, Bool.false_or, List.any_cons, List.any_nil,
          Bool.or_false]
        cases command.inconclusive <;> simp [lastLinks, makeReceipt]

theorem Lineage.updatedAt_mem {as : List Applied} {r : LifecycleRecord} (h : Lineage as r) :
    ∃ a ∈ as.getLast?, r.updatedAt = a.context.verifierTime := by
  cases h with
  | first h =>
    cases h with
    | decision input context _ => exact ⟨_, rfl, rfl⟩
  | snoc hs h =>
    cases h with
    | edge he _ => exact ⟨_, List.getLast?_concat, rfl⟩

theorem Lineage.createdAt_mem {as : List Applied} {r : LifecycleRecord} (h : Lineage as r) :
    ∃ a ∈ as, r.createdAt = a.context.verifierTime := by
  induction h with
  | first h =>
    cases h with
    | decision input context _ => exact ⟨_, List.mem_singleton_self _, rfl⟩
  | snoc hs h ih =>
    cases h with
    | edge he _ =>
      obtain ⟨b, hb, hcreated⟩ := ih
      exact ⟨b, List.mem_append_left _ hb, he.sameHistory.createdAt.trans hcreated⟩

/-- Along times that never decrease a record is created before it is updated. -/
theorem Lineage.createdAt_le {as : List Applied} {r : LifecycleRecord} (h : Lineage as r)
    (htimes : as.Pairwise fun a b => a.context.verifierTime ≤ b.context.verifierTime) :
    r.createdAt ≤ r.updatedAt := by
  obtain ⟨first, hfirst, hcreated⟩ := h.createdAt_mem
  obtain ⟨last, hlast, hupdated⟩ := h.updatedAt_mem
  rw [hcreated, hupdated]
  obtain ⟨before, rfl⟩ := List.getLast?_eq_some_iff.mp (Option.mem_def.mp hlast)
  rcases List.mem_append.mp hfirst with hmem | hmem
  · exact (List.pairwise_append.mp htimes).2.2 first hmem last (List.mem_singleton_self last)
  · rw [List.mem_singleton.mp hmem]

omit [Sha256] in
theorem ordinals_of_shaped {r : LifecycleRecord} (h : Shaped r) :
    r.attempts.zipIdx.all (fun (attempt, index) => attempt.ordinal.value.toNat == index + 1) =
      true := by
  have hcases : r.attempts = [] ∨ Attempted r := by
    cases hstate : r.state <;> simp only [Shaped, hstate] at h
    case decisionRecorded => exact .inl h.2.2
    case reserved => exact .inl h.2.2
    case executionIntentRecorded => exact .inl h.2
    case released => exact h
    all_goals exact .inr h.1
  rcases hcases with hnil | ⟨attempt, intent, hone, -, hordinal, -⟩
  · simp [hnil]
  · simp [hone, hordinal]

theorem Lineage.last_toState {as : List Applied} {r : LifecycleRecord} (h : Lineage as r) :
    r.receipts.getLast?.map (·.toState) = some r.state := by
  cases h with
  | first h =>
    cases h with
    | decision input context _ => rfl
  | snoc hs h =>
    cases h with
    | edge he _ => simp [makeReceipt]

/-- A record passes the integrity check exactly when no inconclusive reconciliation is in its
history. -/
theorem Lineage.integrity_iff {as : List Applied} {r : LifecycleRecord} (h : Lineage as r)
    (htimes : as.Pairwise fun a b => a.context.verifierTime ≤ b.context.verifierTime) :
    validateRecordIntegrity r = true ↔ ∀ a ∈ as, a.command.inconclusive = false := by
  obtain ⟨hcount, hevents, hreceipts⟩ := h.counts
  have hrevision : r.revision ≠ 0 := by
    intro hzero
    rw [hzero, UInt64.toNat_zero] at hcount
    cases h with
    | first h => simp at hcount
    | snoc hs h => simp at hcount
  have hcreated := h.createdAt_le htimes
  have hshape := recordShapeIsValid_of_shaped h.entriesSettled h.shaped
  have htrace : checkTrace r.input 0 (none, none) (r.events.zip r.receipts) = _ := h.traceOf_eq
  have hordinals := ordinals_of_shaped h.shaped
  have hlate : ¬r.updatedAt < r.createdAt := UInt64.not_lt.mpr hcreated
  simp only [validateRecordIntegrity, beq_eq_false_iff_ne.mpr hrevision, hevents,
    hreceipts, hcount, bne_self_eq_false, hlate, decide_false, h.last_toState, hshape,
    Bool.not_true, Bool.or_self, Bool.false_eq_true, if_false, htrace, hordinals]
  by_cases hany : as.any (·.command.inconclusive) = true
  · simp only [hany, if_true, Option.isNone_none, Bool.false_eq_true, false_iff]
    intro hall
    obtain ⟨a, ha, hinconclusive⟩ := List.any_eq_true.mp hany
    rw [hall a ha] at hinconclusive
    cases hinconclusive
  · simp only [hany, Bool.false_eq_true, if_false, Option.isNone_some, true_iff]
    simpa using hany

end AuthsProof.Lifecycle
