import AuthsProof.Lifecycle.Edge

/-! The histories of a record: the applied transitions from its decision on, and what holds of the
record after every one of them. -/

namespace AuthsProof.Lifecycle

variable [Sha256]

section Extended

variable (p : LifecycleRecord) (revision : UInt64) (fromState : Option LifecycleState)
  (toState : LifecycleState) (trigger : CommitmentDigest)
  (receipt : Option DomainReceiptDigest) (now : VerifierTime)

@[simp] theorem extended_input :
    (extended p revision fromState toState trigger receipt now).input = p.input := rfl
@[simp] theorem extended_state :
    (extended p revision fromState toState trigger receipt now).state = p.state := rfl
@[simp] theorem extended_revision :
    (extended p revision fromState toState trigger receipt now).revision = revision := rfl
@[simp] theorem extended_createdAt :
    (extended p revision fromState toState trigger receipt now).createdAt = p.createdAt := rfl
@[simp] theorem extended_updatedAt :
    (extended p revision fromState toState trigger receipt now).updatedAt = now := rfl
@[simp] theorem extended_reservationEntries :
    (extended p revision fromState toState trigger receipt now).reservationEntries =
      p.reservationEntries := rfl
@[simp] theorem extended_executionIntent :
    (extended p revision fromState toState trigger receipt now).executionIntent =
      p.executionIntent := rfl
@[simp] theorem extended_credentialAuthorized :
    (extended p revision fromState toState trigger receipt now).credentialAuthorized =
      p.credentialAuthorized := rfl
@[simp] theorem extended_attempts :
    (extended p revision fromState toState trigger receipt now).attempts = p.attempts := rfl
@[simp] theorem extended_events :
    (extended p revision fromState toState trigger receipt now).events =
      p.events ++ [⟨eventKindFor fromState toState, revision, now, trigger⟩] := rfl
@[simp] theorem extended_receipts :
    (extended p revision fromState toState trigger receipt now).receipts =
      p.receipts ++ [makeReceipt p revision fromState toState trigger receipt now] := rfl

end Extended

/-- A command applied in a context, with the record it left. -/
structure Applied where
  command : TransitionCommand
  context : TransitionContext
  record : LifecycleRecord

/-- What an applied transition makes of the record before it. -/
inductive Advances : Option LifecycleRecord → Applied → Prop
  | decision (input : DecisionInput) (context : TransitionContext)
      (hbindings : decisionBindingsComplete input = true) :
      Advances none ⟨.recordDecision input, context,
        extended (decisionRecord input context.verifierTime) 1 none .decisionRecorded
          input.decisionReceiptDigest (some input.domainDecisionReceiptDigest)
          context.verifierTime⟩
  | edge {r p : LifecycleRecord} {command : TransitionCommand} {context : TransitionContext}
      {revision : UInt64} (hedge : Edge r context command p)
      (hrevision : r.revision.toNat + 1 = revision.toNat) :
      Advances (some r) ⟨command, context,
        extended p revision (some r.state) p.state (triggerDigest command r)
          (domainReceipt command) context.verifierTime⟩

theorem Advances.exists_edge {r : LifecycleRecord} {a : Applied} (h : Advances (some r) a) :
    ∃ p, Edge r a.context a.command p := by
  cases h with
  | edge he _ => exact ⟨_, he⟩

theorem recordDecision_ok {current : Option LifecycleRecord} {input : DecisionInput}
    {context : TransitionContext} {work : LifecycleWork} {result : TransitionResult}
    (h : recordDecision current input context work = .ok result) :
    (result.disposition = .applied ∧ Advances current ⟨.recordDecision input, context, result.record⟩) ∨
      (result.disposition = .exactReplay ∧ current = some result.record) := by
  cases current with
  | some existing =>
    simp only [recordDecision] at h
    split at h
    · cases h
    · split at h
      · obtain rfl := Except.ok.inj h
        exact .inr ⟨rfl, rfl⟩
      · cases h
  | none =>
    simp only [recordDecision] at h
    split at h
    · cases h
    · next hbindings =>
      split at h
      · obtain ⟨record, hrecord, h⟩ := Except.bind_eq_ok.mp h
        obtain rfl := Except.ok.inj h
        have hone : Checked.add 0 1 = some 1 := by decide
        simp only [appendTransition, decisionRecord, hone] at hrecord
        obtain rfl := Except.ok.inj hrecord
        exact .inl ⟨rfl, .decision input context (by simpa using hbindings)⟩
      · cases h

/-- Everything a successful call of `applyTransition` can mean. -/
theorem applyTransition_ok {current : Option LifecycleRecord} {command : TransitionCommand}
    {context : TransitionContext} {result : TransitionResult}
    (h : applyTransition current command context = .ok result) :
    (result.disposition = .applied ∧ Advances current ⟨command, context, result.record⟩) ∨
      (result.disposition = .exactReplay ∧ current = some result.record ∧
        ∃ input, command = .recordDecision input) := by
  unfold applyTransition at h
  split at h
  · next input =>
    rcases recordDecision_ok h with happlied | ⟨hreplay, hcurrent⟩
    · exact .inl happlied
    · exact .inr ⟨hreplay, hcurrent, input, rfl⟩
  · cases h
  · next existing _ =>
    split at h
    · cases h
    split at h
    · cases h
    split at h
    · cases h
    dsimp only at h
    split at h
    · cases h
    · next nextState hnext =>
      obtain ⟨payload, hpayload, h⟩ := Except.bind_eq_ok.mp h
      obtain ⟨record, hrecord, h⟩ := Except.bind_eq_ok.mp h
      obtain rfl := Except.ok.inj h
      obtain ⟨hedge, hstate⟩ := edge_of_legal (legal_of_transitionCode hnext) hpayload
      simp only [appendTransition] at hrecord
      split at hrecord
      · cases hrecord
      · next revision hrevision =>
        obtain rfl := Except.ok.inj hrecord
        have hrevision := Checked.add_eq_some.mp hrevision
        rw [hedge.sameHistory.revision] at hrevision
        rw [← hstate]
        exact .inl ⟨rfl, .edge hedge hrevision⟩

/-- The histories of a record, from its decision to its last applied transition. -/
inductive Lineage : List Applied → LifecycleRecord → Prop
  | first {a : Applied} (h : Advances none a) : Lineage [a] a.record
  | snoc {as : List Applied} {r : LifecycleRecord} {a : Applied} (hs : Lineage as r)
      (h : Advances (some r) a) : Lineage (as ++ [a]) a.record

/-- What a fresh decision has and every edge keeps, every record with a history has. -/
theorem Lineage.keeps {P : LifecycleRecord → Prop}
    (hdecision : ∀ input now, P (decisionRecord input now))
    (hedge : ∀ r p context command, P r → Edge r context command p → P p)
    (hextended : ∀ p revision fromState toState trigger receipt now, P p →
      P (extended p revision fromState toState trigger receipt now))
    {as : List Applied} {r : LifecycleRecord} (h : Lineage as r) : P r := by
  induction h with
  | first h =>
    cases h with
    | decision input context _ => exact hextended _ _ _ _ _ _ _ (hdecision input _)
  | snoc hs h ih =>
    cases h with
    | edge he _ => exact hextended _ _ _ _ _ _ _ (hedge _ _ _ _ ih he)

theorem Lineage.entriesSettled {as : List Applied} {r : LifecycleRecord} (h : Lineage as r) :
    EntriesSettled r :=
  h.keeps (fun _ _ => rfl) (fun _ _ _ _ hr he => he.entriesSettled hr) fun _ _ _ _ _ _ _ hp => hp

theorem Lineage.shaped {as : List Applied} {r : LifecycleRecord} (h : Lineage as r) : Shaped r :=
  h.keeps (fun _ _ => ⟨rfl, rfl, rfl⟩) (fun _ _ _ _ hr he => he.shaped hr)
    fun _ _ _ _ _ _ _ hp => hp

/-- The revision, the events and the receipts count the applied transitions. -/
theorem Lineage.counts {as : List Applied} {r : LifecycleRecord} (h : Lineage as r) :
    r.revision.toNat = as.length ∧ r.events.length = as.length ∧ r.receipts.length = as.length := by
  induction h with
  | first h =>
    cases h with
    | decision input context _ => exact ⟨rfl, rfl, rfl⟩
  | snoc hs h ih =>
    obtain ⟨hrevision, hevents, hreceipts⟩ := ih
    cases h with
    | edge he hnext =>
      have hsame := he.sameHistory
      simp only [extended_revision, extended_events, extended_receipts, hsame.events, hsame.receipts,
        List.length_append, List.length_singleton]
      omega

/-- Each receipt names the digest of the one before it, the first names none. -/
def Linked (receipts : List LifecycleReceiptEnvelope) : Prop :=
  (∀ first ∈ receipts.head?, first.previous = none) ∧
    receipts.IsChain fun a b => b.previous = some a.receiptDigest

omit [Sha256] in
theorem linked_append {receipts : List LifecycleReceiptEnvelope} {next : LifecycleReceiptEnvelope}
    (h : Linked receipts) (hnext : next.previous = receipts.getLast?.map (·.receiptDigest)) :
    Linked (receipts ++ [next]) := by
  obtain ⟨hfirst, hchain⟩ := h
  refine ⟨?_, ?_⟩
  · cases receipts with
    | nil => simpa using hnext
    | cons a rest => simpa using hfirst
  · refine List.isChain_append.mpr ⟨hchain, List.isChain_singleton _, fun a ha b hb => ?_⟩
    obtain rfl : b = next := by simpa using hb.symm
    rw [hnext, Option.mem_def.mp ha, Option.map_some]

theorem Lineage.linked {as : List Applied} {r : LifecycleRecord} (h : Lineage as r) :
    Linked r.receipts := by
  refine h.keeps (fun _ _ => ⟨by simp [decisionRecord], .nil⟩) (fun r p _ _ hr he => ?_)
    fun p _ _ _ _ _ _ hp => linked_append hp rfl
  rwa [he.sameHistory.receipts]

theorem Advances.after {r : LifecycleRecord} {a : Applied} (h : Advances (some r) a) :
    After r a.record := by
  cases h with
  | edge he _ => exact he.after

theorem Lineage.before_last {as : List Applied} {r : LifecycleRecord} (h : Lineage as r) :
    ∀ a ∈ as, a.record = r ∨ After a.record r := by
  induction h with
  | first h =>
    intro b hb
    rw [List.mem_singleton.mp hb]
    exact .inl rfl
  | snoc hs h ih =>
    intro b hb
    rcases List.mem_append.mp hb with hb | hb
    · rcases ih b hb with hlast | hafter
      · exact .inr (hlast ▸ h.after)
      · exact .inr (hafter.trans h.after)
    · rw [List.mem_singleton.mp hb]
      exact .inl rfl

/-- A history never comes back. -/
theorem Lineage.pairwise_after {as : List Applied} {r : LifecycleRecord} (h : Lineage as r) :
    as.Pairwise fun a b => After a.record b.record := by
  induction h with
  | first h => exact List.pairwise_singleton _ _
  | snoc hs h ih =>
    refine List.pairwise_append.mpr ⟨ih, List.pairwise_singleton _ _, fun a ha b hb => ?_⟩
    rw [List.mem_singleton.mp hb]
    rcases hs.before_last a ha with hlast | hafter
    · exact hlast ▸ h.after
    · exact hafter.trans h.after

theorem Lineage.input_eq {as : List Applied} {r : LifecycleRecord} (h : Lineage as r) :
    ∀ a ∈ as, a.record.input = r.input := by
  induction h with
  | first h => simp
  | snoc hs h ih =>
    cases h with
    | edge he _ =>
      intro b hb
      rcases List.mem_append.mp hb with hb | hb
      · rw [ih b hb]
        exact he.sameHistory.input.symm
      · rw [List.mem_singleton.mp hb]

/-- What of a record its history accounts for. -/
structure Explained (as : List Applied) (r : LifecycleRecord) : Prop where
  decision : ∃ a ∈ as, a.command = .recordDecision r.input
  reservation : r.state ≠ .decisionRecorded → ∃ a ∈ as, a.command = .reserve ∧
    a.record.reservationEntries = r.input.reservations.entries.map .reserved
  intent : ∀ intent, r.executionIntent = some intent →
    ∃ a ∈ as, a.command = .recordExecutionIntent intent
  credential : r.credentialAuthorized = true ∨ r.attempts ≠ [] →
    ∃ a ∈ as, a.command = .authorizeCredential ∧ a.record.state = .executionIntentRecorded ∧
      a.record.credentialAuthorized = true ∧ a.record.executionIntent = r.executionIntent
  attempt : r.attempts ≠ [] → ∃ a ∈ as, a.command = .startAttempt
  entered : ∀ attempt ∈ r.attempts, attempt.callEntered = true →
    (∃ a ∈ as, a.command = .markProviderCallEntered) ∧
      ∃ event ∈ r.events, event.kind = .providerCallEntered
  reconciled : r.state = .reconciledCommitted →
    ∃ a ∈ as, ∃ observation receipt intent, a.command = .reconcile observation receipt ∧
      observation.conclusion = .effect ∧ observation.observedAt ≤ a.context.verifierTime ∧
      a.context.verifierTime ≤ observation.freshUntil ∧ r.executionIntent = some intent ∧
      observation.providerRequestDigest = intent.providerRequestDigest

/-- What an applied transition adds to a record it accounts for itself. -/
structure Adds (r : LifecycleRecord) (a : Applied) : Prop where
  input : a.record.input = r.input
  reservation : a.record.state ≠ .decisionRecorded → r.state ≠ .decisionRecorded ∨
    (a.command = .reserve ∧
      a.record.reservationEntries = a.record.input.reservations.entries.map .reserved)
  intent : ∀ intent, a.record.executionIntent = some intent →
    r.executionIntent = some intent ∨ a.command = .recordExecutionIntent intent
  credential : a.record.credentialAuthorized = true ∨ a.record.attempts ≠ [] →
    ((r.credentialAuthorized = true ∨ r.attempts ≠ []) ∧
        r.executionIntent = a.record.executionIntent) ∨
      (a.command = .authorizeCredential ∧ a.record.state = .executionIntentRecorded ∧
        a.record.credentialAuthorized = true)
  attempt : a.record.attempts ≠ [] → r.attempts ≠ [] ∨ a.command = .startAttempt
  entered : ∀ attempt ∈ a.record.attempts, attempt.callEntered = true →
    attempt ∈ r.attempts ∨ (a.command = .markProviderCallEntered ∧
      ∃ event ∈ a.record.events, event.kind = .providerCallEntered)
  events : r.events ⊆ a.record.events
  reconciled : a.record.state = .reconciledCommitted →
    ∃ observation receipt intent, a.command = .reconcile observation receipt ∧
      observation.conclusion = .effect ∧ observation.observedAt ≤ a.context.verifierTime ∧
      a.context.verifierTime ≤ observation.freshUntil ∧ a.record.executionIntent = some intent ∧
      observation.providerRequestDigest = intent.providerRequestDigest

omit [Sha256] in
theorem Adds.of_unchanged {r : LifecycleRecord} {a : Applied} (hstate : r.state ≠ .decisionRecorded)
    (hinput : a.record.input = r.input) (hintent : a.record.executionIntent = r.executionIntent)
    (hcredential : a.record.credentialAuthorized = r.credentialAuthorized)
    (hattempts : a.record.attempts = r.attempts) (hevents : r.events ⊆ a.record.events)
    (hend : a.record.state ≠ .reconciledCommitted) : Adds r a where
  input := hinput
  reservation := fun _ => .inl hstate
  intent := fun _ h => .inl (hintent ▸ h)
  credential := fun h => .inl ⟨hattempts ▸ hcredential ▸ h, hintent.symm⟩
  attempt := fun h => .inl (hattempts ▸ h)
  entered := fun _ hmem _ => .inl (hattempts ▸ hmem)
  events := hevents
  reconciled := fun h => absurd h hend

theorem Advances.adds {r : LifecycleRecord} {a : Applied} (hshape : Shaped r)
    (h : Advances (some r) a) : Adds r a := by
  cases h with
  | edge he _ =>
    cases he with
    | reserve hstate _ =>
      exact {
        input := rfl
        reservation := fun _ => .inr ⟨rfl, rfl⟩
        intent := fun _ h => .inl h
        credential := fun h => .inl ⟨h, rfl⟩
        attempt := fun h => .inl h
        entered := fun _ hmem _ => .inl hmem
        events := List.subset_append_left _ _
        reconciled := fun h => by cases h }
    | recordExecutionIntent intent hstate =>
      obtain ⟨-, hcredential, hattempts⟩ : r.executionIntent = none ∧
        r.credentialAuthorized = false ∧ r.attempts = [] := by simpa [Shaped, hstate] using hshape
      exact {
        input := rfl
        reservation := fun _ => .inl (by simp [hstate])
        intent := fun _ h => .inr (congrArg _ (Option.some.inj h))
        credential := fun h => by simp [hcredential, hattempts] at h
        attempt := fun h => .inl h
        entered := fun _ hmem _ => .inl hmem
        events := List.subset_append_left _ _
        reconciled := fun h => by cases h }
    | authorizeCredential hstate _ _ =>
      exact {
        input := rfl
        reservation := fun _ => .inl (by simp [hstate])
        intent := fun _ h => .inl h
        credential := fun _ => .inr ⟨rfl, rfl, rfl⟩
        attempt := fun h => .inl h
        entered := fun _ hmem _ => .inl hmem
        events := List.subset_append_left _ _
        reconciled := fun h => by cases h }
    | startAttempt intent ordinal hstate _ hcredential _ =>
      exact {
        input := rfl
        reservation := fun _ => .inl (by simp [hstate])
        intent := fun _ h => .inl h
        credential := fun _ => .inl ⟨.inl hcredential, rfl⟩
        attempt := fun _ => .inr rfl
        entered := fun attempt hmem hentered => by
          rcases List.mem_append.mp hmem with hmem | hmem
          · exact .inl hmem
          · rw [List.mem_singleton.mp hmem] at hentered
            cases hentered
        events := List.subset_append_left _ _
        reconciled := fun h => by cases h }
    | markProviderCallEntered earlier attempt hstate hattempts _ =>
      have hne : r.attempts ≠ [] := by simp [hattempts]
      exact {
        input := rfl
        reservation := fun _ => .inl (by simp [hstate])
        intent := fun _ h => .inl h
        credential := fun _ => .inl ⟨.inr hne, rfl⟩
        attempt := fun _ => .inl hne
        entered := fun _ hmem _ => by
          rcases List.mem_append.mp hmem with hmem | hmem
          · exact .inl (hattempts ▸ List.mem_append_left _ hmem)
          · exact .inr ⟨rfl, _, List.mem_append_right _ (List.mem_singleton_self _), by
              rw [hstate]; rfl⟩
        events := List.subset_append_left _ _
        reconciled := fun h => by cases h }
    | commit _ _ earlier attempt hstate _ _ =>
      exact .of_unchanged (by simp [hstate]) rfl rfl rfl rfl (List.subset_append_left _ _) (by simp)
    | release _ _ conclusion hrelease =>
      have hstate : r.state ≠ .decisionRecorded := by
        rcases hrelease with ⟨h, -, -⟩ | ⟨h, -⟩ | ⟨h, -, -⟩ <;> simp [h]
      exact .of_unchanged hstate rfl rfl rfl rfl (List.subset_append_left _ _) (by simp)
    | markOutcomeUnknown _ hstate _ =>
      exact .of_unchanged (by simp [hstate]) rfl rfl rfl rfl (List.subset_append_left _ _) (by simp)
    | reconcileEffect observation receipt hstate hconclusion hsettles =>
      obtain ⟨⟨hobserved, huntil⟩, intent, hintent, hbinds⟩ := hsettles
      exact {
        input := rfl
        reservation := fun _ => .inl (by simp [hstate])
        intent := fun _ h => .inl h
        credential := fun h => .inl ⟨h, rfl⟩
        attempt := fun h => .inl h
        entered := fun _ hmem _ => .inl hmem
        events := List.subset_append_left _ _
        reconciled := fun _ => ⟨observation, receipt, intent, rfl, hconclusion, hobserved, huntil,
          hintent, hbinds⟩ }
    | reconcileNonEffect _ _ hstate _ _ =>
      exact .of_unchanged (by simp [hstate]) rfl rfl rfl rfl (List.subset_append_left _ _) (by simp)
    | reconcileInconclusive _ _ hstate _ _ =>
      exact .of_unchanged (by simp [hstate]) rfl rfl rfl rfl (List.subset_append_left _ _) (by simp)

omit [Sha256] in
theorem Explained.snoc {as : List Applied} {r : LifecycleRecord} {a : Applied}
    (h : Explained as r) (ha : Adds r a) : Explained (as ++ [a]) a.record := by
  have hold : ∀ {b}, b ∈ as → b ∈ as ++ [a] := fun hb => List.mem_append_left _ hb
  have hnew : a ∈ as ++ [a] := List.mem_append_right _ (List.mem_singleton_self a)
  refine ⟨?_, fun hstate => ?_, fun intent hintent => ?_, fun hcredential => ?_,
    fun hattempt => ?_, fun attempt hmem hentered => ?_, fun hstate => ?_⟩
  · obtain ⟨b, hb, hcommand⟩ := h.decision
    exact ⟨b, hold hb, ha.input ▸ hcommand⟩
  · rcases ha.reservation hstate with hstate | ⟨hcommand, hentries⟩
    · obtain ⟨b, hb, hcommand, hentries⟩ := h.reservation hstate
      exact ⟨b, hold hb, hcommand, ha.input ▸ hentries⟩
    · exact ⟨a, hnew, hcommand, hentries⟩
  · rcases ha.intent intent hintent with hintent | hcommand
    · obtain ⟨b, hb, hcommand⟩ := h.intent intent hintent
      exact ⟨b, hold hb, hcommand⟩
    · exact ⟨a, hnew, hcommand⟩
  · rcases ha.credential hcredential with ⟨hcredential, hintent⟩ | ⟨hcommand, hstate, hset⟩
    · obtain ⟨b, hb, hcommand, hstate, hset, hsame⟩ := h.credential hcredential
      exact ⟨b, hold hb, hcommand, hstate, hset, hsame.trans hintent⟩
    · exact ⟨a, hnew, hcommand, hstate, hset, rfl⟩
  · rcases ha.attempt hattempt with hattempt | hcommand
    · obtain ⟨b, hb, hcommand⟩ := h.attempt hattempt
      exact ⟨b, hold hb, hcommand⟩
    · exact ⟨a, hnew, hcommand⟩
  · rcases ha.entered attempt hmem hentered with hmem | ⟨hcommand, hevent⟩
    · obtain ⟨⟨b, hb, hcommand⟩, event, hevent, hkind⟩ := h.entered attempt hmem hentered
      exact ⟨⟨b, hold hb, hcommand⟩, event, ha.events hevent, hkind⟩
    · exact ⟨⟨a, hnew, hcommand⟩, hevent⟩
  · obtain ⟨observation, receipt, intent, hreconciled⟩ := ha.reconciled hstate
    exact ⟨a, hnew, observation, receipt, intent, hreconciled⟩

theorem Lineage.explained {as : List Applied} {r : LifecycleRecord} (h : Lineage as r) :
    Explained as r := by
  induction h with
  | first h =>
    cases h with
    | decision input context _ =>
      refine ⟨⟨_, List.mem_singleton_self _, rfl⟩, fun h => absurd rfl h, fun _ h => (nomatch h),
        fun h => ?_, fun h => absurd rfl h, fun _ h => (nomatch h), fun h => (nomatch h)⟩
      simp [decisionRecord] at h
  | snoc hs h ih => exact ih.snoc (h.adds hs.shaped)

end AuthsProof.Lifecycle
