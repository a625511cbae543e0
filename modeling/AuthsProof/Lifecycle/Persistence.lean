import AuthsProof.Lib.Sha2
import AuthsProof.Lifecycle.Codec

/-! What comes back of a stored record, and which records of a run can be stored at all. -/

namespace AuthsProof.Lifecycle

section RoundTrip

@[simp] theorem toConfiguration_wire (c : ConfigurationCommitment) :
    (wireConfiguration c).toConfiguration = .ok c := by
  have himplementation : transposed (fun value => semantic (SemanticId.parse 128 value))
      (c.implementationId.map (·.str)) = .ok c.implementationId :=
    transposed_map fun id => by simp
  simp only [WireConfiguration.toConfiguration, wireConfiguration, SemanticId.parse_str, semantic_ok,
    himplementation]
  rfl

@[simp] theorem toPolicy_wire (p : PolicyCommitment) : (wirePolicy p).toPolicy = .ok p := by
  simp [WirePolicy.toPolicy, wirePolicy, bind, Except.bind]

@[simp] theorem toCommitments_wire (c : EvaluationCommitments) :
    (wireCommitments c).toCommitments = .ok c := by
  simp [WireCommitments.toCommitments, wireCommitments, bind, Except.bind, pure, Except.pure]

def ReservationKind.nonzero : ReservationKind → Bool
  | .additive _ amount => amount != 0
  | .exclusive => true

/-- An intent comes back unless it reserves a zero amount, which only the decoder refuses. -/
theorem toIntent_wire (i : ReservationIntentCommitment) :
    (wireReservationIntent i).toIntent =
      if i.kind.nonzero then .ok i else .error .invalidSemantics := by
  have hkind : (wireReservationIntent i).toKind =
      if i.kind.nonzero then .ok i.kind else .error .invalidSemantics := by
    cases hk : i.kind with
    | additive unit amount =>
      simp only [WireReservationIntent.toKind, wireReservationIntent, hk, SemanticId.parse_str,
        semantic_ok, bind, Except.bind, ReservationKind.newAdditive, ReservationKind.nonzero]
      by_cases hzero : amount = 0
      · simp [hzero]
      · simp [hzero]
    | exclusive => simp [WireReservationIntent.toKind, wireReservationIntent, hk,
        ReservationKind.nonzero]
  rw [WireReservationIntent.toIntent, hkind]
  split
  · simp [wireReservationIntent, bind, Except.bind]
  · rfl

@[simp] theorem toObligation_wire (o : ObligationCommitment) :
    (wireObligation o).toObligation = .ok o := by
  simp [WireObligation.toObligation, wireObligation, bind, Except.bind]

def BoundedOutputs.nonzero (o : BoundedOutputs) : Bool :=
  o.reservationIntents.all (·.kind.nonzero)

theorem mapM_eq_error {α β : Type} {f : α → Except CodecError β} {xs : List α} {e : CodecError}
    (hfail : ∀ x ∈ xs, ∀ d, f x = .error d → d = e) {x : α} (hx : x ∈ xs) (h : f x = .error e) :
    xs.mapM f = .error e := by
  induction xs with
  | nil => cases hx
  | cons y ys ih =>
    rw [List.mapM_cons]
    cases hy : f y with
    | error d => rw [hfail y List.mem_cons_self d hy]; rfl
    | ok b =>
      rcases List.mem_cons.mp hx with rfl | hx
      · rw [hy] at h
        cases h
      · rw [ih (fun z hz => hfail z (List.mem_cons_of_mem y hz)) hx]
        rfl

theorem toOutputs_wire (o : BoundedOutputs) :
    (wireOutputs o).toOutputs = if o.nonzero then .ok o else .error .invalidSemantics := by
  rw [WireOutputs.toOutputs]
  by_cases hnonzero : o.nonzero = true
  · have hintents : (wireOutputs o).reservations.mapM WireReservationIntent.toIntent =
        .ok o.reservationIntents :=
      mapM_map fun i hi => by
        rw [toIntent_wire, if_pos (List.all_eq_true.mp hnonzero i hi)]
    have hobligations : (wireOutputs o).obligations.mapM WireObligation.toObligation =
        .ok o.obligations := mapM_map fun i _ => toObligation_wire i
    rw [if_pos hnonzero, hintents, hobligations]
    simp [wireOutputs, bind, Except.bind]
  · obtain ⟨i, hi, hzero⟩ : ∃ i ∈ o.reservationIntents, ¬i.kind.nonzero = true := by
      simpa [BoundedOutputs.nonzero] using hnonzero
    have hfails : (wireOutputs o).reservations.mapM WireReservationIntent.toIntent =
        .error .invalidSemantics := by
      refine mapM_eq_error (fun w hw d hd => ?_) (List.mem_map_of_mem hi) ?_
      · obtain ⟨j, -, rfl⟩ := List.mem_map.mp hw
        rw [toIntent_wire] at hd
        split at hd
        · cases hd
        · exact (Except.error.inj hd).symm
      · rw [toIntent_wire, if_neg hzero]
    rw [if_neg hnonzero, hfails]
    rfl

@[simp] theorem toExecutionIntent_wire (i : ExecutionIntent) :
    (wireExecutionIntent i).toExecutionIntent = .ok i := by
  simp [WireExecutionIntent.toExecutionIntent, wireExecutionIntent, bind, Except.bind, pure,
    Except.pure]

@[simp] theorem toAttempt_wire (a : ProviderAttempt) : (wireAttempt a).toAttempt = .ok a := by
  simp [WireAttempt.toAttempt, wireAttempt, bind, Except.bind, pure, Except.pure]

@[simp] theorem toObservation_wire (o : ReconciliationObservation) :
    (wireObservation o).toObservation = .ok o := by
  simp [WireObservation.toObservation, wireObservation, bind, Except.bind, pure, Except.pure]

@[simp] theorem toEvent_wire (e : LifecycleEvent) : (wireEvent e).toEvent = .ok e := by
  simp [WireEvent.toEvent, wireEvent, bind, Except.bind, pure, Except.pure]

@[simp] theorem toReceipt_wire (r : LifecycleReceiptEnvelope) :
    (wireReceipt r).toReceipt = .ok r := by
  have hfrom : transposed parseState (r.fromState.map stateCode) = .ok r.fromState :=
    transposed_map parseState_stateCode
  simp [WireReceipt.toReceipt, wireReceipt, hfrom, bind, Except.bind, pure, Except.pure]

variable [Sha256]

/-- A decision comes back with the reservations it derives, unless it reserves a zero amount. -/
theorem toDecision_wire {input : DecisionInput} (hderived : input.Derived) :
    (wireDecision input).toDecision =
      if input.outputs.nonzero then .ok input else .error .invalidSemantics := by
  have hreservations : ReservationSet.derive input.workflowId input.domainId
      input.commitments.profileId input.commitments.policyCommitment.evaluatorSemanticId
      input.executorAudience input.reservationAlgebraId input.outputs = .ok input.reservations :=
    hderived
  by_cases hnonzero : input.outputs.nonzero = true
  · simp [WireDecision.toDecision, wireDecision, toOutputs_wire, if_pos hnonzero, bind, Except.bind,
      hreservations, pure, Except.pure]
  · simp [WireDecision.toDecision, wireDecision, toOutputs_wire, if_neg hnonzero, bind, Except.bind]

omit [Sha256] in
theorem applyStatuses_map {requests : List ReservationRequest} {committed released : Bool}
    (h : (committed && released) = false) :
    applyStatuses (if (requests.map fun _ => (committed, released)).isEmpty then []
        else requests.map .reserved) (requests.map fun _ => (committed, released)) =
      .ok (requests.map fun request => ⟨request, committed, released⟩) := by
  have hmarks : applyStatuses (requests.map .reserved) (requests.map fun _ => (committed, released)) =
      .ok (requests.map fun request => ⟨request, committed, released⟩) := by
    induction requests with
    | nil => rfl
    | cons request requests ih =>
      simp only [List.map_cons, applyStatuses, h, Bool.false_eq_true, if_false, ih]
      cases committed <;> cases released <;> rfl
  cases requests with
  | nil => rfl
  | cons request requests => exact hmarks

omit [Sha256] in
/-- The statuses of settled entries are as many as the decoder expects and mark the same entries. -/
theorem applyStatuses_settled {r : LifecycleRecord} (h : EntriesSettled r) :
    let statuses := r.reservationEntries.map fun entry => (entry.committed, entry.released)
    let requests := r.input.reservations.entries
    statuses.length = (if r.state = .decisionRecorded then 0 else requests.length) ∧
      applyStatuses (if statuses.isEmpty then [] else requests.map .reserved) statuses =
        .ok r.reservationEntries := by
  have hconstant : ∀ committed released : Bool, (committed && released) = false →
      r.state ≠ .decisionRecorded →
      r.reservationEntries = r.input.reservations.entries.map (⟨·, committed, released⟩) →
      (r.reservationEntries.map fun entry => (entry.committed, entry.released)).length =
          (if r.state = .decisionRecorded then 0 else r.input.reservations.entries.length) ∧
        applyStatuses (if (r.reservationEntries.map fun entry =>
            (entry.committed, entry.released)).isEmpty then []
          else r.input.reservations.entries.map .reserved)
          (r.reservationEntries.map fun entry => (entry.committed, entry.released)) =
        .ok r.reservationEntries := by
    intro committed released hboth hstate hentries
    have hstatuses : (r.reservationEntries.map fun entry => (entry.committed, entry.released)) =
        r.input.reservations.entries.map fun _ => (committed, released) := by
      rw [hentries, List.map_map]
      rfl
    rw [hstatuses, if_neg hstate, List.length_map, hentries]
    exact ⟨rfl, applyStatuses_map hboth⟩
  unfold EntriesSettled at h
  cases hstate : r.state <;> rw [hstate] at h
  case decisionRecorded =>
    rw [show r.reservationEntries = [] from h]
    exact ⟨rfl, rfl⟩
  case committed => exact hstate ▸ hconstant true false rfl (by simp [hstate]) h
  case reconciledCommitted => exact hstate ▸ hconstant true false rfl (by simp [hstate]) h
  case released => exact hstate ▸ hconstant false true rfl (by simp [hstate]) h
  case reconciledReleased => exact hstate ▸ hconstant false true rfl (by simp [hstate]) h
  all_goals exact hstate ▸ hconstant false false rfl (by simp [hstate]) h

/-- A record comes back from its wire form, unless its decision reserves a zero amount. -/
theorem toRecord_wire {r : LifecycleRecord} (hderived : r.input.Derived)
    (hentries : EntriesSettled r) :
    (wireRecord r).toRecord =
      if r.input.outputs.nonzero then .ok r else .error .invalidSemantics := by
  have hinput : (wireRecord r).input.toDecision = _ := toDecision_wire hderived
  by_cases hnonzero : r.input.outputs.nonzero = true
  · rw [if_pos hnonzero] at hinput ⊢
    have hstate : parseState (wireRecord r).state = .ok r.state := parseState_stateCode r.state
    have hstatuses := applyStatuses_settled hentries
    have hlength : ((wireRecord r).reservationStatuses.length ≠
        if r.state = .decisionRecorded then 0 else r.input.reservations.entries.length) = False := by
      simpa [wireRecord] using hstatuses.1
    have happly : applyStatuses (if (wireRecord r).reservationStatuses.isEmpty then []
        else r.input.reservations.entries.map .reserved) (wireRecord r).reservationStatuses =
        .ok r.reservationEntries := hstatuses.2
    have hintent : transposed WireExecutionIntent.toExecutionIntent (wireRecord r).executionIntent =
        .ok r.executionIntent := transposed_map toExecutionIntent_wire
    have hattempts : (wireRecord r).attempts.mapM WireAttempt.toAttempt = .ok r.attempts :=
      mapM_map fun a _ => toAttempt_wire a
    have hobservations : (wireRecord r).observations.mapM WireObservation.toObservation =
        .ok r.observations := mapM_map fun o _ => toObservation_wire o
    have hevents : (wireRecord r).events.mapM WireEvent.toEvent = .ok r.events :=
      mapM_map fun e _ => toEvent_wire e
    have hreceipts : (wireRecord r).receipts.mapM WireReceipt.toReceipt = .ok r.receipts :=
      mapM_map fun c _ => toReceipt_wire c
    simp only [WireRecord.toRecord, hinput, hstate, hlength, if_false, happly, hintent, hattempts,
      hobservations, hevents, hreceipts, bind, Except.bind]
    rfl
  · rw [if_neg hnonzero] at hinput ⊢
    rw [WireRecord.toRecord, hinput]
    rfl

end RoundTrip

section Runs

structure Call where
  command : TransitionCommand
  context : TransitionContext

variable [Sha256]

/-- The record after a call. A call that fails leaves it as it is. -/
def advance (r : LifecycleRecord) (call : Call) : LifecycleRecord :=
  match applyTransition (some r) call.command call.context with
  | .ok result => result.record
  | .error _ => r

/-- The call makes the record keep an observation that settles nothing. -/
def reconcilesInconclusively (r : LifecycleRecord) (call : Call) : Bool :=
  call.command.inconclusive && r.state = .outcomeUnknown &&
    (commandObservation call.command).any (fun observation =>
      observation.fresh call.context.verifierTime && observation.binds r) &&
    canAppendEvent r && canAppendObservation r

/-- No call of the run reconciles inconclusively. -/
def NeverInconclusive : LifecycleRecord → List Call → Prop
  | _, [] => True
  | r, call :: rest =>
    reconcilesInconclusively r call = false ∧ NeverInconclusive (advance r call) rest

omit [Sha256] in
theorem exists_reconcile_of_inconclusive {command : TransitionCommand}
    (h : command.inconclusive = true) :
    ∃ observation receipt, command = .reconcile observation receipt ∧
      (observation.conclusion = .unknown ∨ observation.conclusion = .inconclusive) := by
  cases command with
  | reconcile observation receipt =>
    refine ⟨observation, receipt, rfl, ?_⟩
    cases hconclusion : observation.conclusion <;>
      simp [TransitionCommand.inconclusive, hconclusion] at h ⊢
  | _ => cases h

theorem applyTransition_limits {r : LifecycleRecord} {observation : ReconciliationObservation}
    {receipt : DomainReceiptDigest} {context : TransitionContext} {result : TransitionResult}
    (h : applyTransition (some r) (.reconcile observation receipt) context = .ok result) :
    canAppendEvent r = true ∧ canAppendObservation r = true := by
  simp only [applyTransition, commandObservation, Option.isSome_some, Bool.true_and] at h
  split at h
  · cases h
  · next hevent =>
    split at h
    · cases h
    · split at h
      · cases h
      · next hobservation => exact ⟨by simpa using hevent, by simpa using hobservation⟩

theorem applyTransition_reconcileInconclusive {as : List Applied} {r : LifecycleRecord}
    (hlineage : Lineage as r) {observation : ReconciliationObservation}
    {receipt : DomainReceiptDigest} {context : TransitionContext}
    (hconclusion : observation.conclusion = .unknown ∨ observation.conclusion = .inconclusive)
    (hstate : r.state = .outcomeUnknown) (hfresh : observation.fresh context.verifierTime = true)
    (hbinds : observation.binds r = true) (hevent : canAppendEvent r = true)
    (hobservation : canAppendObservation r = true) :
    ∃ result, applyTransition (some r) (.reconcile observation receipt) context = .ok result := by
  have hcode : transitionCode (some r.state) (operationFor (.reconcile observation receipt))
      (gatesFor r (.reconcile observation receipt) context) = .observationOnly := by
    rcases hconclusion with h | h <;>
      simp [transitionCode, operationFor, h, hstate, LifecycleState.isTerminal, gatesFor,
        commandObservation, hfresh, hbinds]
  have hrevision : r.revision.toNat + (1 : UInt64).toNat < 2 ^ 64 := by
    have hcounts := hlineage.counts
    have hlength : r.events.length < maxLifecycleEvents := by simpa [canAppendEvent] using hevent
    simp only [maxLifecycleEvents] at hlength
    have hone : (1 : UInt64).toNat = 1 := rfl
    omega
  obtain ⟨revision, hadd, -⟩ := Checked.add_isSome hrevision
  have hpayload : applyPayload r (.reconcile observation receipt) r.state context.verifierTime =
      .ok { r with observations := r.observations ++ [observation] } := by
    rcases hconclusion with h | h <;>
      simp [applyPayload, writePayload, h, bind, Except.bind, pure, Except.pure]
  simp [applyTransition, hevent, hobservation, commandObservation, hcode, KernelCode.next, hpayload,
    appendTransition, hadd, bind, Except.bind, pure, Except.pure]

theorem reconcilesInconclusively_iff {as : List Applied} {r : LifecycleRecord} (h : Lineage as r) (call : Call) :
    reconcilesInconclusively r call = true ↔ call.command.inconclusive = true ∧
      ∃ result, applyTransition (some r) call.command call.context = .ok result := by
  obtain ⟨command, context⟩ := call
  by_cases hinconclusive : command.inconclusive = true
  swap
  · simp [reconcilesInconclusively, hinconclusive]
  obtain ⟨observation, receipt, rfl, hconclusion⟩ := exists_reconcile_of_inconclusive hinconclusive
  simp only [reconcilesInconclusively, hinconclusive, commandObservation, Option.any_some, true_and,
    Bool.true_and, Bool.and_eq_true, decide_eq_true_eq]
  constructor
  · rintro ⟨⟨⟨hstate, hfresh, hbinds⟩, hevent⟩, hobservation⟩
    exact applyTransition_reconcileInconclusive h hconclusion hstate hfresh hbinds hevent hobservation
  · rintro ⟨result, hresult⟩
    obtain ⟨hevent, hobservation⟩ := applyTransition_limits hresult
    have hsettled : r.state = .outcomeUnknown ∧ Settles r context observation := by
      rcases applyTransition_ok hresult with ⟨-, hadvances⟩ | ⟨-, -, input, hcommand⟩
      · obtain ⟨p, he⟩ := hadvances.exists_edge
        cases he with
        | reconcileEffect _ _ hstate _ hsettles => exact ⟨hstate, hsettles⟩
        | reconcileNonEffect _ _ hstate _ hsettles => exact ⟨hstate, hsettles⟩
        | reconcileInconclusive _ _ hstate _ hsettles => exact ⟨hstate, hsettles⟩
      · cases hcommand
    obtain ⟨hstate, hfresh, intent, hintent, hbinds⟩ := hsettled
    refine ⟨⟨⟨hstate, ?_, ?_⟩, hevent⟩, hobservation⟩
    · simpa [ReconciliationObservation.fresh] using hfresh
    · simp [ReconciliationObservation.binds, hintent, hbinds]
/-- The applied part of a run continues the history it starts from. -/
theorem exists_lineage_run {as : List Applied} {r : LifecycleRecord} (h : Lineage as r)
    (calls : List Call) :
    ∃ bs, Lineage (as ++ bs) (calls.foldl advance r) ∧
      (bs.map fun b => (⟨b.command, b.context⟩ : Call)).Sublist calls ∧
      ((∀ b ∈ bs, b.command.inconclusive = false) ↔ NeverInconclusive r calls) := by
  induction calls generalizing as r with
  | nil => exact ⟨[], by simpa using h, .slnil, by simp [NeverInconclusive]⟩
  | cons call calls ih =>
    cases hcall : applyTransition (some r) call.command call.context with
    | error e =>
      have hsame : advance r call = r := by rw [advance, hcall]
      have hnot : reconcilesInconclusively r call = false := by
        refine Bool.eq_false_iff.mpr fun hbad => ?_
        obtain ⟨-, result, hresult⟩ := (reconcilesInconclusively_iff h call).mp hbad
        rw [hcall] at hresult
        cases hresult
      obtain ⟨bs, hlineage, hsub, hiff⟩ := ih h
      refine ⟨bs, by rwa [List.foldl_cons, hsame], hsub.cons call, ?_⟩
      rw [hiff, NeverInconclusive, hsame]
      exact (and_iff_right hnot).symm
    | ok result =>
      have hnext : advance r call = result.record := by rw [advance, hcall]
      have hbad : reconcilesInconclusively r call = call.command.inconclusive := by
        rw [Bool.eq_iff_iff, reconcilesInconclusively_iff h call]
        exact and_iff_left ⟨result, hcall⟩
      rcases applyTransition_ok hcall with ⟨-, hadvances⟩ | ⟨-, hcurrent, input, hcommand⟩
      · obtain ⟨bs, hlineage, hsub, hiff⟩ := ih (h.snoc hadvances)
        refine ⟨⟨call.command, call.context, result.record⟩ :: bs, ?_, hsub.cons_cons call, ?_⟩
        · rwa [List.append_cons, List.foldl_cons, hnext]
        · rw [List.forall_mem_cons, hiff, NeverInconclusive, hnext, hbad]
      · have hsame : result.record = r := (Option.some.inj hcurrent).symm
        obtain ⟨bs, hlineage, hsub, hiff⟩ := ih h
        refine ⟨bs, by rwa [List.foldl_cons, hnext, hsame], hsub.cons call, ?_⟩
        rw [hiff, NeverInconclusive, hnext, hsame, hbad, hcommand]
        exact (and_iff_right rfl).symm

theorem lineage_first {input : DecisionInput} {context : TransitionContext}
    {first : TransitionResult}
    (h : applyTransition none (.recordDecision input) context = .ok first) :
    Lineage [⟨.recordDecision input, context, first.record⟩] first.record ∧
      first.record.input = input := by
  rcases applyTransition_ok h with ⟨-, hadvances⟩ | ⟨-, hcurrent, -⟩
  · refine ⟨.first hadvances, ?_⟩
    generalize hrecord : first.record = record at hadvances
    cases hadvances with
    | decision _ _ _ => rfl
  · cases hcurrent

/-- The records of a run are sound exactly as long as no call reconciles inconclusively. -/
theorem run_integrity_iff {input : DecisionInput} {context : TransitionContext}
    {first : TransitionResult} {calls : List Call}
    (hfirst : applyTransition none (.recordDecision input) context = .ok first)
    (htimes : (context :: calls.map (·.context)).Pairwise
      fun a b => a.verifierTime ≤ b.verifierTime) :
    validateRecordIntegrity (calls.foldl advance first.record) = true ↔
      NeverInconclusive first.record calls := by
  obtain ⟨hlineage, -⟩ := lineage_first hfirst
  obtain ⟨bs, hrun, hsub, hiff⟩ := exists_lineage_run hlineage calls
  have hcontexts : ((bs.map fun b => (⟨b.command, b.context⟩ : Call)).map (·.context)).Sublist
      (calls.map (·.context)) := hsub.map _
  rw [List.map_map] at hcontexts
  have hordered : (([⟨.recordDecision input, context, first.record⟩] ++ bs : List Applied).map
      Applied.context).Pairwise fun a b => a.verifierTime ≤ b.verifierTime :=
    htimes.sublist (hcontexts.cons_cons context)
  rw [List.pairwise_map] at hordered
  rw [hrun.integrity_iff hordered, List.singleton_append, List.forall_mem_cons, hiff]
  exact and_iff_right rfl

instance instDecidableNeverInconclusive :
    (r : LifecycleRecord) → (calls : List Call) → Decidable (NeverInconclusive r calls)
  | _, [] => isTrue trivial
  | r, call :: rest =>
    @instDecidableAnd _ _ inferInstance (instDecidableNeverInconclusive (advance r call) rest)

variable [Postcard]

/-- The serializer writes the wire form of the record and reads it back. -/
def Faithful (r : LifecycleRecord) : Prop :=
  ∃ bytes, Postcard.toAllocvec (wireEnvelope r) = some bytes ∧
    Postcard.fromBytes bytes = some (wireEnvelope r)

/-- The record is longer on the wire than a record may be. -/
def Oversized (r : LifecycleRecord) : Prop :=
  ∃ bytes, Postcard.toAllocvec (wireEnvelope r) = some bytes ∧ maxLifecycleRecordBytes < bytes.length

/-- The record is sound and can be stored: it is encoded to bytes that decode to it, or refused for
its length alone. -/
def Persistable (r : LifecycleRecord) : Prop :=
  validateRecordIntegrity r = true ∧
    (Oversized r → encodeRecord r = .error .tooLarge) ∧
    (¬Oversized r → ∃ bytes, encodeRecord r = .ok bytes ∧ decodeRecord bytes = .ok r)

theorem encodeRecord_oversized {r : LifecycleRecord} (h : Oversized r)
    (hvalid : validateRecordIntegrity r = true) : encodeRecord r = .error .tooLarge := by
  obtain ⟨bytes, hbytes, hlength⟩ := h
  simp [encodeRecord, hvalid, encodeUnchecked, hbytes, if_pos hlength, bind, Except.bind]

/-- A sound record is stored and read back exactly when its wire form rebuilds it. -/
theorem encodeRecord_of_faithful {r : LifecycleRecord} (hfaithful : Faithful r)
    (hsize : ¬Oversized r) (hvalid : validateRecordIntegrity r = true) :
    (∃ bytes, encodeRecord r = .ok bytes ∧ decodeRecord bytes = .ok r) ↔
      (wireRecord r).toRecord = .ok r := by
  obtain ⟨bytes, hbytes, hread⟩ := hfaithful
  have hlength : ¬maxLifecycleRecordBytes < bytes.length := fun h => hsize ⟨bytes, hbytes, h⟩
  have hencoded : encodeUnchecked r = .ok bytes := by
    rw [encodeUnchecked, hbytes]
    exact if_neg hlength
  have hdecoded : decodeWire bytes = (wireRecord r).toRecord := by
    rw [decodeWire, hread]
    rfl
  constructor
  · intro ⟨encoded, hencode, hdecode⟩
    simp only [encodeRecord, hvalid, hencoded, hdecoded, bind, Except.bind] at hencode
    cases hrecord : (wireRecord r).toRecord with
    | error e => rw [hrecord] at hencode; cases hencode
    | ok reconstructed =>
      rw [hrecord] at hencode
      by_cases hsame : reconstructed = r
      · rw [hsame]
      · simp [hsame] at hencode
  · intro hrecord
    refine ⟨bytes, ?_, ?_⟩
    · simp [encodeRecord, hvalid, hencoded, hdecoded, hrecord, bind, Except.bind, pure, Except.pure]
    · simp [decodeRecord, hlength, hvalid, hencoded, hdecoded, hrecord, bind, Except.bind, pure,
        Except.pure]

/-- A record a run reaches is sound and can be stored exactly when no call of the run reconciled
inconclusively and, short of the byte ceiling, no intent of the decision reserves a zero amount. -/
theorem run_persistable_iff {input : DecisionInput} {context : TransitionContext}
    {first : TransitionResult} {calls : List Call} (hderived : input.Derived)
    (hfirst : applyTransition none (.recordDecision input) context = .ok first)
    (htimes : (context :: calls.map (·.context)).Pairwise fun a b => a.verifierTime ≤ b.verifierTime)
    (hfaithful : Faithful (calls.foldl advance first.record)) :
    Persistable (calls.foldl advance first.record) ↔
      NeverInconclusive first.record calls ∧
        (Oversized (calls.foldl advance first.record) ∨ input.outputs.nonzero = true) := by
  have hintegrity := run_integrity_iff hfirst htimes
  obtain ⟨hlineage, hinput⟩ := lineage_first hfirst
  obtain ⟨bs, hrun, -, -⟩ := exists_lineage_run hlineage calls
  generalize calls.foldl advance first.record = r at *
  have hsame : r.input = input :=
    (hrun.input_eq _ (List.mem_append_left _ (List.mem_singleton_self _))).symm.trans hinput
  have hwire := toRecord_wire (hsame ▸ hderived) hrun.entriesSettled
  rw [Persistable, hintegrity]
  refine and_congr_right fun hnever => ?_
  have hvalid := hintegrity.mpr hnever
  by_cases hsize : Oversized r
  · simp [hsize, encodeRecord_oversized hsize hvalid]
  · rw [encodeRecord_of_faithful hfaithful hsize hvalid, hwire, hsame]
    by_cases hnonzero : input.outputs.nonzero = true <;> simp [hsize, hnonzero]

end Runs

section Sample

local instance sampleLedgerSha256 : Sha256 :=
  ⟨fun bytes => ⟨Sha2.sha256 bytes, Sha2.sha256_length bytes⟩⟩

def sampleConfiguration : ConfigurationCommitment where
  semanticId := ⟨"auths.test.config/1", by decide +kernel⟩
  canonicalizationId := ⟨"auths.test.canonical/1", by decide +kernel⟩
  configurationDigest := .filled 7
  implementationId := some ⟨"auths.test.impl/1", by decide +kernel⟩

theorem samplePolicyVersion_ne : (1 : UInt16) ≠ 0 := by decide

def sampleCommitments : EvaluationCommitments where
  profileId := ⟨"auths.test.profile/1", by decide +kernel⟩
  exactActionDigest := .filled 1
  policyCommitment := ⟨⟨"auths.test.policy/1", by decide +kernel⟩, 1,
    ⟨"auths.test.canonical/1", by decide +kernel⟩, .filled 2,
    ⟨"auths.test.evaluator/1", by decide +kernel⟩, samplePolicyVersion_ne⟩
  evidenceSchemaId := ⟨"auths.test.evidence/1", by decide +kernel⟩
  evidenceDigest := .filled 3
  evidenceSourceId := ⟨"auths.test.source/1", by decide +kernel⟩
  evidenceObservedAt := 10
  stateSnapshotSchemaId := ⟨"auths.test.state/1", by decide +kernel⟩
  stateSnapshotDigest := .filled 4
  verifierTime := 10
  requiredConfiguration := sampleConfiguration
  executedConfiguration := sampleConfiguration

/-- The decision of the conformance fixtures, for the given outputs and reservations. -/
def sampleDecision (workflow : String) (hworkflow : validateWorkflow workflow = .ok ())
    (outputs : BoundedOutputs) (reservations : ReservationSet) : DecisionInput where
  coreAuthorized := true
  coreAuthorizationDigest := .filled 9
  workflowId := ⟨workflow, hworkflow⟩
  lifecycleId := ⟨"workflow-1", by decide +kernel⟩
  executionId := ⟨"workflow-1", by decide +kernel⟩
  recoveryReferenceDigest := .filled 13
  domainId := ⟨"test", by decide +kernel⟩
  executorAudience := ⟨"test://executor", by decide +kernel⟩
  reservationAlgebraId := ⟨"auths.test.additive/1", by decide +kernel⟩
  commitments := sampleCommitments
  outputs
  reservations
  decisionReceiptDigest := .filled 10
  domainDecisionReceiptDigest := .filled 11
  implementationId := ⟨"auths.lifecycle.test/1", by decide +kernel⟩
  implementationBuildDigest := .filled 12
  expiresAt := 100
  cancellation := .beforeAttemptAllowed

/-- The same decision with the reservations it derives. -/
def DecisionInput.withReservations (input : DecisionInput) : DecisionInput :=
  match input.deriveReservations with
  | .ok reservations => { input with reservations }
  | .error _ => input

theorem withReservations_derived {input : DecisionInput}
    (h : input.deriveReservations.isOk = true) : input.withReservations.Derived := by
  cases hderive : input.deriveReservations with
  | error e => rw [hderive] at h; cases h
  | ok reservations =>
    have hinput : input.withReservations = { input with reservations } := by
      rw [DecisionInput.withReservations, hderive]
    rw [hinput]
    exact hderive

def sampleContext (now : VerifierTime) : TransitionContext :=
  ⟨now, sampleConfiguration, ⟨false, .filled 80⟩, ⟨[], by decide, by simp, .nil⟩⟩

def sampleIntent : ExecutionIntent :=
  ⟨.filled 20, .filled 21, .filled 22, ⟨"auths.test.provider/1", by decide +kernel⟩,
    .observeBeforeRetry⟩

def sampleObservation (conclusion : EffectConclusion) : ReconciliationObservation :=
  ⟨⟨"reconciliation-1", by decide +kernel⟩, ⟨"auths.test.source/1", by decide +kernel⟩, 15, 60,
    .filled 23, conclusion, .filled 21⟩

theorem sampleUnit_valid : validateSemantic "requests" 64 = .ok () := by decide +kernel

theorem sampleIntent_valid : validateSemantic "capacity" 96 = .ok () := by decide +kernel

theorem sampleWorkflow_valid : validateWorkflow "workflow-1" = .ok () := by decide +kernel

def sampleReservation (intent : String) (hintent : validateSemantic intent 96 = .ok ())
    (amount : UInt64) : ReservationIntentCommitment where
  schemaId := ⟨"auths.test.reservation/1", by decide +kernel⟩
  intentId := ⟨intent, hintent⟩
  scopeDigest := .filled 30
  kind := .additive ⟨"requests", by decide +kernel⟩ amount
  windowDigest := none
  actionDigest := .filled 1
  policyDigest := .filled 2
  evidenceDigest := .filled 3
  canonicalDigest := .filled 31
  canonicalBytes := 64
  bounded := by decide

def sampleInput : DecisionInput :=
  (sampleDecision "workflow-1" (by decide +kernel)
    ⟨[sampleReservation "capacity" (by decide +kernel) 6], [], .filled 5, .filled 6,
      by decide +kernel⟩ ⟨[], .zero⟩).withReservations

def sampleCapacity : CapacitySnapshot :=
  ⟨[.additive (.filled 30) none ⟨"requests", by decide +kernel⟩ 10 0 0], by decide,
    by decide +kernel, by simp⟩

/-- A run up to an unknown outcome, and its reconciliation. -/
def sampleCalls (conclusion : EffectConclusion) : List Call :=
  [⟨.reserve, { sampleContext 11 with capacity := sampleCapacity }⟩,
    ⟨.recordExecutionIntent sampleIntent, sampleContext 12⟩,
    ⟨.authorizeCredential, sampleContext 13⟩, ⟨.startAttempt, sampleContext 14⟩,
    ⟨.markOutcomeUnknown (.filled 24), sampleContext 15⟩,
    ⟨.reconcile (sampleObservation conclusion) (.filled 25), sampleContext 16⟩]

theorem sampleInput_derived : sampleInput.Derived := withReservations_derived (by decide +kernel)

theorem withReservations_outputs (input : DecisionInput) :
    input.withReservations.outputs = input.outputs := by
  unfold DecisionInput.withReservations
  split <;> rfl

theorem sampleInput_nonzero : sampleInput.outputs.nonzero = true := by
  rw [sampleInput, withReservations_outputs]
  decide

theorem sampleCalls_times (conclusion : EffectConclusion) :
    (sampleContext 10 :: (sampleCalls conclusion).map (·.context)).Pairwise
      fun a b => a.verifierTime ≤ b.verifierTime := by
  simp only [sampleCalls, List.map_cons, List.map_nil, sampleContext]
  decide

theorem sampleInput_decided :
    ∃ first, applyTransition none (.recordDecision sampleInput) (sampleContext 10) = .ok first ∧
      NeverInconclusive first.record (sampleCalls .effect) ∧
      ¬NeverInconclusive first.record (sampleCalls .inconclusive) := by
  have hruns : (match applyTransition none (.recordDecision sampleInput) (sampleContext 10) with
      | .ok first => decide (NeverInconclusive first.record (sampleCalls .effect)) &&
          !decide (NeverInconclusive first.record (sampleCalls .inconclusive))
      | .error _ => false) = true := by decide +kernel
  split at hruns
  · next first hfirst => exact ⟨first, hfirst, by simpa using hruns⟩
  · cases hruns

/-- The record kept by an inconclusive reconciliation fails its own integrity check and no serializer
stores it. -/
theorem inconclusive_run_unstorable :
    sampleInput.Derived ∧ ∃ first,
      applyTransition none (.recordDecision sampleInput) (sampleContext 10) = .ok first ∧
      (sampleContext 10 :: (sampleCalls .inconclusive).map (·.context)).Pairwise
        (fun a b => a.verifierTime ≤ b.verifierTime) ∧
      validateRecordIntegrity ((sampleCalls .inconclusive).foldl advance first.record) = false ∧
      ∀ postcard : Postcard, @encodeRecord _ postcard
        ((sampleCalls .inconclusive).foldl advance first.record) = .error .invalidSemantics := by
  obtain ⟨first, hfirst, -, hnever⟩ := sampleInput_decided
  have htimes := sampleCalls_times .inconclusive
  have hinvalid : validateRecordIntegrity
      ((sampleCalls .inconclusive).foldl advance first.record) = false :=
    Bool.eq_false_iff.mpr fun hvalid => hnever ((run_integrity_iff hfirst htimes).mp hvalid)
  refine ⟨sampleInput_derived, first, hfirst, htimes, hinvalid, fun postcard => ?_⟩
  simp [encodeRecord, hinvalid, bind, Except.bind]

/-- The serializer's variable-length integers: seven bits a byte, the lowest first. -/
def varint : Nat → Nat → Bytes
  | 0, _ => []
  | bytes + 1, n => if n < 128 then [UInt8.ofNat n]
    else UInt8.ofNat (n % 128 + 128) :: varint bytes (n / 128)

def writeInteger (n : Nat) : Bytes := varint 10 n

def writeBool (b : Bool) : Bytes := [if b then 1 else 0]

def writeText (value : String) : Bytes := writeInteger value.utf8ByteSize ++ utf8 value

def writeOption {α : Type} (write : α → Bytes) : Option α → Bytes
  | none => [0]
  | some a => 1 :: write a

def writeList {α : Type} (write : α → Bytes) (items : List α) : Bytes :=
  writeInteger items.length ++ items.flatMap write

def writeConfiguration (c : WireConfiguration) : Bytes :=
  writeText c.semanticId ++ writeText c.canonicalizationId ++ c.configurationDigest.bytes ++
    writeOption writeText c.implementationId

def writePolicy (p : WirePolicy) : Bytes :=
  writeText p.policyType ++ writeInteger p.policyVersion.toNat ++ writeText p.canonicalizationId ++
    p.policyDigest.bytes ++ writeText p.evaluatorSemanticId

def writeCommitments (c : WireCommitments) : Bytes :=
  writeText c.profileId ++ c.exactActionDigest.bytes ++ writePolicy c.policy ++
    writeText c.evidenceSchemaId ++ c.evidenceDigest.bytes ++ writeText c.evidenceSourceId ++
    writeInteger c.evidenceObservedAt.toNat ++ writeText c.stateSnapshotSchemaId ++
    c.stateSnapshotDigest.bytes ++ writeInteger c.verifierTime.toNat ++
    writeConfiguration c.requiredConfiguration ++ writeConfiguration c.executedConfiguration

def writeReservationIntent (i : WireReservationIntent) : Bytes :=
  writeText i.schemaId ++ writeText i.intentId ++ i.scopeDigest.bytes ++ [i.kind] ++
    writeOption writeText i.unit ++ writeOption (fun n => writeInteger n.toNat) i.amount ++
    writeOption Digest.bytes i.windowDigest ++ i.actionDigest.bytes ++ i.policyDigest.bytes ++
    i.evidenceDigest.bytes ++ i.canonicalDigest.bytes ++ writeInteger i.canonicalBytes.toNat

def writeObligation (o : WireObligation) : Bytes :=
  writeText o.schemaId ++ writeText o.obligationId ++ [o.class] ++ o.payloadDigest.bytes ++
    writeInteger o.canonicalBytes.toNat

def writeOutputs (o : WireOutputs) : Bytes :=
  writeList writeReservationIntent o.reservations ++ writeList writeObligation o.obligations ++
    o.reservationIntentsCommitment.bytes ++ o.obligationsCommitment.bytes

def writeDecision (d : WireDecision) : Bytes :=
  writeBool d.coreAuthorized ++ d.coreAuthorizationDigest.bytes ++ writeText d.workflowId ++
    writeText d.lifecycleId ++ writeText d.executionId ++ d.recoveryReferenceDigest.bytes ++
    writeText d.domainId ++ writeText d.executorAudience ++ writeText d.reservationAlgebraId ++
    writeCommitments d.commitments ++ writeOutputs d.outputs ++ d.decisionReceiptDigest.bytes ++
    d.domainDecisionReceiptDigest.bytes ++ writeText d.implementationId ++
    d.implementationBuildDigest.bytes ++ writeInteger d.expiresAt.toNat ++ [d.cancellation]

def writeExecutionIntent (i : WireExecutionIntent) : Bytes :=
  i.verifiedCommandDigest.bytes ++ i.providerRequestDigest.bytes ++
    i.providerConditionDigest.bytes ++ writeText i.providerContractId ++ [i.retryClass]

def writeAttempt (a : WireAttempt) : Bytes :=
  [a.ordinal] ++ writeInteger a.startedAt.toNat ++ a.providerRequestDigest.bytes ++
    a.providerConditionDigest.bytes ++ writeText a.providerContractId ++ writeBool a.callEntered

def writeObservation (o : WireObservation) : Bytes :=
  writeText o.reconciliationId ++ writeText o.sourceId ++ writeInteger o.observedAt.toNat ++
    writeInteger o.freshUntil.toNat ++ o.observationDigest.bytes ++ [o.conclusion] ++
    o.providerRequestDigest.bytes

def writeEvent (e : WireEvent) : Bytes :=
  [e.kind] ++ writeInteger e.revision.toNat ++ writeInteger e.verifierTime.toNat ++
    e.triggerDigest.bytes

def writeReceipt (r : WireReceipt) : Bytes :=
  writeInteger r.revision.toNat ++ writeOption Digest.bytes r.previous ++
    writeOption (fun code => [code]) r.fromState ++ [r.toState] ++ r.triggerDigest.bytes ++
    writeInteger r.verifierTime.toNat ++ writeConfiguration r.requiredConfiguration ++
    writeConfiguration r.executedConfiguration ++ writeText r.implementationId ++
    writeOption Digest.bytes r.domainReceiptDigest ++ r.receiptDigest.bytes

def writeRecord (r : WireRecord) : Bytes :=
  writeDecision r.input ++ [r.state] ++ writeInteger r.revision.toNat ++
    writeInteger r.createdAt.toNat ++ writeInteger r.updatedAt.toNat ++
    writeList (fun status => writeBool status.1 ++ writeBool status.2) r.reservationStatuses ++
    writeOption writeExecutionIntent r.executionIntent ++ writeBool r.credentialAuthorized ++
    writeList writeAttempt r.attempts ++ writeList writeObservation r.observations ++
    writeOption Digest.bytes r.terminalResult ++ writeList writeEvent r.events ++
    writeList writeReceipt r.receipts

def writeEnvelope (e : WireEnvelope) : Bytes := [e.version] ++ writeRecord e.record

/-- The record a run ends in that starts with the given result. -/
def recordAfter (start : Except TransitionError TransitionResult) (calls : List Call) :
    LifecycleRecord :=
  match start with
  | .ok first => calls.foldl advance first.record
  | .error _ => decisionRecord sampleInput 10

theorem recordAfter_ok (first : TransitionResult) (calls : List Call) :
    recordAfter (.ok first) calls = calls.foldl advance first.record := rfl

def sampleRecord : LifecycleRecord :=
  recordAfter (applyTransition none (.recordDecision sampleInput) (sampleContext 10))
    (sampleCalls .effect)

/-- The serializer as far as the sample needs it: it writes every record and reads the one. -/
local instance samplePostcard : Postcard where
  toAllocvec envelope := some (writeEnvelope envelope)
  fromBytes bytes := if bytes = writeEnvelope (wireEnvelope sampleRecord)
    then some (wireEnvelope sampleRecord) else none

theorem run_persistable_sample : Persistable sampleRecord := by
  obtain ⟨first, hfirst, hnever, -⟩ := sampleInput_decided
  have hrecord : sampleRecord = (sampleCalls .effect).foldl advance first.record :=
    (congrArg (recordAfter · (sampleCalls .effect)) hfirst).trans (recordAfter_ok first _)
  have hfaithful : Faithful ((sampleCalls .effect).foldl advance first.record) := by
    rw [← hrecord]
    exact ⟨_, rfl, if_pos rfl⟩
  have hiff := @run_persistable_iff _ _ sampleInput (sampleContext 10) first (sampleCalls .effect)
    sampleInput_derived hfirst (sampleCalls_times .effect) hfaithful
  rw [hrecord]
  exact hiff.mpr ⟨hnever, .inr sampleInput_nonzero⟩

end Sample

end AuthsProof.Lifecycle
