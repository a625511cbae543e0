import AuthsProof.Lifecycle.Transition

/-! Everything a successful transition can do to a record, one case per legal edge. -/

namespace AuthsProof.Lifecycle

/-- When a release is legal: before any attempt, or on evidence of no effect. -/
def Releasable (r : LifecycleRecord) (conclusion : EffectConclusion) : Prop :=
  (r.state = .reserved ∧ r.attempts = [] ∧
      (r.input.cancellation = .beforeAttemptAllowed ∨ conclusion = .nonEffect)) ∨
    (r.state = .executionIntentRecorded ∧ r.attempts = []) ∨
    (r.state = .executing ∧ r.attempts ≠ [] ∧ conclusion = .nonEffect)

/-- An observation that is fresh and about the request of the recorded intent. -/
structure Settles (r : LifecycleRecord) (context : TransitionContext)
    (observation : ReconciliationObservation) : Prop where
  fresh : observation.observedAt ≤ context.verifierTime ∧
    context.verifierTime ≤ observation.freshUntil
  binds : ∃ intent, r.executionIntent = some intent ∧
    observation.providerRequestDigest = intent.providerRequestDigest

/-- The legal edges of a record: what each command asks of it and writes to it, short of the event and
the receipt. -/
inductive Edge (r : LifecycleRecord) (context : TransitionContext) :
    TransitionCommand → LifecycleRecord → Prop
  | reserve (hstate : r.state = .decisionRecorded) (hcapacity : capacityAvailable r context = true) :
      Edge r context .reserve { r with
        reservationEntries := r.input.reservations.entries.map .reserved
        state := .reserved }
  | recordExecutionIntent (intent : ExecutionIntent) (hstate : r.state = .reserved) :
      Edge r context (.recordExecutionIntent intent) { r with
        executionIntent := some intent
        state := .executionIntentRecorded }
  | authorizeCredential (hstate : r.state = .executionIntentRecorded)
      (hintent : r.executionIntent ≠ none) (hcredential : r.credentialAuthorized = false) :
      Edge r context .authorizeCredential { r with
        credentialAuthorized := true
        state := .executionIntentRecorded }
  | startAttempt (intent : ExecutionIntent) (ordinal : AttemptOrdinal)
      (hstate : r.state = .executionIntentRecorded) (hintent : r.executionIntent = some intent)
      (hcredential : r.credentialAuthorized = true)
      (hordinal : ordinal.value.toNat = r.attempts.length + 1) :
      Edge r context .startAttempt { r with
        attempts := r.attempts ++ [⟨ordinal, context.verifierTime, intent.providerRequestDigest,
          intent.providerConditionDigest, intent.providerContractId, false⟩]
        credentialAuthorized := false
        state := .executing }
  | markProviderCallEntered (earlier : List ProviderAttempt) (attempt : ProviderAttempt)
      (hstate : r.state = .executing) (hattempts : r.attempts = earlier ++ [attempt])
      (hentered : attempt.callEntered = false) :
      Edge r context .markProviderCallEntered { r with
        attempts := earlier ++ [{ attempt with callEntered := true }]
        state := .executing }
  | commit (resultDigest : ProviderResultDigest) (domainReceiptDigest : DomainReceiptDigest)
      (earlier : List ProviderAttempt) (attempt : ProviderAttempt)
      (hstate : r.state = .executing) (hattempts : r.attempts = earlier ++ [attempt])
      (hentered : attempt.callEntered = true) :
      Edge r context (.commit resultDigest domainReceiptDigest) { r with
        reservationEntries := r.reservationEntries.map .markCommitted
        terminalResult := some resultDigest
        state := .committed }
  | release (resultDigest : ProviderResultDigest) (domainReceiptDigest : DomainReceiptDigest)
      (conclusion : EffectConclusion) (hrelease : Releasable r conclusion) :
      Edge r context (.release resultDigest domainReceiptDigest conclusion) { r with
        reservationEntries := r.reservationEntries.map .markReleased
        terminalResult := some resultDigest
        state := .released }
  | markOutcomeUnknown (domainReceiptDigest : DomainReceiptDigest) (hstate : r.state = .executing)
      (hattempts : r.attempts ≠ []) :
      Edge r context (.markOutcomeUnknown domainReceiptDigest) { r with state := .outcomeUnknown }
  | reconcileEffect (observation : ReconciliationObservation)
      (domainReceiptDigest : DomainReceiptDigest) (hstate : r.state = .outcomeUnknown)
      (hconclusion : observation.conclusion = .effect) (hsettles : Settles r context observation) :
      Edge r context (.reconcile observation domainReceiptDigest) { r with
        observations := r.observations ++ [observation]
        reservationEntries := r.reservationEntries.map .markCommitted
        state := .reconciledCommitted }
  | reconcileNonEffect (observation : ReconciliationObservation)
      (domainReceiptDigest : DomainReceiptDigest) (hstate : r.state = .outcomeUnknown)
      (hconclusion : observation.conclusion = .nonEffect)
      (hsettles : Settles r context observation) :
      Edge r context (.reconcile observation domainReceiptDigest) { r with
        observations := r.observations ++ [observation]
        reservationEntries := r.reservationEntries.map .markReleased
        state := .reconciledReleased }
  | reconcileInconclusive (observation : ReconciliationObservation)
      (domainReceiptDigest : DomainReceiptDigest) (hstate : r.state = .outcomeUnknown)
      (hconclusion : observation.conclusion = .unknown ∨ observation.conclusion = .inconclusive)
      (hsettles : Settles r context observation) :
      Edge r context (.reconcile observation domainReceiptDigest) { r with
        observations := r.observations ++ [observation]
        state := .outcomeUnknown }

/-- What an edge leaves alone. -/
structure SameHistory (r p : LifecycleRecord) : Prop where
  input : p.input = r.input
  revision : p.revision = r.revision
  createdAt : p.createdAt = r.createdAt
  events : p.events = r.events
  receipts : p.receipts = r.receipts

theorem Edge.sameHistory {r p : LifecycleRecord} {context : TransitionContext}
    {command : TransitionCommand} (h : Edge r context command p) : SameHistory r p := by
  cases h <;> exact ⟨rfl, rfl, rfl, rfl, rfl⟩

section Gates

variable {r : LifecycleRecord} {context : TransitionContext} {command : TransitionCommand}

theorem attempts_eq_nil_of_gate (h : (gatesFor r command context).attemptPresent = false) :
    r.attempts = [] := by
  simp only [gatesFor, Bool.or_eq_false_iff, Bool.not_eq_false', List.isEmpty_iff] at h
  exact h.1

theorem attempts_ne_nil_of_gate (hcommand : command ≠ .startAttempt)
    (h : (gatesFor r command context).attemptPresent = true) : r.attempts ≠ [] := by
  intro hnil
  simp only [gatesFor, hnil, List.isEmpty_nil, Bool.not_true, Bool.false_or] at h
  cases h

theorem exists_getLast_of_ne_nil {attempts : List ProviderAttempt} (h : attempts ≠ []) :
    ∃ earlier attempt, attempts = earlier ++ [attempt] ∧ attempts.getLast? = some attempt ∧
      attempts.dropLast = earlier := by
  refine ⟨attempts.dropLast, attempts.getLast h, ?_, ?_, rfl⟩
  · exact (List.dropLast_append_getLast h).symm
  · exact List.getLast?_eq_some_getLast h

theorem settles_of_gates {observation : ReconciliationObservation}
    {domainReceiptDigest : DomainReceiptDigest}
    (hfresh : (gatesFor r (.reconcile observation domainReceiptDigest) context).reconciliationFresh
      = true)
    (hmatches : (gatesFor r (.reconcile observation domainReceiptDigest)
      context).reconciliationMatches = true) : Settles r context observation := by
  simp only [gatesFor, commandObservation, Option.any_some, ReconciliationObservation.fresh,
    Bool.and_eq_true, decide_eq_true_eq] at hfresh
  simp only [gatesFor, commandObservation, Option.any_some, ReconciliationObservation.binds,
    Option.any_eq_true, decide_eq_true_eq] at hmatches
  exact ⟨hfresh, hmatches⟩

end Gates

/-- A legal operation whose payload is written is an edge. -/
theorem edge_of_legal {r p : LifecycleRecord} {context : TransitionContext}
    {command : TransitionCommand} {next : LifecycleState}
    (hlegal : Legal (gatesFor r command context) r.state (operationFor command) next)
    (hpayload : applyPayload r command next context.verifierTime = .ok p) :
    Edge r context command p ∧ p.state = next := by
  obtain ⟨written, hwritten, hp⟩ := Except.bind_eq_ok.mp hpayload
  obtain rfl : { written with state := next } = p := Except.ok.inj hp
  refine ⟨?_, rfl⟩
  generalize hfrom : r.state = current at hlegal
  cases command with
  | recordDecision input => cases hlegal
  | reserve =>
    cases hlegal with
    | reserve _ _ _ hcapacity =>
      obtain rfl := Except.ok.inj hwritten
      exact .reserve hfrom hcapacity
  | recordExecutionIntent intent =>
    cases hlegal with
    | recordExecutionIntent =>
      obtain rfl := Except.ok.inj hwritten
      exact .recordExecutionIntent intent hfrom
  | authorizeCredential =>
    cases hlegal with
    | authorizeCredential _ _ _ hintent hcredential =>
      obtain rfl := Except.ok.inj hwritten
      refine .authorizeCredential hfrom ?_ hcredential
      simpa [gatesFor, Option.isSome_iff_ne_none] using hintent
  | startAttempt =>
    cases hlegal with
    | startAttempt _ _ _ _ hcredential =>
      simp only [writePayload] at hwritten
      split at hwritten
      · cases hwritten
      · next intent hintent =>
        split at hwritten
        · cases hwritten
        · next ordinal hordinal =>
          obtain rfl := Except.ok.inj hwritten
          refine .startAttempt intent ordinal hfrom hintent hcredential ?_
          obtain ⟨hle, hnew⟩ := Option.ite_none_right_eq_some.mp hordinal
          simp only [AttemptOrdinal.new, Option.dite_none_right_eq_some, Option.some.injEq] at hnew
          obtain ⟨-, rfl⟩ := hnew
          rw [UInt8.toNat_ofNat', Nat.mod_eq_of_lt (by omega)]
  | markProviderCallEntered =>
    cases hlegal with
    | markProviderCallEntered hentered hattempt =>
      obtain ⟨earlier, attempt, hsplit, hlast, hearlier⟩ :=
        exists_getLast_of_ne_nil (attempts_ne_nil_of_gate (by simp) hattempt)
      simp only [writePayload, hlast, hearlier] at hwritten
      obtain rfl := Except.ok.inj hwritten
      refine .markProviderCallEntered earlier attempt hfrom hsplit ?_
      simpa [gatesFor, hlast] using hentered
  | commit resultDigest domainReceiptDigest =>
    cases hlegal with
    | commit hattempt hentered =>
      obtain rfl := Except.ok.inj hwritten
      obtain ⟨earlier, attempt, hsplit, hlast, -⟩ :=
        exists_getLast_of_ne_nil (attempts_ne_nil_of_gate (by simp) hattempt)
      refine .commit resultDigest domainReceiptDigest earlier attempt hfrom hsplit ?_
      simpa [gatesFor, hlast] using hentered
  | release resultDigest domainReceiptDigest conclusion =>
    obtain rfl := Except.ok.inj hwritten
    cases hlegal with
    | releaseReserved hattempt hproof =>
      refine .release resultDigest domainReceiptDigest conclusion (.inl ⟨hfrom, ?_, ?_⟩)
      · exact attempts_eq_nil_of_gate hattempt
      · simpa [gatesFor, commandConclusion] using hproof
    | releaseIntended hattempt =>
      exact .release resultDigest domainReceiptDigest conclusion
        (.inr (.inl ⟨hfrom, attempts_eq_nil_of_gate hattempt⟩))
    | releaseExecuting hattempt hproof =>
      refine .release resultDigest domainReceiptDigest conclusion (.inr (.inr ⟨hfrom, ?_, ?_⟩))
      · exact attempts_ne_nil_of_gate (by simp) hattempt
      · simpa [gatesFor, commandConclusion] using hproof
  | markOutcomeUnknown domainReceiptDigest =>
    cases hlegal with
    | markOutcomeUnknown hattempt =>
      obtain rfl := Except.ok.inj hwritten
      exact .markOutcomeUnknown domainReceiptDigest hfrom
        (attempts_ne_nil_of_gate (by simp) hattempt)
  | reconcile observation domainReceiptDigest =>
    -- the conclusion of the observation selects both the operation and the payload
    cases hconclusion : observation.conclusion with
    | effect =>
      simp only [operationFor, hconclusion] at hlegal
      cases hlegal with
      | reconcileEffect hfresh hmatches =>
        simp only [writePayload, hconclusion] at hwritten
        obtain rfl := Except.ok.inj hwritten
        exact .reconcileEffect observation domainReceiptDigest hfrom hconclusion
          (settles_of_gates hfresh hmatches)
    | nonEffect =>
      simp only [operationFor, hconclusion] at hlegal
      cases hlegal with
      | reconcileNonEffect hfresh hmatches =>
        simp only [writePayload, hconclusion] at hwritten
        obtain rfl := Except.ok.inj hwritten
        exact .reconcileNonEffect observation domainReceiptDigest hfrom hconclusion
          (settles_of_gates hfresh hmatches)
    | unknown =>
      simp only [operationFor, hconclusion] at hlegal
      cases hlegal with
      | reconcileInconclusive hfresh hmatches =>
        simp only [writePayload, hconclusion] at hwritten
        obtain rfl := Except.ok.inj hwritten
        exact .reconcileInconclusive observation domainReceiptDigest hfrom (.inl hconclusion)
          (settles_of_gates hfresh hmatches)
    | inconclusive =>
      simp only [operationFor, hconclusion] at hlegal
      cases hlegal with
      | reconcileInconclusive hfresh hmatches =>
        simp only [writePayload, hconclusion] at hwritten
        obtain rfl := Except.ok.inj hwritten
        exact .reconcileInconclusive observation domainReceiptDigest hfrom (.inr hconclusion)
          (settles_of_gates hfresh hmatches)

/-- The reservation entries of a record, read off its state. -/
def settledEntries (state : LifecycleState) (requests : List ReservationRequest) :
    List ReservationEntry :=
  match state with
  | .decisionRecorded => []
  | .reserved | .executionIntentRecorded | .executing | .outcomeUnknown =>
    requests.map fun request => ⟨request, false, false⟩
  | .committed | .reconciledCommitted => requests.map fun request => ⟨request, true, false⟩
  | .released | .reconciledReleased => requests.map fun request => ⟨request, false, true⟩

def EntriesSettled (r : LifecycleRecord) : Prop :=
  r.reservationEntries = settledEntries r.state r.input.reservations.entries

theorem Edge.entriesSettled {r p : LifecycleRecord} {context : TransitionContext}
    {command : TransitionCommand} (hr : EntriesSettled r) (h : Edge r context command p) :
    EntriesSettled p := by
  unfold EntriesSettled at hr ⊢
  cases h with
  | reserve hstate _ => rfl
  | recordExecutionIntent intent hstate => simpa [settledEntries, hstate] using hr
  | authorizeCredential hstate _ _ => simpa [settledEntries, hstate] using hr
  | startAttempt intent ordinal hstate _ _ _ => simpa [settledEntries, hstate] using hr
  | markProviderCallEntered earlier attempt hstate _ _ => simpa [settledEntries, hstate] using hr
  | commit _ _ earlier attempt hstate _ _ =>
    rw [hstate] at hr
    simp [hr, settledEntries, ReservationEntry.markCommitted, Function.comp_def]
  | release _ _ conclusion hrelease =>
    have hheld : r.reservationEntries = r.input.reservations.entries.map .reserved := by
      rcases hrelease with ⟨hstate, -, -⟩ | ⟨hstate, -⟩ | ⟨hstate, -, -⟩ <;>
      · rw [hstate] at hr
        exact hr
    simp [hheld, settledEntries, ReservationEntry.reserved, ReservationEntry.markReleased,
      Function.comp_def]
  | markOutcomeUnknown _ hstate _ => simpa [settledEntries, hstate] using hr
  | reconcileEffect _ _ hstate _ _ =>
    rw [hstate] at hr
    simp [hr, settledEntries, ReservationEntry.markCommitted, Function.comp_def]
  | reconcileNonEffect _ _ hstate _ _ =>
    rw [hstate] at hr
    simp [hr, settledEntries, ReservationEntry.markReleased, Function.comp_def]
  | reconcileInconclusive _ _ hstate _ _ => simpa [settledEntries, hstate] using hr

/-- One attempt, the first, at the request of the recorded intent. -/
def Attempted (r : LifecycleRecord) : Prop :=
  ∃ attempt intent, r.attempts = [attempt] ∧ r.executionIntent = some intent ∧
    attempt.ordinal.value = 1 ∧ attempt.providerRequestDigest = intent.providerRequestDigest

/-- What each state says of the intent, the credential and the attempts. -/
def Shaped (r : LifecycleRecord) : Prop :=
  match r.state with
  | .decisionRecorded | .reserved =>
    r.executionIntent = none ∧ r.credentialAuthorized = false ∧ r.attempts = []
  | .executionIntentRecorded => r.executionIntent ≠ none ∧ r.attempts = []
  | .executing | .outcomeUnknown | .reconciledCommitted | .reconciledReleased =>
    Attempted r ∧ r.credentialAuthorized = false
  | .committed => Attempted r ∧ r.credentialAuthorized = false ∧
      ∀ attempt ∈ r.attempts, attempt.callEntered = true
  | .released => r.attempts = [] ∨ Attempted r

theorem sole_attempt {attempts earlier : List ProviderAttempt} {only attempt : ProviderAttempt}
    (honly : attempts = [only]) (hsplit : attempts = earlier ++ [attempt]) :
    earlier = [] ∧ attempt = only := by
  rw [honly] at hsplit
  simpa [List.append_eq_singleton_iff] using hsplit.symm

theorem Edge.shaped {r p : LifecycleRecord} {context : TransitionContext}
    {command : TransitionCommand} (hr : Shaped r) (h : Edge r context command p) : Shaped p := by
  cases h with
  | reserve hstate _ => simpa [Shaped, hstate] using hr
  | recordExecutionIntent intent hstate =>
    obtain ⟨-, -, hattempts⟩ : r.executionIntent = none ∧ r.credentialAuthorized = false ∧
      r.attempts = [] := by simpa [Shaped, hstate] using hr
    exact ⟨by simp, hattempts⟩
  | authorizeCredential hstate _ _ => simpa [Shaped, hstate] using hr
  | startAttempt intent ordinal hstate hintent _ hordinal =>
    obtain ⟨-, hattempts⟩ : r.executionIntent ≠ none ∧ r.attempts = [] := by
      simpa [Shaped, hstate] using hr
    rw [hattempts] at hordinal
    refine ⟨⟨⟨ordinal, context.verifierTime, intent.providerRequestDigest,
      intent.providerConditionDigest, intent.providerContractId, false⟩, intent, ?_, hintent, ?_,
      rfl⟩, rfl⟩
    · simp only [hattempts, List.nil_append]
    · exact UInt8.toNat_inj.mp hordinal
  | markProviderCallEntered earlier attempt hstate hattempts _ =>
    obtain ⟨⟨only, intent, honly, hintent, hordinal, hrequest⟩, hcredential⟩ :
      Attempted r ∧ r.credentialAuthorized = false := by simpa [Shaped, hstate] using hr
    obtain ⟨rfl, rfl⟩ := sole_attempt honly hattempts
    exact ⟨⟨_, intent, rfl, hintent, hordinal, hrequest⟩, hcredential⟩
  | commit _ _ earlier attempt hstate hattempts hentered =>
    obtain ⟨⟨only, intent, honly, hintent, hordinal, hrequest⟩, hcredential⟩ :
      Attempted r ∧ r.credentialAuthorized = false := by simpa [Shaped, hstate] using hr
    refine ⟨⟨only, intent, honly, hintent, hordinal, hrequest⟩, hcredential, ?_⟩
    obtain ⟨rfl, rfl⟩ := sole_attempt honly hattempts
    intro a ha
    rw [show a = attempt by simpa [honly] using ha]
    exact hentered
  | release _ _ conclusion hrelease =>
    rcases hrelease with ⟨-, hattempts, -⟩ | ⟨-, hattempts⟩ | ⟨hstate, -, -⟩
    · exact .inl hattempts
    · exact .inl hattempts
    · have hr : Attempted r ∧ r.credentialAuthorized = false := by simpa [Shaped, hstate] using hr
      exact .inr hr.1
  | markOutcomeUnknown _ hstate _ => simpa [Shaped, Attempted, hstate] using hr
  | reconcileEffect _ _ hstate _ _ => simpa [Shaped, Attempted, hstate] using hr
  | reconcileNonEffect _ _ hstate _ _ => simpa [Shaped, Attempted, hstate] using hr
  | reconcileInconclusive _ _ hstate _ _ => simpa [Shaped, Attempted, hstate] using hr

/-- How far a record has come. Only inconclusive reconciliation leaves the rank as it is. -/
def LifecycleRecord.rank (r : LifecycleRecord) : Nat :=
  match r.state with
  | .decisionRecorded => 1
  | .reserved => 2
  | .executionIntentRecorded => if r.credentialAuthorized then 4 else 3
  | .executing => if r.attempts.getLast?.any (·.callEntered) then 6 else 5
  | .outcomeUnknown => 7
  | .committed | .released | .reconciledCommitted | .reconciledReleased => 8

theorem rank_le (r : LifecycleRecord) : r.rank ≤ 8 := by
  unfold LifecycleRecord.rank
  split <;> (try split) <;> omega

theorem rank_eq_iff_terminal {r : LifecycleRecord} : r.rank = 8 ↔ r.state.isTerminal = true := by
  unfold LifecycleRecord.rank LifecycleState.isTerminal
  split <;> (try split) <;> simp_all

/-- A record that comes after another one. -/
def After (r r' : LifecycleRecord) : Prop := r.rank < r'.rank ∨ (r.rank = 7 ∧ r'.rank = 7)

theorem After.trans {a b c : LifecycleRecord} (hab : After a b) (hbc : After b c) : After a c := by
  unfold After at *
  omega

theorem Edge.after {r p : LifecycleRecord} {context : TransitionContext}
    {command : TransitionCommand} (h : Edge r context command p) : After r p := by
  unfold After LifecycleRecord.rank
  cases h with
  | reserve hstate _ => simp [hstate]
  | recordExecutionIntent intent hstate =>
    simp only [hstate]
    split <;> omega
  | authorizeCredential hstate _ hcredential => simp [hstate, hcredential]
  | startAttempt intent ordinal hstate _ hcredential _ => simp [hstate, hcredential]
  | markProviderCallEntered earlier attempt hstate hattempts hentered =>
    simp [hstate, hattempts, hentered]
  | commit _ _ earlier attempt hstate _ _ =>
    simp only [hstate]
    split <;> omega
  | release _ _ conclusion hrelease =>
    rcases hrelease with ⟨hstate, -, -⟩ | ⟨hstate, -⟩ | ⟨hstate, -, -⟩ <;> simp only [hstate]
    · omega
    · split <;> omega
    · split <;> omega
  | markOutcomeUnknown _ hstate _ =>
    simp only [hstate]
    split <;> omega
  | reconcileEffect _ _ hstate _ _ => simp [hstate]
  | reconcileNonEffect _ _ hstate _ _ => simp [hstate]
  | reconcileInconclusive _ _ hstate _ _ => simp [hstate]

end AuthsProof.Lifecycle
