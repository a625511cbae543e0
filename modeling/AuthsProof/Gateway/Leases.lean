import AuthsProof.Gateway.Commissioning
import AuthsProof.Lib.Run
import Mathlib.Order.Interval.Finset.Nat

/-! Hosts that share one commissioning budget, in any order, over a store whose answers may be lost. -/

namespace AuthsProof.Gateway

open Interleave

variable {T : Type} [DecidableEq T] [BudgetFormat T]

/-! ## Records that only grow -/

theorem BudgetRecord.notBelow_iff {record floor : BudgetRecord} : record.notBelow floor = true ↔
    record.budgetScopeSha256 = floor.budgetScopeSha256 ∧
    record.budgetBindingSha256 = floor.budgetBindingSha256 ∧
    record.maximumCredentialLeases = floor.maximumCredentialLeases ∧
    floor.consumedCredentialLeases ≤ record.consumedCredentialLeases ∧
    floor.latestVerifierTime ≤ record.latestVerifierTime ∧
    floor.acceptedRevocationSequence ≤ record.acceptedRevocationSequence ∧
    floor.revokedSigners ⊆ record.revokedSigners := by
  simp [BudgetRecord.notBelow, and_assoc]

theorem BudgetRecord.notBelow_refl (record : BudgetRecord) : record.notBelow record = true := by
  simp [BudgetRecord.notBelow_iff]

theorem BudgetRecord.notBelow_trans {a b c : BudgetRecord} (hab : a.notBelow b = true)
    (hbc : b.notBelow c = true) : a.notBelow c = true := by
  rw [BudgetRecord.notBelow_iff] at *
  obtain ⟨hscope, hbinding, hmaximum, hconsumed, htime, hsequence, hsigners⟩ := hab
  obtain ⟨hscope', hbinding', hmaximum', hconsumed', htime', hsequence', hsigners'⟩ := hbc
  exact ⟨hscope.trans hscope', hbinding.trans hbinding', hmaximum.trans hmaximum',
    hconsumed'.trans hconsumed, htime'.trans htime, hsequence'.trans hsequence,
    hsigners'.trans hsigners⟩

omit [DecidableEq T] in
theorem BudgetRecord.consumed_le {record : BudgetRecord} (h : record.encodes T = true) :
    record.consumedCredentialLeases ≤ record.maximumCredentialLeases := by
  simp only [BudgetRecord.encodes, Bool.and_eq_true, decide_eq_true_eq] at h
  exact h.1.1.1.1.2

/-! ## What a claim proposes -/

namespace ClaimRequest

variable (claim : ClaimRequest T) (current : BudgetRecord)

omit [DecidableEq T] in
theorem sequence_le : current.acceptedRevocationSequence ≤
    (claim.remembered current).acceptedRevocationSequence :=
  le_max_of_le_left (le_max_right _ _)

omit [DecidableEq T] in
theorem signers_subset : current.revokedSigners ⊆ (claim.remembered current).revokedSigners :=
  Finset.subset_union_right.trans Finset.subset_union_left

/-- A claim that nothing refuses reads a clock that has not gone back. -/
theorem time_le (h : claim.refusal current = none) : current.latestVerifierTime ≤ claim.now := by
  unfold refusal at h
  split at h
  · cases h
  · by_cases hlate : claim.now < current.latestVerifierTime
    · simp [hlate] at h
    · omega

theorem next_notBelow : (claim.next current).notBelow current = true := by
  rw [BudgetRecord.notBelow_iff]
  have hsequence := claim.sequence_le current
  have hsigners := claim.signers_subset current
  unfold next
  split
  · next hnone =>
    have htime := claim.time_le current (Option.isNone_iff_eq_none.mp hnone)
    exact ⟨rfl, rfl, rfl, Nat.le_succ _, htime, hsequence, hsigners⟩
  · exact ⟨rfl, rfl, rfl, le_refl _, le_refl _, hsequence, hsigners⟩

/-- A lease is taken exactly when nothing refuses it. -/
theorem consumed_next : (claim.next current).consumedCredentialLeases =
    current.consumedCredentialLeases + if claim.refusal current = none then 1 else 0 := by
  unfold next
  split
  · next hnone => simp [Option.isNone_iff_eq_none.mp hnone]
  · next hsome =>
    have hrefused : claim.refusal current ≠ none := by simpa using hsome
    simp [hrefused]

end ClaimRequest

/-! ## Calls and their requests -/

variable (T) in
inductive BudgetCall where
  | register
  | claim (request : ClaimRequest T)

variable (T) in
inductive Returned where
  | registered (snapshot : CommissioningBudgetSnapshot T)
  | updated (update : CommissioningBudgetUpdate T)

variable (T) in
abbrev BudgetRun := Prog (Request BudgetValue) Response (Except CommissioningBudgetRefusal (Returned T))

def BudgetCall.run (budget : CommissioningBudget T) : BudgetCall T → BudgetRun T
  | .register => budget.initializeBudget.run >>= fun outcome => .done (outcome.map .registered)
  | .claim request => (budget.claim request).run >>= fun outcome => .done (outcome.map .updated)

/-- The record is below the floor the call was given. -/
def BudgetCall.aboveRecord : BudgetCall T → BudgetRecord → Prop
  | .register, _ => False
  | .claim request, record => record.notBelow request.floor.record = false

/-- What a load makes of the store's answer. -/
def CommissioningBudget.loaded (budget : CommissioningBudget T) :
    Except GatewayAttemptError (Option BudgetValue) →
      Except CommissioningBudgetRefusal (CommissioningBudgetSnapshot T)
  | .error error => .error (storeRefusal error)
  | .ok none => .error .missing
  | .ok (some bytes) => CommissioningBudgetSnapshot.fromCanonicalJson bytes budget.binding

variable {budget : CommissioningBudget T}

omit [DecidableEq T] in
theorem load_run : budget.load.run =
    .call (.load .commissioningBudget budget.key) fun response => .done (budget.loaded response) := by
  refine congrArg (Prog.call _) (funext fun response => ?_)
  rcases response with error | _ | bytes <;> rfl

omit [DecidableEq T] in
theorem loaded_eq_ok {response : Except GatewayAttemptError (Option BudgetValue)}
    {snapshot : CommissioningBudgetSnapshot T} (h : budget.loaded response = .ok snapshot) :
    response = .ok (some snapshot.bytes) ∧ snapshot.matches budget.binding = .ok () := by
  rcases response with error | _ | bytes
  · cases h
  · cases h
  · unfold CommissioningBudget.loaded CommissioningBudgetSnapshot.fromCanonicalJson at h
    simp only [budget.valid, Bool.not_true, Bool.false_eq_true, if_false] at h
    cases bytes with
    | other bytes => cases h
    | record record =>
      obtain ⟨read, hencode, h⟩ := Except.bind_eq_ok.mp h
      obtain ⟨⟨⟩, hmatches, h⟩ := Except.bind_eq_ok.mp h
      cases h
      unfold CommissioningBudgetSnapshot.encode at hencode
      split at hencode
      · cases hencode
        exact ⟨rfl, hmatches⟩
      · cases hencode

omit [DecidableEq T] in
theorem matches_maximum {snapshot : CommissioningBudgetSnapshot T}
    (h : snapshot.matches budget.binding = .ok ()) :
    snapshot.record.maximumCredentialLeases = budget.binding.maximumCredentialLeases := by
  unfold CommissioningBudgetSnapshot.matches at h
  split at h
  · next hsame => exact hsame.2.2
  · cases h

/-- What one round of a claim asks for once it has read the record. -/
def CommissioningBudget.proposal (budget : CommissioningBudget T) (claim : ClaimRequest T)
    (current : CommissioningBudgetSnapshot T)
    (retry : Prog (Request BudgetValue) Response
      (Except CommissioningBudgetRefusal (CommissioningBudgetUpdate T))) :
    Prog (Request BudgetValue) Response
      (Except CommissioningBudgetRefusal (CommissioningBudgetUpdate T)) :=
  if !current.record.notBelow claim.floor.record then .done (.error .rollback)
  else match CommissioningBudgetSnapshot.encode T (claim.next current.record) with
    | .error refusal => .done (.error refusal)
    | .ok next =>
      .call (.replace .commissioningBudget budget.key current.bytes next.bytes) fun
        | .ok () => .done (.ok ⟨next, claim.refusal current.record⟩)
        | .error .conflict => retry
        | .error error => .done (.error (storeRefusal error))

/-- A round goes on with what an attempt answers, and an attempt that lost the race starts the next. -/
theorem attempts_succ (claim : ClaimRequest T) (rounds : Nat) :
    ∃ next : Option (CommissioningBudgetUpdate T) → BudgetProg (CommissioningBudgetUpdate T),
      (∀ update, next (some update) = pure update) ∧ next none = budget.attempts claim rounds ∧
        budget.attempts claim (rounds + 1) =
          budget.load >>= fun current => budget.attempt claim current >>= next := by
  refine ⟨_, ?_, ?_, rfl⟩
  · intro update
    rfl
  · rfl

theorem attempt_bind_run (claim : ClaimRequest T) (current : CommissioningBudgetSnapshot T)
    {next : Option (CommissioningBudgetUpdate T) → BudgetProg (CommissioningBudgetUpdate T)}
    (hsome : ∀ update, next (some update) = pure update) :
    (budget.attempt claim current >>= next).run =
      budget.proposal claim current (next none).run := by
  change Prog.bind (budget.attempt claim current).run (ExceptT.bindCont next) = _
  unfold CommissioningBudget.attempt CommissioningBudget.proposal
  split
  · rfl
  · cases CommissioningBudgetSnapshot.encode T (claim.next current.record) with
    | error refusal => rfl
    | ok update =>
      refine congrArg (Prog.call _) (funext fun response => ?_)
      rcases response with error | _
      · cases error <;> rfl
      · exact congrArg ExceptT.run (hsome _)

theorem attempts_succ_run (claim : ClaimRequest T) (rounds : Nat) :
    (budget.attempts claim (rounds + 1)).run =
      .call (.load .commissioningBudget budget.key) fun response =>
        match budget.loaded response with
        | .error refusal => .done (.error refusal)
        | .ok current => budget.proposal claim current (budget.attempts claim rounds).run := by
  obtain ⟨next, hsome, hnone, hround⟩ := @attempts_succ _ _ _ budget claim rounds
  rw [hround]
  change Prog.bind budget.load.run
    (ExceptT.bindCont fun current => budget.attempt claim current >>= next) = _
  rw [load_run]
  refine congrArg (Prog.call _) (funext fun response => ?_)
  change Prog.bind (Prog.done (budget.loaded response))
    (ExceptT.bindCont fun current => budget.attempt claim current >>= next) = _
  cases budget.loaded response with
  | error refusal => rfl
  | ok current => exact (attempt_bind_run claim current hsome).trans (by rw [hnone])

omit [DecidableEq T] in
theorem initializeBudget_run : budget.initializeBudget.run =
    match BudgetFormat.budgetBinding budget.binding with
    | none => .done (.error .bindingMismatch)
    | some bindingDigest =>
      match CommissioningBudgetSnapshot.encode T (budget.initial bindingDigest) with
      | .error refusal => .done (.error refusal)
      | .ok initial =>
        .call (.insertAll [⟨.commissioningBudget, budget.key, initial.bytes, none⟩]) fun
          | .ok (.inserted _) => .done (.ok initial)
          | .ok (.exists _) => budget.load.run
          | .error error => .done (.error (storeRefusal error)) := by
  unfold CommissioningBudget.initializeBudget
  cases BudgetFormat.budgetBinding budget.binding with
  | none => rfl
  | some bindingDigest =>
    dsimp only
    rw [lifted_bind_run]
    cases CommissioningBudgetSnapshot.encode T (budget.initial bindingDigest) with
    | error refusal => rfl
    | ok initial =>
      refine congrArg (Prog.call _) (funext fun response => ?_)
      rcases response with error | inserted
      · rfl
      · cases inserted <;> rfl

/-! ## What every request of a call keeps -/

/-- The call has returned an update. -/
def Returns (rest : BudgetRun T) (update : CommissioningBudgetUpdate T) : Prop :=
  rest = .done (.ok (.updated update))

/-- A record a claim may put in place of another: no lease more, or one more that is left. -/
structure Proposed (budget : CommissioningBudget T) (current next : BudgetRecord) : Prop where
  grows : next.notBelow current = true
  consumed : next.consumedCredentialLeases = current.consumedCredentialLeases ∨
    (next.consumedCredentialLeases = current.consumedCredentialLeases + 1 ∧
      next.consumedCredentialLeases ≤ budget.binding.maximumCredentialLeases)

/-- The update that answers an acknowledged replacement. -/
structure Acknowledged (call : BudgetCall T) (current next : BudgetRecord) (rest : BudgetRun T)
    (update : CommissioningBudgetUpdate T) : Prop where
  returns : Returns rest update
  stored : update.snapshot.record = next
  floored : ¬call.aboveRecord next
  charged : update.refusal = none ↔
    next.consumedCredentialLeases = current.consumedCredentialLeases + 1

/-- What a call may ask for, and how it goes on with each answer. -/
def Sanctioned (budget : CommissioningBudget T) (call : BudgetCall T) :
    (request : Request BudgetValue) → Response request → BudgetRun T → Prop
  | .load kind key, response, rest =>
    kind = .commissioningBudget ∧ key = budget.key ∧ (∀ update, ¬Returns rest update) ∧
    ∀ snapshot, budget.loaded response = .ok snapshot → call.aboveRecord snapshot.record →
      rest = .done (.error .rollback)
  | .insertAll entries, _, rest =>
    (∀ update, ¬Returns rest update) ∧ ∃ bindingDigest, entries =
      [⟨.commissioningBudget, budget.key, .record (budget.initial bindingDigest), none⟩]
  | .replace kind key current next, response, rest =>
    kind = .commissioningBudget ∧ key = budget.key ∧ ∃ before after,
      current = .record before ∧ next = .record after ∧ Proposed budget before after ∧
      match response with
      | .ok () => ∃ update, Acknowledged call before after rest update
      | .error _ => ∀ update, ¬Returns rest update
  | _, _, _ => False

omit [DecidableEq T] in
theorem encode_eq_ok {record : BudgetRecord} {snapshot : CommissioningBudgetSnapshot T}
    (h : CommissioningBudgetSnapshot.encode T record = .ok snapshot) :
    snapshot.record = record := by
  unfold CommissioningBudgetSnapshot.encode at h
  split at h
  · cases h
    rfl
  · cases h

theorem proposed_next {claim : ClaimRequest T} {current next : CommissioningBudgetSnapshot T}
    (hmatches : current.matches budget.binding = .ok ())
    (hencode : CommissioningBudgetSnapshot.encode T (claim.next current.record) = .ok next) :
    Proposed budget current.record next.record := by
  have hnext := encode_eq_ok hencode
  have hgrows := claim.next_notBelow current.record
  have hconsumed := claim.consumed_next current.record
  have hmaximum := matches_maximum hmatches
  have hle := BudgetRecord.consumed_le next.encoded
  rw [hnext] at hle ⊢
  have hsame := (BudgetRecord.notBelow_iff.mp hgrows).2.2.1
  refine ⟨hgrows, ?_⟩
  split at hconsumed
  · exact .inr ⟨hconsumed, by omega⟩
  · exact .inl hconsumed

theorem not_returns_attempts (claim : ClaimRequest T) (rounds : Nat)
    (update : CommissioningBudgetUpdate T) : ¬Returns
      ((budget.attempts claim rounds).run >>= fun outcome => .done (outcome.map .updated)) update := by
  intro h
  cases rounds with
  | zero => cases h
  | succ rounds =>
    rw [attempts_succ_run, Prog.call_bind] at h
    cases h

/-- Every request of a claim keeps what it must, however often it is retried. -/
theorem obeys_attempts (claim : ClaimRequest T) (rounds : Nat) :
    Obeys (Sanctioned budget (.claim claim))
      ((budget.attempts claim rounds).run >>= fun outcome => .done (outcome.map .updated)) := by
  induction rounds with
  | zero => trivial
  | succ rounds ih =>
    rw [attempts_succ_run, Prog.call_bind]
    intro response
    beta_reduce
    cases hloaded : budget.loaded response with
    | error refusal =>
      refine ⟨⟨rfl, rfl, fun update h => ?_, fun snapshot h => ?_⟩, trivial⟩
      · cases h
      · rw [hloaded] at h
        cases h
    | ok current =>
      obtain ⟨hresponse, hmatches⟩ := loaded_eq_ok hloaded
      have hsame {snapshot} (h : budget.loaded response = .ok snapshot) : snapshot = current := by
        rw [hloaded] at h
        exact (Except.ok.inj h).symm
      dsimp only
      unfold CommissioningBudget.proposal
      by_cases hbelow : current.record.notBelow claim.floor.record = true
      · have hfloor {snapshot} (h : budget.loaded response = .ok snapshot) :
            ¬(BudgetCall.claim claim).aboveRecord snapshot.record := by
          rw [hsame h]
          exact fun habove => by simp [BudgetCall.aboveRecord, hbelow] at habove
        simp only [hbelow, Bool.not_true, Bool.false_eq_true, if_false]
        cases hencode : CommissioningBudgetSnapshot.encode T (claim.next current.record) with
        | error refusal =>
          refine ⟨⟨rfl, rfl, fun update h => ?_, fun snapshot h habove => ?_⟩, trivial⟩
          · cases h
          · exact absurd habove (hfloor h)
        | ok next =>
          have hproposed := proposed_next hmatches hencode
          have hnext := encode_eq_ok hencode
          refine ⟨⟨rfl, rfl, fun update h => ?_, fun snapshot h habove => ?_⟩, fun response => ?_⟩
          · cases h
          · exact absurd habove (hfloor h)
          · rcases response with error | ⟨⟩
            · by_cases hconflict : error = .conflict
              · subst hconflict
                exact ⟨⟨rfl, rfl, _, _, rfl, rfl, hproposed, not_returns_attempts claim rounds⟩, ih⟩
              · refine ⟨⟨rfl, rfl, _, _, rfl, rfl, hproposed, fun update h => ?_⟩, ?_⟩ <;>
                  cases error <;> first | contradiction | trivial | cases h
            · have hgrows := BudgetRecord.notBelow_trans hproposed.grows hbelow
              have hcharged := claim.consumed_next current.record
              refine ⟨⟨rfl, rfl, _, _, rfl, rfl, hproposed,
                ⟨next, claim.refusal current.record⟩, rfl, rfl, ?_, ?_⟩, trivial⟩
              · exact fun habove => by simp [BudgetCall.aboveRecord, hgrows] at habove
              · rw [hnext, hcharged]
                split <;> simp_all
      · simp only [hbelow, Bool.not_false, if_true]
        refine ⟨⟨rfl, rfl, fun update h => ?_, fun snapshot h habove => rfl⟩, trivial⟩
        cases h

omit [DecidableEq T] in
theorem not_returns_registered
    (outcome : Except CommissioningBudgetRefusal (CommissioningBudgetSnapshot T))
    (update : CommissioningBudgetUpdate T) :
    ¬Returns (.done (outcome.map .registered)) update := by
  cases outcome <;> exact fun h => nomatch h

omit [DecidableEq T] in
theorem obeys_registered_load : Obeys (Sanctioned budget .register)
    (budget.load.run >>= fun outcome => .done (outcome.map .registered)) := by
  rw [load_run]
  exact fun response => ⟨⟨rfl, rfl, not_returns_registered _, fun _ _ habove => habove.elim⟩, trivial⟩

omit [DecidableEq T] in
theorem obeys_register : Obeys (Sanctioned budget .register)
    (budget.initializeBudget.run >>= fun outcome => .done (outcome.map .registered)) := by
  rw [initializeBudget_run]
  cases BudgetFormat.budgetBinding budget.binding with
  | none => trivial
  | some bindingDigest =>
    dsimp only
    cases hencode : CommissioningBudgetSnapshot.encode T (budget.initial bindingDigest) with
    | error refusal => trivial
    | ok initial =>
      have hentries : [(⟨.commissioningBudget, budget.key, initial.bytes, none⟩ :
          GatewayRecordEntry BudgetValue)] =
            [⟨.commissioningBudget, budget.key, .record (budget.initial bindingDigest), none⟩] := by
        rw [CommissioningBudgetSnapshot.bytes, encode_eq_ok hencode]
      intro response
      rcases response with error | first | index
      · exact ⟨⟨not_returns_registered (.error _), bindingDigest, hentries⟩, trivial⟩
      · exact ⟨⟨not_returns_registered (.ok _), bindingDigest, hentries⟩, trivial⟩
      · refine ⟨⟨fun update h => ?_, bindingDigest, hentries⟩, obeys_registered_load⟩
        beta_reduce at h
        rw [load_run] at h
        cases h

theorem obeys_claim (claim : ClaimRequest T) : Obeys (Sanctioned budget (.claim claim))
    ((budget.claim claim).run >>= fun outcome => .done (outcome.map .updated)) := by
  unfold CommissioningBudget.claim
  rw [lifted_bind_run]
  cases claim.floor.matches budget.binding with
  | error refusal => trivial
  | ok =>
    by_cases hbinding : claim.authority.permit.binding = budget.binding
    · simp only [hbinding, ne_eq, not_true_eq_false, if_false]
      exact obeys_attempts claim maxCommissioningClaimRetries
    · simp only [hbinding, ne_eq, not_false_eq_true, if_true]
      trivial

/-- Every request of a call keeps what it must. -/
theorem obeys_call (call : BudgetCall T) : Obeys (Sanctioned budget call) (call.run budget) := by
  cases call with
  | register => exact obeys_register
  | claim claim => exact obeys_claim claim

/-- A call that has asked nothing has returned no update. -/
theorem not_returns_run (call : BudgetCall T) (update : CommissioningBudgetUpdate T) :
    ¬Returns (call.run budget) update := by
  cases call with
  | register =>
    unfold BudgetCall.run
    rw [initializeBudget_run]
    cases BudgetFormat.budgetBinding budget.binding with
    | none => exact fun h => nomatch h
    | some bindingDigest =>
      dsimp only
      cases CommissioningBudgetSnapshot.encode T (budget.initial bindingDigest) <;>
        exact fun h => nomatch h
  | claim claim =>
    change ¬Returns ((budget.claim claim).run >>= fun outcome => .done (outcome.map .updated)) update
    unfold CommissioningBudget.claim
    rw [lifted_bind_run]
    cases claim.floor.matches budget.binding with
    | error refusal => exact fun h => nomatch h
    | ok =>
      by_cases hbinding : claim.authority.permit.binding = budget.binding
      · simp only [hbinding, ne_eq, not_true_eq_false, if_false]
        exact not_returns_attempts claim maxCommissioningClaimRetries update
      · simp only [hbinding, ne_eq, not_false_eq_true, if_true]
        exact fun h => nomatch h

/-! ## Runs -/

section Runs

variable [BoundedRecord BudgetValue]

/-- The record the store holds for the budget. -/
def Holds (budget : CommissioningBudget T) (store : Store BudgetValue) (record : BudgetRecord) :
    Prop := store.load .commissioningBudget budget.key = some (.record record)

def consumedLeases (budget : CommissioningBudget T) (store : Store BudgetValue) : Nat :=
  match store.load .commissioningBudget budget.key with
  | some (.record record) => record.consumedCredentialLeases
  | _ => 0

omit [BoundedRecord BudgetValue] [DecidableEq T] in
theorem consumedLeases_eq {store : Store BudgetValue} {record : BudgetRecord}
    (h : Holds budget store record) :
    consumedLeases budget store = record.consumedCredentialLeases := by
  unfold consumedLeases
  rw [show store.load .commissioningBudget budget.key = some (.record record) from h]

def Grows (budget : CommissioningBudget T) (store store' : Store BudgetValue) : Prop :=
  ∀ record, Holds budget store record →
    ∃ record', Holds budget store' record' ∧ record'.notBelow record = true

omit [BoundedRecord BudgetValue] [DecidableEq T] in
theorem Grows.of_load {store store' : Store BudgetValue}
    (h : store'.load .commissioningBudget budget.key =
      store.load .commissioningBudget budget.key) : Grows budget store store' :=
  fun record hrecord => ⟨record, h.trans hrecord, record.notBelow_refl⟩

omit [BoundedRecord BudgetValue] [DecidableEq T] in
theorem Grows.trans {a b c : Store BudgetValue} (hab : Grows budget a b) (hbc : Grows budget b c) :
    Grows budget a c := by
  intro record hrecord
  obtain ⟨between, hbetween, hle⟩ := hab record hrecord
  obtain ⟨last, hlast, hle'⟩ := hbc between hbetween
  exact ⟨last, hlast, BudgetRecord.notBelow_trans hle' hle⟩

/-- The store with its lost acknowledgements, its record that may only grow, and the leases taken. -/
def leasing (budget : CommissioningBudget T) :
    Discipline (Request BudgetValue) Response (Store BudgetValue) where
  exec := Request.Executes True
  inv _ := True
  order := Grows budget
  refl _ := .of_load rfl
  trans := Grows.trans
  touches store store' := consumedLeases budget store ≠ consumedLeases budget store'
  idle _ h := h rfl

/-- Everyone else leaves the budget's record alone. -/
def elsewhere (budget : CommissioningBudget T) (store store' : Store BudgetValue) : Prop :=
  store'.load .commissioningBudget budget.key = store.load .commissioningBudget budget.key

variable {ι : Type} [DecidableEq ι]

variable (T ι) in
abbrev LeasePool := Pool (Request BudgetValue) Response
  (Except CommissioningBudgetRefusal (Returned T)) (Store BudgetValue) ι

def startCalls (budget : CommissioningBudget T) (calls : ι → BudgetCall T)
    (store : Store BudgetValue) : LeasePool T ι where
  state := store
  programs i := (calls i).run budget
  changed _ := False

abbrev LeaseStep (budget : CommissioningBudget T) (pool pool' : LeasePool T ι) : Prop :=
  Interleave.Step (leasing budget) (elsewhere budget) pool pool'

abbrev LeaseRun (budget : CommissioningBudget T) (pool pool' : LeasePool T ι) : Prop :=
  Relation.ReflTransGen (LeaseStep budget) pool pool'

/-- What a request of a call did to the record, and how the call went on. -/
inductive Effect (budget : CommissioningBudget T) (call : BudgetCall T)
    (store store' : Store BudgetValue) {request : Request BudgetValue} (response : Response request)
    (rest : BudgetRun T) : Prop
  | unchanged (hload : store'.load .commissioningBudget budget.key =
      store.load .commissioningBudget budget.key) (hrest : ∀ update, ¬Returns rest update)
  | registered (bindingDigest : Digest)
      (hfree : store.load .commissioningBudget budget.key = none)
      (hholds : Holds budget store' (budget.initial bindingDigest))
      (hrest : ∀ update, ¬Returns rest update)
  | acknowledged (before after : BudgetRecord) (update : CommissioningBudgetUpdate T)
      (hbefore : Holds budget store before) (hafter : Holds budget store' after)
      (hproposed : Proposed budget before after)
      (hupdate : Acknowledged call before after rest update)
  | lost (before after : BudgetRecord) (error : GatewayAttemptError)
      (hbefore : Holds budget store before) (hafter : Holds budget store' after)
      (hproposed : Proposed budget before after) (hresponse : response = .error error)
      (hrest : ∀ update, ¬Returns rest update)

omit [DecidableEq T] in
theorem Sanctioned.effect {call : BudgetCall T} {request : Request BudgetValue}
    {response : Response request} {rest : BudgetRun T} {store store' : Store BudgetValue}
    (h : Sanctioned budget call request response rest)
    (hexec : Request.Executes True request store response store') :
    Effect budget call store store' response rest := by
  cases request with
  | load kind key =>
    have hstore := (executes_load hexec).1
    exact .unchanged (by rw [hstore]) h.2.2.1
  | insertAll entries =>
    obtain ⟨hrest, bindingDigest, rfl⟩ := h
    rcases executes_insertAll hexec with hstore | ⟨hfree, hstore⟩
    · exact .unchanged (by rw [hstore]) hrest
    · refine .registered bindingDigest ?_ ?_ hrest
      · simp [Store.load, hfree]
      · rw [Holds, hstore, Store.load_set]
  | replace kind key current next =>
    obtain ⟨rfl, rfl, before, after, rfl, rfl, hproposed, hrest⟩ := h
    rcases executes_replace hexec with ⟨hstore, error, rfl⟩ | ⟨hload, hstore⟩
    · exact .unchanged (by rw [hstore]) hrest
    · have hafter : Holds budget store' after := by rw [Holds, hstore, Store.load_set]
      rcases response with error | ⟨⟩
      · exact .lost before after error hload hafter hproposed rfl hrest
      · obtain ⟨update, hupdate⟩ := hrest
        exact .acknowledged before after update hload hafter hproposed hupdate
  | fencedInsertAll entries dependencies decide => exact h.elim
  | fencedReplace keys decide => exact h.elim

omit [BoundedRecord BudgetValue] [DecidableEq T] in
theorem Effect.grows {call : BudgetCall T} {store store' : Store BudgetValue}
    {request : Request BudgetValue} {response : Response request} {rest : BudgetRun T}
    (h : Effect budget call store store' response rest) : Grows budget store store' := by
  have hreplaced {before after : BudgetRecord} (hbefore : Holds budget store before)
      (hafter : Holds budget store' after) (hproposed : Proposed budget before after) :
      Grows budget store store' := by
    intro record hrecord
    have hsame : record = before := by
      have hvalues := Option.some.inj (Eq.trans (Eq.symm hrecord) hbefore)
      exact BudgetValue.record.inj hvalues
    exact ⟨after, hafter, hsame ▸ hproposed.grows⟩
  cases h with
  | unchanged hload => exact .of_load hload
  | registered bindingDigest hfree =>
    intro record hrecord
    exact nomatch hfree.symm.trans hrecord
  | acknowledged before after update hbefore hafter hproposed =>
    exact hreplaced hbefore hafter hproposed
  | lost before after error hbefore hafter hproposed => exact hreplaced hbefore hafter hproposed

/-! ## The ledger of a run -/

/-- A request of call `i` that took a lease while its answer was an error. -/
structure LostLease (budget : CommissioningBudget T) (start pool : LeasePool T ι) (i : ι) : Prop where
  lost : ∃ (before after : LeasePool T ι) (request : Request BudgetValue)
    (next : Response request → BudgetRun T) (error : GatewayAttemptError),
    LeaseRun budget start before ∧ LeaseStep budget before after ∧ LeaseRun budget after pool ∧
    before.programs i = .call request next ∧ after.programs i = next (.error error) ∧
    consumedLeases budget before.state ≠ consumedLeases budget after.state

/-- What holds of the calls of a run that have returned and of those that have taken a lease. -/
structure Ledger (budget : CommissioningBudget T) (calls : ι → BudgetCall T)
    (start pool : LeasePool T ι) : Prop where
  run : LeaseRun budget start pool
  grown : Grows budget start.state pool.state
  recorded : ∀ {i update}, Returns (pool.programs i) update →
    ∃ record, Holds budget pool.state record ∧ record.notBelow update.snapshot.record = true
  floored : ∀ {i update}, Returns (pool.programs i) update →
    ¬(calls i).aboveRecord update.snapshot.record
  counted : ∀ {i update}, Returns (pool.programs i) update → update.refusal = none →
    1 ≤ update.snapshot.record.consumedCredentialLeases ∧
    update.snapshot.record.consumedCredentialLeases ≤ budget.binding.maximumCredentialLeases
  distinct : ∀ {i j update update'}, i ≠ j → Returns (pool.programs i) update →
    Returns (pool.programs j) update' → update.refusal = none → update'.refusal = none →
    update.snapshot.record.consumedCredentialLeases ≠ update'.snapshot.record.consumedCredentialLeases
  charged : ∀ {i}, pool.changed i → (∃ update, Returns (pool.programs i) update ∧
    update.refusal = none) ∨ LostLease budget start pool i

variable {calls : ι → BudgetCall T} {start pool : LeasePool T ι}

omit [DecidableEq T] in
theorem LostLease.step {pool' : LeasePool T ι} {i : ι} (h : LostLease budget start pool i)
    (hstep : LeaseStep budget pool pool') : LostLease budget start pool' i := by
  obtain ⟨before, after, request, next, error, hbefore, hlost, hafter, hfacts⟩ := h.lost
  exact ⟨before, after, request, next, error, hbefore, hlost, hafter.tail hstep, hfacts⟩

omit [DecidableEq T] in
theorem Ledger.environment {store : Store BudgetValue} (h : Ledger budget calls start pool)
    (henvironment : elsewhere budget pool.state store) :
    Ledger budget calls start { pool with state := store } := by
  have hstep : LeaseStep budget pool { pool with state := store } := .environment henvironment
  have hgrows : Grows budget pool.state store := .of_load henvironment
  refine ⟨h.run.tail hstep, h.grown.trans hgrows, fun hreturns => ?_, h.floored, h.counted,
    h.distinct, fun hchanged => ?_⟩
  · obtain ⟨record, hholds, hle⟩ := h.recorded hreturns
    obtain ⟨later, hlater, hle'⟩ := hgrows record hholds
    exact ⟨later, hlater, BudgetRecord.notBelow_trans hle' hle⟩
  · exact (h.charged hchanged).imp id fun hlost => hlost.step hstep

omit [DecidableEq T] in
/-- Who has taken a lease after one more answer. -/
theorem Ledger.charged_answered {i j : ι} {request : Request BudgetValue}
    {next : Response request → BudgetRun T} {response : Response request}
    {store : Store BudgetValue} (h : Ledger budget calls start pool)
    (hprogram : pool.programs i = .call request next)
    (hstep : LeaseStep budget pool (pool.answered (leasing budget) i (next response) store))
    (htaken : consumedLeases budget pool.state ≠ consumedLeases budget store →
      (∃ update, Returns (next response) update ∧ update.refusal = none) ∨
        LostLease budget start (pool.answered (leasing budget) i (next response) store) i)
    (hchanged : (pool.answered (leasing budget) i (next response) store).changed j) :
    (∃ update, Returns ((pool.answered (leasing budget) i (next response) store).programs j) update ∧
      update.refusal = none) ∨
    LostLease budget start (pool.answered (leasing budget) i (next response) store) j := by
  by_cases hj : j = i
  · subst hj
    rcases hchanged with hchanged | ⟨-, htouches⟩
    · rcases h.charged hchanged with ⟨update, hreturns, -⟩ | hlost
      · rw [hprogram] at hreturns
        exact nomatch hreturns
      · exact .inr (hlost.step hstep)
    · simpa [Pool.answered] using htaken htouches
  · rcases hchanged with hchanged | ⟨hsame, -⟩
    · refine (h.charged hchanged).imp (fun ⟨update, hreturns, hrefusal⟩ => ⟨update, ?_, hrefusal⟩)
        fun hlost => hlost.step hstep
      simpa [Pool.answered, Function.update_of_ne hj] using hreturns
    · exact absurd hsame hj

omit [DecidableEq T] in
/-- After a request that gave no update, the updates are the ones there were. -/
theorem Ledger.silent {i : ι} {request : Request BudgetValue}
    {next : Response request → BudgetRun T} {response : Response request}
    {store : Store BudgetValue} (h : Ledger budget calls start pool)
    (hprogram : pool.programs i = .call request next)
    (hexec : Request.Executes True request pool.state response store)
    (hgrows : Grows budget pool.state store)
    (hrest : ∀ update, ¬Returns (next response) update)
    (htaken : consumedLeases budget pool.state ≠ consumedLeases budget store →
      ∃ error, response = .error error) :
    Ledger budget calls start (pool.answered (leasing budget) i (next response) store) := by
  have hstep : LeaseStep budget pool (pool.answered (leasing budget) i (next response) store) :=
    .call i hprogram hexec
  have hbefore {j : ι} {update} (hreturns : Returns ((pool.answered (leasing budget) i
      (next response) store).programs j) update) : Returns (pool.programs j) update := by
    by_cases hj : j = i
    · subst hj
      simp only [Pool.answered, Function.update_self] at hreturns
      exact absurd hreturns (hrest update)
    · simpa [Pool.answered, Function.update_of_ne hj] using hreturns
  refine ⟨h.run.tail hstep, h.grown.trans hgrows, fun hreturns => ?_,
    fun hreturns => h.floored (hbefore hreturns), fun hreturns => h.counted (hbefore hreturns),
    fun hne hi hj => h.distinct hne (hbefore hi) (hbefore hj), fun hchanged => ?_⟩
  · obtain ⟨record, hholds, hle⟩ := h.recorded (hbefore hreturns)
    obtain ⟨later, hlater, hle'⟩ := hgrows record hholds
    exact ⟨later, hlater, BudgetRecord.notBelow_trans hle' hle⟩
  · refine h.charged_answered hprogram hstep (fun htouches => .inr ?_) hchanged
    obtain ⟨error, rfl⟩ := htaken htouches
    exact ⟨pool, _, request, next, error, h.run, hstep, .refl, hprogram, Function.update_self ..,
      htouches⟩

omit [DecidableEq T] in
/-- The answer that acknowledges a replacement adds its update to the ledger. -/
theorem Ledger.acknowledge {i : ι} {request : Request BudgetValue}
    {next : Response request → BudgetRun T} {response : Response request}
    {store : Store BudgetValue} {before after : BudgetRecord} {added : CommissioningBudgetUpdate T}
    (h : Ledger budget calls start pool) (hprogram : pool.programs i = .call request next)
    (hexec : Request.Executes True request pool.state response store)
    (hgrows : Grows budget pool.state store) (hbefore : Holds budget pool.state before)
    (hafter : Holds budget store after) (hproposed : Proposed budget before after)
    (hadded : Acknowledged (calls i) before after (next response) added) :
    Ledger budget calls start (pool.answered (leasing budget) i (next response) store) := by
  have hstep : LeaseStep budget pool (pool.answered (leasing budget) i (next response) store) :=
    .call i hprogram hexec
  have hcases {j : ι} {update} (hreturns : Returns ((pool.answered (leasing budget) i
      (next response) store).programs j) update) :
      (j = i ∧ update = added) ∨ (j ≠ i ∧ Returns (pool.programs j) update) := by
    by_cases hj : j = i
    · subst hj
      simp only [Pool.answered, Function.update_self] at hreturns
      have hsame := Eq.trans (Eq.symm hreturns) hadded.returns
      exact .inl ⟨rfl, Returned.updated.inj (Except.ok.inj (Prog.done.inj hsame))⟩
    · exact .inr ⟨hj, by simpa [Pool.answered, Function.update_of_ne hj] using hreturns⟩
  -- whatever has been returned before lies strictly below a lease taken now
  have hbelow {j : ι} {update} (hreturns : Returns (pool.programs j) update)
      (hrefusal : added.refusal = none) : update.snapshot.record.consumedCredentialLeases <
        added.snapshot.record.consumedCredentialLeases := by
    obtain ⟨record, hholds, hle⟩ := h.recorded hreturns
    have hrecord : record = before := by
      have hvalues := Option.some.inj (Eq.trans (Eq.symm hholds) hbefore)
      exact BudgetValue.record.inj hvalues
    have hconsumed := (BudgetRecord.notBelow_iff.mp hle).2.2.2.1
    have hcharged := hadded.charged.mp hrefusal
    rw [hrecord] at hconsumed
    rw [hadded.stored]
    omega
  refine ⟨h.run.tail hstep, h.grown.trans hgrows, fun hreturns => ?_, fun hreturns => ?_,
    fun hreturns hrefusal => ?_, fun hne hi hj hrefusal hrefusal' => ?_, fun hchanged => ?_⟩
  · rcases hcases hreturns with ⟨rfl, rfl⟩ | ⟨-, hreturns⟩
    · exact ⟨after, hafter, by rw [hadded.stored]; exact after.notBelow_refl⟩
    · obtain ⟨record, hholds, hle⟩ := h.recorded hreturns
      obtain ⟨later, hlater, hle'⟩ := hgrows record hholds
      exact ⟨later, hlater, BudgetRecord.notBelow_trans hle' hle⟩
  · rcases hcases hreturns with ⟨rfl, rfl⟩ | ⟨-, hreturns⟩
    · rw [hadded.stored]
      exact hadded.floored
    · exact h.floored hreturns
  · rcases hcases hreturns with ⟨rfl, rfl⟩ | ⟨-, hreturns⟩
    · have hcharged := hadded.charged.mp hrefusal
      have hconsumed := hproposed.consumed
      rw [hadded.stored]
      omega
    · exact h.counted hreturns hrefusal
  · rcases hcases hi with ⟨rfl, rfl⟩ | ⟨-, hearlier⟩
    · rcases hcases hj with ⟨rfl, rfl⟩ | ⟨-, hearlier⟩
      · exact absurd rfl hne
      · exact (hbelow hearlier hrefusal).ne'
    · rcases hcases hj with ⟨rfl, rfl⟩ | ⟨-, hearlier'⟩
      · exact (hbelow hearlier hrefusal').ne
      · exact h.distinct hne hearlier hearlier' hrefusal hrefusal'
  · refine h.charged_answered hprogram hstep (fun htaken => .inl ⟨added, hadded.returns, ?_⟩) hchanged
    rw [consumedLeases_eq hbefore, consumedLeases_eq hafter] at htaken
    refine hadded.charged.mpr ?_
    rcases hproposed.consumed with hsame | ⟨hcharged, -⟩
    · exact absurd hsame.symm htaken
    · exact hcharged

omit [DecidableEq T] in
/-- A request the store answers at once. -/
theorem LeaseStep.performed (i : ι) {request : Request BudgetValue}
    {next : Response request → BudgetRun T} (hprogram : pool.programs i = .call request next) :
    LeaseStep budget pool (pool.answered (leasing budget) i (next (request.perform pool.state).1)
      (request.perform pool.state).2) :=
  .call i hprogram (.inl rfl)

/-- The ledger of every run, with what the calls in progress are held to. -/
theorem ledger_run {store : Store BudgetValue}
    (hrun : LeaseRun budget (startCalls budget calls store) pool) :
    Ledger budget calls (startCalls budget calls store) pool ∧
      ∀ i, Obeys (Sanctioned budget (calls i)) (pool.programs i) := by
  refine obeys_run (fun pool i request next response store h hprogram hkept hexec => ?_)
    (fun pool store h henvironment => h.environment henvironment) (fun i => obeys_call (calls i)) ?_
    hrun
  · have heffect := hkept.effect hexec
    have hgrows := heffect.grows
    cases heffect with
    | unchanged hload hrest =>
      refine h.silent hprogram hexec hgrows hrest fun htaken => absurd ?_ htaken
      simp only [consumedLeases, hload]
    | registered bindingDigest hfree hholds hrest =>
      refine h.silent hprogram hexec hgrows hrest fun htaken => absurd ?_ htaken
      rw [consumedLeases_eq hholds]
      simp [consumedLeases, hfree, CommissioningBudget.initial]
    | acknowledged before after update hbefore hafter hproposed hupdate =>
      exact h.acknowledge hprogram hexec hgrows hbefore hafter hproposed hupdate
    | lost before after error hbefore hafter hproposed hresponse hrest =>
      exact h.silent hprogram hexec hgrows hrest fun _ => ⟨error, hresponse⟩
  · exact {
      run := .refl
      grown := .of_load rfl
      recorded := fun h => absurd h (not_returns_run _ _)
      floored := fun h => absurd h (not_returns_run _ _)
      counted := fun h => absurd h (not_returns_run _ _)
      distinct := fun _ h => absurd h (not_returns_run _ _)
      charged := fun h => h.elim }

omit [DecidableEq T] in
theorem grows_run {pool' : LeasePool T ι} (hrun : LeaseRun budget pool pool')
    (hobeys : ∀ i, Obeys (Sanctioned budget (calls i)) (pool.programs i)) :
    Grows budget pool.state pool'.state := by
  refine (obeys_run (I := fun p : LeasePool T ι => Grows budget pool.state p.state)
    (fun p i request next response store h _ hkept hexec => ?_) (fun p store h henvironment => ?_)
    hobeys (.of_load rfl) hrun).1
  · exact h.trans (hkept.effect hexec).grows
  · exact h.trans (.of_load henvironment)

omit [DecidableEq T] in
/-- As many updates as leases, since their counts differ and none is above the ceiling. -/
theorem Ledger.card_le (h : Ledger budget calls start pool) (s : Finset ι)
    (hs : ∀ i ∈ s, ∃ update, Returns (pool.programs i) update ∧ update.refusal = none) :
    s.card ≤ budget.binding.maximumCredentialLeases := by
  choose update hreturns hrefusal using hs
  let count (i : s) : Nat := (update i.1 i.2).snapshot.record.consumedCredentialLeases
  have hinjective : Function.Injective count := by
    intro i j hcount
    by_contra hne
    exact h.distinct (fun hsame => hne (Subtype.ext hsame)) (hreturns i.1 i.2) (hreturns j.1 j.2)
      (hrefusal i.1 i.2) (hrefusal j.1 j.2) hcount
  have hmaps : ∀ i ∈ s.attach, count i ∈ Finset.Icc 1 budget.binding.maximumCredentialLeases :=
    fun i _ => Finset.mem_Icc.mpr (h.counted (hreturns i.1 i.2) (hrefusal i.1 i.2))
  have hcard := Finset.card_le_card_of_injOn count hmaps hinjective.injOn
  simpa using hcard

/-- However the calls on one budget interleave and whichever acknowledgements are lost, no more
leases are granted than the ceiling allows and the record only grows. -/
theorem commissioning_leases (calls : ι → BudgetCall T) (store : Store BudgetValue)
    {pool pool' : LeasePool T ι} (hrun : LeaseRun budget (startCalls budget calls store) pool)
    (hlater : LeaseRun budget pool pool') :
    (∀ s : Finset ι, (∀ i ∈ s, ∃ update, Returns (pool.programs i) update ∧ update.refusal = none) →
      s.card ≤ budget.binding.maximumCredentialLeases) ∧
    (∀ i j update update', i ≠ j → Returns (pool.programs i) update →
      Returns (pool.programs j) update' → update.refusal = none → update'.refusal = none →
      update.snapshot.record.consumedCredentialLeases ≠
        update'.snapshot.record.consumedCredentialLeases) ∧
    (∀ record, Holds budget pool.state record → ∃ later, Holds budget pool'.state later ∧
      record.consumedCredentialLeases ≤ later.consumedCredentialLeases ∧
      record.latestVerifierTime ≤ later.latestVerifierTime ∧
      record.acceptedRevocationSequence ≤ later.acceptedRevocationSequence ∧
      record.revokedSigners ⊆ later.revokedSigners) ∧
    (∀ i, pool.changed i →
      (∀ update, Returns (pool.programs i) update → update.refusal ≠ none) →
      LostLease budget (startCalls budget calls store) pool i) ∧
    (∀ i claim next snapshot, calls i = .claim claim →
      pool.programs i = .call (.load .commissioningBudget budget.key) next →
      budget.loaded (.ok (some snapshot.bytes)) = .ok snapshot →
      snapshot.record.notBelow claim.floor.record = false →
      next (.ok (some snapshot.bytes)) = .done (.error .rollback)) ∧
    (∀ i claim update, calls i = .claim claim → Returns (pool.programs i) update →
      update.snapshot.record.notBelow claim.floor.record = true ∧
      ∃ record, Holds budget pool.state record ∧
        record.notBelow claim.floor.record = true) := by
  obtain ⟨hledger, hobeys⟩ := ledger_run hrun
  refine ⟨hledger.card_le, fun i j update update' => hledger.distinct, fun record hholds => ?_,
    fun i hchanged hrefused => ?_, fun i claim next snapshot hcall hprogram hloaded hbelow => ?_,
    fun i claim update hcall hreturns => ?_⟩
  · obtain ⟨later, hholds', hle⟩ := grows_run hlater hobeys record hholds
    obtain ⟨-, -, -, hconsumed, htime, hsequence, hsigners⟩ := BudgetRecord.notBelow_iff.mp hle
    exact ⟨later, hholds', hconsumed, htime, hsequence, hsigners⟩
  · rcases hledger.charged hchanged with ⟨update, hreturns, hnone⟩ | hlost
    · exact absurd hnone (hrefused update hreturns)
    · exact hlost
  · have hi := hobeys i
    rw [hprogram] at hi
    obtain ⟨⟨-, -, -, habove⟩, -⟩ := hi (.ok (some snapshot.bytes))
    refine habove snapshot hloaded ?_
    rw [hcall]
    exact hbelow
  · have hfloored := hledger.floored hreturns
    rw [hcall] at hfloored
    have hnotBelow : update.snapshot.record.notBelow claim.floor.record = true := by
      simpa [BudgetCall.aboveRecord] using hfloored
    obtain ⟨record, hholds, hle⟩ := hledger.recorded hreturns
    exact ⟨hnotBelow, record, hholds, BudgetRecord.notBelow_trans hle hnotBelow⟩

end Runs

/-! ## One lease, two hosts -/

section Sample

local instance sampleBudgetFormat : BudgetFormat Unit where
  productionTarget _ := true
  budgetKey binding := some binding.principalSha256
  budgetBinding binding := some binding.resourcesSha256
  size _ := 300

local instance sampleBounded : BoundedRecord BudgetValue := ⟨fun _ => true⟩

def sampleCommissioning : CommissioningBinding Unit where
  protectedRun := "run/1"
  sourceCommit := "0123abcd"
  tuple := ()
  principalSha256 := .filled 1
  trustedContextsSha256 := [.filled 2]
  resourcesSha256 := .filled 3
  providerEnvironmentClass := .providerTestMode
  offlineEvidence := ⟨.filled 4, .filled 5⟩
  allowedActions := [.filled 6]
  maximumCredentialLeases := 1

def sampleLeaseBudget : CommissioningBudget Unit where
  key := .filled 1
  binding := sampleCommissioning
  valid := by decide
  keyed := rfl

def sampleRecord (consumed time : Nat) : BudgetRecord :=
  { sampleLeaseBudget.initial (.filled 3) with
    consumedCredentialLeases := consumed
    latestVerifierTime := time }

def sampleLeaseClaim (consumed : Nat) (h : (sampleRecord consumed 0).encodes Unit = true) :
    ClaimRequest Unit where
  authority :=
    { certificate := ⟨"signer", 0, 0, 100⟩
      revocations := ⟨1, 0, 100, [], []⟩
      permit := ⟨sampleCommissioning, 0, 0, 100⟩
      valid := by decide }
  request := ⟨"0123abcd", (), "run/1", .filled 1, .filled 2, .filled 3, .filled 6⟩
  now := 50
  clockTrusted := true
  floor := ⟨sampleRecord consumed 0, h⟩
  state := ⟨0, 0, ∅, ∅⟩

def sampleLeaseStore (consumed time : Nat) : Store BudgetValue where
  records kind key := if kind = .commissioningBudget ∧ key = .filled 1 then
    some ⟨.record (sampleRecord consumed time), none⟩ else none
  clock := 0

def sampleHosts (_ : Bool) : BudgetCall Unit := .claim (sampleLeaseClaim 0 (by decide))

theorem sample_commissioning_leases : ∃ pool : LeasePool Unit Bool,
    LeaseRun sampleLeaseBudget (startCalls sampleLeaseBudget sampleHosts (sampleLeaseStore 0 0))
      pool ∧
    (∃ update, Returns (pool.programs false) update ∧ update.refusal = none) ∧
    ∀ s : Finset Bool, (∀ host ∈ s, ∃ update,
      Returns (pool.programs host) update ∧ update.refusal = none) → s.card ≤ 1 := by
  obtain ⟨pool, hrun, hgranted⟩ : ∃ pool : LeasePool Unit Bool,
      LeaseRun sampleLeaseBudget (startCalls sampleLeaseBudget sampleHosts (sampleLeaseStore 0 0))
        pool ∧ ∃ update, Returns (pool.programs false) update ∧ update.refusal = none :=
    ⟨_, .tail (.tail .refl (.performed false rfl)) (.performed false rfl), _, rfl, rfl⟩
  exact ⟨pool, hrun, hgranted, (commissioning_leases sampleHosts _ hrun .refl).1⟩

/-- A claim above the stored record fails without the rollback refusal when its read fails. -/
theorem rollback_unread : ∃ pool : LeasePool Unit Bool,
    LeaseRun sampleLeaseBudget
      (startCalls sampleLeaseBudget (fun _ => .claim (sampleLeaseClaim 1 (by decide)))
        (sampleLeaseStore 0 0)) pool ∧
    Holds sampleLeaseBudget pool.state (sampleRecord 0 0) ∧
    (sampleRecord 0 0).notBelow (sampleRecord 1 0) = false ∧
    pool.programs false = .done (.error .unavailable) := by
  refine ⟨_, .tail .refl (.call false rfl (.inr (.inl ⟨.unavailable, rfl, rfl⟩))), rfl, by decide, rfl⟩

end Sample

end AuthsProof.Gateway
