import AuthsProof.Lifecycle.Model

/-! The pure decision kernel of the lifecycle: which operation is legal in which state, and whether a
reservation fits. -/

namespace AuthsProof.Lifecycle

inductive OperationCode where
  | recordDecision
  | reserve
  | recordExecutionIntent
  | authorizeCredential
  | startAttempt
  | markProviderCallEntered
  | commit
  | release
  | markOutcomeUnknown
  | reconcileEffect
  | reconcileNonEffect
  | reconcileInconclusive
  deriving DecidableEq

structure TransitionGates where
  coreAuthorized : Bool
  policyEligible : Bool
  configurationMatches : Bool
  notRevoked : Bool
  notExpired : Bool
  capacityAvailable : Bool
  executionIntentPresent : Bool
  credentialAuthorized : Bool
  attemptPresent : Bool
  providerCallEntered : Bool
  cancellationAllowed : Bool
  definiteEffect : Bool
  definiteNonEffect : Bool
  reconciliationFresh : Bool
  reconciliationMatches : Bool

inductive KernelCode where
  | applied (state : LifecycleState)
  | observationOnly
  | terminal
  | illegalTransition
  | notAuthorized
  | notEligible
  | configurationMismatch
  | revoked
  | expired
  | capacityExceeded
  | executionIntentMissing
  | credentialNotAuthorized
  | attemptMissing
  | providerCallNotEntered
  | effectNotProved
  | nonEffectNotProved
  | reconciliationStale
  | reconciliationMismatch
  deriving DecidableEq

def reconciliationCode (gates : TransitionGates) (next : LifecycleState) : KernelCode :=
  if !gates.reconciliationFresh then .reconciliationStale
  else if !gates.reconciliationMatches then .reconciliationMismatch
  else .applied next

/-- One legal transition or the first failure, in the order the gates are read. -/
def transitionCode (current : Option LifecycleState) (operation : OperationCode)
    (gates : TransitionGates) : KernelCode :=
  if current.any LifecycleState.isTerminal then .terminal
  else match current, operation with
    | none, .recordDecision =>
      if !gates.coreAuthorized then .notAuthorized
      else if !gates.policyEligible then .notEligible
      else if !gates.configurationMatches then .configurationMismatch
      else if !gates.notRevoked then .revoked
      else if !gates.notExpired then .expired
      else .applied .decisionRecorded
    | some .decisionRecorded, .reserve =>
      if !gates.configurationMatches then .configurationMismatch
      else if !gates.notRevoked then .revoked
      else if !gates.notExpired then .expired
      else if !gates.capacityAvailable then .capacityExceeded
      else .applied .reserved
    | some .reserved, .recordExecutionIntent =>
      if !gates.configurationMatches then .configurationMismatch
      else if !gates.notRevoked then .revoked
      else if !gates.notExpired then .expired
      else if !gates.executionIntentPresent then .executionIntentMissing
      else .applied .executionIntentRecorded
    | some .executionIntentRecorded, .authorizeCredential =>
      if !gates.configurationMatches then .configurationMismatch
      else if !gates.notRevoked then .revoked
      else if !gates.notExpired then .expired
      else if !gates.executionIntentPresent then .executionIntentMissing
      else if gates.credentialAuthorized then .illegalTransition
      else .applied .executionIntentRecorded
    | some .executionIntentRecorded, .startAttempt =>
      if !gates.configurationMatches then .configurationMismatch
      else if !gates.notRevoked then .revoked
      else if !gates.notExpired then .expired
      else if !gates.executionIntentPresent then .executionIntentMissing
      else if !gates.credentialAuthorized then .credentialNotAuthorized
      else .applied .executing
    | some .executing, .markProviderCallEntered =>
      if gates.providerCallEntered then .illegalTransition
      else if gates.attemptPresent then .applied .executing
      else .attemptMissing
    | some .executing, .commit =>
      if !gates.attemptPresent then .attemptMissing
      else if !gates.providerCallEntered then .providerCallNotEntered
      else if !gates.definiteEffect then .effectNotProved
      else .applied .committed
    | some .reserved, .release =>
      if gates.attemptPresent then .illegalTransition
      else if !gates.cancellationAllowed && !gates.definiteNonEffect then .nonEffectNotProved
      else .applied .released
    | some .executionIntentRecorded, .release =>
      if gates.attemptPresent then .illegalTransition else .applied .released
    | some .executing, .release =>
      if !gates.attemptPresent then .attemptMissing
      else if !gates.definiteNonEffect then .nonEffectNotProved
      else .applied .released
    | some .executing, .markOutcomeUnknown =>
      if gates.attemptPresent then .applied .outcomeUnknown else .attemptMissing
    | some .outcomeUnknown, .reconcileEffect => reconciliationCode gates .reconciledCommitted
    | some .outcomeUnknown, .reconcileNonEffect => reconciliationCode gates .reconciledReleased
    | some .outcomeUnknown, .reconcileInconclusive =>
      if !gates.reconciliationFresh then .reconciliationStale
      else if !gates.reconciliationMatches then .reconciliationMismatch
      else .observationOnly
    | _, _ => .illegalTransition

def additiveCapacityAvailable (ceiling committed active requested : UInt64) : Bool :=
  if ceiling == 0 || requested == 0 then false
  else match Checked.add committed active with
    | none => false
    | some used =>
      match Checked.add used requested with
      | none => false
      | some next => next ≤ ceiling

theorem additiveCapacityAvailable_iff {ceiling committed active requested : UInt64} :
    additiveCapacityAvailable ceiling committed active requested = true ↔
      requested ≠ 0 ∧ committed.toNat + active.toNat + requested.toNat ≤ ceiling.toNat := by
  unfold additiveCapacityAvailable
  have hceiling := ceiling.toNat_lt
  by_cases hzero : ceiling = 0 ∨ requested = 0
  · have hzero' : (ceiling == 0 || requested == 0) = true := by simpa using hzero
    rw [if_pos hzero']
    refine ⟨fun h => (nomatch h), fun ⟨hrequested, hle⟩ => ?_⟩
    have hc : ceiling = 0 := hzero.resolve_right hrequested
    have hr : requested.toNat ≠ 0 := fun h => hrequested (UInt64.toNat_inj.mp h)
    rw [hc] at hle
    simp only [UInt64.toNat_zero] at hle
    omega
  · obtain ⟨hc, hr⟩ := not_or.mp hzero
    have hzero' : ¬(ceiling == 0 || requested == 0) = true := by simpa using ⟨hc, hr⟩
    rw [if_neg hzero']
    cases hused : Checked.add committed active with
    | none =>
      have hoverflow := Checked.add_eq_none.mp hused
      simp only [Bool.false_eq_true, false_iff, not_and]
      omega
    | some used =>
      have husedNat := Checked.add_eq_some.mp hused
      dsimp only
      cases hnext : Checked.add used requested with
      | none =>
        have hoverflow := Checked.add_eq_none.mp hnext
        simp only [Bool.false_eq_true, false_iff, not_and]
        omega
      | some next =>
        have hnextNat := Checked.add_eq_some.mp hnext
        simp only [decide_eq_true_eq, UInt64.le_iff_toNat_le, ne_eq, hr, not_false_eq_true, true_and,
          husedNat, hnextNat]

def exclusiveCapacityAvailable (hasLiveOwner ownerIsExactReplay : Bool) : Bool :=
  !hasLiveOwner || ownerIsExactReplay

inductive ReplayCode where
  | absent
  | exactReplay
  | conflict
  deriving DecidableEq

def replayCode (recordExists commitmentsEqual : Bool) : ReplayCode :=
  if !recordExists then .absent else if commitmentsEqual then .exactReplay else .conflict

/-- The legal edges between the states of a record, each under the gates it passes. -/
inductive Legal (gates : TransitionGates) : LifecycleState → OperationCode → LifecycleState → Prop
  | reserve : gates.configurationMatches = true → gates.notRevoked = true →
      gates.notExpired = true → gates.capacityAvailable = true →
      Legal gates .decisionRecorded .reserve .reserved
  | recordExecutionIntent : gates.configurationMatches = true → gates.notRevoked = true →
      gates.notExpired = true → gates.executionIntentPresent = true →
      Legal gates .reserved .recordExecutionIntent .executionIntentRecorded
  | authorizeCredential : gates.configurationMatches = true → gates.notRevoked = true →
      gates.notExpired = true → gates.executionIntentPresent = true →
      gates.credentialAuthorized = false →
      Legal gates .executionIntentRecorded .authorizeCredential .executionIntentRecorded
  | startAttempt : gates.configurationMatches = true → gates.notRevoked = true →
      gates.notExpired = true → gates.executionIntentPresent = true →
      gates.credentialAuthorized = true →
      Legal gates .executionIntentRecorded .startAttempt .executing
  | markProviderCallEntered : gates.providerCallEntered = false → gates.attemptPresent = true →
      Legal gates .executing .markProviderCallEntered .executing
  | commit : gates.attemptPresent = true → gates.providerCallEntered = true →
      gates.definiteEffect = true → Legal gates .executing .commit .committed
  | releaseReserved : gates.attemptPresent = false →
      (gates.cancellationAllowed = true ∨ gates.definiteNonEffect = true) →
      Legal gates .reserved .release .released
  | releaseIntended : gates.attemptPresent = false →
      Legal gates .executionIntentRecorded .release .released
  | releaseExecuting : gates.attemptPresent = true → gates.definiteNonEffect = true →
      Legal gates .executing .release .released
  | markOutcomeUnknown : gates.attemptPresent = true →
      Legal gates .executing .markOutcomeUnknown .outcomeUnknown
  | reconcileEffect : gates.reconciliationFresh = true → gates.reconciliationMatches = true →
      Legal gates .outcomeUnknown .reconcileEffect .reconciledCommitted
  | reconcileNonEffect : gates.reconciliationFresh = true → gates.reconciliationMatches = true →
      Legal gates .outcomeUnknown .reconcileNonEffect .reconciledReleased
  | reconcileInconclusive : gates.reconciliationFresh = true → gates.reconciliationMatches = true →
      Legal gates .outcomeUnknown .reconcileInconclusive .outcomeUnknown

/-- The state a code moves a record to, if it moves it at all. -/
def KernelCode.next (current : LifecycleState) : KernelCode → Option LifecycleState
  | .applied state => some state
  | .observationOnly => some current
  | _ => none

/-- The transition table has no other edges. -/
theorem legal_of_transitionCode {gates : TransitionGates} {current next : LifecycleState}
    {operation : OperationCode}
    (h : (transitionCode (some current) operation gates).next current = some next) :
    Legal gates current operation next := by
  cases current <;> cases operation <;>
    simp only [transitionCode, LifecycleState.isTerminal, reconciliationCode, Option.any_some,
      Bool.false_eq_true, if_false, if_true, apply_ite (KernelCode.next _)] at h <;>
    simp only [KernelCode.next, Option.ite_none_left_eq_some, Option.ite_none_right_eq_some,
      Option.some.injEq, Bool.not_eq_true', Bool.not_eq_false, Bool.not_eq_true, Bool.and_eq_true,
      not_and, reduceCtorEq] at h
  case decisionRecorded.reserve =>
    obtain ⟨hconfiguration, hrevoked, hexpired, hcapacity, rfl⟩ := h
    exact .reserve hconfiguration hrevoked hexpired hcapacity
  case reserved.recordExecutionIntent =>
    obtain ⟨hconfiguration, hrevoked, hexpired, hintent, rfl⟩ := h
    exact .recordExecutionIntent hconfiguration hrevoked hexpired hintent
  case reserved.release =>
    obtain ⟨hattempt, hproof, rfl⟩ := h
    refine .releaseReserved hattempt ?_
    by_cases hcancel : gates.cancellationAllowed = true
    · exact .inl hcancel
    · exact .inr (hproof (by simpa using hcancel))
  case executionIntentRecorded.authorizeCredential =>
    obtain ⟨hconfiguration, hrevoked, hexpired, hintent, hcredential, rfl⟩ := h
    exact .authorizeCredential hconfiguration hrevoked hexpired hintent hcredential
  case executionIntentRecorded.startAttempt =>
    obtain ⟨hconfiguration, hrevoked, hexpired, hintent, hcredential, rfl⟩ := h
    exact .startAttempt hconfiguration hrevoked hexpired hintent hcredential
  case executionIntentRecorded.release =>
    obtain ⟨hattempt, rfl⟩ := h
    exact .releaseIntended hattempt
  case executing.markProviderCallEntered =>
    obtain ⟨hentered, hattempt, rfl⟩ := h
    exact .markProviderCallEntered hentered hattempt
  case executing.commit =>
    obtain ⟨hattempt, hentered, heffect, rfl⟩ := h
    exact .commit hattempt hentered heffect
  case executing.release =>
    obtain ⟨hattempt, hnoneffect, rfl⟩ := h
    exact .releaseExecuting hattempt hnoneffect
  case executing.markOutcomeUnknown =>
    obtain ⟨hattempt, rfl⟩ := h
    exact .markOutcomeUnknown hattempt
  case outcomeUnknown.reconcileEffect =>
    obtain ⟨hfresh, hmatches, rfl⟩ := h
    exact .reconcileEffect hfresh hmatches
  case outcomeUnknown.reconcileNonEffect =>
    obtain ⟨hfresh, hmatches, rfl⟩ := h
    exact .reconcileNonEffect hfresh hmatches
  case outcomeUnknown.reconcileInconclusive =>
    obtain ⟨hfresh, hmatches, rfl⟩ := h
    exact .reconcileInconclusive hfresh hmatches

end AuthsProof.Lifecycle
