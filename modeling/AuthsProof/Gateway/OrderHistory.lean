import AuthsProof.Gateway.OrderTrack
import Mathlib.Data.List.Chain

/-! What every run of the admission order has done before it names an action. -/

namespace AuthsProof.Gateway

/-! ## The order of the phases -/

/-- How far a phase is. The provider write and a refused entry exclude each other. -/
def Phase.rank : Phase → Nat
  | .start => 0
  | .clock => 1
  | .verify => 2
  | .admission => 3
  | .scope => 4
  | .prepare => 5
  | .claim => 6
  | .reload => 7
  | .lease => 8
  | .prefixGuard => 9
  | .account => 10
  | .denied index => 11 + index.toNat
  | .preEntry => 267
  | .ceiling => 268
  | .checkpoint => 269
  | .entryReload => 270
  | .deadline => 271
  | .grant => 272
  | .send | .recordNotEntered => 273
  | .recordResponse | .recordUnknown => 274
  | .done => 275

/-- The phase that awaits the result of an action. -/
def SubmitAction.phase : SubmitAction → Phase
  | .readClock => .clock
  | .verify => .verify
  | .admission => .admission
  | .bindScope => .scope
  | .prepare => .prepare
  | .claim => .claim
  | .reload => .reload
  | .lease => .lease
  | .checkPrefix => .prefixGuard
  | .readAccount => .account
  | .deniedRead index => .denied index
  | .preEntryRead => .preEntry
  | .ceilingRead => .ceiling
  | .recordCheckpoint => .checkpoint
  | .reloadBeforeEntry => .entryReload
  | .checkDeadline => .deadline
  | .grantEntry => .grant
  | .send => .send
  | .recordResponse => .recordResponse
  | .recordUnknown => .recordUnknown
  | .recordNotEntered _ => .recordNotEntered
  | .stop _ => .done

/-- What any step from a phase of some rank does, before the machine has stopped. -/
structure Advances (rank : Nat) (state : SubmitState) (decision : SubmitDecision) : Prop where
  plan : decision.state.plan = state.plan
  phase : decision.state.phase = decision.action.phase
  later : rank < decision.state.phase.rank
  refused : decision.action = .stop .refused → rank < 6

theorem advances_go {rank : Nat} {state : SubmitState} {action : SubmitAction}
    (hrank : rank < action.phase.rank) (hgoes : action ≠ .stop .refused) :
    Advances rank state (go state action.phase action) :=
  ⟨rfl, rfl, hrank, fun h => absurd h hgoes⟩

theorem advances_stop {rank : Nat} {state : SubmitState} {reason : Stop} (hrank : rank < 275)
    (hreason : reason ≠ .refused) : Advances rank state (stop state reason) :=
  @advances_go rank state (.stop reason) hrank (by simpa using hreason)

theorem advances_halt {rank : Nat} {state : SubmitState} (hrank : rank < 275) :
    Advances rank state (halt state) := advances_stop hrank (by decide)

theorem advances_refused {rank : Nat} {state : SubmitState} (hrank : rank < 6) :
    Advances rank state (stop state .refused) :=
  ⟨rfl, rfl, Nat.lt_trans hrank (show 6 < 275 by decide), fun _ => hrank⟩

theorem advances_notEntered {rank : Nat} {state : SubmitState} {refusal : Refusal}
    (hrank : rank < 273) : Advances rank state (notEntered state refusal) :=
  @advances_go rank state (.recordNotEntered refusal) hrank (by simp)

theorem advances_preClaim {rank : Nat} {state : SubmitState} {passed : Bool}
    {next : SubmitDecision} (hrank : rank < 6) (hnext : Advances rank state next) :
    Advances rank state (preClaim state passed next) := by
  cases passed
  · exact advances_refused hrank
  · exact hnext

theorem advances_afterReads {rank : Nat} {state : SubmitState} (hrank : rank < 269) :
    Advances rank state (afterReads state) := by
  unfold afterReads
  split
  · exact @advances_go rank state .recordCheckpoint hrank (by decide)
  · exact @advances_go rank state .reloadBeforeEntry (Nat.lt_succ_of_lt hrank) (by decide)

theorem advances_ceilingFrom {rank : Nat} {state : SubmitState} (hrank : rank < 268) :
    Advances rank state (ceilingFrom state) := by
  unfold ceilingFrom
  split
  · exact @advances_go rank state .ceilingRead hrank (by decide)
  · exact advances_afterReads (by omega)

theorem advances_preEntryFrom {rank : Nat} {state : SubmitState} (hrank : rank < 267) :
    Advances rank state (preEntryFrom state) := by
  unfold preEntryFrom
  split
  · exact @advances_go rank state .preEntryRead hrank (by decide)
  · exact advances_ceilingFrom (by omega)

theorem advances_deniedFrom {rank : Nat} {state : SubmitState} {index : UInt8}
    (hrank : rank < 11 + index.toNat) : Advances rank state (deniedFrom state index) := by
  unfold deniedFrom
  split
  · exact @advances_go rank state (.deniedRead index) hrank (by simp)
  · have hbound := index.toNat_lt
    exact advances_preEntryFrom (by omega)

theorem advances_afterDenied {state : SubmitState} {index : UInt8} {result : DeniedResult} :
    Advances (11 + index.toNat) state (afterDenied state index result) := by
  have hbound := index.toNat_lt
  cases result with
  | answered => exact advances_notEntered (by omega)
  | unavailable => exact advances_notEntered (by omega)
  | refused =>
    unfold afterDenied
    simp only
    split
    · next hlt =>
      have hnat := UInt8.lt_iff_toNat_lt.mp hlt
      have hreads := state.plan.deniedReads.toNat_lt
      refine advances_deniedFrom ?_
      rw [UInt8.toNat_add, UInt8.toNat_one, Nat.mod_eq_of_lt (by omega)]
      omega
    · exact advances_halt (by omega)

theorem advances_preClaimStep {state : SubmitState} (event : SubmitEvent)
    (hrank : state.phase.rank ≤ 6) :
    Advances state.phase.rank state (preClaimStep state event) := by
  obtain ⟨plan, phase, argument⟩ := state
  unfold preClaimStep
  cases phase <;> simp only [Phase.rank] at hrank ⊢ <;> cases event
  all_goals first
    | exact advances_halt (by omega)
    | skip
  case start.start => exact @advances_go _ _ .readClock (by decide) (by decide)
  case clock.clock read =>
    exact advances_preClaim (by decide) (@advances_go _ _ .verify (by decide) (by decide))
  case verify.verification result =>
    cases result with
    | refused => exact advances_refused (by decide)
    | authorized a => exact ⟨rfl, rfl, show 2 < 3 by decide, fun h => (nomatch h)⟩
  case admission.admission admitted =>
    refine advances_preClaim (by decide) ?_
    unfold afterAdmission
    split
    · exact @advances_go _ _ .bindScope (by decide) (by decide)
    · exact @advances_go _ _ .prepare (by decide) (by decide)
  case scope.scope bound =>
    exact advances_preClaim (by decide) (@advances_go _ _ .prepare (by decide) (by decide))
  case prepare.preparation prepared =>
    exact advances_preClaim (by decide) (@advances_go _ _ .claim (by decide) (by decide))
  case claim.claim result =>
    cases result with
    | reserved => exact @advances_go _ _ .reload (by decide) (by decide)
    | _ => exact advances_stop (by decide) (by decide)

theorem advances_leaseStep {state : SubmitState} (event : SubmitEvent)
    (hrank : state.phase.rank < 275) :
    Advances state.phase.rank state (leaseStep state event) := by
  obtain ⟨plan, phase, argument⟩ := state
  unfold leaseStep
  cases phase <;> simp only [Phase.rank] at hrank ⊢ <;> cases event
  all_goals first
    | exact advances_halt (by omega)
    | skip
  case reload.reload unchanged =>
    cases unchanged
    · exact advances_notEntered (by decide)
    · exact @advances_go _ _ .lease (by decide) (by decide)
  case lease.lease leased =>
    cases leased
    · exact advances_notEntered (by decide)
    · exact @advances_go _ _ .checkPrefix (by decide) (by decide)
  case prefixGuard.prefixGuard allowed =>
    cases allowed
    · exact advances_notEntered (by decide)
    · simp only [if_true, afterPrefix]
      split
      · exact @advances_go _ _ .readAccount (by decide) (by decide)
      · exact advances_deniedFrom (by decide)
  case account.account result =>
    cases result with
    | equal => exact advances_deniedFrom (by decide)
    | _ => exact advances_notEntered (by decide)
  case denied.denied index result => exact advances_afterDenied

theorem advances_entryStep {state : SubmitState} (event : SubmitEvent)
    (hrank : state.phase.rank < 275) :
    Advances state.phase.rank state (entryStep state event) := by
  obtain ⟨plan, phase, argument⟩ := state
  unfold entryStep
  cases phase <;> simp only [Phase.rank] at hrank ⊢ <;> cases event
  all_goals first
    | exact advances_halt (by omega)
    | skip
  case preEntry.preEntry result =>
    cases result with
    | satisfied => exact advances_ceilingFrom (by decide)
    | _ => exact advances_notEntered (by decide)
  case ceiling.ceiling read =>
    cases read with
    | unavailable => exact advances_notEntered (by decide)
    | read basis bindsEqual =>
      unfold afterCeiling
      simp only
      split
      · exact advances_notEntered (by decide)
      · split
        · exact advances_afterReads (by decide)
        · exact advances_notEntered (by decide)
  case checkpoint.recorded recorded =>
    cases recorded
    · exact advances_stop (by decide) (by decide)
    · exact @advances_go _ _ .reloadBeforeEntry (by decide) (by decide)
  case entryReload.reload unchanged =>
    cases unchanged
    · exact advances_notEntered (by decide)
    · exact @advances_go _ _ .checkDeadline (by decide) (by decide)
  case deadline.deadline within =>
    cases within
    · exact advances_notEntered (by decide)
    · exact @advances_go _ _ .grantEntry (by decide) (by decide)
  case grant.granted granted =>
    cases granted
    · exact advances_stop (by decide) (by decide)
    · exact @advances_go _ _ .send (by decide) (by decide)
  case send.write result =>
    cases result
    · exact @advances_go _ _ .recordUnknown (by decide) (by decide)
    · exact @advances_go _ _ .recordResponse (by decide) (by decide)
  case recordResponse.response record =>
    cases record <;> exact advances_stop (by decide) (by decide)
  case recordUnknown.recorded recorded => exact advances_stop (by decide) (by decide)
  case recordNotEntered.recorded recorded =>
    cases recorded <;> exact advances_stop (by decide) (by decide)

theorem rank_done_iff {phase : Phase} : phase.rank < 275 ↔ phase ≠ .done := by
  cases phase with
  | denied index =>
    have hbound := index.toNat_lt
    simp only [Phase.rank, ne_eq, reduceCtorEq, not_false_eq_true, iff_true]
    omega
  | _ => decide

theorem rank_le_done (phase : Phase) : phase.rank ≤ 275 := by
  by_cases hdone : phase = .done
  · rw [hdone]
    exact Nat.le_refl _
  · exact Nat.le_of_lt (rank_done_iff.mpr hdone)

/-- Until it stops, every step moves the machine on. -/
theorem advances_nextStep {state : SubmitState} (event : SubmitEvent)
    (hphase : state.phase ≠ .done) :
    Advances state.phase.rank state (nextStep state event) := by
  have hrank := rank_done_iff.mpr hphase
  unfold nextStep
  split
  case h_23 hdone => exact absurd hdone hphase
  all_goals first
    | exact advances_preClaimStep event (by simp [*, Phase.rank])
    | exact advances_leaseStep event hrank
    | exact advances_entryStep event hrank

theorem nextStep_done {state : SubmitState} (event : SubmitEvent) (hphase : state.phase = .done) :
    nextStep state event = halt state := by
  unfold nextStep
  rw [hphase]

/-! ## Whole runs -/

theorem decisions_append (state : SubmitState) (events : List SubmitEvent) (event : SubmitEvent) :
    decisions state (events ++ [event]) =
      decisions state events ++ [nextStep (after state events) event] := by
  induction events generalizing state with
  | nil => rfl
  | cons first events ih => simp [decisions, after, ih]

theorem length_decisions (state : SubmitState) (events : List SubmitEvent) :
    (decisions state events).length = events.length := by
  induction events generalizing state with
  | nil => rfl
  | cons first events ih => simp [decisions, ih]

theorem after_append (state : SubmitState) (events : List SubmitEvent) (event : SubmitEvent) :
    after state (events ++ [event]) = (nextStep (after state events) event).state := by
  simp [after]

theorem decisions_take (state : SubmitState) (events : List SubmitEvent) (count : Nat) :
    (decisions state events).take count = decisions state (events.take count) := by
  induction events generalizing state count with
  | nil => simp [decisions]
  | cons first events ih =>
    cases count with
    | zero => rfl
    | succ count => simp [decisions, ih]

/-- Each decision is the step of the state the events before it lead to. -/
theorem getElem?_decisions {state : SubmitState} {events : List SubmitEvent} {i : Nat}
    {decision : SubmitDecision} (h : (decisions state events)[i]? = some decision) :
    ∃ event, events[i]? = some event ∧ events.take (i + 1) = events.take i ++ [event] ∧
      decision = nextStep (after state (events.take i)) event ∧
      decision.state = after state (events.take (i + 1)) := by
  obtain ⟨hlt, rfl⟩ := List.getElem?_eq_some_iff.mp h
  have hbound : i < events.length := by rwa [length_decisions] at hlt
  have htake := List.take_succ_eq_append_getElem hbound
  have hdecision : (decisions state events)[i] = nextStep (after state (events.take i)) events[i] := by
    have hlast := decisions_append state (events.take i) events[i]
    rw [← htake, ← decisions_take] at hlast
    have hget := congrArg (·[i]?) hlast
    have hsome : (decisions state events)[i]? =
        some (nextStep (after state (events.take i)) events[i]) := by
      simpa [length_decisions, Nat.min_eq_left (Nat.le_of_lt hbound)] using hget
    rw [List.getElem?_eq_getElem hlt] at hsome
    exact Option.some.inj hsome
  refine ⟨events[i], List.getElem?_eq_getElem hbound, htake, hdecision, ?_⟩
  rw [hdecision, htake, after_append]

theorem rank_of_awaits {phase : Phase} {action : SubmitAction} (h : phase.awaits = some action) :
    0 < phase.rank ∧ phase.rank ≤ 273 := by
  cases phase with
  | denied index =>
    have hbound := index.toNat_lt
    simp only [Phase.rank]
    omega
  | start | recordResponse | recordUnknown | recordNotEntered | done => cases h
  | _ => decide

theorem rank_of_awaits_none {phase : Phase} (h : phase.awaits = none) (hstart : phase ≠ .start) :
    273 ≤ phase.rank := by
  cases phase with
  | start => exact absurd rfl hstart
  | recordResponse | recordUnknown | recordNotEntered | done => decide
  | _ => cases h

/-- The machine leaves its start with the first event. -/
theorem after_phase_start {plan : SubmitPlan} {events : List SubmitEvent}
    (h : (after (start plan) events).phase = .start) : events = [] := by
  rcases List.eq_nil_or_concat events with rfl | ⟨events, event, rfl⟩
  · rfl
  · rw [List.concat_eq_append, after_append] at h
    by_cases hdone : (after (start plan) events).phase = .done
    · rw [nextStep_done event hdone] at h
      cases h
    · have hlater := (advances_nextStep event hdone).later
      rw [h] at hlater
      exact absurd hlater (Nat.not_lt_zero _)

/-- Where the machine is, as far as it is on the way to the provider write. -/
theorem tracked_run (plan : SubmitPlan) (events : List SubmitEvent) {action : SubmitAction}
    (hawaits : (after (start plan) events).phase.awaits = some action) :
    ∃ exchanges, (after (start plan) events).tracked exchanges ∧
      events = .start :: exchanges.map Prod.snd ∧
      (decisions (start plan) events).map SubmitDecision.action =
        exchanges.map Prod.fst ++ [action] := by
  induction events using List.reverseRecOn generalizing action with
  | nil => cases hawaits
  | append_singleton events event ih =>
    rw [after_append] at hawaits ⊢
    rw [decisions_append, List.map_append]
    cases hbefore : (after (start plan) events).phase.awaits with
    | some previous =>
      obtain ⟨exchanges, htracked, hevents, hactions⟩ := ih hbefore
      obtain ⟨haction, hdeclared, hexchanges⟩ :=
        tracks_nextStep event hbefore htracked action hawaits
      refine ⟨_, ⟨hdeclared, hexchanges⟩, ?_, ?_⟩
      · rw [List.map_append, ← List.cons_append, ← hevents]
        rfl
      · simp [hactions, haction]
    | none =>
      by_cases hstart : (after (start plan) events).phase = .start
      · obtain rfl := after_phase_start hstart
        cases event
        case start =>
          obtain rfl : SubmitAction.readClock = action := Option.some.inj hawaits
          exact ⟨[], ⟨trivial, 0, trivial, rfl⟩, rfl, rfl⟩
        all_goals cases hawaits
      · -- off the way every phase is behind the provider write
        have hrank := (rank_of_awaits hawaits).2
        by_cases hdone : (after (start plan) events).phase = .done
        · rw [nextStep_done event hdone] at hrank
          exact absurd hrank (show ¬275 ≤ 273 by decide)
        · have hlater := (advances_nextStep event hdone).later
          have hbehind := rank_of_awaits_none hbefore hstart
          omega

theorem plan_run (plan : SubmitPlan) (events : List SubmitEvent) :
    (after (start plan) events).plan = plan := by
  induction events using List.reverseRecOn with
  | nil => rfl
  | append_singleton events event ih =>
    rw [after_append]
    by_cases hdone : (after (start plan) events).phase = .done
    · rw [nextStep_done event hdone]
      exact ih
    · exact (advances_nextStep event hdone).plan.trans ih

/-- Two decisions of one run, the second named after the first. -/
def Follows (old new : SubmitDecision) : Prop :=
  old.state.phase.rank < new.state.phase.rank ∨
    old.state.phase = .done ∧ new.state.phase = .done ∧ new.action = .stop .halted

theorem Follows.trans {a b c : SubmitDecision} (hab : Follows a b) (hbc : Follows b c) :
    Follows a c := by
  rcases hab with hab | ⟨ha, hb, -⟩
  · rcases hbc with hbc | ⟨hb, hc, -⟩
    · exact .inl (hab.trans hbc)
    · rw [hb] at hab
      exact .inl (hc ▸ hab)
  · rcases hbc with hbc | ⟨-, hc, hhalted⟩
    · have hbound := rank_done_iff.mp (Nat.lt_of_lt_of_le hbc (rank_le_done c.state.phase))
      exact absurd hb hbound
    · exact .inr ⟨ha, hc, hhalted⟩

instance : Trans Follows Follows Follows := ⟨Follows.trans⟩

theorem follows_nextStep {state : SubmitState} {action : SubmitAction} (event : SubmitEvent) :
    Follows ⟨state, action⟩ (nextStep state event) := by
  by_cases hdone : state.phase = .done
  · rw [nextStep_done event hdone]
    exact .inr ⟨hdone, rfl, rfl⟩
  · exact .inl (advances_nextStep event hdone).later

theorem isChain_decisions (state : SubmitState) (events : List SubmitEvent) :
    (decisions state events).IsChain Follows := by
  induction events generalizing state with
  | nil => exact .nil
  | cons first events ih =>
    have hrest := ih (nextStep state first).state
    cases events with
    | nil => exact .singleton _
    | cons second events => exact .cons_cons (follows_nextStep second) hrest

/-- A later decision of a run. -/
theorem follows_of_lt {state : SubmitState} {events : List SubmitEvent} {i j : Nat}
    {old new : SubmitDecision} (hij : i < j) (hold : (decisions state events)[i]? = some old)
    (hnew : (decisions state events)[j]? = some new) : Follows old new := by
  have hpairwise := List.isChain_iff_pairwise.mp (isChain_decisions state events)
  obtain ⟨hi, rfl⟩ := List.getElem?_eq_some_iff.mp hold
  obtain ⟨hj, rfl⟩ := List.getElem?_eq_some_iff.mp hnew
  exact List.pairwise_iff_getElem.mp hpairwise i j hi hj hij

/-- Every decision of a run moves to the phase that awaits what it names. -/
theorem phase_of_action {plan : SubmitPlan} {events : List SubmitEvent} {i : Nat}
    {decision : SubmitDecision} (h : (decisions (start plan) events)[i]? = some decision) :
    decision.state.phase = decision.action.phase := by
  obtain ⟨event, -, -, rfl, -⟩ := getElem?_decisions h
  by_cases hdone : (after (start plan) (events.take i)).phase = .done
  · rw [nextStep_done event hdone]
    rfl
  · exact (advances_nextStep event hdone).phase

/-- The action named at a step of the run. -/
def named (plan : SubmitPlan) (events : List SubmitEvent) (i : Nat) : Option SubmitAction :=
  (decisions (start plan) events)[i]?.map SubmitDecision.action

theorem named_eq_some {plan : SubmitPlan} {events : List SubmitEvent} {i : Nat}
    {action : SubmitAction} (h : named plan events i = some action) :
    ∃ decision, (decisions (start plan) events)[i]? = some decision ∧ decision.action = action ∧
      decision.state.phase = action.phase := by
  obtain ⟨decision, hdecision, rfl⟩ := Option.map_eq_some_iff.mp h
  exact ⟨decision, hdecision, rfl, phase_of_action hdecision⟩

/-- What a run has done when it names an action on the way to the provider write. -/
theorem tracked_named {plan : SubmitPlan} {events : List SubmitEvent} {i : Nat}
    {action : SubmitAction} (h : named plan events i = some action)
    (hawaits : action.phase.awaits = some action) :
    ∃ argument basis, (SubmitState.mk plan action.phase argument).ceilingMet basis ∧
      events.take (i + 1) = .start :: (before plan argument basis action.phase).map Prod.snd ∧
      ((decisions (start plan) events).take (i + 1)).map SubmitDecision.action =
        (before plan argument basis action.phase).map Prod.fst ++ [action] := by
  obtain ⟨decision, hdecision, -, hphase⟩ := named_eq_some h
  obtain ⟨-, -, -, -, hstate⟩ := getElem?_decisions hdecision
  rw [hstate] at hphase
  have hplan := plan_run plan (events.take (i + 1))
  rw [← hphase] at hawaits
  obtain ⟨exchanges, ⟨-, basis, hceiling, rfl⟩, hevents, hactions⟩ := tracked_run plan _ hawaits
  generalize after (start plan) (events.take (i + 1)) = state at hphase hplan hevents hactions hceiling
  obtain ⟨plan', phase, argument⟩ := state
  simp only at hphase hplan hevents hactions hceiling
  subst hphase hplan
  refine ⟨argument, basis, hceiling, hevents, ?_⟩
  rw [decisions_take]
  exact hactions

/-- Reads and leases that bear the credential. -/
def SubmitAction.bearsCredential : SubmitAction → Bool
  | .lease | .readAccount | .deniedRead _ | .preEntryRead | .ceilingRead => true
  | _ => false

/-- Each of them has the claim's reservation behind it. -/
theorem claim_mem_before {plan : SubmitPlan} {argument basis : UInt64} {action : SubmitAction}
    (h : action.bearsCredential = true) :
    (.claim, .claim .reserved) ∈ before plan argument basis action.phase := by
  cases action
  case lease | readAccount | deniedRead | preEntryRead | ceilingRead =>
    simp [SubmitAction.phase, throughPreEntry, throughDenied, throughAccount, leasePart]
  all_goals cases h

theorem awaits_of_bearsCredential {action : SubmitAction} (h : action.bearsCredential = true) :
    action.phase.awaits = some action := by
  cases action
  case lease | readAccount | deniedRead | preEntryRead | ceilingRead => rfl
  all_goals cases h

theorem relativeCeilingAdmits_iff {argument basis : UInt64} {basisPoints : UInt16} :
    relativeCeilingAdmits argument basis basisPoints = true ↔
      argument.toNat * 10000 ≤ basis.toNat * basisPoints.toNat := by
  have hargument := argument.toNat_lt
  have hbasis : basis.toNat * basisPoints.toNat < 2 ^ 64 * 2 ^ 16 :=
    Nat.mul_lt_mul'' basis.toNat_lt basisPoints.toNat_lt
  simp only [relativeCeilingAdmits, decide_eq_true_eq]
  rw [Nat.mod_eq_of_lt (by omega), Nat.mod_eq_of_lt (by omega)]

/-- The laws of every run of the admission order. -/
structure OrderLaws (plan : SubmitPlan) (events : List SubmitEvent) : Prop where
  send_once : ∀ i j, named plan events i = some .send → named plan events j = some .send → i = j
  send_after : ∀ i, named plan events i = some .send → ∃ argument basis,
    events.take (i + 1) = .start :: (script plan argument basis).map Prod.snd ∧
    ((decisions (start plan) events).take (i + 1)).map SubmitDecision.action =
      (script plan argument basis).map Prod.fst ++ [.send] ∧
    (plan.relativeCeiling = true →
      argument.toNat * 10000 ≤ basis.toNat * plan.basisPoints.toNat)
  credential_after_claim : ∀ i action, named plan events i = some action →
    action.bearsCredential = true → ∃ j < i, named plan events j = some .claim ∧
      events[j + 1]? = some (.claim .reserved)
  refusal_before_send : ∀ i j refusal, named plan events i = some .send →
    named plan events j = some (.recordNotEntered refusal) → ¬i < j
  refused_unclaimed : ∀ i, named plan events i = some (.stop .refused) →
    ∀ j, named plan events j ≠ some .claim
  stopped : ∀ i j reason action, named plan events i = some (.stop reason) → i < j →
    named plan events j = some action → action = .stop .halted
  plan_kept : ∀ decision ∈ decisions (start plan) events, decision.state.plan = plan

/-- No two actions of one rank, other than stops, are named in a run. -/
theorem not_lt_of_rank {plan : SubmitPlan} {events : List SubmitEvent} {i j : Nat}
    {first second : SubmitAction} (hi : named plan events i = some first)
    (hj : named plan events j = some second) (hrank : second.phase.rank ≤ first.phase.rank)
    (hdone : first.phase ≠ .done) : ¬i < j := by
  intro hij
  obtain ⟨old, hold, -, hphase⟩ := named_eq_some hi
  obtain ⟨new, hnew, -, hphase'⟩ := named_eq_some hj
  rcases follows_of_lt hij hold hnew with hlt | ⟨hstopped, -⟩
  · rw [hphase, hphase'] at hlt
    omega
  · exact hdone (hphase.symm.trans hstopped)

theorem halted_after_stop {plan : SubmitPlan} {events : List SubmitEvent} {i j : Nat}
    {reason : Stop} {action : SubmitAction} (hi : named plan events i = some (.stop reason))
    (hij : i < j) (hj : named plan events j = some action) : action = .stop .halted := by
  obtain ⟨old, hold, -, hphase⟩ := named_eq_some hi
  obtain ⟨new, hnew, rfl, -⟩ := named_eq_some hj
  rcases follows_of_lt hij hold hnew with hlt | ⟨-, -, hhalted⟩
  · rw [hphase] at hlt
    have hle := rank_le_done new.state.phase
    exact absurd (Nat.lt_of_lt_of_le hlt hle) (by simp [SubmitAction.phase, Phase.rank])
  · exact hhalted

/-- A refusal that stores nothing comes before the claim. -/
theorem rank_before_refused {plan : SubmitPlan} {events : List SubmitEvent} {i j : Nat}
    {action : SubmitAction} (hi : named plan events i = some (.stop .refused)) (hji : j < i)
    (hj : named plan events j = some action) : action.phase.rank < 6 := by
  obtain ⟨decision, hdecision, haction, -⟩ := named_eq_some hi
  obtain ⟨old, hold, -, hphase⟩ := named_eq_some hj
  obtain ⟨event, -, -, rfl, -⟩ := getElem?_decisions hdecision
  by_cases hdone : (after (start plan) (events.take i)).phase = .done
  · rw [nextStep_done event hdone] at haction
    cases haction
  · have hrank := (advances_nextStep event hdone).refused haction
    obtain ⟨k, rfl⟩ := Nat.exists_eq_add_of_lt hji
    have hlast : j + k < (decisions (start plan) events).length := by
      have hlt := (List.getElem?_eq_some_iff.mp hdecision).1
      omega
    have hbefore := List.getElem?_eq_getElem hlast
    obtain ⟨-, -, -, -, hstate⟩ := getElem?_decisions hbefore
    rw [← hstate] at hrank
    rw [← hphase]
    rcases Nat.eq_zero_or_pos k with rfl | hpos
    · obtain rfl := Option.some.inj (hold.symm.trans hbefore)
      exact hrank
    · rcases follows_of_lt (by omega) hold hbefore with hlt | ⟨-, hstopped, -⟩
      · omega
      · rw [hstopped] at hrank
        exact absurd hrank (by decide)

theorem order_laws (plan : SubmitPlan) (events : List SubmitEvent) : OrderLaws plan events where
  send_once := by
    intro i j hi hj
    have hij := not_lt_of_rank hi hj (Nat.le_refl _) (by decide)
    have hji := not_lt_of_rank hj hi (Nat.le_refl _) (by decide)
    omega
  send_after := by
    intro i hi
    obtain ⟨argument, basis, hceiling, hevents, hactions⟩ := tracked_named hi rfl
    exact ⟨argument, basis, hevents, hactions, fun h => relativeCeilingAdmits_iff.mp (hceiling h)⟩
  credential_after_claim := by
    intro i action hi hbears
    obtain ⟨argument, basis, -, hevents, hactions⟩ :=
      tracked_named hi (awaits_of_bearsCredential hbears)
    generalize hbefore : before plan argument basis action.phase = exchanges at hevents hactions
    have hmem : (.claim, .claim .reserved) ∈ exchanges := hbefore ▸ claim_mem_before hbears
    obtain ⟨j, hj, hget⟩ := List.mem_iff_getElem.mp hmem
    have hlength := congrArg List.length hevents
    obtain ⟨decision, hdecision, -, -⟩ := named_eq_some hi
    have hi := (List.getElem?_eq_some_iff.mp hdecision).1
    rw [length_decisions] at hi
    simp only [List.length_take, List.length_cons, List.length_map] at hlength
    refine ⟨j, by omega, ?_, ?_⟩
    · have hnamed := congrArg (·[j]?) hactions
      simp only [List.getElem?_map, List.getElem?_take, show j < i + 1 by omega, if_true] at hnamed
      rw [named, hnamed, List.getElem?_append_left (by simpa using hj)]
      simp [hj, hget]
    · have hevent := congrArg (·[j + 1]?) hevents
      simpa [List.getElem?_take, hj, hget, show j < i by omega] using hevent
  refusal_before_send := by
    intro i j refusal hi hj
    exact not_lt_of_rank hi hj (Nat.le_refl 273) (by decide)
  refused_unclaimed := by
    intro i hi j hj
    rcases Nat.lt_trichotomy i j with hij | rfl | hji
    · cases halted_after_stop hi hij hj
    · cases hi.symm.trans hj
    · exact absurd (rank_before_refused hi hji hj) (by decide)
  stopped := fun i j reason action hi hij hj => halted_after_stop hi hij hj
  plan_kept := by
    intro decision hmem
    obtain ⟨i, hi⟩ := List.mem_iff_getElem?.mp hmem
    obtain ⟨-, -, -, -, hstate⟩ := getElem?_decisions hi
    rw [hstate, plan_run]

end AuthsProof.Gateway
