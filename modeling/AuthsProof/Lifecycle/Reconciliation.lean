import AuthsProof.Lifecycle.Release

/-! How an ambiguous outcome is resolved. Every inconclusive observation is kept, and a record keeps
only so many: a conclusive one is applied as long as there is room for it. -/

namespace AuthsProof.Lifecycle

/-- The state a conclusive reconciliation reaches. -/
def reconciledState : EffectConclusion → LifecycleState
  | .effect => .reconciledCommitted
  | .nonEffect => .reconciledReleased
  | .unknown | .inconclusive => .outcomeUnknown

/-- Short of an end, an edge keeps one more observation where it reconciles inconclusively, and
otherwise brings the record further. -/
theorem Edge.observes {r p : LifecycleRecord} {context : TransitionContext}
    {command : TransitionCommand} (h : Edge r context command p) (hp : p.state.isTerminal = false) :
    (command.inconclusive = true ∧ p.observations.length = r.observations.length + 1 ∧
        p.rank = r.rank) ∨
      (command.inconclusive = false ∧ p.observations = r.observations ∧ r.rank < p.rank) := by
  have hafter := h.after
  cases h with
  | commit => cases hp
  | release => cases hp
  | reconcileEffect => cases hp
  | reconcileNonEffect => cases hp
  | reconcileInconclusive observation _ hstate hconclusion =>
    refine .inl ⟨?_, List.length_append, ?_⟩
    · rcases hconclusion with hconclusion | hconclusion <;>
        simp [TransitionCommand.inconclusive, hconclusion]
    · simp [LifecycleRecord.rank, hstate]
  | reserve hstate =>
    have hrank : r.rank ≠ 7 := by simp [LifecycleRecord.rank, hstate]
    exact .inr ⟨rfl, rfl, hafter.resolve_right fun hsame => hrank hsame.1⟩
  | recordExecutionIntent _ hstate =>
    have hrank : r.rank ≠ 7 := by simp [LifecycleRecord.rank, hstate]
    exact .inr ⟨rfl, rfl, hafter.resolve_right fun hsame => hrank hsame.1⟩
  | authorizeCredential hstate =>
    have hrank : r.rank ≠ 7 := by simp only [LifecycleRecord.rank, hstate]; split <;> decide
    exact .inr ⟨rfl, rfl, hafter.resolve_right fun hsame => hrank hsame.1⟩
  | startAttempt _ _ hstate =>
    have hrank : r.rank ≠ 7 := by simp only [LifecycleRecord.rank, hstate]; split <;> decide
    exact .inr ⟨rfl, rfl, hafter.resolve_right fun hsame => hrank hsame.1⟩
  | markProviderCallEntered _ _ hstate =>
    have hrank : r.rank ≠ 7 := by simp only [LifecycleRecord.rank, hstate]; split <;> decide
    exact .inr ⟨rfl, rfl, hafter.resolve_right fun hsame => hrank hsame.1⟩
  | markOutcomeUnknown _ hstate =>
    have hrank : r.rank ≠ 7 := by simp only [LifecycleRecord.rank, hstate]; split <;> decide
    exact .inr ⟨rfl, rfl, hafter.resolve_right fun hsame => hrank hsame.1⟩

section Run

variable [Sha256]

/-- Short of its end a record has kept the inconclusive observations of its history and nothing else,
and every other transition brought it further. -/
theorem Lineage.observations {as : List Applied} {r : LifecycleRecord} (h : Lineage as r)
    (hr : r.state.isTerminal = false) :
    r.observations.length = as.countP (·.command.inconclusive) ∧
      as.length ≤ r.rank + r.observations.length := by
  induction h with
  | first h =>
    cases h with
    | decision input context _ => exact ⟨rfl, Nat.le_refl 1⟩
  | @snoc as r a hs h ih =>
    cases h with
    | @edge _ p command context _ he _ =>
      have hp : p.state.isTerminal = false := hr
      have hearlier : r.state.isTerminal = false := by
        have hrank := rank_le p
        have hnext : p.rank ≠ 8 := fun hend => by simp [rank_eq_iff_terminal.mp hend] at hp
        have hbefore : r.rank ≠ 8 := by
          rcases he.after with hafter | ⟨hsame, -⟩ <;> omega
        exact Bool.eq_false_iff.mpr fun hend => hbefore (rank_eq_iff_terminal.mpr hend)
      obtain ⟨hcount, hlength⟩ := ih hearlier
      rw [List.countP_append, List.length_append, List.length_singleton, List.countP_singleton]
      show p.observations.length = _ ∧ _ ≤ p.rank + p.observations.length
      rcases he.observes hp with ⟨hcommand, hkept, hrank⟩ | ⟨hcommand, hkept, hrank⟩
      · rw [if_pos hcommand, hkept, hrank]
        omega
      · rw [if_neg (by simp [hcommand]), hkept]
        omega

/-- How many calls of a run reconcile inconclusively. -/
def keptInconclusive : LifecycleRecord → List Call → Nat
  | _, [] => 0
  | r, call :: rest =>
    (if reconcilesInconclusively r call then 1 else 0) + keptInconclusive (advance r call) rest

/-- The history of a run has as many inconclusive reconciliations as its calls. -/
theorem Lineage.kept {as : List Applied} {r : LifecycleRecord} (h : Lineage as r)
    (calls : List Call) :
    ∃ bs, Lineage bs (calls.foldl Lifecycle.advance r) ∧ bs.countP (·.command.inconclusive) =
      as.countP (·.command.inconclusive) + keptInconclusive r calls := by
  induction calls generalizing as r with
  | nil => exact ⟨as, h, rfl⟩
  | cons call calls ih =>
    cases hcall : applyTransition (some r) call.command call.context with
    | error e =>
      have hsame : Lifecycle.advance r call = r := by rw [Lifecycle.advance, hcall]
      have hnot : ¬reconcilesInconclusively r call = true := by
        intro hbad
        obtain ⟨-, result, hresult⟩ := (reconcilesInconclusively_iff h call).mp hbad
        rw [hcall] at hresult
        cases hresult
      obtain ⟨bs, hrun, hcount⟩ := ih h
      refine ⟨bs, by rwa [List.foldl_cons, hsame], ?_⟩
      rw [hcount, keptInconclusive, if_neg hnot, hsame, Nat.zero_add]
    | ok result =>
      have hnext : Lifecycle.advance r call = result.record := by rw [Lifecycle.advance, hcall]
      have hbad : reconcilesInconclusively r call = call.command.inconclusive := by
        rw [Bool.eq_iff_iff, reconcilesInconclusively_iff h call]
        exact and_iff_left ⟨result, hcall⟩
      rcases applyTransition_ok hcall with ⟨-, hadvances⟩ | ⟨-, hcurrent, input, hcommand⟩
      · obtain ⟨bs, hrun, hcount⟩ := ih (h.snoc hadvances)
        refine ⟨bs, by rwa [List.foldl_cons, hnext], ?_⟩
        rw [List.countP_append, List.countP_singleton] at hcount
        rw [hcount, keptInconclusive, hnext, hbad]
        exact Nat.add_assoc _ _ _
      · have hsame : result.record = r := (Option.some.inj hcurrent).symm
        obtain ⟨bs, hrun, hcount⟩ := ih h
        refine ⟨bs, by rwa [List.foldl_cons, hnext, hsame], ?_⟩
        rw [hcount, keptInconclusive, hnext, hsame, hbad, hcommand]
        exact (congrArg _ (Nat.zero_add _)).symm

/-- A full record refuses every further observation. -/
theorem applyTransition_full {r : LifecycleRecord} (hfull : ¬r.observations.length < 32)
    (observation : ReconciliationObservation) (receipt : DomainReceiptDigest)
    (context : TransitionContext) :
    ∃ work, applyTransition (some r) (.reconcile observation receipt) context =
      .error ⟨.limitExceeded, work⟩ := by
  have hobservation : canAppendObservation r = false := decide_eq_false hfull
  by_cases hevent : canAppendEvent r = true
  · simp [applyTransition, hevent, commandObservation, hobservation]
  · simp [applyTransition, hevent]

/-- With room for it, a conclusive observation is applied. -/
theorem Lineage.reconcile_applied {as : List Applied} {r : LifecycleRecord} (h : Lineage as r)
    (hstate : r.state = .outcomeUnknown) (hroom : r.observations.length < 32)
    {context : TransitionContext} {observation : ReconciliationObservation}
    (receipt : DomainReceiptDigest) (hfresh : observation.fresh context.verifierTime = true)
    (hbinds : observation.binds r = true)
    (hconclusion : observation.conclusion = .effect ∨ observation.conclusion = .nonEffect) :
    ∃ result, applyTransition (some r) (.reconcile observation receipt) context = .ok result ∧
      result.disposition = .applied ∧
      result.record.state = reconciledState observation.conclusion := by
  have hrank : r.rank = 7 := by simp [LifecycleRecord.rank, hstate]
  obtain ⟨-, hlength⟩ := h.observations (by rw [hstate]; rfl)
  obtain ⟨hrevision, hevents, -⟩ := h.counts
  have hevent : canAppendEvent r = true := by
    have hbound : r.events.length < maxLifecycleEvents := by
      rw [maxLifecycleEvents]
      omega
    exact decide_eq_true hbound
  have hobservation : canAppendObservation r = true := decide_eq_true hroom
  have hsum : r.revision.toNat + (1 : UInt64).toNat < 2 ^ 64 := by
    have hone : (1 : UInt64).toNat = 1 := rfl
    omega
  obtain ⟨revision, hadd, -⟩ := Checked.add_isSome hsum
  have hcode : transitionCode (some r.state) (operationFor (.reconcile observation receipt))
      (gatesFor r (.reconcile observation receipt) context) =
        .applied (reconciledState observation.conclusion) := by
    rcases hconclusion with hconclusion | hconclusion <;>
      simp [transitionCode, operationFor, hconclusion, hstate, LifecycleState.isTerminal, gatesFor,
        commandObservation, hfresh, hbinds, reconciliationCode, reconciledState]
  rcases hconclusion with hconclusion | hconclusion <;>
    simp [applyTransition, hevent, hobservation, commandObservation, hcode, KernelCode.next,
      applyPayload, writePayload, hconclusion, appendTransition, hadd, bind, Except.bind, pure,
      Except.pure]

/-- An unknown outcome is resolved by a fresh conclusive observation about the recorded request as
long as the run has kept fewer than 32 inconclusive ones, and is refused afterwards. -/
theorem run_reconciles {input : DecisionInput} {context : TransitionContext}
    {first : TransitionResult} {calls : List Call} {now : TransitionContext}
    {observation : ReconciliationObservation} (receipt : DomainReceiptDigest)
    (hfirst : applyTransition none (.recordDecision input) context = .ok first)
    (hstate : (calls.foldl advance first.record).state = .outcomeUnknown)
    (hfresh : observation.fresh now.verifierTime = true)
    (hbinds : observation.binds (calls.foldl advance first.record) = true)
    (hconclusion : observation.conclusion = .effect ∨ observation.conclusion = .nonEffect) :
    (keptInconclusive first.record calls < 32 → ∃ result,
      applyTransition (some (calls.foldl advance first.record)) (.reconcile observation receipt) now =
          .ok result ∧ result.disposition = .applied ∧
        result.record.state = reconciledState observation.conclusion) ∧
    (¬keptInconclusive first.record calls < 32 → ∃ work,
      applyTransition (some (calls.foldl advance first.record)) (.reconcile observation receipt) now =
        .error ⟨.limitExceeded, work⟩) := by
  obtain ⟨bs, hrun, hcount⟩ := (lineage_first hfirst).1.kept calls
  obtain ⟨hobservations, -⟩ := hrun.observations (by rw [hstate]; rfl)
  have hkept : (calls.foldl advance first.record).observations.length =
      keptInconclusive first.record calls := by
    rw [hobservations, hcount]
    exact Nat.zero_add _
  rw [← hkept]
  exact ⟨fun hroom => hrun.reconcile_applied hstate hroom receipt hfresh hbinds hconclusion,
    fun hfull => applyTransition_full hfull observation receipt now⟩

/-- A record in which an inconclusive observation about the recorded request is kept. -/
theorem Lineage.keep_inconclusive {as : List Applied} {r : LifecycleRecord} (h : Lineage as r)
    {observation : ReconciliationObservation} (receipt : DomainReceiptDigest)
    {context : TransitionContext} (hconclusion : observation.conclusion = .inconclusive)
    (hfresh : observation.fresh context.verifierTime = true)
    (n : Nat) (hstate : r.state = .outcomeUnknown) (hbinds : observation.binds r = true)
    (hroom : r.observations.length + n ≤ 32) :
    ((List.replicate n ⟨.reconcile observation receipt, context⟩).foldl Lifecycle.advance r).state =
        .outcomeUnknown ∧
      ((List.replicate n ⟨.reconcile observation receipt, context⟩).foldl Lifecycle.advance
        r).executionIntent = r.executionIntent ∧
      ((List.replicate n ⟨.reconcile observation receipt, context⟩).foldl Lifecycle.advance
        r).observations.length = r.observations.length + n := by
  induction n generalizing as r with
  | zero => exact ⟨hstate, rfl, rfl⟩
  | succ n ih =>
    have hrank : r.rank = 7 := by simp [LifecycleRecord.rank, hstate]
    obtain ⟨-, hlength⟩ := h.observations (by rw [hstate]; rfl)
    obtain ⟨-, hevents, -⟩ := h.counts
    have hevent : canAppendEvent r = true := by
      have hbound : r.events.length < maxLifecycleEvents := by
        rw [maxLifecycleEvents]
        omega
      exact decide_eq_true hbound
    have hobservation : canAppendObservation r = true := by
      have hbound : r.observations.length < maxReconciliationObservations := by
        rw [maxReconciliationObservations]
        omega
      exact decide_eq_true hbound
    obtain ⟨result, hresult⟩ := @applyTransition_reconcileInconclusive _ as r h observation receipt
      context (.inr hconclusion) hstate hfresh hbinds hevent hobservation
    have hnext : Lifecycle.advance r ⟨.reconcile observation receipt, context⟩ = result.record := by
      rw [Lifecycle.advance, hresult]
    rcases applyTransition_ok hresult with ⟨-, hadvances⟩ | ⟨-, -, input, hcommand⟩
    · have hafter : result.record.state = .outcomeUnknown ∧
          result.record.executionIntent = r.executionIntent ∧
          result.record.observations = r.observations ++ [observation] := by
        generalize hrecord : result.record = record at hadvances
        cases hadvances with
        | edge hedge _ =>
          cases hedge with
          | reconcileEffect _ _ _ heffect => rw [hconclusion] at heffect; cases heffect
          | reconcileNonEffect _ _ _ heffect => rw [hconclusion] at heffect; cases heffect
          | reconcileInconclusive => exact ⟨rfl, rfl, rfl⟩
      obtain ⟨hunknown, hintent, hkept⟩ := hafter
      have hcounted : result.record.observations.length = r.observations.length + 1 := by
        rw [hkept, List.length_append, List.length_singleton]
      have hbound : observation.binds result.record = true := by
        rw [ReconciliationObservation.binds, hintent]
        exact hbinds
      have hlineage : Lineage (as ++ [⟨.reconcile observation receipt, context, result.record⟩])
          result.record := h.snoc hadvances
      obtain ⟨hend, hintent', hlast⟩ := ih hlineage hunknown hbound (by omega)
      rw [List.replicate_succ, List.foldl_cons, hnext]
      exact ⟨hend, hintent'.trans hintent, by omega⟩
    · cases hcommand

end Run

section Sample

local instance sampleReconciliationSha256 : Sha256 :=
  ⟨fun bytes => ⟨Sha2.sha256 bytes, Sha2.sha256_length bytes⟩⟩

def sampleInconclusive : Call :=
  ⟨.reconcile (sampleObservation .inconclusive) (.filled 25), sampleContext 16⟩

/-- The sample run has reached an unknown outcome before its last call. -/
theorem sampleInput_unknown :
    ∃ first, applyTransition none (.recordDecision sampleInput) (sampleContext 10) = .ok first ∧
      (((sampleCalls .effect).take 5).foldl advance first.record).state = .outcomeUnknown ∧
      (((sampleCalls .effect).take 5).foldl advance first.record).executionIntent =
        some sampleIntent ∧
      (((sampleCalls .effect).take 5).foldl advance first.record).observations = [] := by
  have hruns : ((applyTransition none (.recordDecision sampleInput)
      (sampleContext 10)).toOption.any fun first => decide
        ((((sampleCalls .effect).take 5).foldl advance first.record).state = .outcomeUnknown ∧
          (((sampleCalls .effect).take 5).foldl advance first.record).executionIntent =
            some sampleIntent ∧
          (((sampleCalls .effect).take 5).foldl advance first.record).observations = [])) = true := by
    decide +kernel
  cases hfirst : applyTransition none (.recordDecision sampleInput) (sampleContext 10) with
  | error _ =>
    rw [hfirst] at hruns
    cases hruns
  | ok first =>
    simp only [hfirst, Except.toOption, Option.any_some, decide_eq_true_eq] at hruns
    exact ⟨first, rfl, hruns⟩

theorem sampleObservation_fresh (conclusion : EffectConclusion) :
    (sampleObservation conclusion).fresh (sampleContext 16).verifierTime = true := by
  cases conclusion <;> rfl

theorem sampleObservation_binds (conclusion : EffectConclusion) {r : LifecycleRecord}
    (h : r.executionIntent = some sampleIntent) : (sampleObservation conclusion).binds r = true := by
  rw [ReconciliationObservation.binds, h]
  cases conclusion <;> rfl

/-- After one inconclusive observation, a conclusive one is applied. -/
theorem run_reconciles_sample :
    ∃ first, applyTransition none (.recordDecision sampleInput) (sampleContext 10) = .ok first ∧
      ∃ result, applyTransition
        (some (((sampleCalls .effect).take 5 ++ [sampleInconclusive]).foldl advance first.record))
        (.reconcile (sampleObservation .effect) (.filled 25)) (sampleContext 16) = .ok result ∧
        result.record.state = .reconciledCommitted := by
  have hruns : ((applyTransition none (.recordDecision sampleInput)
      (sampleContext 10)).toOption.any fun first =>
        let calls := (sampleCalls .effect).take 5 ++ [sampleInconclusive]
        decide ((calls.foldl advance first.record).state = .outcomeUnknown ∧
          (sampleObservation .effect).binds (calls.foldl advance first.record) = true ∧
          keptInconclusive first.record calls < 32)) = true := by
    decide +kernel
  cases hfirst : applyTransition none (.recordDecision sampleInput) (sampleContext 10) with
  | error _ =>
    rw [hfirst] at hruns
    cases hruns
  | ok first =>
    simp only [hfirst, Except.toOption, Option.any_some, decide_eq_true_eq] at hruns
    obtain ⟨hstate, hbinds, hkept⟩ := hruns
    obtain ⟨result, hresult, -, hreached⟩ := (run_reconciles (.filled 25) hfirst hstate
      (sampleObservation_fresh .effect) hbinds (.inl rfl)).1 hkept
    exact ⟨first, rfl, result, hresult, hreached⟩

/-- After 32 inconclusive observations, an unknown outcome is never resolved. -/
theorem inconclusive_run_stuck :
    ∃ first, applyTransition none (.recordDecision sampleInput) (sampleContext 10) = .ok first ∧
      (((sampleCalls .effect).take 5 ++ List.replicate 32 sampleInconclusive).foldl advance
        first.record).state = .outcomeUnknown ∧
      (sampleObservation .effect).fresh (sampleContext 16).verifierTime = true ∧
      (sampleObservation .effect).binds
        (((sampleCalls .effect).take 5 ++ List.replicate 32 sampleInconclusive).foldl advance
          first.record) = true ∧
      ∃ work, applyTransition
        (some (((sampleCalls .effect).take 5 ++ List.replicate 32 sampleInconclusive).foldl advance
          first.record)) (.reconcile (sampleObservation .effect) (.filled 25)) (sampleContext 16) =
        .error ⟨.limitExceeded, work⟩ := by
  obtain ⟨first, hfirst, hstate, hintent, hempty⟩ := sampleInput_unknown
  obtain ⟨bs, hrun, -⟩ := (lineage_first hfirst).1.kept ((sampleCalls .effect).take 5)
  have hkept := hrun.keep_inconclusive (.filled 25) rfl
    (sampleObservation_fresh .inconclusive) 32 hstate
    (sampleObservation_binds .inconclusive hintent) (by rw [hempty]; decide)
  obtain ⟨hunknown, hsame, hcount⟩ := hkept
  rw [hempty] at hcount
  refine ⟨first, hfirst, ?_⟩
  rw [List.foldl_append]
  refine ⟨hunknown, sampleObservation_fresh .effect,
    sampleObservation_binds .effect (hsame.trans hintent), applyTransition_full ?_ _ _ _⟩
  exact fun hroom => absurd (hcount.symm.trans_lt hroom) (by decide)

end Sample

end AuthsProof.Lifecycle
