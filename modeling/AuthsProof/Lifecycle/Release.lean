import AuthsProof.Lifecycle.Persistence

/-! What a release of capacity rests on: the permission to cancel before any attempt, or evidence that
there was no effect. One arm of the transition table asks for neither. -/

namespace AuthsProof.Lifecycle

/-- The two ends in which the reservations of a record count as released. -/
def LifecycleRecord.released (r : LifecycleRecord) : Prop :=
  r.state = .released ∨ r.state = .reconciledReleased

/-- No attempt was made and the domain allows it to be cancelled, or the conclusion is that there was
no effect. -/
def Justified (r : LifecycleRecord) (command : TransitionCommand) : Prop :=
  (r.attempts = [] ∧ r.input.cancellation = .beforeAttemptAllowed) ∨
    commandConclusion command = some .nonEffect

/-- A release of a recorded intent without the evidence its domain requires. -/
def Unproven (r : LifecycleRecord) : TransitionCommand → Prop
  | .release _ _ conclusion => r.state = .executionIntentRecorded ∧
    r.input.cancellation = .evidenceRequired ∧ conclusion ≠ .nonEffect
  | _ => False

def TransitionCommand.mayRelease : TransitionCommand → Prop
  | .release .. | .reconcile .. => True
  | _ => False

/-- A released record has marked every one of its reservations, and no other record any. -/
theorem Lineage.released_entries [Sha256] {as : List Applied} {r : LifecycleRecord}
    (h : Lineage as r) :
    (r.released → ∀ entry ∈ r.reservationEntries, entry.released = true) ∧
      ((∃ entry ∈ r.reservationEntries, entry.released = true) → r.released) := by
  have hsettled : r.reservationEntries = settledEntries r.state r.input.reservations.entries :=
    h.entriesSettled
  unfold LifecycleRecord.released
  rw [hsettled]
  cases r.state <;> simp [settledEntries]

/-- Where an edge releases, its command is justified unless it is the release of an unproven intent. -/
theorem Edge.justified_iff {r p : LifecycleRecord} {context : TransitionContext}
    {command : TransitionCommand} (h : Edge r context command p) (hp : p.released) :
    Justified r command ↔ ¬Unproven r command := by
  cases h with
  | reserve => rcases hp with hp | hp <;> cases hp
  | recordExecutionIntent => rcases hp with hp | hp <;> cases hp
  | authorizeCredential => rcases hp with hp | hp <;> cases hp
  | startAttempt => rcases hp with hp | hp <;> cases hp
  | markProviderCallEntered => rcases hp with hp | hp <;> cases hp
  | commit => rcases hp with hp | hp <;> cases hp
  | markOutcomeUnknown => rcases hp with hp | hp <;> cases hp
  | reconcileEffect => rcases hp with hp | hp <;> cases hp
  | reconcileInconclusive => rcases hp with hp | hp <;> cases hp
  | reconcileNonEffect observation _ _ hconclusion =>
    exact iff_of_true (.inr (congrArg some hconclusion)) id
  | release _ _ conclusion hrelease =>
    simp only [Justified, Unproven, commandConclusion, Option.some.injEq]
    rcases hrelease with ⟨hstate, hattempts, hproof⟩ | ⟨hstate, hattempts⟩ | ⟨hstate, -, hproof⟩
    · have hcancel : r.attempts = [] ∧ r.input.cancellation = .beforeAttemptAllowed ∨
          conclusion = .nonEffect := hproof.imp (fun hallowed => ⟨hattempts, hallowed⟩) id
      exact iff_of_true hcancel fun hunproven => by simp [hstate] at hunproven
    · -- the only arm that reads neither the cancellation nor the conclusion
      cases hcancel : r.input.cancellation with
      | beforeAttemptAllowed => simp [hattempts]
      | evidenceRequired => simp [hstate]
    · exact iff_of_true (.inr hproof) fun hunproven => hunproven.2.2 hproof

section Run

variable [Sha256]

/-- Every transition before an unknown outcome brings a record further. -/
theorem Lineage.length_le_rank {as : List Applied} {r : LifecycleRecord} (h : Lineage as r)
    (hrank : r.rank < 7) : as.length ≤ r.rank := by
  induction h with
  | first h =>
    cases h with
    | decision input context _ => exact Nat.le_refl 1
  | snoc hs h ih =>
    rcases h.after with hafter | ⟨-, hsame⟩
    · have hearlier := ih (by omega)
      rw [List.length_append, List.length_singleton]
      omega
    · omega

/-- The table applies every release of a recorded intent. -/
theorem applyTransition_releaseIntended {as : List Applied} {r : LifecycleRecord}
    (h : Lineage as r) (hstate : r.state = .executionIntentRecorded)
    (resultDigest : ProviderResultDigest) (receipt : DomainReceiptDigest)
    (conclusion : EffectConclusion) (context : TransitionContext) :
    ∃ result, applyTransition (some r) (.release resultDigest receipt conclusion) context =
      .ok result ∧ result.record.released := by
  have hshaped : r.executionIntent ≠ none ∧ r.attempts = [] := by
    simpa [Shaped, hstate] using h.shaped
  have hrank : r.rank ≤ 4 := by
    simp only [LifecycleRecord.rank, hstate]
    split <;> omega
  have hlength := h.length_le_rank (by omega)
  obtain ⟨hrevision, hevents, -⟩ := h.counts
  have hevent : canAppendEvent r = true := by
    have hbound : r.events.length < maxLifecycleEvents := by
      rw [maxLifecycleEvents]
      omega
    exact decide_eq_true hbound
  have hsum : r.revision.toNat + (1 : UInt64).toNat < 2 ^ 64 := by
    have hone : (1 : UInt64).toNat = 1 := rfl
    omega
  obtain ⟨revision, hadd, -⟩ := Checked.add_isSome hsum
  have hcode : transitionCode (some r.state) .release
      (gatesFor r (.release resultDigest receipt conclusion) context) = .applied .released := by
    simp [transitionCode, hstate, LifecycleState.isTerminal, gatesFor, hshaped.2]
  simp [applyTransition, hevent, operationFor, commandObservation, hcode, KernelCode.next,
    applyPayload, writePayload, appendTransition, hadd, bind, Except.bind, pure, Except.pure,
    LifecycleRecord.released]

/-- No call of a run releases without permission or proof. -/
def ReleasesJustified : LifecycleRecord → List Call → Prop
  | _, [] => True
  | r, call :: rest =>
    (∀ result, call.command.mayRelease →
      applyTransition (some r) call.command call.context = .ok result → result.record.released →
        Justified r call.command) ∧ ReleasesJustified (advance r call) rest

/-- No call of a run releases an unproven intent. -/
def NeverUnproven : LifecycleRecord → List Call → Prop
  | _, [] => True
  | r, call :: rest => ¬Unproven r call.command ∧ NeverUnproven (advance r call) rest

omit [Sha256] in
instance instDecidableUnproven (r : LifecycleRecord) : (command : TransitionCommand) →
    Decidable (Unproven r command)
  | .release .. => inferInstanceAs (Decidable (_ ∧ _ ∧ _))
  | .recordDecision _ | .reserve | .recordExecutionIntent _ | .authorizeCredential | .startAttempt
  | .markProviderCallEntered | .commit .. | .markOutcomeUnknown _ | .reconcile .. =>
    inferInstanceAs (Decidable False)

instance instDecidableNeverUnproven :
    (r : LifecycleRecord) → (calls : List Call) → Decidable (NeverUnproven r calls)
  | _, [] => inferInstanceAs (Decidable True)
  | r, call :: rest =>
    have := instDecidableNeverUnproven (advance r call) rest
    inferInstanceAs (Decidable (_ ∧ _))

theorem Lineage.advance {as : List Applied} {r : LifecycleRecord} (h : Lineage as r) (call : Call) :
    ∃ bs, Lineage bs (Lifecycle.advance r call) := by
  obtain ⟨bs, hrun, -⟩ := exists_lineage_run h [call]
  exact ⟨as ++ bs, hrun⟩

/-- What one call releases is justified exactly when the call does not release an unproven intent. -/
theorem Lineage.release_iff {as : List Applied} {r : LifecycleRecord} (h : Lineage as r)
    (call : Call) :
    (∀ result, call.command.mayRelease →
      applyTransition (some r) call.command call.context = .ok result → result.record.released →
        Justified r call.command) ↔ ¬Unproven r call.command := by
  obtain ⟨command, context⟩ := call
  constructor
  · intro hjustified hunproven
    cases command with
    | release resultDigest receipt conclusion =>
      obtain ⟨result, hresult, hreleased⟩ :=
        applyTransition_releaseIntended h hunproven.1 resultDigest receipt conclusion context
      rcases hjustified result trivial hresult hreleased with ⟨-, hallowed⟩ | hproved
      · rw [hunproven.2.1] at hallowed
        cases hallowed
      · exact hunproven.2.2 (Option.some.inj hproved)
    | _ => exact hunproven
  · intro hproven result hmay hresult hreleased
    rcases applyTransition_ok hresult with ⟨-, hadvances⟩ | ⟨-, -, input, hcommand⟩
    · generalize hrecord : result.record = record at hadvances hreleased
      cases hadvances with
      | edge hedge _ => exact (hedge.justified_iff hreleased).mpr hproven
    · dsimp only at hcommand
      rw [hcommand] at hmay
      exact hmay.elim

theorem Lineage.releases_iff {as : List Applied} {r : LifecycleRecord} (h : Lineage as r)
    (calls : List Call) : ReleasesJustified r calls ↔ NeverUnproven r calls := by
  induction calls generalizing as r with
  | nil => exact Iff.rfl
  | cons call calls ih =>
    obtain ⟨bs, hnext⟩ := h.advance call
    exact and_congr (h.release_iff call) (ih hnext)

/-- In every run, capacity is released on permission or proof alone exactly when no call releases a
recorded intent whose domain requires evidence without evidence of no effect. -/
theorem run_releases_justified_iff {input : DecisionInput} {context : TransitionContext}
    {first : TransitionResult} {calls : List Call}
    (hfirst : applyTransition none (.recordDecision input) context = .ok first) :
    ReleasesJustified first.record calls ↔ NeverUnproven first.record calls :=
  (lineage_first hfirst).1.releases_iff calls

end Run

section Sample

local instance sampleReleaseSha256 : Sha256 :=
  ⟨fun bytes => ⟨Sha2.sha256 bytes, Sha2.sha256_length bytes⟩⟩

/-- A run that releases its capacity on an unknown outcome, once an intent is recorded. -/
def sampleReleaseCalls : List Call :=
  [⟨.reserve, { sampleContext 11 with capacity := sampleCapacity }⟩,
    ⟨.recordExecutionIntent sampleIntent, sampleContext 12⟩,
    ⟨.release (.filled 26) (.filled 27) .unknown, sampleContext 13⟩]

/-- The decision of the fixtures in a domain that requires evidence. -/
def sampleEvidenceInput : DecisionInput := { sampleInput with cancellation := .evidenceRequired }

/-- Where cancellation is allowed, the same run is justified. -/
theorem run_releases_justified_sample :
    ∃ first, applyTransition none (.recordDecision sampleInput) (sampleContext 10) = .ok first ∧
      ReleasesJustified first.record sampleReleaseCalls := by
  have hruns : ((applyTransition none (.recordDecision sampleInput)
      (sampleContext 10)).toOption.any fun first =>
        decide (NeverUnproven first.record sampleReleaseCalls)) = true := by decide +kernel
  cases hfirst : applyTransition none (.recordDecision sampleInput) (sampleContext 10) with
  | error _ =>
    rw [hfirst] at hruns
    cases hruns
  | ok first =>
    simp only [hfirst, Except.toOption, Option.any_some, decide_eq_true_eq] at hruns
    exact ⟨first, rfl, (run_releases_justified_iff hfirst).mpr hruns⟩

/-- Where evidence is required, a recorded intent is released on an unknown outcome all the same. -/
theorem intended_release_unjustified :
    sampleEvidenceInput.cancellation = .evidenceRequired ∧ ∃ first,
      applyTransition none (.recordDecision sampleEvidenceInput) (sampleContext 10) = .ok first ∧
      (sampleReleaseCalls.foldl advance first.record).state = .released ∧
      (sampleReleaseCalls.foldl advance first.record).reservationEntries.map (·.released) = [true] ∧
      ¬ReleasesJustified first.record sampleReleaseCalls := by
  refine ⟨rfl, ?_⟩
  have hruns : ((applyTransition none (.recordDecision sampleEvidenceInput)
      (sampleContext 10)).toOption.any fun first =>
        decide ((sampleReleaseCalls.foldl advance first.record).state = .released ∧
          (sampleReleaseCalls.foldl advance first.record).reservationEntries.map (·.released) =
            [true] ∧ ¬NeverUnproven first.record sampleReleaseCalls)) = true := by decide +kernel
  cases hfirst : applyTransition none (.recordDecision sampleEvidenceInput) (sampleContext 10) with
  | error _ =>
    rw [hfirst] at hruns
    cases hruns
  | ok first =>
    simp only [hfirst, Except.toOption, Option.any_some, decide_eq_true_eq] at hruns
    obtain ⟨hstate, hentries, hunproven⟩ := hruns
    refine ⟨first, rfl, hstate, hentries, fun hjustified => hunproven ?_⟩
    exact ((lineage_first hfirst).1.releases_iff sampleReleaseCalls).mp hjustified

end Sample

end AuthsProof.Lifecycle
