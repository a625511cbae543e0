import AuthsProof.EntryPoints
import Mathlib.Logic.Relation

/-! What every stage of a verification does to the work meter and how it may fail. The meter moves by
granted reservations alone, and no stage after resolution fails for a dangling reference unless the
control of some statement does. -/

namespace AuthsProof

open Run

/-- One granted reservation: the charge is added without wrapping and stays within the limit. -/
def Granted (meter charged : WorkMeter) : Prop :=
  ∃ maximum : UInt64, charged.limit = meter.limit ∧
    charged.used.toNat = meter.used.toNat + maximum.toNat ∧ charged.used ≤ meter.limit

/-- Any number of granted reservations, one after the other. -/
def Charges : WorkMeter → WorkMeter → Prop := Relation.ReflTransGen Granted

instance : Std.Refl Charges := inferInstanceAs (Std.Refl (Relation.ReflTransGen Granted))

instance : IsTrans WorkMeter Charges :=
  inferInstanceAs (IsTrans WorkMeter (Relation.ReflTransGen Granted))

/-- What any number of reservations leaves of a meter. -/
theorem Charges.bounded {meter charged : WorkMeter} (h : Charges meter charged) :
    charged.limit = meter.limit ∧ meter.used ≤ charged.used ∧
      (meter.used ≤ meter.limit → charged.used ≤ charged.limit) := by
  induction h with
  | refl => exact ⟨rfl, le_rfl, id⟩
  | tail _ hstep ih =>
    obtain ⟨hlimit, hused, -⟩ := ih
    obtain ⟨maximum, hkept, hsum, hwithin⟩ := hstep
    refine ⟨hkept.trans hlimit, hused.trans ?_, fun _ => hkept.symm ▸ hwithin⟩
    rw [UInt64.le_iff_toNat_le]
    omega

/-- A reservation is refused and leaves the meter alone, or it is granted. -/
theorem reserve_spec (maximum : UInt64) (meter : WorkMeter) :
    reserve maximum meter = (.error exhausted, meter) ∨
      ∃ charged, reserve maximum meter = (.ok (), charged) ∧ Granted meter charged ∧
        charged.used.toNat = meter.used.toNat + maximum.toNat := by
  unfold reserve
  by_cases hwraps : 2 ^ 64 ≤ meter.used.toNat + maximum.toNat
  · exact Or.inl (if_pos hwraps)
  · rw [if_neg hwraps]
    by_cases hover : meter.limit < meter.used + maximum
    · exact Or.inl (if_pos hover)
    · rw [if_neg hover]
      have hsum : (meter.used + maximum).toNat = meter.used.toNat + maximum.toNat := by
        rw [UInt64.toNat_add]
        exact Nat.mod_eq_of_lt (by omega)
      exact Or.inr ⟨_, rfl, ⟨maximum, rfl, hsum, not_lt.mp hover⟩, hsum⟩

/-- The failures of a reference that resolution would have refused. -/
def VerificationFailure.dangling : VerificationFailure → Bool
  | .denied .missingReference => true
  | .denied .referenceCycle => true
  | _ => false

section Failures

theorem controlFailure_dangling (error : PrincipalControlError) :
    (controlFailure error).dangling = false := by
  cases error <;> rfl

theorem registryOperationFailure_dangling (error : RegistryOperationError) :
    (registryOperationFailure error).dangling = false := by
  cases error <;> rfl

theorem limitOrMalformed_dangling (error : CodecError) : (limitOrMalformed error).dangling = false := by
  unfold limitOrMalformed
  split <;> rfl

end Failures

/-- A metered computation that only reserves work, and that fails in `E`. -/
abbrev Measured {α : Type} (E : VerificationFailure → Prop) (x : Metered α) : Prop :=
  Sat Charges E (fun _ => True) x

/-- The meter of a verification moves by granted reservations. -/
def Progress.Charged (before after : Progress) : Prop := Charges before.meter after.meter

instance : Std.Refl Progress.Charged := ⟨fun progress => refl_of Charges progress.meter⟩

instance : IsTrans Progress Progress.Charged := ⟨fun _ _ _ => trans_of Charges⟩

section Stages

variable {E : VerificationFailure → Prop} (hE : ∀ failure, failure.dangling = false → E failure)

include hE

theorem measured_reserve (maximum : UInt64) : Measured E (reserve maximum) := by
  have hspec := reserve_spec maximum
  refine ⟨fun meter => ?_, fun _ _ _ => trivial, fun meter failure hfailure => ?_⟩
  · rcases hspec meter with hrefused | ⟨charged, hgranted, hstep, -⟩
    · rw [hrefused]
      exact refl_of Charges meter
    · rw [hgranted]
      exact Relation.ReflTransGen.single hstep
  · rcases hspec meter with hrefused | ⟨charged, hgranted, -⟩
    · rw [hrefused] at hfailure
      exact Except.error.inj hfailure ▸ hE exhausted rfl
    · rw [hgranted] at hfailure
      cases hfailure

theorem measured_registry {α : Type} (value : Except RegistryOperationError α) :
    Measured E (Run.ofExcept (value.mapError registryOperationFailure)) :=
  sat_ofExcept (fun _ _ => trivial) (.mapError fun error => hE _ (registryOperationFailure_dangling error))

omit hE in
theorem measured_pure {α : Type} (a : α) : Measured E (pure a) := sat_pure trivial

theorem measured_ofOption {α : Type} (value : Option α) {failure : VerificationFailure}
    (h : failure.dangling = false) : Measured E (Run.ofOption value failure) :=
  sat_ofOption (fun _ _ => trivial) fun _ => hE failure h

theorem measured_ensure {p : Prop} [Decidable p] {failure : VerificationFailure}
    (h : failure.dangling = false) : Measured E (Run.ensure p failure) :=
  (sat_ensure fun _ => hE failure h).weaken fun _ _ => trivial

omit hE in
theorem measured_ofExcept {α : Type} {value : Except VerificationFailure α} (h : value.FailsIn E) :
    Measured E (Run.ofExcept value) :=
  sat_ofExcept (fun _ _ => trivial) h

theorem failsIn_require {p : Prop} [Decidable p] {failure : VerificationFailure}
    (h : failure.dangling = false) : (require p failure).FailsIn E := by
  by_cases hp : p
  · rw [require, if_pos hp]
    exact .ok
  · rw [require, if_neg hp]
    exact .error (hE failure h)

section Control

variable (context : ContextParts) (registries : ImmutableRegistries)

theorem measured_evaluateSignature (principal : PrincipalId) (signature : SignatureEnvelope)
    (signingPreimage : Bytes) (purpose : ControlPurpose) (assertedSigningTime : Timestamp)
    {evidence : Except VerificationFailure (List EvidenceObject)} (hevidence : evidence.FailsIn E) :
    Measured E (evaluateSignature context registries principal signature signingPreimage purpose
      assertedSigningTime evidence) := by
  unfold evaluateSignature
  refine (measured_ofOption hE _ rfl).bind fun method _ => ?_
  refine (measured_ofOption hE _ rfl).bind fun suite _ => ?_
  refine (measured_ofExcept hevidence).bind fun objects _ => ?_
  refine (measured_ensure hE rfl).bind fun _ _ => ?_
  refine (measured_reserve hE _).bind fun _ _ => (measured_reserve hE _).bind fun _ _ => ?_
  have hcontrol (value : Except PrincipalControlError ControlEvidence) :
      (value.mapError controlFailure).FailsIn E :=
    .mapError fun error => hE _ (controlFailure_dangling error)
  refine (measured_ofExcept (hcontrol _)).bind fun control _ => ?_
  refine (measured_ensure hE rfl).bind fun _ _ => ?_
  have hsignature (value : Except SignatureError Unit) : (value.mapError signatureFailure).FailsIn E :=
    .mapError fun _ => hE _ rfl
  exact (measured_ofExcept (hsignature _)).bind fun _ _ => measured_pure _

/-- The check of one statement stops for exhaustion alone, and its own failure is in `E`. -/
theorem sat_verifySigned {bundle : ProofBundle} {statement : StatementRef}
    (hbound : (boundEvidence bundle statement).FailsIn E) (principal : PrincipalId)
    (signature : SignatureEnvelope) (signingPreimage : Bytes) (purpose : ControlPurpose)
    (assertedSigningTime : Timestamp) :
    Sat Charges (· = exhausted) (fun control => control.result.FailsIn E)
      (verifySigned context registries bundle statement principal signature signingPreimage purpose
        assertedSigningTime) := by
  unfold verifySigned
  have hevaluate := measured_evaluateSignature hE context registries principal signature
    signingPreimage purpose assertedSigningTime hbound
  refine hevaluate.attempt.bind fun outcome houtcome => ?_
  cases outcome with
  | ok control => exact sat_pure .ok
  | error failure =>
    by_cases hexhausted : failure = exhausted
    · simp only [hexhausted, if_true]
      exact sat_fail rfl
    · simp only [hexhausted, if_false]
      exact sat_pure (.error (houtcome.2 failure rfl))

variable [Cbor] [Sha256]

/-- Every control of the stage fails in `E`, if the evidence bound to every statement is found. -/
theorem sat_verifyControls (resolved : ResolvedProof)
    (hbound : ∀ statement, (boundEvidence resolved.decoded.bundle statement).FailsIn E) :
    Sat Charges (· = exhausted) (fun controls => ∀ control ∈ controls, control.result.FailsIn E)
      (verifyControls context registries resolved) := by
  unfold verifyControls verifyStatusControls
  refine (sat_traverse fun record _ => sat_verifySigned hE context registries (hbound _) _ _ _ _ _).bind
    fun grantControls hgrants => ?_
  refine (sat_traverse fun record _ => sat_verifySigned hE context registries (hbound _) _ _ _ _ _).bind
    fun actionControls hactions => ?_
  refine Sat.bind (P := fun controls => ∀ control ∈ controls, control.result.FailsIn E) ?_
    fun statusControls hstatus => ?_
  · refine (sat_traverse fun status _ =>
      sat_verifySigned hE context registries (hbound _) _ _ _ _ _).bind fun principalControls hprincipal => ?_
    refine (sat_traverse fun status _ =>
      sat_verifySigned hE context registries (hbound _) _ _ _ _ _).bind fun grantControls hgrant => ?_
    refine sat_pure fun control hcontrol => ?_
    exact (List.mem_append.mp hcontrol).elim (hprincipal control) (hgrant control)
  · refine sat_pure fun control hcontrol => ?_
    rcases List.mem_append.mp hcontrol with hfirst | hlast
    · exact (List.mem_append.mp hfirst).elim (hgrants control) (hactions control)
    · exact hstatus control hlast

omit [Cbor] [Sha256] in
theorem failsIn_controlFor {controls : List VerifiedControl}
    (h : ∀ control ∈ controls, control.result.FailsIn E) (statement : StatementRef) :
    (controlFor controls statement).FailsIn E := by
  unfold controlFor
  split
  · rename_i control hfind
    exact (h control (List.mem_of_find?_eq_some hfind)).map
  · exact .error (hE _ rfl)

end Control

section Status

variable (context : ContextParts) (registries : ImmutableRegistries) {controls : List VerifiedControl}
  (hcontrols : ∀ statement, (controlFor controls statement).FailsIn E)

include hcontrols

theorem failsIn_checkStatements {σ : Type} (reference : StatusStatement σ → StatementRef)
    (statements : List (SignedStatus σ)) :
    (checkStatements controls reference context statements).FailsIn E := by
  refine .forM fun status _ => (hcontrols _).bind fun _ _ => ?_
  unfold checkStatusExtensions
  split
  · exact .ok
  · split
    · exact .error (hE _ rfl)
    · exact .error (hE _ rfl)

omit hcontrols in
theorem failsIn_statusDecision (decision : StatusDecision) (principal : Bool) :
    (statusDecision decision principal).FailsIn E := by
  cases decision with
  | active => exact .ok
  | _ => cases principal <;> exact .error (hE _ rfl)

omit hcontrols in
theorem failsIn_classify (failure : VerificationFailure) : (classify failure).FailsIn E := by
  unfold classify
  split
  · exact .error (hE _ rfl)
  · exact .ok
  · exact .ok

variable [Cbor] [Sha256]

theorem measured_checkPrincipalStatus (policy : StatusPolicy) (principal : PrincipalId)
    (listing : StatusListing) (anchor : TrustAnchor) :
    Measured E (checkPrincipalStatus controls context registries policy principal listing anchor) := by
  unfold checkPrincipalStatus
  cases policy with
  | expiryOnly => exact measured_pure ()
  | snapshotRequired method maxAge =>
    refine (measured_ofOption hE _ rfl).bind fun implementation _ => ?_
    refine (measured_ofExcept (failsIn_checkStatements hE context hcontrols _ _)).bind fun _ _ => ?_
    refine (measured_reserve hE _).bind fun _ _ => ?_
    refine (measured_registry hE _).bind fun decision _ => ?_
    split
    · exact measured_pure ()
    · exact measured_ofExcept (failsIn_statusDecision hE decision true)

theorem measured_checkGrantStatus (policy : StatusPolicy) (grant : GrantId) (anchor : TrustAnchor) :
    Measured E (checkGrantStatus controls context registries policy grant anchor) := by
  unfold checkGrantStatus
  cases policy with
  | expiryOnly => exact measured_pure ()
  | snapshotRequired method maxAge =>
    refine (measured_ofOption hE _ rfl).bind fun implementation _ => ?_
    refine (measured_ofExcept (failsIn_checkStatements hE context hcontrols _ _)).bind fun _ _ => ?_
    refine (measured_reserve hE _).bind fun _ _ => ?_
    refine (measured_registry hE _).bind fun decision _ => ?_
    exact measured_ofExcept (failsIn_statusDecision hE decision false)

omit hcontrols in
theorem measured_statusVerdict (anchor : ApproverAnchor) :
    Measured E (statusVerdict controls context registries anchor) := by
  unfold statusVerdict
  split
  · exact measured_pure _
  · split
    · exact measured_pure _
    · dsimp only
      split
      · exact measured_ofExcept (failsIn_classify hE _)
      · refine (measured_reserve hE _).bind fun _ _ => ?_
        split
        · exact measured_ofExcept (failsIn_classify hE _)
        · exact measured_pure _

end Status

section Observation

variable [Cbor]

theorem failsIn_chainObservationRequirements (chain : List SignedGrant) :
    (chainObservationRequirements chain).FailsIn E := by
  have hadd (known : List ObservationRequirement) (extension : CriticalExtension) :
      (addRequirements known extension).FailsIn E := by
    unfold addRequirements
    split
    · exact .ok
    · exact (Except.FailsIn.mapError fun error => hE _ (limitOrMalformed_dangling error)).bind
        fun _ _ => .ok
  exact (Except.FailsIn.foldlM (fun known extension _ => hadd known extension) []).bind fun _ _ =>
    (failsIn_require hE rfl).bind fun _ _ => .ok

theorem failsIn_requireParentRequirements (parent child : SignedGrant) :
    (requireParentRequirements parent child).FailsIn E :=
  (failsIn_chainObservationRequirements hE _).bind fun _ _ => failsIn_require hE rfl

variable (stage : ObservationStage)

theorem measured_authentic (observation : SignedObservation) :
    Measured E (stage.authentic observation) := by
  unfold ObservationStage.authentic
  dsimp only
  split
  · split
    · exact measured_pure _
    · refine (measured_reserve hE _).bind fun _ _ => (measured_reserve hE _).bind fun _ _ => ?_
      split
      · exact measured_pure _
      · refine (measured_ensure hE rfl).bind fun _ _ => ?_
        split
        · exact measured_pure _
        · split
          · exact measured_pure _
          · exact measured_pure _
  · exact measured_pure _

omit [Cbor] in
theorem measured_resolveFact (policy : ProfilePolicy) (name : FactName) :
    Measured E (stage.resolveFact policy name) :=
  (measured_reserve hE _).bind fun _ _ => measured_registry hE _

omit [Cbor] in
theorem measured_conditionValues (policy : ProfilePolicy) (conditions : List ObservationCondition) :
    Measured E (stage.conditionValues policy conditions) := by
  induction conditions with
  | nil => exact measured_pure _
  | cons condition conditions ih =>
    unfold ObservationStage.conditionValues
    split
    · exact ih.bind fun _ _ => measured_pure _
    · refine (measured_resolveFact hE stage policy _).bind fun value _ => ?_
      cases value with
      | none => exact measured_pure _
      | some value => exact ih.bind fun _ _ => measured_pure _

omit [Cbor] in
theorem measured_subjectResource (policy : ProfilePolicy) (subject : ObservationSubject) :
    Measured E (stage.subjectResource policy subject) := by
  cases subject with
  | resource resource => exact measured_pure _
  | actionFact name =>
    refine (measured_resolveFact hE stage policy name).bind fun value _ => ?_
    split
    · exact measured_pure _
    · exact measured_pure _

omit [Cbor] in
theorem measured_actionFacts (requirement : ObservationRequirement) (policy : ProfilePolicy) :
    Measured E (stage.actionFacts requirement policy) := by
  refine (measured_subjectResource hE stage policy _).bind fun subject _ => ?_
  cases subject with
  | none => exact measured_pure _
  | some subject => exact (measured_conditionValues hE stage policy _).bind fun _ _ => measured_pure _

variable [Sha256]

omit [Cbor] [Sha256] in
theorem measured_namespacesMatch (matcher : ResourceMatcher) (subject : ResourceId)
    (namespaces : List ResourceId) :
    Measured E (ObservationStage.namespacesMatch matcher subject namespaces) := by
  induction namespaces with
  | nil => exact measured_pure _
  | cons namespaceId namespaces ih =>
    refine (measured_reserve hE _).bind fun _ _ => (measured_registry hE _).bind fun matched _ => ?_
    split
    · exact measured_pure _
    · exact ih

theorem measured_eligible (requirement : ObservationRequirement) (anchor : ObserverAnchor)
    (subject : ResourceId) (candidate : Candidate) :
    Measured E (stage.eligible requirement anchor subject candidate) := by
  unfold ObservationStage.eligible
  dsimp only
  split
  · exact measured_pure _
  · refine Sat.bind ((measured_ofOption hE _ rfl).bind fun matcher _ =>
      measured_namespacesMatch hE matcher _ _) fun inside _ => ?_
    split
    · exact measured_pure _
    · split
      · exact measured_pure _
      · exact (measured_authentic hE stage _).bind fun _ _ => measured_pure _

theorem measured_scan (requirement : ObservationRequirement) (anchor : ObserverAnchor)
    (subject : ResourceId) (actionValues : List (Option FactValue)) (candidates : List Candidate) :
    Measured E (stage.scan requirement anchor subject actionValues candidates) := by
  induction candidates with
  | nil => exact measured_pure _
  | cons candidate candidates ih =>
    refine (measured_eligible hE stage requirement anchor subject candidate).bind fun checked _ => ?_
    obtain ⟨counts, checked⟩ := checked
    dsimp only
    split
    · exact measured_pure _
    · exact ih.bind fun _ _ => measured_pure _

/-- A requirement that is not met fails in `E` as well. -/
theorem sat_requirement (requirement : ObservationRequirement) (anchor : Option ObserverAnchor)
    (candidates : List Candidate) :
    Sat Charges E (fun verdict => verdict.1.FailsIn E)
      (stage.requirement requirement anchor candidates) := by
  unfold ObservationStage.requirement
  split
  · exact sat_pure (.error (hE _ rfl))
  · refine (measured_ofOption hE _ rfl).bind fun policy _ => ?_
    refine (measured_actionFacts hE stage _ policy).bind fun facts _ => ?_
    split
    · exact sat_pure (.error (hE _ rfl))
    · refine (measured_reserve hE _).bind fun _ _ => ?_
      refine (measured_scan hE stage _ _ _ _ _).bind fun scanned _ => ?_
      obtain ⟨anyEligible, satisfying, scanned⟩ := scanned
      dsimp only
      split
      · exact sat_pure .ok
      · exact sat_pure (.error (hE _ rfl))
      · exact sat_pure (.error (hE _ rfl))

theorem measured_evaluateEach (pairs : List (ObservationRequirement × Option ObserverAnchor))
    (candidates : List Candidate) (satisfactions : List ObservationSatisfaction)
    {unavailable : Option VerificationFailure} (h : ∀ failure ∈ unavailable, E failure) :
    Measured E (stage.evaluateEach pairs candidates satisfactions unavailable) := by
  induction pairs generalizing candidates satisfactions unavailable with
  | nil =>
    unfold ObservationStage.evaluateEach
    cases unavailable with
    | none => exact measured_pure _
    | some failure => exact sat_fail (h failure rfl)
  | cons pair pairs ih =>
    refine (sat_requirement hE stage pair.1 pair.2 candidates).bind fun verdict hverdict => ?_
    obtain ⟨verdict, candidates⟩ := verdict
    dsimp only at hverdict ⊢
    split
    · exact ih _ _ h
    · exact sat_fail (hverdict _ rfl)
    · rename_i failure _ _
      refine ih _ _ fun failure' hmem => ?_
      cases unavailable with
      | none => exact Option.some.inj hmem ▸ hverdict _ rfl
      | some first => exact Option.some.inj hmem ▸ h first rfl

theorem measured_observationStage : Measured E stage.evaluate := by
  have hanchors (requirements : List ObservationRequirement) :
      (stage.anchorsFor requirements).FailsIn E := by
    induction requirements with
    | nil => exact .ok
    | cons requirement requirements ih =>
      exact (failsIn_require hE rfl).bind fun _ _ => ih.bind fun _ _ => .ok
  have hcandidates (descriptors : List AttachmentDescriptor) :
      (stage.candidatesFrom descriptors).FailsIn E := by
    induction descriptors with
    | nil => exact .ok
    | cons descriptor descriptors ih =>
      unfold ObservationStage.candidatesFrom
      split
      · exact ih
      · split
        · exact ih
        · exact (Except.FailsIn.mapError fun error => hE _ (limitOrMalformed_dangling error)).bind
            fun _ _ => ih.bind fun _ _ => .ok
  unfold ObservationStage.evaluate
  refine (measured_ofExcept (failsIn_chainObservationRequirements hE _)).bind fun requirements _ => ?_
  split
  · exact measured_pure _
  · refine (measured_ofExcept (hanchors requirements)).bind fun anchors _ => ?_
    refine (measured_ofExcept ((hcandidates _).bind fun _ _ => .ok)).bind fun candidates _ => ?_
    exact measured_evaluateEach hE stage _ _ _ fun _ hmem => absurd hmem (by simp)

end Observation

section Assurance

variable [Sha256] (context : ContextParts) (registries : ImmutableRegistries)

omit [Sha256] in
theorem failsIn_participantReport (principal : PrincipalId) (evidence : ControlEvidence)
    (role : ParticipantRole) : (participantReport principal evidence role).FailsIn E :=
  .mapError fun _ => hE _ rfl

theorem measured_evaluateBranchAssurance (reports : List ParticipantAssurance) :
    Measured E (evaluateBranchAssurance context registries reports) := by
  refine (sat_forEach fun claim _ => ?_).bind fun _ _ => ?_
  · exact (measured_ofOption hE _ rfl).bind fun rule _ =>
      (measured_reserve hE _).bind fun _ _ => measured_registry hE _
  · refine (sat_forEach fun implication _ => measured_reserve hE _).bind fun _ _ => ?_
    exact measured_ofExcept (.mapError fun _ => hE _ rfl)

end Assurance

section Approval

variable [Cbor] [Sha256] (inputs : ApprovalInputs)

theorem measured_approvalVerdict (approval : SignedApproval) (anchor : ApproverAnchor) :
    Measured E (inputs.approvalVerdict approval anchor) := by
  have hsignature : Measured E (inputs.signatureVerdict approval) := by
    unfold ApprovalInputs.signatureVerdict
    refine (measured_evaluateSignature hE _ _ _ _ _ _ _ .ok).attempt.bind fun outcome _ => ?_
    cases outcome with
    | ok control => exact measured_pure _
    | error failure => exact measured_ofExcept (failsIn_classify hE failure)
  refine hsignature.bind fun verdict _ => ?_
  cases verdict with
  | counted => exact measured_statusVerdict hE _ _ _
  | _ => exact measured_pure _

theorem measured_collect (authority : List PrincipalId) (identifier : ApprovalRequirementId)
    (requirement : ApprovalRequirement) (candidates : List (ApprovalDigest × SignedApproval))
    (collected : ApprovalInputs.Collected) :
    Measured E (inputs.collect authority identifier requirement candidates collected) := by
  induction candidates generalizing collected with
  | nil => exact measured_pure _
  | cons candidate candidates ih =>
    unfold ApprovalInputs.collect
    split
    · exact ih collected
    · exact (measured_approvalVerdict hE inputs _ _).bind fun verdict _ => ih _

omit [Cbor] [Sha256] in
theorem failsIn_conclude (identifier : ApprovalRequirementId) (requirement : ApprovalRequirement)
    (collected : ApprovalInputs.Collected) :
    (ApprovalInputs.conclude identifier requirement collected).FailsIn E := by
  unfold ApprovalInputs.conclude
  dsimp only
  split
  · split
    · exact .ok
    · exact .error (hE _ rfl)
  · exact .ok
  · exact .ok

theorem sat_evaluateApproval (approvals : Approvals) (identifier : ApprovalRequirementId)
    (requirement : ApprovalRequirement) :
    Sat Progress.Charged E (fun _ => True) (inputs.evaluate approvals identifier requirement) := by
  have hcollect := measured_collect hE inputs approvals.authority identifier requirement
    approvals.candidates {}
  have hrun (progress : Progress) :
      progress.Charged (inputs.evaluate approvals identifier requirement progress).2 ∧
        ((inputs.evaluate approvals identifier requirement progress).1).FailsIn E := by
    have hmeter := hcollect.state progress.meter
    have hfailure := hcollect.failure progress.meter
    unfold ApprovalInputs.evaluate
    split
    · exact ⟨refl_of Progress.Charged progress, .ok⟩
    · split
      · exact ⟨refl_of Progress.Charged progress, .error (hE _ rfl)⟩
      · cases hrun : inputs.collect approvals.authority identifier requirement approvals.candidates {}
          progress.meter with
        | mk outcome meter =>
          rw [hrun] at hmeter hfailure
          cases outcome with
          | error failure => exact ⟨hmeter, .error (hfailure failure rfl)⟩
          | ok collected =>
            dsimp only
            have hconclude := failsIn_conclude hE identifier requirement collected
            cases hverdict : ApprovalInputs.conclude identifier requirement collected with
            | error failure => exact ⟨hmeter, .error (hconclude failure hverdict)⟩
            | ok evaluated => exact ⟨hmeter, .ok⟩
  exact ⟨fun progress => (hrun progress).1, fun _ _ _ => trivial, fun progress => (hrun progress).2⟩

theorem sat_evaluateList (approvals : Approvals)
    (requirements : List (ApprovalRequirementId × ApprovalRequirement)) (unavailable : Bool) :
    Sat Progress.Charged E (fun _ => True) (inputs.evaluateList approvals requirements unavailable) := by
  induction requirements generalizing unavailable with
  | nil =>
    unfold ApprovalInputs.evaluateList
    split
    · exact sat_fail (hE _ rfl)
    · exact sat_pure trivial
  | cons entry requirements ih =>
    refine (sat_evaluateApproval hE inputs approvals _ _).bind fun evaluated _ => ?_
    split
    · exact ih unavailable
    · exact sat_fail (hE _ rfl)
    · exact ih true

theorem failsIn_chainApprovalRequirements (chain : List SignedGrant) :
    (chainApprovalRequirements chain).FailsIn E := by
  have hadd (known : List (ApprovalRequirementId × ApprovalRequirement))
      (extension : CriticalExtension) : (addApprovalRequirements known extension).FailsIn E := by
    unfold addApprovalRequirements
    split
    · exact .ok
    · exact (Except.FailsIn.mapError fun error => hE _ (limitOrMalformed_dangling error)).bind
        fun _ _ => .ok
  exact (Except.FailsIn.foldlM (fun known extension _ => hadd known extension) []).bind fun _ _ =>
    (failsIn_require hE rfl).bind fun _ _ => .ok

end Approval

section Branch

variable [Cbor] [Sha256] (context : ContextParts) (registries : ImmutableRegistries)

theorem measured_evaluateExtensions (extensions : CriticalExtensions) :
    Measured E (evaluateExtensions context registries extensions) := by
  refine sat_forEach fun extension _ => ?_
  refine (measured_ensure hE rfl).bind fun _ _ => (measured_ofOption hE _ rfl).bind fun handler _ => ?_
  exact (measured_reserve hE _).bind fun _ _ => measured_registry hE _

theorem measured_validateActionBinding (bundle : ProofBundle) (canonical : CanonicalAction) :
    Measured E (validateActionBinding context registries bundle canonical) := by
  have hbind (first : ActionEnvelope) (signed : SignedAction) :
      Measured E (bindAction context registries canonical first signed) := by
    have henvelope : (checkEnvelope context canonical first signed.envelope).FailsIn E := by
      unfold checkEnvelope
      repeat' refine (failsIn_require hE rfl).bind fun _ _ => ?_
      exact failsIn_require hE rfl
    have hattachments (count : Nat) (descriptors : List AttachmentDescriptor) :
        (checkObservationAttachments count descriptors).FailsIn E := by
      induction descriptors generalizing count with
      | nil => exact .ok
      | cons descriptor descriptors ih =>
        unfold checkObservationAttachments
        split
        · exact ih count
        · split
          · exact .error (hE _ rfl)
          · exact ih (count + 1)
    exact (measured_ofExcept henvelope).bind fun _ _ =>
      (measured_evaluateExtensions hE context registries _).bind fun _ _ =>
        measured_ofExcept (hattachments 0 _)
  have hdescriptor (descriptor : AttachmentDescriptor) :
      (checkDescriptor canonical descriptor).FailsIn E := by
    unfold checkDescriptor
    split
    · exact failsIn_require hE rfl
    · exact (failsIn_require hE rfl).bind fun _ _ => (failsIn_require hE rfl).bind fun _ _ =>
        failsIn_require hE rfl
  have hattachments : (validateAttachments context bundle canonical).FailsIn E := by
    unfold validateAttachments
    refine (failsIn_require hE rfl).bind fun _ _ => (failsIn_require hE rfl).bind fun _ _ => ?_
    refine (failsIn_require hE rfl).bind fun _ _ => ?_
    exact (Except.FailsIn.forM fun descriptor _ => hdescriptor descriptor).bind fun _ _ =>
      failsIn_require hE rfl
  unfold validateActionBinding
  refine (measured_ensure hE rfl).bind fun _ _ => (measured_ofOption hE _ rfl).bind fun first _ => ?_
  refine (sat_forEach fun signed _ => hbind first.envelope signed).bind fun _ _ => ?_
  refine (measured_ofExcept hattachments).bind fun _ _ => ?_
  refine (measured_ofOption hE _ rfl).bind fun policy _ => (measured_reserve hE _).bind fun _ _ => ?_
  exact (measured_registry hE _).bind fun _ _ => measured_ensure hE rfl

variable (branch : BranchInput) (anchor : TrustAnchor)

omit [Cbor] in
theorem measured_validateResourceConstraints :
    Measured E (branch.validateResourceConstraints anchor) := by
  have hallowed (matcher : ResourceMatcher) (resource : ResourceId) (namespaces : List ResourceId)
      (allowed : Bool) :
      Measured E (BranchInput.resourceAllowed matcher resource namespaces allowed) := by
    induction namespaces generalizing allowed with
    | nil => exact measured_pure _
    | cons namespaceId namespaces ih =>
      exact (measured_reserve hE _).bind fun _ _ => (measured_registry hE _).bind fun matched _ =>
        ih (allowed || matched)
  refine (measured_ofOption hE _ rfl).bind fun matcher _ => sat_forEach fun resource _ => ?_
  exact (hallowed matcher resource _ false).bind fun _ _ => measured_ensure hE rfl

omit [Cbor] in
theorem measured_attenuateBudgets (grants : List SignedGrant) (parent : Option BudgetCeiling) :
    Measured E (branch.attenuateBudgets grants parent) := by
  induction grants generalizing parent with
  | nil => exact measured_pure _
  | cons grant grants ih =>
    unfold BranchInput.attenuateBudgets
    cases parent with
    | none => exact ih _
    | some parent =>
      refine (measured_ofOption hE _ rfl).bind fun child _ => ?_
      refine (measured_ofOption hE _ rfl).bind fun algebra _ => (measured_reserve hE _).bind fun _ _ => ?_
      exact (measured_registry hE _).bind fun _ _ => (measured_ensure hE rfl).bind fun _ _ => ih _

omit [Cbor] in
theorem measured_validateBudgetConstraints :
    Measured E (branch.validateBudgetConstraints anchor) := by
  refine (measured_attenuateBudgets hE branch _ _).bind fun terminal _ => ?_
  dsimp only
  split
  · exact measured_pure _
  · split
    · split
      · exact measured_pure _
      · exact sat_fail (hE _ rfl)
    · refine (measured_ofOption hE _ rfl).bind fun algebra _ => (measured_reserve hE _).bind fun _ _ => ?_
      exact (measured_registry hE _).bind fun _ _ => measured_ensure hE rfl

end Branch

section Chain

variable [Cbor] [Sha256] {branch : BranchInput} (anchor : TrustAnchor)
  (hcontrols : ∀ statement, (controlFor branch.controls statement).FailsIn E)

omit [Cbor] [Sha256] in
theorem failsIn_delegate (laws : CriticalExtensionLaws) (authority : EffectiveAuthority) (id : GrantId)
    (grant : GrantStatement) :
    ((authority.delegate laws id grant).mapError VerificationFailure.denied).FailsIn E := by
  unfold EffectiveAuthority.delegate evaluateGrant
  dsimp only
  split
  · rename_i reason hdenied
    split at hdenied
    · cases hdenied
      exact .error (hE _ rfl)
    · split at hdenied
      · cases hdenied
        exact .error (hE _ rfl)
      · cases hdenied
  · exact .ok

omit [Cbor] [Sha256] in
theorem failsIn_authorizes (authority : EffectiveAuthority) (action : ActionEnvelope)
    (registries : AcceptedRegistries) :
    ((authority.authorizes action registries).mapError VerificationFailure.denied).FailsIn E := by
  unfold EffectiveAuthority.authorizes
  split
  · exact .ok
  · rename_i reason hdenied
    unfold evaluateActionCoverage at hdenied
    repeat' split at hdenied
    all_goals cases hdenied
    all_goals exact .error (hE _ rfl)

include hcontrols

theorem measured_checkChainStatus : Measured E (branch.checkChainStatus anchor) :=
  sat_forEach fun _ _ => (measured_checkGrantStatus hE _ _ hcontrols _ _ anchor).bind fun _ _ =>
    measured_checkPrincipalStatus hE _ _ hcontrols _ _ _ anchor

theorem measured_delegateFrom (laws : CriticalExtensionLaws) (index : Nat) (parent : Option SignedGrant)
    (grants : List SignedGrant) (authority : EffectiveAuthority) (reports : List ParticipantAssurance) :
    Measured E (branch.delegateFrom laws index parent grants authority reports) := by
  induction grants generalizing index parent authority reports with
  | nil => exact measured_pure _
  | cons grant grants ih =>
    have hstep (authority : EffectiveAuthority) : Measured E (do
        let control ← Run.ofExcept (controlFor branch.controls (.grant (grantId grant.statement)))
        let report ← Run.ofExcept (participantReport control.1 control.2 (grantIssuerRole index))
        evaluateExtensions branch.context branch.registries grant.statement.extensions
        branch.delegateFrom laws (index + 1) (some grant) grants authority (reports ++ [report])) := by
      refine (measured_ofExcept (hcontrols _)).bind fun control _ => ?_
      refine (measured_ofExcept (failsIn_participantReport hE _ _ _)).bind fun report _ => ?_
      exact (measured_evaluateExtensions hE _ _ _).bind fun _ _ => ih _ _ _ _
    unfold BranchInput.delegateFrom
    cases parent with
    | none =>
      exact (measured_pure ()).bind fun _ _ =>
        (measured_ofExcept (failsIn_delegate hE laws authority _ _)).bind fun next _ => hstep next
    | some parent =>
      refine (measured_ofExcept (failsIn_requireParentRequirements hE parent grant)).bind fun _ _ => ?_
      refine (measured_reserve hE _).bind fun _ _ => ?_
      exact (measured_ofExcept (failsIn_delegate hE laws authority _ _)).bind fun next _ => hstep next

theorem measured_delegateChain (reports : List ParticipantAssurance) :
    Measured E (branch.delegateChain anchor reports) := by
  refine (measured_delegateFrom hE hcontrols _ _ _ _ _ _).bind fun reached _ => ?_
  exact (measured_ofExcept (failsIn_authorizes hE _ _ _)).bind fun _ _ => measured_pure _

theorem measured_verifyFromAnchor : Measured E (branch.verifyFromAnchor anchor) := by
  unfold BranchInput.verifyFromAnchor
  refine (measured_ensure hE rfl).bind fun _ _ => ?_
  refine (measured_checkPrincipalStatus hE _ _ hcontrols _ _ _ _).bind fun _ _ => ?_
  refine (measured_checkChainStatus hE anchor hcontrols).bind fun _ _ => ?_
  refine (measured_validateResourceConstraints hE branch anchor).bind fun _ _ => ?_
  refine (measured_validateBudgetConstraints hE branch anchor).bind fun _ _ => ?_
  have hroot : (if branch.chain.isEmpty then
      (participantReport branch.rootControl.1 branch.rootControl.2 .root).map fun report => [report]
      else .ok []).FailsIn E := by
    split
    · exact (failsIn_participantReport hE _ _ _).map
    · exact .ok
  refine (measured_ofExcept hroot).bind fun rootReports _ => ?_
  refine (measured_delegateChain hE anchor hcontrols rootReports).bind fun reports _ => ?_
  refine (measured_ofExcept (hcontrols _)).bind fun control _ => ?_
  refine (measured_ofExcept (failsIn_participantReport hE _ _ _)).bind fun report _ => ?_
  refine (measured_evaluateBranchAssurance hE _ _ _).bind fun assured _ => ?_
  exact (measured_observationStage hE _).bind fun _ _ => measured_pure _

theorem sat_verifyBranchFromAnchor (approvals : Approvals) :
    Sat Progress.Charged E (fun _ => True) (branch.verifyBranchFromAnchor anchor approvals) := by
  have honMeter : Sat Progress.Charged E (fun _ => True) (onMeter (branch.verifyFromAnchor anchor)) :=
    (measured_verifyFromAnchor hE anchor hcontrols).zoom fun _ _ hcharged => hcharged
  refine honMeter.bind fun established _ => ?_
  refine Sat.bind (sat_ofExcept (fun _ _ => trivial) (failsIn_chainApprovalRequirements hE _))
    fun requirements _ => ?_
  exact (sat_evaluateList hE _ approvals requirements false).bind fun _ _ => sat_pure trivial

theorem sat_verifyFromAnchors (approvals : Approvals) (anchors : List TrustAnchor)
    {firstFailure : Option VerificationFailure} (h : ∀ failure ∈ firstFailure, E failure) :
    Sat Progress.Charged E (fun _ => True)
      (branch.verifyFromAnchors approvals anchors firstFailure) := by
  induction anchors generalizing firstFailure with
  | nil =>
    cases firstFailure with
    | none => exact sat_fail (hE _ rfl)
    | some failure => exact sat_fail (h failure rfl)
  | cons anchor anchors ih =>
    refine (sat_verifyBranchFromAnchor hE anchor hcontrols approvals).attempt.bind
      fun outcome houtcome => ?_
    cases outcome with
    | ok authority => exact sat_pure trivial
    | error failure =>
      refine ih fun failure' hmem => ?_
      cases firstFailure with
      | none => exact Option.some.inj hmem ▸ houtcome.2 failure rfl
      | some first => exact Option.some.inj hmem ▸ h first rfl

omit hE hcontrols in
/-- The parts of a branch that has its inputs. -/
theorem branchInput_ok {resolved : ResolvedProof} {controls : List VerifiedControl}
    {canonical : CanonicalAction} {context : ContextParts} {registries : ImmutableRegistries}
    {proofRef : ProofRef} {branch : BranchInput}
    (h : branchInput resolved controls canonical context registries proofRef = .ok branch) :
    ∃ action chain rootControl,
      (resolved.decoded.bundle.actions.find? fun action => action.envelope.proofRef = proofRef) =
        some action ∧
      branchChain resolved action = .ok chain ∧
      controlFor controls (match chain.head? with
        | some grant => .grant (grantId grant.statement)
        | none => .action (actionId action.envelope)) = .ok rootControl ∧
      branch = ⟨controls, action, actionId action.envelope, chain, rootControl, canonical, context,
        registries⟩ := by
  unfold branchInput at h
  cases hfind : resolved.decoded.bundle.actions.find? fun action =>
      action.envelope.proofRef = proofRef with
  | none =>
    rw [hfind] at h
    cases h
  | some action =>
    rw [hfind] at h
    obtain ⟨found, hfound, h⟩ := Except.bind_eq_ok.mp h
    obtain rfl := Except.ok.inj hfound
    obtain ⟨chain, hchain, h⟩ := Except.bind_eq_ok.mp h
    obtain ⟨rootControl, hroot, h⟩ := Except.bind_eq_ok.mp h
    exact ⟨action, chain, rootControl, rfl, hchain, hroot, (Except.ok.inj h).symm⟩

omit hcontrols in
/-- A branch charges the meter by granted reservations, and fails in `E` if its inputs and the
controls it reads do. -/
theorem sat_verifyBranch {resolved : ResolvedProof} {controls : List VerifiedControl}
    (hcontrols : ∀ statement, (controlFor controls statement).FailsIn E) (canonical : CanonicalAction)
    (context : ContextParts) (registries : ImmutableRegistries) (approvals : Approvals)
    {proofRef : ProofRef}
    (hinput : (branchInput resolved controls canonical context registries proofRef).FailsIn E) :
    Sat Progress.Charged E (fun _ => True)
      (verifyBranch resolved controls canonical context registries approvals proofRef) := by
  refine Sat.bind (sat_ofExcept (P := fun branch => branch.controls = controls) ?_ hinput)
    fun branch hbranch => ?_
  · intro branch hbranch
    obtain ⟨action, chain, rootControl, -, -, -, rfl⟩ := branchInput_ok hbranch
    rfl
  · rw [← hbranch] at hcontrols
    exact sat_verifyFromAnchors hE hcontrols approvals _ fun _ hmem => absurd hmem (by simp)

end Chain

end Stages

/-- The work of an authority verification moves by granted reservations. -/
def AuthorityState.Charged (before after : AuthorityState) : Prop :=
  before.progress.Charged after.progress

instance : Std.Refl AuthorityState.Charged := ⟨fun state => refl_of Progress.Charged state.progress⟩

instance : IsTrans AuthorityState AuthorityState.Charged :=
  ⟨fun _ _ _ => trans_of Progress.Charged⟩

section Authority

variable [Cbor] [Sha256]

theorem branchStep_charged (controlled : ControlVerifiedProof) (canonical : CanonicalAction)
    (context : ContextParts) (registries : ImmutableRegistries) (approvals : Approvals)
    (reference : ProofRef) (state : AuthorityState) :
    state.Charged (branchStep controlled canonical context registries approvals reference state).2 := by
  have hsat : Sat Progress.Charged (fun _ => True) (fun _ => True)
      (verifyBranch controlled.resolved controlled.controls canonical context registries approvals
        reference) :=
    sat_verifyBranch (fun _ _ => trivial) (fun _ _ _ => trivial) canonical context registries
      approvals fun _ _ => trivial
  have hbranch := hsat.state state.progress
  unfold branchStep
  split <;> rename_i hrun <;> rw [hrun] at hbranch <;> exact hbranch

/-- The whole plan charges by granted reservations, whatever branches it evaluates. -/
theorem evaluatePlan_charged (controlled : ControlVerifiedProof) (canonical : CanonicalAction)
    (context : ContextParts) (registries : ImmutableRegistries) (approvals : Approvals)
    (state : AuthorityState) :
    state.Charged (evaluatePlan controlled canonical context registries approvals state).2 := by
  -- the two-run rule at one run with itself, on the states the start has charged
  have hplan := evaluateObserved_related (R := fun s t : AuthorityState => s = t ∧ state.Charged s)
    (b := branchStep controlled canonical context registries approvals)
    (c := branchStep controlled canonical context registries approvals)
    (o := observePlanEvent) (p := observePlanEvent)
    controlled.resolved.decoded.bundle.plan.plan context.limits ?_ ?_
    (s := state) (t := state) ⟨rfl, refl_of AuthorityState.Charged state⟩
  · exact hplan.2.2
  · intro reference _ s t hst
    obtain ⟨rfl, hcharged⟩ := hst
    exact ⟨rfl, rfl, trans_of AuthorityState.Charged hcharged
      (branchStep_charged controlled canonical context registries approvals reference s)⟩
  · intro event s t hst
    exact ⟨congrArg (observePlanEvent event) hst.1, hst.2⟩

theorem sat_authorize (controlled : ControlVerifiedProof) (canonical : CanonicalAction)
    (context : ContextParts) (registries : ImmutableRegistries) (approvals : Approvals) :
    Sat AuthorityState.Charged (fun _ => True) (fun _ => True)
      (authorize controlled canonical context registries approvals) := by
  have hplan : Sat AuthorityState.Charged (fun _ => True) (fun _ => True)
      (evaluatePlan controlled canonical context registries approvals) :=
    ⟨evaluatePlan_charged controlled canonical context registries approvals, fun _ _ _ => trivial,
      fun _ _ _ => trivial⟩
  have hcomposition : Sat AuthorityState.Charged (fun _ => True) (fun _ => True)
      (checkComposition context) := by
    refine ⟨fun state => ?_, fun _ _ _ => trivial, fun _ _ _ => trivial⟩
    unfold checkComposition
    dsimp only
    split <;> exact refl_of Progress.Charged state.progress
  have happrovals : Sat AuthorityState.Charged (fun _ => True) (fun _ => True)
      (evaluateContextApprovals controlled canonical context registries approvals) :=
    ⟨fun state => (sat_evaluateList (E := fun _ => True) (fun _ _ => trivial) _ approvals _ false).state
      state.progress, fun _ _ _ => trivial, fun _ _ _ => trivial⟩
  exact hplan.bind fun outcome _ =>
    Sat.bind (P := fun _ => True) (sat_ofExcept (fun _ _ => trivial) fun _ _ => trivial) fun _ _ =>
      hcomposition.bind fun _ _ => happrovals

/-- The authority stage charges by granted reservations, and seals the work it has charged. -/
theorem verifyAuthorityMeasured_charges (controlled : ControlVerifiedProof)
    (canonical : CanonicalAction) (registries : ImmutableRegistries) (context : TrustedContext)
    (meter : WorkMeter) (diagnostics : AuthorityDiagnostics) :
    let measured := verifyAuthorityMeasured controlled canonical registries context meter diagnostics
    Charges meter measured.2.1 ∧
      ∀ authority, measured.1 = .ok authority → authority.workUnits = measured.2.1.used := by
  have hbinding := (measured_validateActionBinding (E := fun _ => True) (fun _ _ => trivial)
    context.toContextParts registries controlled.resolved.decoded.bundle canonical).state meter
  unfold verifyAuthorityMeasured
  dsimp only
  cases hrun : validateActionBinding context.toContextParts registries
      controlled.resolved.decoded.bundle canonical meter with
  | mk outcome bound =>
    rw [hrun] at hbinding
    cases outcome with
    | error failure => exact ⟨hbinding, fun _ h => nomatch h⟩
    | ok _ =>
      have hauthorize := (sat_authorize controlled canonical context.toContextParts registries
        (Approvals.new controlled.resolved.decoded.bundle)).state ⟨⟨bound, []⟩, {}, diagnostics⟩
      refine ⟨trans_of Charges hbinding hauthorize, fun authority hauthority => ?_⟩
      dsimp only at hauthority
      cases hresult : (authorize controlled canonical context.toContextParts registries
          (Approvals.new controlled.resolved.decoded.bundle) ⟨⟨bound, []⟩, {}, diagnostics⟩).1 with
      | error failure =>
        rw [hresult] at hauthority
        cases hauthority
      | ok approved =>
        rw [hresult] at hauthority
        rw [← Except.ok.inj hauthority]
        rfl

theorem verifyPrincipalControl_charges {context : ContextParts} {registries : ImmutableRegistries}
    {resolved : ResolvedProof} {controlled : ControlVerifiedProof}
    (h : verifyPrincipalControl context registries resolved = .ok controlled) :
    Charges (WorkMeter.new context.limits.maxWorkUnits)
      (WorkMeter.fromUsed context.limits.maxWorkUnits controlled.workUnits) := by
  have hcharges := (sat_verifyControls (E := fun _ => True) (fun _ _ => trivial) context registries
    resolved fun _ _ _ => trivial).state (WorkMeter.new context.limits.maxWorkUnits)
  have hlimit := hcharges.bounded.1
  simp only [verifyPrincipalControl, Except.bind_eq_ok, require_eq_ok] at h
  obtain ⟨_, _, _, _, controls, _, _, _, _, _, hreturn⟩ := h
  rw [← Except.ok.inj hreturn]
  have hmeter : WorkMeter.fromUsed context.limits.maxWorkUnits
      (verifyControls context registries resolved (WorkMeter.new context.limits.maxWorkUnits)).2.used =
        (verifyControls context registries resolved (WorkMeter.new context.limits.maxWorkUnits)).2 :=
    congrArg (WorkMeter.mk _) hlimit.symm
  rw [hmeter]
  exact hcharges

/-- The work of a verification that passes control is what its authority stage has charged. -/
theorem runStages_workUnits_controlled {context : TrustedContext} {registries : ImmutableRegistries}
    {proofBytes : Bytes} {decoded : DecodedProof} {resolved : ResolvedProof}
    {controlled : ControlVerifiedProof} (canonical : CanonicalAction)
    (hdecode : decodeProof proofBytes context.toContextParts = .ok decoded)
    (hresolve : resolveProof decoded context.toContextParts = .ok resolved)
    (hcontrol : verifyPrincipalControl context.toContextParts registries resolved = .ok controlled) :
    (runStages context registries proofBytes canonical).workUnits =
      (verifyAuthorityMeasured controlled canonical registries context
        (WorkMeter.fromUsed context.limits.maxWorkUnits controlled.workUnits) .discard).2.1.used := by
  have hsealed := (verifyAuthorityMeasured_charges controlled canonical registries context
    (WorkMeter.fromUsed context.limits.maxWorkUnits controlled.workUnits) .discard).2
  unfold runStages
  rw [hdecode]
  dsimp only
  rw [hresolve]
  dsimp only
  rw [hcontrol]
  dsimp only
  generalize verifyAuthorityMeasured controlled canonical registries context
    (WorkMeter.fromUsed context.limits.maxWorkUnits controlled.workUnits) .discard = measured
    at hsealed ⊢
  obtain ⟨result, meter, diagnostics⟩ := measured
  cases result with
  | error failure => rfl
  | ok authority => exact hsealed authority rfl

/-- A verification reports no work before its authority stage. -/
theorem runStages_workUnits (context : TrustedContext) (registries : ImmutableRegistries)
    (proofBytes : Bytes) (canonical : CanonicalAction) :
    (runStages context registries proofBytes canonical).workUnits = 0 ∨
      ∃ decoded resolved controlled, decodeProof proofBytes context.toContextParts = .ok decoded ∧
        resolveProof decoded context.toContextParts = .ok resolved ∧
        verifyPrincipalControl context.toContextParts registries resolved = .ok controlled := by
  unfold runStages
  cases hdecode : decodeProof proofBytes context.toContextParts with
  | error failure => exact Or.inl rfl
  | ok decoded =>
    dsimp only
    cases hresolve : resolveProof decoded context.toContextParts with
    | error failure => exact Or.inl rfl
    | ok resolved =>
      dsimp only
      cases hcontrol : verifyPrincipalControl context.toContextParts registries resolved with
      | error failure => exact Or.inl rfl
      | ok controlled => exact Or.inr ⟨decoded, resolved, controlled, rfl, hresolve, hcontrol⟩

/-- Work accounting is bounded and monotone. A reservation is refused, and leaves the meter alone, or
adds its charge without wrapping and within the limit. The control stage, every branch and the whole
authority stage move the meter by such reservations alone, so it never decreases and never passes the
limit; the work of a result is within the limit whatever the stage it ends in, and no less than the
control stage has charged once that stage is passed. -/
theorem workUnits_bounded (context : TrustedContext) (registries : ImmutableRegistries)
    (proofBytes : Bytes) (canonical : CanonicalAction) :
    let limit := context.limits.maxWorkUnits
    let reported := (verifyPortable context registries proofBytes canonical).resources.workUnits
    (∀ maximum meter, reserve maximum meter = (.error exhausted, meter) ∨
      ∃ charged, reserve maximum meter = (.ok (), charged) ∧ Granted meter charged ∧
        charged.used.toNat = meter.used.toNat + maximum.toNat) ∧
    (∀ meter charged, Charges meter charged → charged.limit = meter.limit ∧
      meter.used ≤ charged.used ∧ (meter.used ≤ meter.limit → charged.used ≤ charged.limit)) ∧
    (∀ resolved, Charges (WorkMeter.new limit)
      (verifyControls context.toContextParts registries resolved (WorkMeter.new limit)).2) ∧
    (∀ (controlled : ControlVerifiedProof) approvals reference (progress : Progress),
      Charges progress.meter
        (verifyBranch controlled.resolved controlled.controls canonical context.toContextParts registries
          approvals reference progress).2.meter) ∧
    (∀ controlled meter diagnostics, Charges meter
      (verifyAuthorityMeasured controlled canonical registries context meter diagnostics).2.1) ∧
    reported ≤ limit ∧
    ∀ decoded resolved controlled, decodeProof proofBytes context.toContextParts = .ok decoded →
      resolveProof decoded context.toContextParts = .ok resolved →
      verifyPrincipalControl context.toContextParts registries resolved = .ok controlled →
      controlled.workUnits ≤ reported := by
  intro limit reported
  have hreported : reported = (runStages context registries proofBytes canonical).workUnits := by
    simp only [reported, verifyPortable_eq, StageRun.portable_workUnits]
  refine ⟨reserve_spec, fun _ _ h => h.bounded, fun resolved => ?_,
    fun controlled approvals reference progress => ?_, fun controlled meter diagnostics =>
      (verifyAuthorityMeasured_charges controlled canonical registries context meter diagnostics).1,
    ?_, ?_⟩
  · exact (sat_verifyControls (E := fun _ => True) (fun _ _ => trivial) context.toContextParts registries
      resolved fun _ _ _ => trivial).state (WorkMeter.new limit)
  · exact (sat_verifyBranch (E := fun _ => True) (fun _ _ => trivial) (fun _ _ _ => trivial) canonical
      context.toContextParts registries approvals fun _ _ => trivial).state progress
  · rw [hreported]
    obtain hzero | ⟨decoded, resolved, controlled, hdecode, hresolve, hcontrol⟩ :=
      runStages_workUnits context registries proofBytes canonical
    · rw [hzero]
      exact UInt64.zero_le
    · have hstarted := verifyPrincipalControl_charges hcontrol
      have hcharges := (verifyAuthorityMeasured_charges controlled canonical registries context
        (WorkMeter.fromUsed context.limits.maxWorkUnits controlled.workUnits) .discard).1
      obtain ⟨hkept, -, hwithin⟩ := (trans_of Charges hstarted hcharges).bounded
      rw [runStages_workUnits_controlled canonical hdecode hresolve hcontrol]
      exact (hwithin UInt64.zero_le).trans hkept.le
  · intro decoded resolved controlled hdecode hresolve hcontrol
    have hcharges := (verifyAuthorityMeasured_charges controlled canonical registries context
      (WorkMeter.fromUsed context.limits.maxWorkUnits controlled.workUnits) .discard).1
    rw [hreported, runStages_workUnits_controlled canonical hdecode hresolve hcontrol]
    exact hcharges.bounded.2.1

end Authority

section Sample

local instance sampleWorkCbor : Cbor := rfc8949

local instance sampleWorkSha256 : Sha256 :=
  ⟨fun bytes => ⟨Sha2.sha256 bytes, Sha2.sha256_length bytes⟩⟩

/-- The work of the root's own action, over the control of its one signature. -/
theorem workUnits_bounded_sample :
    let reported := (verifyPortable sampleOwnDeployment (sampleImplementations [])
      (encodeBundle sampleRootBundle) sampleCanonical).resources.workUnits
    ∃ controlled, verifyPrincipalControl sampleOwnDeployment.toContextParts (sampleImplementations [])
        sampleResolved = .ok controlled ∧
      controlled.workUnits ≤ reported ∧ reported ≤ defaultMaxWorkUnits := by
  intro reported
  obtain ⟨controlled, hcontrol⟩ := sampleRootBundle_controlled
  obtain ⟨-, -, -, -, -, hlimit, hcharged⟩ := workUnits_bounded sampleOwnDeployment
    (sampleImplementations []) (encodeBundle sampleRootBundle) sampleCanonical
  exact ⟨controlled, hcontrol, hcharged sampleDecoded sampleResolved controlled
    (sampleRootBundle_decodes _ rfl) sampleRootBundle_resolves hcontrol, hlimit⟩

end Sample

end AuthsProof
