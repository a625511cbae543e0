import AuthsProof.BundleRoundTrip
import AuthsProof.Lib.Attenuation
import AuthsProof.ObservationStage

/-! What the narrowing laws of observation and approval requirements mean: whatever meets every
requirement of a child meets every requirement of the parent it narrows, along whole chains. -/

namespace AuthsProof

open Attenuation Sorting

section Equality

@[simp] theorem factValueEqual_iff {left right : FactValue} :
    factValueEqual left right = true ↔ left = right := by
  cases left with
  | uint value => cases right <;> simp [factValueEqual]
  | bytes value =>
    cases right with
    | bytes other =>
      obtain ⟨bytes, hbytes⟩ := value
      obtain ⟨others, hothers⟩ := other
      simp [factValueEqual]
    | _ => simp [factValueEqual]
  | text value =>
    cases right with
    | text other =>
      obtain ⟨str, hstr⟩ := value
      obtain ⟨others, hothers⟩ := other
      simp [factValueEqual]
    | _ => simp [factValueEqual]

@[simp] theorem factNameEqual_iff {left right : FactName} :
    factNameEqual left right = true ↔ left = right := by
  simp [factNameEqual, BoundedString.str_injective.eq_iff]

@[simp] theorem observerAnchorIdEqual_iff {left right : ObserverAnchorId} :
    observerAnchorIdEqual left right = true ↔ left = right := by
  simp [observerAnchorIdEqual, BoundedString.str_injective.eq_iff]

@[simp] theorem observationSchemaEqual_iff {left right : ObservationSchemaId} :
    observationSchemaEqual left right = true ↔ left = right := by
  simp [observationSchemaEqual, BoundedString.str_injective.eq_iff]

@[simp] theorem observationSubjectEqual_iff {expected observed : ResourceId} :
    observationSubjectEqual expected observed = true ↔ expected = observed := by
  simp [observationSubjectEqual, BoundedString.str_injective.eq_iff]

@[simp] theorem requirementSubjectEqual_iff {left right : ObservationSubject} :
    requirementSubjectEqual left right = true ↔ left = right := by
  cases left <;> cases right <;> simp [requirementSubjectEqual]

/-- Positional equality under an equality test is equality. -/
theorem zip_all_eq_true_iff {α : Type} {equal : α → α → Bool}
    (hequal : ∀ a b, equal a b = true ↔ a = b) {xs ys : List α} (hlength : xs.length = ys.length) :
    ((xs.zip ys).all fun (a, b) => equal a b) = true ↔ xs = ys := by
  induction xs generalizing ys with
  | nil =>
    obtain rfl := List.eq_nil_of_length_eq_zero hlength.symm
    simp
  | cons x xs ih =>
    cases ys with
    | nil => simp at hlength
    | cons y ys =>
      have hrest := ih (Nat.succ.inj hlength)
      simp only [List.zip_cons_cons, List.all_cons, Bool.and_eq_true, hequal, hrest, List.cons.injEq]

theorem memberValuesEqual_iff {left right : MemberValues} :
    memberValuesEqual left right = true ↔ left = right := by
  obtain ⟨xs, hxne, hxbound, hxnodup⟩ := left
  obtain ⟨ys, hyne, hybound, hynodup⟩ := right
  simp only [memberValuesEqual, Bool.and_eq_true, beq_iff_eq, MemberValues.mk.injEq]
  constructor
  · intro ⟨hlength, hall⟩
    exact (zip_all_eq_true_iff (fun _ _ => factValueEqual_iff) hlength).mp hall
  · intro hsame
    have hlength := congrArg List.length hsame
    exact ⟨hlength, (zip_all_eq_true_iff (fun _ _ => factValueEqual_iff) hlength).mpr hsame⟩

theorem conditionTestEqual_iff {left right : ConditionTest} :
    conditionTestEqual left right = true ↔ left = right := by
  cases left with
  | uintRange range =>
    cases right with
    | uintRange other =>
      obtain ⟨lo, hi, hordered⟩ := range
      obtain ⟨lo', hi', hordered'⟩ := other
      simp [conditionTestEqual]
    | _ => simp [conditionTestEqual]
  | member values => cases right <;> simp [conditionTestEqual, memberValuesEqual_iff]
  | _ => cases right <;> simp [conditionTestEqual]

@[simp] theorem observationConditionEqual_iff {left right : ObservationCondition} :
    observationConditionEqual left right = true ↔ left = right := by
  obtain ⟨name, test⟩ := left
  obtain ⟨name', test'⟩ := right
  simp [observationConditionEqual, conditionTestEqual_iff]

@[simp] theorem observationConditionsInclude_iff {narrower wider : List ObservationCondition} :
    observationConditionsInclude narrower wider = true ↔ wider ⊆ narrower := by
  simp [observationConditionsInclude, observationConditionsContain, List.subset_def]

theorem observationConditionsEqual_iff {left right : List ObservationCondition} :
    observationConditionsEqual left right = true ↔ left = right := by
  simp only [observationConditionsEqual, Bool.and_eq_true, beq_iff_eq]
  constructor
  · intro ⟨hlength, hall⟩
    exact (zip_all_eq_true_iff (fun _ _ => observationConditionEqual_iff) hlength).mp hall
  · intro hsame
    have hlength := congrArg List.length hsame
    exact ⟨hlength, (zip_all_eq_true_iff (fun _ _ => observationConditionEqual_iff) hlength).mpr hsame⟩

end Equality

section Observation

/-- What a narrowing keeps, and one of the two bounds strictly smaller. -/
theorem observationRequirementNarrows_iff {child parent : ObservationRequirement} :
    observationRequirementNarrows child parent = true ↔
      (child.observerAnchor = parent.observerAnchor ∧ child.schema = parent.schema ∧
        child.subject = parent.subject) ∧ child.maxAgeSeconds ≤ parent.maxAgeSeconds ∧
      parent.conditions ⊆ child.conditions ∧
      (child.maxAgeSeconds < parent.maxAgeSeconds ∨ ¬child.conditions ⊆ parent.conditions) := by
  have htarget : observationRequirementSameTarget child parent = true ↔
      child.observerAnchor = parent.observerAnchor ∧ child.schema = parent.schema ∧
        child.subject = parent.subject := by
    simp [observationRequirementSameTarget, and_assoc]
  unfold observationRequirementNarrows
  rw [← htarget, ← observationConditionsInclude_iff, ← observationConditionsInclude_iff, ← not_lt]
  split_ifs with h1 h2 h3 h4
  · simp_all
  · simp [h2]
  · simp_all
  · simp_all
  · simp only [Bool.not_eq_true', Bool.not_eq_false] at h1 h3
    simp [h1, h2, h3, h4, -observationConditionsInclude_iff]

/-- The child requirement is the parent's, or a strict narrowing of it. -/
theorem observationRequirementCovers_iff {child parent : ObservationRequirement} :
    observationRequirementCovers child parent = true ↔
      child = parent ∨ observationRequirementNarrows child parent = true := by
  have hequal : observationRequirementEqual child parent = true ↔ child = parent := by
    obtain ⟨anchor, schema, subject, age, conditions, _, _, _, _⟩ := child
    obtain ⟨anchor', schema', subject', age', conditions', _, _, _, _⟩ := parent
    simp [observationRequirementEqual, observationRequirementSameTarget, observationConditionsEqual_iff,
      and_assoc]
  rw [observationRequirementCovers, Bool.or_eq_true, hequal]

theorem observationRequirementNarrows_trans {a b c : ObservationRequirement}
    (hab : observationRequirementNarrows a b = true) (hbc : observationRequirementNarrows b c = true) :
    observationRequirementNarrows a c = true := by
  rw [observationRequirementNarrows_iff] at hab hbc ⊢
  obtain ⟨⟨hanchor, hschema, hsubject⟩, hage, hconditions, hstrict⟩ := hab
  obtain ⟨⟨hanchor', hschema', hsubject'⟩, hage', hconditions', -⟩ := hbc
  refine ⟨⟨hanchor.trans hanchor', hschema.trans hschema', hsubject.trans hsubject'⟩, hage.trans hage',
    List.Subset.trans hconditions' hconditions, ?_⟩
  rcases hstrict with hless | hmore
  · exact Or.inl (hless.trans_le hage')
  · exact Or.inr fun hback => hmore (List.Subset.trans hback hconditions')

theorem observationRequirementCovers_trans {a b c : ObservationRequirement}
    (hab : observationRequirementCovers a b = true) (hbc : observationRequirementCovers b c = true) :
    observationRequirementCovers a c = true := by
  rw [observationRequirementCovers_iff] at hab hbc ⊢
  rcases hab with rfl | hab
  · exact hbc
  · rcases hbc with rfl | hbc
    · exact Or.inr hab
    · exact Or.inr (observationRequirementNarrows_trans hab hbc)

theorem observationRequirementsAttenuate_iff {child parent : ObservationRequirements} :
    observationRequirementsAttenuate child parent = true ↔
      Retains (fun c p => observationRequirementCovers c p = true) child.items parent.items := by
  simp [observationRequirementsAttenuate, observationRequirementRetained, Retains]

theorem observationRequirementsAttenuate_refl (requirements : ObservationRequirements) :
    observationRequirementsAttenuate requirements requirements = true :=
  observationRequirementsAttenuate_iff.mpr <|
    Retains.refl fun _ _ => observationRequirementCovers_iff.mpr (Or.inl rfl)

theorem observationRequirementsAttenuate_trans {a b c : ObservationRequirements}
    (hab : observationRequirementsAttenuate a b = true)
    (hbc : observationRequirementsAttenuate b c = true) :
    observationRequirementsAttenuate a c = true :=
  observationRequirementsAttenuate_iff.mpr <|
    (observationRequirementsAttenuate_iff.mp hab).trans
      (fun _ _ _ => observationRequirementCovers_trans) (observationRequirementsAttenuate_iff.mp hbc)

/-- What the requirements of one verification are judged by: the anchors the context trusts, the facts
of the action, the time, the observations, and the checks of an observation that no requirement takes
part in. -/
structure ObservationView where
  anchor : ObserverAnchorId → Option ObserverAnchor
  actionFact : FactName → Option FactValue
  evaluationTime : Timestamp
  observations : List SignedObservation
  admitted : ObserverAnchor → SignedObservation → Prop

namespace ObservationView

variable (view : ObservationView)

def subjectResource : ObservationSubject → Option ResourceId
  | .resource resource => some resource
  | .actionFact name =>
    match view.actionFact name with
    | some (.text text) => (ResourceId.parse text.str).toOption
    | _ => none

/-- The action value of each condition, absent where the profile cannot supply one. -/
def conditionValues : List ObservationCondition → Option (List (Option FactValue))
  | [] => some []
  | condition :: conditions =>
    match condition.actionFact with
    | none => (conditionValues conditions).map (none :: ·)
    | some name => (view.actionFact name).bind fun value =>
        (conditionValues conditions).map (some value :: ·)

/-- The observation counts for the requirement, whatever its conditions say. -/
structure Eligible (requirement : ObservationRequirement) (observation : SignedObservation)
    (anchor : ObserverAnchor) : Prop where
  admitted : view.admitted anchor observation
  observer : observation.statement.observer = anchor.principal
  schema : observation.statement.schema = requirement.schema
  schemaTrusted : requirement.schema ∈ anchor.schemas.items
  subject : view.subjectResource requirement.subject = some observation.statement.subject
  fresh : observationFresh observation.statement.observedAt view.evaluationTime
    requirement.maxAgeSeconds.toUInt64 anchor.validity.notBefore anchor.validity.expiresAt = true

/-- An eligible observation of the requirement's anchor that every condition holds of. -/
structure Satisfies (requirement : ObservationRequirement) (observation : SignedObservation)
    (anchor : ObserverAnchor) : Prop extends view.Eligible requirement observation anchor where
  anchored : view.anchor requirement.observerAnchor = some anchor
  conditions : ∃ values, view.conditionValues requirement.conditions = some values ∧
    observationConditionsHold requirement.conditions values observation.statement.facts = true

def Met (requirement : ObservationRequirement) : Prop :=
  ∃ observation ∈ view.observations, ∃ anchor, view.Satisfies requirement observation anchor

/-- One condition against the facts of an observation, with its own action value. -/
def ConditionHolds (facts : ObservationFacts) (condition : ObservationCondition) : Prop :=
  match condition.actionFact with
  | none => conditionValueHolds condition.test (observationFact facts condition.name) none = true
  | some name => ∃ value, view.actionFact name = some value ∧
      conditionValueHolds condition.test (observationFact facts condition.name) (some value) = true

omit view in
theorem observationConditionsHold_cons {facts : ObservationFacts} {condition : ObservationCondition}
    {conditions : List ObservationCondition} {value : Option FactValue}
    {values : List (Option FactValue)} :
    observationConditionsHold (condition :: conditions) (value :: values) facts =
      (conditionValueHolds condition.test (observationFact facts condition.name) value &&
        observationConditionsHold conditions values facts) := by
  by_cases hlength : conditions.length = values.length
  · simp [observationConditionsHold, hlength]
  · simp [observationConditionsHold, hlength]

/-- The conditions hold together exactly when each holds by itself, so only their set counts. -/
theorem conditionsHold_iff {facts : ObservationFacts} {conditions : List ObservationCondition} :
    (∃ values, view.conditionValues conditions = some values ∧
      observationConditionsHold conditions values facts = true) ↔
      ∀ condition ∈ conditions, view.ConditionHolds facts condition := by
  induction conditions with
  | nil => exact ⟨fun _ => by simp, fun _ => ⟨[], rfl, rfl⟩⟩
  | cons condition conditions ih =>
    rw [List.forall_mem_cons, ← ih, ConditionHolds, conditionValues]
    cases condition.actionFact with
    | none =>
      simp only [Option.map_eq_some_iff, exists_exists_and_eq_and, observationConditionsHold_cons,
        Bool.and_eq_true]
      grind
    | some name =>
      simp only [Option.bind_eq_some_iff, Option.map_eq_some_iff]
      constructor
      · intro ⟨values, ⟨value, hvalue, rest, hrest, hvalues⟩, hhold⟩
        rw [← hvalues, observationConditionsHold_cons, Bool.and_eq_true] at hhold
        exact ⟨⟨value, hvalue, hhold.1⟩, rest, hrest, hhold.2⟩
      · intro ⟨⟨value, hvalue, hfirst⟩, rest, hrest, hothers⟩
        refine ⟨some value :: rest, ⟨value, hvalue, rest, hrest, rfl⟩, ?_⟩
        rw [observationConditionsHold_cons, hfirst, hothers, Bool.and_self]

omit view in
/-- An observation fresh for an age is fresh for every larger one. -/
theorem observationFresh_mono {observedAt evaluationTime age age' notBefore expiresAt : UInt64}
    (hage : age ≤ age')
    (h : observationFresh observedAt evaluationTime age notBefore expiresAt = true) :
    observationFresh observedAt evaluationTime age' notBefore expiresAt = true := by
  unfold observationFresh at h ⊢
  split_ifs at h with hfuture hold
  have hnew : ¬age' < evaluationTime - observedAt :=
    fun hlt => hold (UInt64.lt_of_le_of_lt hage hlt)
  rw [if_neg hfuture, if_neg hnew]
  exact h

/-- An observation that satisfies a requirement satisfies every requirement it covers. -/
theorem Satisfies.of_covers {child parent : ObservationRequirement} {observation : SignedObservation}
    {anchor : ObserverAnchor} (hcovers : observationRequirementCovers child parent = true)
    (h : view.Satisfies child observation anchor) : view.Satisfies parent observation anchor := by
  rcases observationRequirementCovers_iff.mp hcovers with rfl | hnarrows
  · exact h
  · obtain ⟨⟨hanchor, hschema, hsubject⟩, hage, hconditions, -⟩ :=
      observationRequirementNarrows_iff.mp hnarrows
    have heach := view.conditionsHold_iff.mp h.conditions
    exact {
      anchored := hanchor ▸ h.anchored
      admitted := h.admitted
      observer := h.observer
      schema := hschema ▸ h.schema
      schemaTrusted := hschema ▸ h.schemaTrusted
      subject := hsubject ▸ h.subject
      fresh := observationFresh_mono (UInt32.toUInt64_le.mpr hage) h.fresh
      conditions := view.conditionsHold_iff.mpr fun condition hcondition =>
        heach condition (hconditions hcondition) }

theorem met_of_covers {child parent : ObservationRequirement}
    (hcovers : observationRequirementCovers child parent = true) (h : view.Met child) :
    view.Met parent := by
  obtain ⟨observation, hmem, anchor, hsatisfies⟩ := h
  exact ⟨observation, hmem, anchor, hsatisfies.of_covers view hcovers⟩

theorem met_of_attenuates {child parent : ObservationRequirements}
    (hattenuates : observationRequirementsAttenuate child parent = true)
    (h : ∀ r ∈ child.items, view.Met r) : ∀ r ∈ parent.items, view.Met r :=
  (observationRequirementsAttenuate_iff.mp hattenuates).forall
    (fun _ _ hcovers => view.met_of_covers hcovers) h

end ObservationView

end Observation

section Approval

@[simp] theorem principalIdsContain_iff {principals : List PrincipalId} {principal : PrincipalId} :
    principalIdsContain principals principal = true ↔ principal ∈ principals := by
  simp [principalIdsContain]

theorem approvalRequirementCovers_iff {child parent : ApprovalRequirement} :
    approvalRequirementCovers child parent = true ↔
      child.approvers.items ⊆ parent.approvers.items ∧ parent.threshold ≤ child.threshold := by
  simp [approvalRequirementCovers, principalIdsSubset, List.subset_def]

theorem approvalRequirementCovers_trans {a b c : ApprovalRequirement}
    (hab : approvalRequirementCovers a b = true) (hbc : approvalRequirementCovers b c = true) :
    approvalRequirementCovers a c = true := by
  rw [approvalRequirementCovers_iff] at hab hbc ⊢
  exact ⟨List.Subset.trans hab.1 hbc.1, UInt16.le_trans hbc.2 hab.2⟩

theorem approvalRequirementsAttenuate_iff {child parent : ApprovalRequirements} :
    approvalRequirementsAttenuate child parent = true ↔
      Retains (fun c p => approvalRequirementCovers c p = true) child.items parent.items := by
  simp [approvalRequirementsAttenuate, approvalRequirementRetained, Retains]

theorem approvalRequirementsAttenuate_refl (requirements : ApprovalRequirements) :
    approvalRequirementsAttenuate requirements requirements = true :=
  approvalRequirementsAttenuate_iff.mpr <|
    Retains.refl fun _ _ => approvalRequirementCovers_iff.mpr ⟨List.Subset.refl _, UInt16.le_refl _⟩

theorem approvalRequirementsAttenuate_trans {a b c : ApprovalRequirements}
    (hab : approvalRequirementsAttenuate a b = true)
    (hbc : approvalRequirementsAttenuate b c = true) : approvalRequirementsAttenuate a c = true :=
  approvalRequirementsAttenuate_iff.mpr <|
    (approvalRequirementsAttenuate_iff.mp hab).trans
      (fun _ _ _ => approvalRequirementCovers_trans) (approvalRequirementsAttenuate_iff.mp hbc)

/-- The threshold of the requirement is met by the outcomes of the approvals. -/
def ThresholdMet (outcomes : List ApprovalOutcome) (requirement : ApprovalRequirement) : Prop :=
  requirement.threshold.toNat ≤ (approvalCounts requirement.approvers.items outcomes).counted

instance (outcomes : List ApprovalOutcome) (requirement : ApprovalRequirement) :
    Decidable (ThresholdMet outcomes requirement) := inferInstanceAs (Decidable (_ ≤ _))

/-- Fewer approvers count no more outcomes: the lists have no repetition. -/
theorem thresholdMet_of_covers {outcomes : List ApprovalOutcome} {child parent : ApprovalRequirement}
    (hcovers : approvalRequirementCovers child parent = true) (h : ThresholdMet outcomes child) :
    ThresholdMet outcomes parent := by
  obtain ⟨happrovers, hthreshold⟩ := approvalRequirementCovers_iff.mp hcovers
  have hcount : (approvalCounts child.approvers.items outcomes).counted ≤
      (approvalCounts parent.approvers.items outcomes).counted :=
    (List.subperm_of_subset (child.approvers.sorted.imp fun hlt => hlt.ne) happrovers).countP_le _
  have hthreshold' : parent.threshold.toNat ≤ child.threshold.toNat := hthreshold
  exact hthreshold'.trans (h.trans hcount)

theorem thresholdMet_of_attenuates {outcomes : List ApprovalOutcome} {child parent : ApprovalRequirements}
    (hattenuates : approvalRequirementsAttenuate child parent = true)
    (h : ∀ r ∈ child.items, ThresholdMet outcomes r) : ∀ r ∈ parent.items, ThresholdMet outcomes r :=
  (approvalRequirementsAttenuate_iff.mp hattenuates).forall
    (fun _ _ => thresholdMet_of_covers) h

end Approval

section Stage

variable [Cbor] [Sha256] (stage : ObservationStage) (policy : ProfilePolicy)

/-- What the requirements of one branch are judged by. -/
def ObservationStage.view (candidates : List Candidate) : ObservationView where
  anchor id := stage.context.observerAnchors.find? fun anchor => anchor.id = id
  actionFact name := (policy.actionFact stage.canonical name).toOption.join
  evaluationTime := stage.context.evaluationTime
  observations := candidates.map Candidate.observation
  admitted anchor observation :=
    observation.signature.descriptor.principalMethod ∈ anchor.acceptedMethods.items ∧
      (∃ meter, (stage.subjectInNamespaces anchor observation.statement.subject meter).1 = .ok true) ∧
      ∃ meter, (stage.authentic observation meter).1 = .ok true

/-- The recorded authenticity of a candidate is what checking it answers. -/
def ObservationStage.Truthful (candidate : Candidate) : Prop :=
  ∀ authentic ∈ candidate.authentic,
    ∃ meter, (stage.authentic candidate.observation meter).1 = .ok authentic

/-- The attachment a candidate comes from. -/
def Candidate.attachment (candidate : Candidate) : AttachmentDigest × SignedObservation :=
  (candidate.digest, candidate.observation)

/-- The candidates as a check leaves them: the same attachments, with truthful records. -/
def ObservationStage.Kept (before after : List Candidate) : Prop :=
  after.map Candidate.attachment = before.map Candidate.attachment ∧
    ∀ candidate ∈ after, stage.Truthful candidate

omit [Cbor] [Sha256] in
theorem answers_resolveFact (name : FactName) :
    Run.Answers (fun value => (policy.actionFact stage.canonical name).toOption.join = value)
      (stage.resolveFact policy name) := by
  refine (Run.answers_self _).bind fun _ _ => Run.answers_ofExcept fun value hvalue => ?_
  cases h : policy.actionFact stage.canonical name with
  | error e => simp [h, Except.mapError] at hvalue
  | ok found =>
    rw [h] at hvalue
    rw [← Except.ok.inj hvalue]
    cases found <;> rfl

theorem answers_conditionValues (candidates : List Candidate) (conditions : List ObservationCondition) :
    Run.Answers (fun values => (stage.view policy candidates).conditionValues conditions = values)
      (stage.conditionValues policy conditions) := by
  induction conditions with
  | nil => exact Run.answers_pure rfl
  | cons condition conditions ih =>
    unfold ObservationStage.conditionValues ObservationView.conditionValues
    cases condition.actionFact with
    | none => exact ih.bind fun values hvalues => Run.answers_pure (by simp [hvalues])
    | some name =>
      refine (answers_resolveFact stage policy name).bind fun value hvalue => ?_
      have hfact : (stage.view policy candidates).actionFact name = value := hvalue
      cases value with
      | none => exact Run.answers_pure (by simp [hfact])
      | some value => exact ih.bind fun values hvalues => Run.answers_pure (by simp [hfact, hvalues])

theorem answers_subjectResource (candidates : List Candidate) (subject : ObservationSubject) :
    Run.Answers (fun resource => (stage.view policy candidates).subjectResource subject = resource)
      (stage.subjectResource policy subject) := by
  cases subject with
  | resource resource => exact Run.answers_pure rfl
  | actionFact name =>
    refine (answers_resolveFact stage policy name).bind fun value hvalue => ?_
    have hfact : (stage.view policy candidates).actionFact name = value := hvalue
    simp only [ObservationView.subjectResource, hfact]
    cases value with
    | none => exact Run.answers_pure rfl
    | some value => cases value <;> exact Run.answers_pure rfl

theorem answers_eligible {requirement : ObservationRequirement} {anchor : ObserverAnchor}
    {subject : ResourceId} {candidate : Candidate} (candidates : List Candidate)
    (hsubject : (stage.view policy candidates).subjectResource requirement.subject = some subject)
    (htruthful : stage.Truthful candidate) :
    Run.Answers (fun checked => checked.2.attachment = candidate.attachment ∧
        stage.Truthful checked.2 ∧ (checked.1 = true →
          (stage.view policy candidates).Eligible requirement candidate.observation anchor))
      (stage.eligible requirement anchor subject candidate) := by
  unfold ObservationStage.eligible
  dsimp only
  split
  · exact Run.answers_pure ⟨rfl, htruthful, fun h => nomatch h⟩
  · rename_i hchecks
    simp only [Bool.or_eq_true, Bool.not_eq_true', decide_eq_true_eq, not_or, Bool.not_eq_false,
      principalIdEqual_iff, observationSubjectEqual_iff, not_not] at hchecks
    obtain ⟨⟨⟨⟨⟨hobserver, hschema⟩, htrusted⟩, hobserved⟩, hfresh⟩, hmethod⟩ := hchecks
    refine (Run.answers_self _).bind fun inside hinside => ?_
    split
    · exact Run.answers_pure ⟨rfl, htruthful, fun h => nomatch h⟩
    · rename_i hin
      obtain rfl : inside = true := by simpa using hin
      have heligible (hauthentic : ∃ meter, (stage.authentic candidate.observation meter).1 = .ok true) :
          (stage.view policy candidates).Eligible requirement candidate.observation anchor :=
        ⟨⟨hmethod, hinside, hauthentic⟩, hobserver, hschema, htrusted, hobserved ▸ hsubject, hfresh⟩
      split
      · rename_i authentic hknown
        exact Run.answers_pure
          ⟨rfl, htruthful, fun h => heligible (h ▸ htruthful authentic hknown)⟩
      · refine (Run.answers_self _).bind fun authentic hauthentic => Run.answers_pure ?_
        refine ⟨rfl, fun recorded hrecorded => Option.some.inj hrecorded ▸ hauthentic, fun h => ?_⟩
        have hyes : authentic = true := h
        exact heligible (hyes ▸ hauthentic)

omit [Sha256] in
theorem ObservationStage.Kept.cons {candidate checked : Candidate} {before after : List Candidate}
    (hsame : checked.attachment = candidate.attachment) (htruthful : stage.Truthful checked)
    (h : stage.Kept before after) : stage.Kept (candidate :: before) (checked :: after) :=
  ⟨by simp [hsame, h.1], List.forall_mem_cons.mpr ⟨htruthful, h.2⟩⟩

/-- A scan that finds an attachment finds one that satisfies the requirement. -/
theorem answers_scan {requirement : ObservationRequirement} {anchor : ObserverAnchor}
    {subject : ResourceId} {values : List (Option FactValue)} (all candidates : List Candidate)
    (hanchor : (stage.view policy all).anchor requirement.observerAnchor = some anchor)
    (hsubject : (stage.view policy all).subjectResource requirement.subject = some subject)
    (hvalues : (stage.view policy all).conditionValues requirement.conditions = some values)
    (htruthful : ∀ candidate ∈ candidates, stage.Truthful candidate) :
    Run.Answers (fun scanned => stage.Kept candidates scanned.2.2 ∧ ∀ digest ∈ scanned.2.1,
        ∃ candidate ∈ candidates, candidate.digest = digest ∧
          (stage.view policy all).Satisfies requirement candidate.observation anchor)
      (stage.scan requirement anchor subject values candidates) := by
  induction candidates with
  | nil => exact Run.answers_pure ⟨⟨rfl, by simp⟩, fun _ h => nomatch h⟩
  | cons candidate candidates ih =>
    obtain ⟨hfirst, hrest⟩ := List.forall_mem_cons.mp htruthful
    refine (answers_eligible stage policy all hsubject hfirst).bind fun checked hchecked => ?_
    obtain ⟨counts, checked⟩ := checked
    obtain ⟨hsame, htrue, heligible⟩ := hchecked
    dsimp only at hsame heligible ⊢
    obtain ⟨hdigest, hobservation⟩ := Prod.mk.inj hsame
    split
    · rename_i hcounts
      rw [Bool.and_eq_true, hobservation] at hcounts
      refine Run.answers_pure ⟨.cons stage hsame htrue ⟨rfl, hrest⟩, fun digest hfound => ?_⟩
      refine ⟨candidate, List.mem_cons_self, hdigest.symm.trans (Option.some.inj hfound),
        heligible hcounts.1, hanchor, values, hvalues, hcounts.2⟩
    · refine (ih hrest).bind fun scanned hscanned => Run.answers_pure ?_
      refine ⟨.cons stage hsame htrue hscanned.1, fun digest hfound => ?_⟩
      obtain ⟨found, hmem, hsatisfies⟩ := hscanned.2 digest hfound
      exact ⟨found, List.mem_cons_of_mem candidate hmem, hsatisfies⟩

/-- The satisfaction names the requirement and an attachment that satisfies it under the profile policy
of the context. -/
def ObservationStage.Records (candidates : List Candidate) (requirement : ObservationRequirement)
    (satisfaction : ObservationSatisfaction) : Prop :=
  satisfaction.requirement = observationRequirementId requirement ∧
    ∃ policy, stage.registries.profilePolicy stage.context.acceptedRegistries
      stage.context.profilePolicy = some policy ∧
      ∃ candidate ∈ candidates, candidate.digest = satisfaction.observation ∧
        ∃ anchor, (stage.view policy candidates).Satisfies requirement candidate.observation anchor

omit policy in
/-- The candidates count for their attachments only. -/
theorem ObservationStage.Kept.records {before after : List Candidate} (h : stage.Kept before after)
    {requirement : ObservationRequirement} {satisfaction : ObservationSatisfaction}
    (hrecords : stage.Records after requirement satisfaction) :
    stage.Records before requirement satisfaction := by
  obtain ⟨hrequirement, policy, hpolicy, candidate, hmem, hdigest, anchor, hsatisfies⟩ := hrecords
  have hobservations : after.map Candidate.observation = before.map Candidate.observation := by
    have hsecond := congrArg (List.map Prod.snd) h.1
    rwa [List.map_map, List.map_map] at hsecond
  have hview : stage.view policy after = stage.view policy before := by
    simp [ObservationStage.view, hobservations]
  obtain ⟨own, hown, hsame⟩ := List.mem_map.mp (h.1 ▸ List.mem_map_of_mem hmem)
  obtain ⟨hdigests, hobservation⟩ := Prod.mk.inj hsame
  exact ⟨hrequirement, policy, hpolicy, own, hown, hdigests.trans hdigest, anchor,
    hobservation.symm ▸ hview ▸ hsatisfies⟩

omit policy in
theorem answers_requirement {requirement : ObservationRequirement} {anchor : Option ObserverAnchor}
    {candidates : List Candidate}
    (hanchor : (stage.context.observerAnchors.find? fun known => known.id = requirement.observerAnchor) =
      anchor)
    (htruthful : ∀ candidate ∈ candidates, stage.Truthful candidate) :
    Run.Answers (fun verdict => stage.Kept candidates verdict.2 ∧
        ∀ satisfaction, verdict.1 = .ok satisfaction →
          stage.Records candidates requirement satisfaction)
      (stage.requirement requirement anchor candidates) := by
  unfold ObservationStage.requirement
  split
  · exact Run.answers_pure ⟨⟨rfl, htruthful⟩, fun _ h => nomatch h⟩
  · rename_i anchor
    refine (Run.answers_ofOption fun _ h => h).bind fun policy hpolicy => ?_
    refine Run.Answers.bind (P := fun facts => ∀ subject values, facts = some (subject, values) →
        (stage.view policy candidates).subjectResource requirement.subject = some subject ∧
        (stage.view policy candidates).conditionValues requirement.conditions = some values) ?_
      fun facts hfacts => ?_
    · refine (answers_subjectResource stage policy candidates _).bind fun subject hsubject => ?_
      cases subject with
      | none => exact Run.answers_pure fun _ _ h => nomatch h
      | some subject =>
        refine (answers_conditionValues stage policy candidates _).bind fun values hvalues => ?_
        refine Run.answers_pure fun subject' values' h => ?_
        obtain ⟨found, hfound, hpair⟩ := Option.map_eq_some_iff.mp h
        obtain ⟨rfl, rfl⟩ := Prod.mk.inj hpair
        exact ⟨hsubject, hvalues.trans hfound⟩
    · split
      · exact Run.answers_pure ⟨⟨rfl, htruthful⟩, fun _ h => nomatch h⟩
      · rename_i subject values
        obtain ⟨hsubject, hvalues⟩ := hfacts subject values rfl
        refine (Run.answers_self _).bind fun _ _ => ?_
        refine (answers_scan stage policy candidates candidates hanchor hsubject hvalues
          htruthful).bind fun scanned hscanned => ?_
        obtain ⟨anyEligible, satisfying, scanned⟩ := scanned
        obtain ⟨hkept, hfound⟩ := hscanned
        dsimp only at hkept hfound ⊢
        split
        · refine Run.answers_pure ⟨hkept, fun satisfaction hsatisfaction => ?_⟩
          obtain rfl := Except.ok.inj hsatisfaction
          obtain ⟨candidate, hmem, hdigest, hsatisfies⟩ := hfound _ rfl
          exact ⟨rfl, policy, hpolicy, candidate, hmem, hdigest, anchor, hsatisfies⟩
        · exact Run.answers_pure ⟨hkept, fun _ h => nomatch h⟩
        · exact Run.answers_pure ⟨hkept, fun _ h => nomatch h⟩

omit policy in
theorem answers_evaluateEach {pairs : List (ObservationRequirement × Option ObserverAnchor)}
    {candidates : List Candidate} (satisfactions : List ObservationSatisfaction)
    (unavailable : Option VerificationFailure)
    (hanchors : ∀ pair ∈ pairs, (stage.context.observerAnchors.find? fun known =>
      known.id = pair.1.observerAnchor) = pair.2)
    (htruthful : ∀ candidate ∈ candidates, stage.Truthful candidate) :
    Run.Answers (fun found => unavailable = none ∧ satisfactions ⊆ found ∧
        ∀ pair ∈ pairs, ∃ satisfaction ∈ found, stage.Records candidates pair.1 satisfaction)
      (stage.evaluateEach pairs candidates satisfactions unavailable) := by
  induction pairs generalizing candidates satisfactions unavailable with
  | nil =>
    unfold ObservationStage.evaluateEach
    cases unavailable with
    | none => exact Run.answers_pure ⟨rfl, List.Subset.refl _, by simp⟩
    | some failure => exact Run.answers_fail
  | cons pair pairs ih =>
    obtain ⟨hanchor, hrest⟩ := List.forall_mem_cons.mp hanchors
    refine (answers_requirement stage hanchor htruthful).bind fun verdict hverdict => ?_
    obtain ⟨verdict, left⟩ := verdict
    obtain ⟨hkept, hrecords⟩ := hverdict
    dsimp only at hkept hrecords ⊢
    split
    · rename_i satisfaction
      intro meter found hfound
      obtain ⟨hnone, hkeeps, hothers⟩ := ih _ unavailable hrest hkept.2 meter found hfound
      obtain ⟨hbefore, hadded⟩ := List.append_subset.mp hkeeps
      refine ⟨hnone, hbefore, List.forall_mem_cons.mpr ⟨?_, fun pair hpair => ?_⟩⟩
      · exact ⟨satisfaction, hadded List.mem_cons_self, hrecords satisfaction rfl⟩
      · obtain ⟨other, hother, hrecord⟩ := hothers pair hpair
        exact ⟨other, hother, hkept.records stage hrecord⟩
    · exact Run.answers_fail
    · intro meter found hfound
      -- a requirement that is not met leaves a failure that no later one removes
      obtain ⟨hnone, -⟩ := ih satisfactions _ hrest hkept.2 meter found hfound
      nomatch hnone

omit [Cbor] [Sha256] policy in
theorem anchorsFor_eq {requirements : List ObservationRequirement} {anchors : List (Option ObserverAnchor)}
    (h : stage.anchorsFor requirements = .ok anchors) :
    requirements.zip anchors = requirements.map fun requirement =>
      (requirement, stage.context.observerAnchors.find? fun known =>
        known.id = requirement.observerAnchor) := by
  induction requirements generalizing anchors with
  | nil => rfl
  | cons requirement requirements ih =>
    obtain ⟨_, -, hrest⟩ := Except.bind_eq_ok.mp h
    obtain ⟨rest, hfound, heq⟩ := Except.bind_eq_ok.mp hrest
    rw [← Except.ok.inj heq, List.zip_cons_cons, ih hfound, List.map_cons]

omit policy in
theorem candidatesFrom_unchecked {descriptors : List AttachmentDescriptor} {candidates : List Candidate}
    (h : stage.candidatesFrom descriptors = .ok candidates) :
    ∀ candidate ∈ candidates, candidate.authentic = none := by
  induction descriptors generalizing candidates with
  | nil =>
    obtain rfl := Except.ok.inj h
    simp
  | cons descriptor descriptors ih =>
    unfold ObservationStage.candidatesFrom at h
    split_ifs at h
    · exact ih h
    · split at h
      · exact ih h
      · obtain ⟨observation, -, h⟩ := Except.bind_eq_ok.mp h
        obtain ⟨rest, hrest, heq⟩ := Except.bind_eq_ok.mp h
        obtain rfl := Except.ok.inj heq
        exact List.forall_mem_cons.mpr ⟨rfl, ih hrest⟩

omit policy in
/-- A branch that passes its observation stage has recorded an attachment that satisfies it for every
observation requirement of its chain. -/
theorem answers_observationStage : Run.Answers (fun satisfactions => ∃ requirements,
    chainObservationRequirements stage.chain = .ok requirements ∧ ∀ requirement ∈ requirements,
      ∃ candidates, stage.candidates = .ok candidates ∧ ∃ satisfaction ∈ satisfactions,
        stage.Records candidates requirement satisfaction)
    stage.evaluate := by
  refine (Run.answers_ofExcept fun _ h => h).bind fun requirements hrequirements => ?_
  split
  · rename_i hempty
    refine Run.answers_pure ⟨requirements, hrequirements, ?_⟩
    simp [List.isEmpty_iff.mp hempty]
  · refine (Run.answers_ofExcept fun _ h => h).bind fun anchors hanchors => ?_
    refine (Run.answers_ofExcept fun _ h => h).bind fun candidates hcandidates => ?_
    obtain ⟨listed, hlisted, hsorted⟩ := Except.bind_eq_ok.mp hcandidates
    have htruthful : ∀ candidate ∈ candidates, stage.Truthful candidate := by
      intro candidate hmem authentic hauthentic
      rw [← Except.ok.inj hsorted, mem_sortByKey] at hmem
      rw [candidatesFrom_unchecked stage hlisted candidate hmem] at hauthentic
      nomatch hauthentic
    rw [anchorsFor_eq stage hanchors]
    intro meter satisfactions hevaluated
    obtain ⟨-, -, hrecorded⟩ := answers_evaluateEach stage [] none (by simp) htruthful meter
      satisfactions hevaluated
    refine ⟨requirements, hrequirements, fun requirement hmem => ⟨candidates, hcandidates, ?_⟩⟩
    exact hrecorded (requirement, _) (List.mem_map.mpr ⟨requirement, hmem, rfl⟩)

end Stage

/-- The laws of observation and approval requirements narrow: what meets the child meets the parent,
and both are preorders. -/
theorem requirementLaws_narrow :
    (∀ (child parent : ObservationRequirements) (view : ObservationView),
      observationRequirementsAttenuate child parent = true →
      (∀ r ∈ child.items, view.Met r) → ∀ r ∈ parent.items, view.Met r) ∧
    (∀ (child parent : ApprovalRequirements) (outcomes : List ApprovalOutcome),
      approvalRequirementsAttenuate child parent = true →
      (∀ r ∈ child.items, ThresholdMet outcomes r) → ∀ r ∈ parent.items, ThresholdMet outcomes r) ∧
    (∀ a : ObservationRequirements, observationRequirementsAttenuate a a = true) ∧
    (∀ a b c : ObservationRequirements, observationRequirementsAttenuate a b = true →
      observationRequirementsAttenuate b c = true → observationRequirementsAttenuate a c = true) ∧
    (∀ a : ApprovalRequirements, approvalRequirementsAttenuate a a = true) ∧
    ∀ a b c : ApprovalRequirements, approvalRequirementsAttenuate a b = true →
      approvalRequirementsAttenuate b c = true → approvalRequirementsAttenuate a c = true :=
  ⟨fun _ _ view => view.met_of_attenuates, fun _ _ _ => thresholdMet_of_attenuates,
    observationRequirementsAttenuate_refl, fun _ _ _ => observationRequirementsAttenuate_trans,
    approvalRequirementsAttenuate_refl, fun _ _ _ => approvalRequirementsAttenuate_trans⟩

section Fixture

/-- One observation of the sample subject, at most `age` seconds old, whose fact lies in `tests`. -/
def sampleObserved (age : UInt32) (hage : age ≠ 0 ∧ age ≤ maxObservationAgeSeconds)
    (tests : List UintRange) (htests : tests ≠ [] ∧ tests.length ≤ maxObservationConditions) : ObservationRequirements where
  items := [{
    observerAnchor := sampleId
    schema := sampleId
    subject := .resource samplePermission.resource
    maxAgeSeconds := age
    conditions := tests.map fun range => ⟨sampleId, .uintRange range⟩
    agePositive := hage.1
    ageBounded := hage.2
    nonempty := by simpa using htests.1
    bounded := by simpa using htests.2 }]
  nonempty := by simp
  bounded := Nat.le_add_left 1 7
  distinct := by simp

def sampleObserver : ObserverAnchor where
  id := sampleId
  principal := sampleAgent
  acceptedMethods := sampleIds
  schemas := sampleIds
  subjectNamespaces := ⟨[samplePermission.resource], by decide, List.pairwise_singleton ..⟩
  validity := ⟨0, 100, sampleWindow_ordered⟩
  methodsNonempty := sampleIds_nonempty
  schemasNonempty := by decide
  namespacesNonempty := by decide

/-- A view at time 50 with one observation made at time 45. -/
def sampleView : ObservationView where
  anchor := fun _ => some sampleObserver
  actionFact := fun _ => none
  evaluationTime := 50
  observations := [{
    statement := {
      observer := sampleAgent
      schema := sampleId
      subject := samplePermission.resource
      observedAt := 45
      facts := ⟨[⟨sampleId, .uint 7⟩], by decide, by decide, List.pairwise_singleton ..⟩ }
    signature := sampleSignature
    evidence := []
    bounded := by decide
    sorted := List.Pairwise.nil }]
  admitted := fun _ _ => True

/-- `threshold` of the two sample principals. -/
theorem samplePair_nonempty : [sampleAgent, sampleRoot] ≠ [] := by decide

theorem samplePair_bounded :
    [sampleAgent, sampleRoot].length ≤ maxApproversPerRequirement := by decide

theorem samplePair_sorted : [sampleAgent, sampleRoot].Pairwise (· < ·) := by decide

def samplePair (threshold : UInt16) (hpositive : threshold ≠ 0) (hreachable : threshold.toNat ≤ 2) :
    ApprovalRequirements where
  items := [{
    approvers := ⟨[sampleAgent, sampleRoot], samplePair_nonempty, samplePair_bounded,
      samplePair_sorted⟩
    threshold
    positive := hpositive
    reachable := hreachable }]
  nonempty := by simp
  bounded := Nat.le_add_left 1 3
  distinct := by simp

end Fixture

theorem requirementLaws_narrow_sample :
    (∀ r ∈ (sampleObserved 20 (by decide) [⟨0, 9, by decide⟩] (by decide)).items, sampleView.Met r) ∧
      ∀ r ∈ (samplePair 1 (by decide) (by decide)).items,
        ThresholdMet [⟨sampleAgent, .counted⟩, ⟨sampleRoot, .counted⟩] r := by
  refine ⟨requirementLaws_narrow.1 (sampleObserved 10 (by decide)
      [⟨0, 9, by decide⟩, ⟨7, 7, by decide⟩] (by decide)) _ sampleView (by decide) ?_,
    requirementLaws_narrow.2.1 (samplePair 2 (by decide) (by decide)) _ _ (by decide) (by decide)⟩
  intro r hr
  obtain rfl := List.mem_singleton.mp hr
  exact ⟨_, List.mem_singleton_self _, sampleObserver,
    ⟨trivial, rfl, rfl, by decide, rfl, by decide⟩, rfl, _, rfl, by decide⟩

end AuthsProof
