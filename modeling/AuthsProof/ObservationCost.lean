import AuthsProof.Covering
import AuthsProof.Lib.Memo
import AuthsProof.Spending
import Mathlib.Algebra.Order.BigOperators.Group.List

/-! What the observation stage costs and answers, requirement by requirement. A requirement asks for
the authenticity of some candidates; each is paid for once, whichever requirement asks first. -/

namespace AuthsProof

open Memo

namespace ObservationStage

variable [Cbor] [Sha256] (stage : ObservationStage)

section Priced

omit [Sha256] in
theorem priced_authentic (observation : SignedObservation) : Priced (stage.authentic observation) := by
  unfold authentic
  dsimp only
  split
  · split
    · exact priced_pure false
    · refine (priced_reserve _).bind fun _ => (priced_reserve _).bind fun _ => ?_
      split
      · exact priced_pure false
      · refine (priced_ensure _).bind fun _ => ?_
        split
        · exact priced_pure false
        · split
          · exact priced_pure true
          · exact priced_pure false
  · exact priced_pure false

omit [Cbor] [Sha256] in
theorem priced_namespacesMatch (matcher : ResourceMatcher) (subject : ResourceId)
    (namespaces : List ResourceId) : Priced (namespacesMatch matcher subject namespaces) := by
  induction namespaces with
  | nil => exact priced_pure false
  | cons namespaceId namespaces ih =>
    refine (priced_reserve _).bind fun _ => (priced_ofExcept _).bind fun matched => ?_
    split
    · exact priced_pure true
    · exact ih

omit [Cbor] in
theorem priced_subjectInNamespaces (anchor : ObserverAnchor) (subject : ResourceId) :
    Priced (stage.subjectInNamespaces anchor subject) :=
  (priced_ofOption _ _).bind fun matcher => priced_namespacesMatch matcher subject _

end Priced

section Facts

variable (policy : ProfilePolicy)

/-- The fact of the action a profile supplies under a name. -/
def fact (name : FactName) : Except VerificationFailure (Option FactValue) :=
  (policy.actionFact stage.canonical name).mapError registryOperationFailure

def factCost : Nat := (policy.maximumWorkUnits stage.canonical).toNat

omit [Cbor] [Sha256] in
theorem spends_resolveFact (name : FactName) :
    Spends (stage.resolveFact policy name) (stage.factCost policy) (stage.fact policy name) :=
  Spends.bind (f := fun _ => Run.ofExcept (stage.fact policy name)) (spends_reserve _)
    (spends_ofExcept _)

def valuesOutcome : List ObservationCondition →
    Except VerificationFailure (Option (List (Option FactValue)))
  | [] => .ok (some [])
  | condition :: conditions =>
    match condition.actionFact with
    | none => (valuesOutcome conditions).map (·.map (none :: ·))
    | some name =>
      match stage.fact policy name with
      | .error failure => .error failure
      | .ok none => .ok none
      | .ok (some value) => (valuesOutcome conditions).map (·.map (some value :: ·))

def valuesCost : List ObservationCondition → Nat
  | [] => 0
  | condition :: conditions =>
    match condition.actionFact with
    | none => valuesCost conditions
    | some name =>
      match stage.fact policy name with
      | .ok (some _) => stage.factCost policy + valuesCost conditions
      | _ => stage.factCost policy

omit [Cbor] [Sha256] in
theorem spends_conditionValues (conditions : List ObservationCondition) :
    Spends (stage.conditionValues policy conditions) (stage.valuesCost policy conditions)
      (stage.valuesOutcome policy conditions) := by
  induction conditions with
  | nil => exact spends_pure _
  | cons condition conditions ih =>
    rw [conditionValues, valuesCost, valuesOutcome]
    cases condition.actionFact with
    | none => exact ih.map _
    | some name =>
      have hfact := stage.spends_resolveFact policy name
      dsimp only
      cases hvalue : stage.fact policy name with
      | error failure =>
        rw [hvalue] at hfact
        exact hfact.bind_error
      | ok value =>
        rw [hvalue] at hfact
        cases value with
        | none => exact hfact.then_pure rfl
        | some value => exact Spends.bind hfact (ih.map _)

omit [Cbor] [Sha256] in
theorem priced_subjectResource (subject : ObservationSubject) :
    Priced (stage.subjectResource policy subject) := by
  cases subject with
  | resource resource => exact priced_pure _
  | actionFact name =>
    refine Priced.bind ⟨_, _, stage.spends_resolveFact policy name⟩ fun value => ?_
    split <;> exact priced_pure _

end Facts

/-- What the checks of an observation that no meter decides cost and answer. -/
structure Prices where
  subjectCost : ProfilePolicy → ObservationSubject → Nat
  subjectOutcome : ProfilePolicy → ObservationSubject → Except VerificationFailure (Option ResourceId)
  spends_subject : ∀ policy subject, Spends (stage.subjectResource policy subject)
    (subjectCost policy subject) (subjectOutcome policy subject)
  authenticCost : SignedObservation → Nat
  authenticOutcome : SignedObservation → Except VerificationFailure Bool
  spends_authentic : ∀ observation, Spends (stage.authentic observation)
    (authenticCost observation) (authenticOutcome observation)
  namespaceCost : ObserverAnchor → ResourceId → Nat
  namespaceOutcome : ObserverAnchor → ResourceId → Except VerificationFailure Bool
  spends_namespaces : ∀ anchor subject, Spends (stage.subjectInNamespaces anchor subject)
    (namespaceCost anchor subject) (namespaceOutcome anchor subject)

theorem exists_prices : Nonempty stage.Prices := by
  choose subjectCost subjectOutcome hsubject using stage.priced_subjectResource
  choose authenticCost authenticOutcome hauthentic using stage.priced_authentic
  choose namespaceCost namespaceOutcome hnamespaces using stage.priced_subjectInNamespaces
  exact ⟨⟨subjectCost, subjectOutcome, hsubject, authenticCost, authenticOutcome, hauthentic,
    namespaceCost, namespaceOutcome, hnamespaces⟩⟩

/-- The checks that make an observation irrelevant to a requirement without any charge. -/
def passedOver (requirement : ObservationRequirement) (anchor : ObserverAnchor)
    (subject : ResourceId) (observation : SignedObservation) : Bool :=
  !principalIdEqual observation.statement.observer anchor.principal ||
    observation.statement.schema ≠ requirement.schema ||
    requirement.schema ∉ anchor.schemas.items ||
    !observationSubjectEqual subject observation.statement.subject ||
    !observationFresh observation.statement.observedAt stage.context.evaluationTime
      requirement.maxAgeSeconds.toUInt64 anchor.validity.notBefore anchor.validity.expiresAt ||
    observation.signature.descriptor.principalMethod ∉ anchor.acceptedMethods.items

namespace Prices

variable {stage} (prices : stage.Prices)

/-- The candidate once its authenticity has been asked for, where the check answers. -/
def mark (known : Bool) (candidate : Candidate) : Candidate :=
  bif known then
    { candidate with authentic := (prices.authenticOutcome candidate.observation).toOption }
  else candidate

@[simp] theorem mark_observation (known : Bool) (candidate : Candidate) :
    (prices.mark known candidate).observation = candidate.observation := by
  cases known <;> rfl

@[simp] theorem mark_digest (known : Bool) (candidate : Candidate) :
    (prices.mark known candidate).digest = candidate.digest := by
  cases known <;> rfl

/-- The candidates with the marked ones asked for. -/
def fill : Marks → List Candidate → List Candidate
  | _, [] => []
  | known, candidate :: candidates =>
    prices.mark (known 0) candidate :: fill known.tail candidates

/-- The work of one authenticity check. -/
def price (candidate : Candidate) : Nat := prices.authenticCost candidate.observation

section Requirement

variable (requirement : ObservationRequirement) (anchor : ObserverAnchor) (subject : ResourceId)

/-- Whether the observation is of the requirement's kind and inside the observer's namespaces. -/
def relevant (observation : SignedObservation) : Except VerificationFailure Bool :=
  bif stage.passedOver requirement anchor subject observation then .ok false
  else prices.namespaceOutcome anchor observation.statement.subject

def counts (observation : SignedObservation) : Except VerificationFailure Bool :=
  match prices.relevant requirement anchor subject observation with
  | .ok true => prices.authenticOutcome observation
  | other => other

/-- Whether the requirement asks for the authenticity of the candidate and gets an answer. -/
def asks (observation : SignedObservation) : Bool :=
  match prices.relevant requirement anchor subject observation,
    prices.authenticOutcome observation with
  | .ok true, .ok _ => true
  | _, _ => false

/-- What the check of one candidate costs besides an answered authenticity check. -/
def ownCost (observation : SignedObservation) : Nat :=
  bif stage.passedOver requirement anchor subject observation then 0
  else prices.namespaceCost anchor observation.statement.subject +
    match prices.relevant requirement anchor subject observation,
      prices.authenticOutcome observation with
    | .ok true, .error _ => prices.authenticCost observation
    | _, _ => 0

/-- What a relevant candidate still costs and answers. -/
def authenticFor (known : Bool) (candidate : Candidate) : Metered (Bool × Candidate) :=
  match (prices.mark known candidate).authentic with
  | some authentic => pure (authentic, prices.mark known candidate)
  | none => do
    let authentic ← stage.authentic candidate.observation
    pure (authentic, { prices.mark known candidate with authentic := some authentic })

theorem eligible_mark (known : Bool) (candidate : Candidate) :
    stage.eligible requirement anchor subject (prices.mark known candidate) =
      if stage.passedOver requirement anchor subject candidate.observation = true then
        pure (false, prices.mark known candidate)
      else
        stage.subjectInNamespaces anchor candidate.observation.statement.subject >>= fun inside =>
          if !inside then pure (false, prices.mark known candidate)
          else prices.authenticFor known candidate := by
  cases known <;> rfl

theorem spends_authenticFor {candidate : Candidate} (hfresh : candidate.authentic = none)
    (known : Bool) :
    Spends (prices.authenticFor known candidate)
      (match prices.authenticOutcome candidate.observation with
        | .ok _ => bif known then 0 else prices.price candidate
        | .error _ => prices.price candidate)
      ((prices.authenticOutcome candidate.observation).map fun authentic =>
        (authentic, prices.mark true candidate)) := by
  have hcheck := prices.spends_authentic candidate.observation
  obtain ⟨digest, observation, authentic⟩ := candidate
  obtain rfl : authentic = none := hfresh
  have hfresh : prices.authenticFor false ⟨digest, observation, none⟩ =
      stage.authentic observation >>= fun authentic =>
        pure (authentic, ⟨digest, observation, some authentic⟩) := rfl
  have hmark : prices.mark true ⟨digest, observation, none⟩ =
      ⟨digest, observation, (prices.authenticOutcome observation).toOption⟩ := rfl
  cases houtcome : prices.authenticOutcome observation with
  | error failure =>
    rw [houtcome] at hcheck hmark
    have hsame : prices.authenticFor true ⟨digest, observation, none⟩ =
        prices.authenticFor false ⟨digest, observation, none⟩ := by
      rw [authenticFor, hmark]
      rfl
    have hrun : Spends (prices.authenticFor false ⟨digest, observation, none⟩)
        (prices.price ⟨digest, observation, none⟩) (.error failure) :=
      hfresh ▸ hcheck.bind_error
    cases known with
    | false => exact hrun
    | true => exact hsame ▸ hrun
  | ok value =>
    rw [houtcome] at hcheck hmark
    cases known with
    | false =>
      rw [hfresh, hmark]
      exact hcheck.map fun authentic => (authentic, _)
    | true =>
      rw [authenticFor, hmark]
      exact spends_pure _

/-- The check of one candidate, whatever has been asked before. -/
theorem spends_eligible {candidate : Candidate} (hfresh : candidate.authentic = none)
    (known : Bool) :
    Spends (stage.eligible requirement anchor subject (prices.mark known candidate))
      (prices.ownCost requirement anchor subject candidate.observation +
        bif prices.asks requirement anchor subject candidate.observation && !known then
          prices.price candidate else 0)
      ((prices.counts requirement anchor subject candidate.observation).map fun counts =>
        (counts, prices.mark
          (known || prices.asks requirement anchor subject candidate.observation) candidate)) := by
  rw [prices.eligible_mark, ownCost, counts, asks, relevant]
  cases stage.passedOver requirement anchor subject candidate.observation with
  | true =>
    simp only [cond_true, if_true, Bool.or_false]
    exact spends_pure _
  | false =>
    have hinside := prices.spends_namespaces anchor candidate.observation.statement.subject
    have hcheck := prices.spends_authenticFor hfresh known
    simp only [cond_false, Bool.false_eq_true, if_false]
    cases hwithin : prices.namespaceOutcome anchor candidate.observation.statement.subject with
    | error failure =>
      rw [hwithin] at hinside
      exact hinside.bind_error
    | ok inside =>
      rw [hwithin] at hinside
      cases inside with
      | false =>
        simp only [Bool.or_false]
        exact hinside.bind (spends_pure _)
      | true =>
        cases houtcome : prices.authenticOutcome candidate.observation with
        | error failure =>
          rw [houtcome] at hcheck
          exact hinside.bind hcheck
        | ok authentic =>
          rw [houtcome] at hcheck
          simp only [Bool.or_true, Bool.true_and, Nat.add_zero]
          refine hinside.bind ?_
          cases known <;> exact hcheck

variable (holds : SignedObservation → Bool)

/-- Whether the search stops at a candidate: it counts, and the conditions hold of it. -/
def stops (observation : SignedObservation) : Bool :=
  match prices.counts requirement anchor subject observation with
  | .ok counts => counts && holds observation
  | .error _ => true

/-- What a search answers. -/
def scanOutcome : List Candidate → Except VerificationFailure (Bool × Option AttachmentDigest)
  | [] => .ok (false, none)
  | candidate :: candidates => do
    let counts ← prices.counts requirement anchor subject candidate.observation
    if counts && holds candidate.observation then .ok (true, some candidate.digest)
    else do
      let (anyEligible, satisfying) ← scanOutcome candidates
      .ok (counts || anyEligible, satisfying)

def scanCost : List Candidate → Nat
  | [] => 0
  | candidate :: candidates =>
    prices.ownCost requirement anchor subject candidate.observation +
      bif prices.stops requirement anchor subject holds candidate.observation then 0
      else scanCost candidates

def scanAsks : List Candidate → Marks
  | [] => .none
  | candidate :: candidates =>
    .cons (prices.asks requirement anchor subject candidate.observation)
      (bif prices.stops requirement anchor subject holds candidate.observation then .none
        else scanAsks candidates)

theorem spends_scan (values : List (Option FactValue)) {candidates : List Candidate}
    (hholds : holds = fun observation =>
      observationConditionsHold requirement.conditions values observation.statement.facts)
    (hfresh : ∀ candidate ∈ candidates, candidate.authentic = none) (known : Marks) :
    Spends (stage.scan requirement anchor subject values (prices.fill known candidates))
      (prices.scanCost requirement anchor subject holds candidates +
        due prices.price known (prices.scanAsks requirement anchor subject holds candidates)
          candidates)
      ((prices.scanOutcome requirement anchor subject holds candidates).map fun found =>
        (found.1, found.2, prices.fill
          (known.join (prices.scanAsks requirement anchor subject holds candidates))
          candidates)) := by
  induction candidates generalizing known with
  | nil => exact spends_pure _
  | cons candidate candidates ih =>
    obtain ⟨hfirst, hrest⟩ := List.forall_mem_cons.mp hfresh
    have hcheck := prices.spends_eligible requirement anchor subject hfirst (known 0)
    have hcost : prices.scanCost requirement anchor subject holds (candidate :: candidates) +
        due prices.price known
          (prices.scanAsks requirement anchor subject holds (candidate :: candidates))
          (candidate :: candidates) =
        (prices.ownCost requirement anchor subject candidate.observation +
          bif prices.asks requirement anchor subject candidate.observation && !known 0 then
            prices.price candidate else 0) +
        bif prices.stops requirement anchor subject holds candidate.observation then 0
        else prices.scanCost requirement anchor subject holds candidates +
          due prices.price known.tail
            (prices.scanAsks requirement anchor subject holds candidates) candidates := by
      rw [scanCost, scanAsks, due, Marks.cons_zero, Marks.tail_cons]
      cases prices.stops requirement anchor subject holds candidate.observation with
      | true =>
        rw [cond_true, cond_true, cond_true, due_none]
        omega
      | false =>
        rw [cond_false, cond_false, cond_false]
        omega
    rw [hcost, fill, scan, scanOutcome, scanAsks]
    cases hcounts : prices.counts requirement anchor subject candidate.observation with
    | error failure =>
      have hstops : prices.stops requirement anchor subject holds candidate.observation = true := by
        rw [stops, hcounts]
      rw [hcounts] at hcheck
      rw [hstops]
      exact hcheck.bind_error
    | ok counts =>
      have hstops : prices.stops requirement anchor subject holds candidate.observation =
          (counts && holds candidate.observation) := by
        rw [stops, hcounts]
      rw [hcounts] at hcheck
      rw [hstops]
      refine Spends.bind hcheck ?_
      have hconditions : observationConditionsHold requirement.conditions values
          (prices.mark (known 0 || prices.asks requirement anchor subject candidate.observation)
            candidate).observation.statement.facts = holds candidate.observation := by
        rw [mark_observation, hholds]
      dsimp only
      rw [hconditions, mark_digest]
      cases hstop : counts && holds candidate.observation with
      | true =>
        have houtcome : (Except.ok counts >>= fun counts =>
            if (counts && holds candidate.observation) = true then
              .ok (true, some candidate.digest)
            else prices.scanOutcome requirement anchor subject holds candidates >>= fun found =>
              .ok (counts || found.1, found.2)) =
            (.ok (true, some candidate.digest) : Except VerificationFailure _) := if_pos hstop
        rw [if_pos rfl, houtcome, cond_true, cond_true]
        refine (spends_pure _).congr ?_
        rw [Except.map, fill, Marks.join_zero, Marks.cons_zero, Marks.tail_join, Marks.tail_cons,
          Marks.join_none]
      | false =>
        have houtcome : (Except.ok counts >>= fun counts =>
            if (counts && holds candidate.observation) = true then
              .ok (true, some candidate.digest)
            else prices.scanOutcome requirement anchor subject holds candidates >>= fun found =>
              .ok (counts || found.1, found.2)) =
            prices.scanOutcome requirement anchor subject holds candidates >>= fun found =>
              .ok (counts || found.1, found.2) := if_neg (by rw [hstop]; exact Bool.false_ne_true)
        rw [if_neg Bool.false_ne_true, houtcome, cond_false, cond_false]
        refine ((ih hrest known.tail).map _).congr ?_
        cases prices.scanOutcome requirement anchor subject holds candidates with
        | error failure => rfl
        | ok found => rfl

end Requirement

section Facts

variable (policy : ProfilePolicy) (requirement : ObservationRequirement)

def factsOutcome : Except VerificationFailure (Option (ResourceId × List (Option FactValue))) :=
  match prices.subjectOutcome policy requirement.subject with
  | .error failure => .error failure
  | .ok none => .ok none
  | .ok (some subject) =>
    (stage.valuesOutcome policy requirement.conditions).map (·.map fun values => (subject, values))

def factsCost : Nat :=
  prices.subjectCost policy requirement.subject +
    match prices.subjectOutcome policy requirement.subject with
    | .ok (some _) => stage.valuesCost policy requirement.conditions
    | _ => 0

theorem spends_actionFacts : Spends (stage.actionFacts requirement policy)
    (prices.factsCost policy requirement) (prices.factsOutcome policy requirement) := by
  have hsubject := prices.spends_subject policy requirement.subject
  rw [actionFacts, factsCost, factsOutcome]
  cases hresource : prices.subjectOutcome policy requirement.subject with
  | error failure =>
    rw [hresource] at hsubject
    exact hsubject.bind_error
  | ok resource =>
    rw [hresource] at hsubject
    cases resource with
    | none => exact hsubject.bind (spends_pure _)
    | some subject =>
      exact hsubject.bind ((stage.spends_conditionValues policy requirement.conditions).map _)

end Facts

/-- What one requirement comes to: its own work, the candidates it asks about, and its verdict or
the failure that stops the stage. -/
structure Bill where
  cost : Nat
  asked : Marks
  outcome : Except VerificationFailure (Except VerificationFailure ObservationSatisfaction)

/-- The verdict of a search. -/
def verdict (requirement : ObservationRequirement) (found : Bool × Option AttachmentDigest) :
    Except VerificationFailure ObservationSatisfaction :=
  match requirementVerdict found.1 found.2.isSome, found.2 with
  | .satisfied, some digest => .ok ⟨observationRequirementId requirement, digest⟩
  | .conditionFalse, _ => .error (.denied .observationConditionFalse)
  | _, _ => .error (.indeterminate .observationMissing)

/-- The conditions of the requirement under the action values, on an observation. -/
def holdsOf (requirement : ObservationRequirement) (values : List (Option FactValue))
    (observation : SignedObservation) : Bool :=
  observationConditionsHold requirement.conditions values observation.statement.facts

def bill (requirement : ObservationRequirement) (anchor : Option ObserverAnchor)
    (candidates : List Candidate) : Bill :=
  match anchor with
  | none => ⟨0, .none, .ok (.error (.indeterminate .observationMissing))⟩
  | some anchor =>
    match stage.registries.profilePolicy stage.context.acceptedRegistries
        stage.context.profilePolicy with
    | none => ⟨0, .none, .error (.indeterminate .unsupportedProfilePolicy)⟩
    | some policy =>
      match prices.factsOutcome policy requirement with
      | .error failure => ⟨prices.factsCost policy requirement, .none, .error failure⟩
      | .ok none => ⟨prices.factsCost policy requirement, .none,
          .ok (.error (.indeterminate .observationActionFactUnavailable))⟩
      | .ok (some (subject, values)) =>
        { cost := prices.factsCost policy requirement +
            ((saturatingU64 (requirement.conditions.length * candidates.length + 1)).toNat +
              prices.scanCost requirement anchor subject (holdsOf requirement values) candidates)
          asked := prices.scanAsks requirement anchor subject (holdsOf requirement values) candidates
          outcome := (prices.scanOutcome requirement anchor subject (holdsOf requirement values)
            candidates).map (verdict requirement) }

@[simp] theorem length_fill (known : Marks) (candidates : List Candidate) :
    (prices.fill known candidates).length = candidates.length := by
  induction candidates generalizing known with
  | nil => rfl
  | cons candidate candidates ih => rw [fill, List.length_cons, ih, List.length_cons]

/-- A requirement charges its own work and what it asks that has not been asked before. -/
theorem spends_requirement (requirement : ObservationRequirement) (anchor : Option ObserverAnchor)
    {candidates : List Candidate} (hfresh : ∀ candidate ∈ candidates, candidate.authentic = none)
    (known : Marks) :
    Spends (stage.requirement requirement anchor (prices.fill known candidates))
      ((prices.bill requirement anchor candidates).cost +
        due prices.price known (prices.bill requirement anchor candidates).asked candidates)
      ((prices.bill requirement anchor candidates).outcome.map fun verdict =>
        (verdict, prices.fill (known.join (prices.bill requirement anchor candidates).asked)
          candidates)) := by
  unfold ObservationStage.requirement bill
  cases anchor with
  | none =>
    simp only [due_none, Marks.join_none]
    exact spends_pure _
  | some anchor =>
    cases stage.registries.profilePolicy stage.context.acceptedRegistries
        stage.context.profilePolicy with
    | none =>
      simp only [due_none]
      exact spends_fail _
    | some policy =>
      have hfacts := prices.spends_actionFacts policy requirement
      cases hoffered : prices.factsOutcome policy requirement with
      | error failure =>
        rw [hoffered] at hfacts
        simp only [Run.ofOption_some, Run.pure_bind, hoffered, due_none]
        exact hfacts.bind_error
      | ok facts =>
        rw [hoffered] at hfacts
        simp only [Run.ofOption_some, Run.pure_bind, hoffered]
        cases facts with
        | none =>
          simp only [due_none, Marks.join_none]
          exact hfacts.then_pure rfl
        | some facts =>
          obtain ⟨subject, values⟩ := facts
          have hscan := prices.spends_scan requirement anchor subject
            (holdsOf requirement values) values rfl hfresh known
          simp only [Nat.add_assoc]
          refine hfacts.bind ?_
          simp only [length_fill]
          refine (spends_reserve _).bind ?_
          cases hfound : prices.scanOutcome requirement anchor subject (holdsOf requirement values)
              candidates with
          | error failure =>
            rw [hfound] at hscan
            exact hscan.bind_error
          | ok found =>
            rw [hfound] at hscan
            refine hscan.then_pure ?_
            obtain ⟨anyEligible, satisfying⟩ := found
            cases anyEligible <;> cases satisfying <;> rfl

section Each

variable (candidates : List Candidate)

/-- The work of the requirements themselves. -/
def ownCosts (pairs : List (ObservationRequirement × Option ObserverAnchor)) : Nat :=
  (pairs.map fun pair => (prices.bill pair.1 pair.2 candidates).cost).sum

/-- Every candidate some requirement asks about. -/
def askedBy : List (ObservationRequirement × Option ObserverAnchor) → Marks
  | [] => .none
  | pair :: pairs => (prices.bill pair.1 pair.2 candidates).asked.join (askedBy pairs)

/-- The satisfaction of each requirement, where each of them has one. -/
def Satisfied (pair : ObservationRequirement × Option ObserverAnchor)
    (satisfaction : ObservationSatisfaction) : Prop :=
  (prices.bill pair.1 pair.2 candidates).outcome = .ok (.ok satisfaction)

variable {candidates}

/-- Where every requirement is satisfied, the requirements together cost their own work and, once,
each candidate that one of them asks about. -/
theorem spends_evaluateEach (hfresh : ∀ candidate ∈ candidates, candidate.authentic = none)
    {pairs : List (ObservationRequirement × Option ObserverAnchor)}
    {found : List ObservationSatisfaction}
    (hfound : List.Forall₂ (prices.Satisfied candidates) pairs found)
    (satisfactions : List ObservationSatisfaction) (known : Marks) :
    Spends (stage.evaluateEach pairs (prices.fill known candidates) satisfactions none)
      (prices.ownCosts candidates pairs +
        due prices.price known (prices.askedBy candidates pairs) candidates)
      (.ok (satisfactions ++ found)) := by
  induction hfound generalizing satisfactions known with
  | nil =>
    rw [askedBy, due_none, List.append_nil]
    exact spends_pure satisfactions
  | @cons pair satisfaction pairs found hpair _ ih =>
    have hbill := prices.spends_requirement pair.1 pair.2 hfresh known
    rw [show (prices.bill pair.1 pair.2 candidates).outcome = .ok (.ok satisfaction) from hpair]
      at hbill
    have hrest := ih (satisfactions ++ [satisfaction])
      (known.join (prices.bill pair.1 pair.2 candidates).asked)
    rw [List.append_assoc, List.singleton_append] at hrest
    have hdue := due_join prices.price known (prices.bill pair.1 pair.2 candidates).asked
      (prices.askedBy candidates pairs) candidates
    have hcost : prices.ownCosts candidates (pair :: pairs) +
        due prices.price known (prices.askedBy candidates (pair :: pairs)) candidates =
        ((prices.bill pair.1 pair.2 candidates).cost +
          due prices.price known (prices.bill pair.1 pair.2 candidates).asked candidates) +
        (prices.ownCosts candidates pairs +
          due prices.price (known.join (prices.bill pair.1 pair.2 candidates).asked)
            (prices.askedBy candidates pairs) candidates) := by
      rw [askedBy, ← hdue, ownCosts, List.map_cons, List.sum_cons, ownCosts]
      omega
    rw [hcost]
    exact Spends.bind hbill hrest

/-- A run that answers has satisfied every requirement. -/
theorem satisfied_of_ok (hfresh : ∀ candidate ∈ candidates, candidate.authentic = none)
    {pairs : List (ObservationRequirement × Option ObserverAnchor)}
    {satisfactions answered : List ObservationSatisfaction}
    {unavailable : Option VerificationFailure} {known : Marks} {meter : WorkMeter}
    (hroom : meter.Room 0)
    (h : (stage.evaluateEach pairs (prices.fill known candidates) satisfactions unavailable meter).1 =
      .ok answered) :
    unavailable = none ∧ ∃ found, answered = satisfactions ++ found ∧
      List.Forall₂ (prices.Satisfied candidates) pairs found := by
  induction pairs generalizing satisfactions unavailable known meter with
  | nil =>
    cases unavailable with
    | none => exact ⟨rfl, [], (Except.ok.inj h).symm.trans (List.append_nil _).symm, .nil⟩
    | some failure => cases h
  | cons pair pairs ih =>
    have hbill := prices.spends_requirement pair.1 pair.2 hfresh known
    rw [evaluateEach] at h
    rcases hrun : stage.requirement pair.1 pair.2 (prices.fill known candidates) meter with
      ⟨failure | ⟨verdict, left⟩, charged⟩
    · rw [Run.bind_error hrun] at h
      cases h
    · obtain ⟨houtcome, -, hroom'⟩ := hbill.of_ok hroom hrun
      cases hown : (prices.bill pair.1 pair.2 candidates).outcome with
      | error failure =>
        rw [hown] at houtcome
        cases houtcome
      | ok own =>
        rw [hown] at houtcome
        obtain ⟨rfl, rfl⟩ := Prod.mk.inj (Except.ok.inj houtcome)
        rw [Run.bind_ok hrun] at h
        cases own with
        | ok satisfaction =>
          obtain ⟨hnone, found, hfound, hrest⟩ := ih hroom' h
          rw [List.append_assoc, List.singleton_append] at hfound
          exact ⟨hnone, satisfaction :: found, hfound, .cons hown hrest⟩
        | error failure =>
          cases failure with
          | denied reason => cases h
          | indeterminate requirement =>
            have hnone := (ih hroom' h).1
            cases hnone

end Each

end Prices

end ObservationStage

/-- `strong` is `weak` with conditions added. -/
structure ObservationRequirement.Conditioned (weak strong : ObservationRequirement) : Prop where
  observerAnchor : strong.observerAnchor = weak.observerAnchor
  schema : strong.schema = weak.schema
  subject : strong.subject = weak.subject
  maxAgeSeconds : strong.maxAgeSeconds = weak.maxAgeSeconds
  conditions : weak.conditions.Sublist strong.conditions

theorem ObservationRequirement.Conditioned.refl (requirement : ObservationRequirement) :
    requirement.Conditioned requirement := ⟨rfl, rfl, rfl, rfl, List.Sublist.refl _⟩

namespace ObservationStage

variable [Cbor] [Sha256] {stage : ObservationStage}

section Values

variable {policy : ProfilePolicy}

omit [Cbor] [Sha256] in
/-- A condition whose value is supplied adds that value and the same work to any other conditions. -/
theorem values_cons {condition : ObservationCondition} {conditions : List ObservationCondition}
    {values : List (Option FactValue)}
    (h : stage.valuesOutcome policy (condition :: conditions) = .ok (some values)) :
    ∃ value rest own, values = value :: rest ∧
      stage.valuesOutcome policy conditions = .ok (some rest) ∧
      (∀ others kept, stage.valuesOutcome policy others = .ok (some kept) →
        stage.valuesOutcome policy (condition :: others) = .ok (some (value :: kept))) ∧
      ∀ others, stage.valuesCost policy (condition :: others) =
        own + stage.valuesCost policy others := by
  have hcons (value : Option FactValue) (outcome : Except VerificationFailure _)
      (h : outcome.map (Option.map (value :: ·)) = .ok (some values)) :
      ∃ rest, values = value :: rest ∧ outcome = .ok (some rest) := by
    cases outcome with
    | error failure => cases h
    | ok found =>
      obtain ⟨rest, rfl, hvalues⟩ := Option.map_eq_some_iff.mp (Except.ok.inj h)
      exact ⟨rest, hvalues.symm, rfl⟩
  cases hname : condition.actionFact with
  | none =>
    simp only [valuesOutcome, valuesCost, hname] at h ⊢
    obtain ⟨rest, hvalues, hrest⟩ := hcons none _ h
    refine ⟨none, rest, 0, hvalues, hrest, fun others kept hkept => ?_, fun others => ?_⟩
    · rw [hkept]
      rfl
    · exact (Nat.zero_add _).symm
  | some name =>
    simp only [valuesOutcome, valuesCost, hname] at h ⊢
    cases hfact : stage.fact policy name with
    | error failure =>
      rw [hfact] at h
      cases h
    | ok value =>
      rw [hfact] at h
      cases value with
      | none => cases h
      | some value =>
        obtain ⟨rest, hvalues, hrest⟩ := hcons (some value) _ h
        refine ⟨some value, rest, _, hvalues, hrest, fun others kept hkept => ?_, fun _ => rfl⟩
        rw [hkept]
        rfl

omit [Cbor] [Sha256] in
/-- Where a profile supplies every value of more conditions it supplies those of fewer, for no more
work, and the fewer hold where the more do. -/
theorem values_sublist {few many : List ObservationCondition} (h : few.Sublist many)
    {values : List (Option FactValue)} (hvalues : stage.valuesOutcome policy many = .ok (some values)) :
    ∃ kept, stage.valuesOutcome policy few = .ok (some kept) ∧
      stage.valuesCost policy few ≤ stage.valuesCost policy many ∧
      ∀ facts, observationConditionsHold many values facts = true →
        observationConditionsHold few kept facts = true := by
  induction h generalizing values with
  | slnil => exact ⟨values, hvalues, le_rfl, fun _ h => h⟩
  | cons condition _ ih =>
    obtain ⟨value, rest, own, rfl, hrest, -, hcost⟩ := values_cons hvalues
    obtain ⟨kept, hkept, hless, himplies⟩ := ih hrest
    refine ⟨kept, hkept, ?_, fun facts hholds => himplies facts ?_⟩
    · rw [hcost]
      omega
    · rw [ObservationView.observationConditionsHold_cons, Bool.and_eq_true] at hholds
      exact hholds.2
  | cons_cons condition _ ih =>
    obtain ⟨value, rest, own, rfl, hrest, hbuild, hcost⟩ := values_cons hvalues
    obtain ⟨kept, hkept, hless, himplies⟩ := ih hrest
    refine ⟨value :: kept, hbuild _ _ hkept, ?_, fun facts hholds => ?_⟩
    · rw [hcost, hcost]
      omega
    · rw [ObservationView.observationConditionsHold_cons, Bool.and_eq_true] at hholds ⊢
      exact ⟨hholds.1, himplies facts hholds.2⟩

end Values

namespace Prices

variable (prices : stage.Prices) {weak strong : ObservationRequirement}

section Search

variable (hweaker : weak.Conditioned strong) (anchor : ObserverAnchor) (subject : ResourceId)

include hweaker

omit [Cbor] [Sha256] in
theorem passedOver_conditioned : stage.passedOver strong anchor subject =
    stage.passedOver weak anchor subject := by
  funext observation
  rw [passedOver, passedOver, hweaker.schema, hweaker.maxAgeSeconds]

theorem relevant_conditioned : prices.relevant strong anchor subject =
    prices.relevant weak anchor subject := by
  funext observation
  rw [relevant, relevant, passedOver_conditioned hweaker]

theorem counts_conditioned : prices.counts strong anchor subject =
    prices.counts weak anchor subject := by
  funext observation
  rw [counts, counts, prices.relevant_conditioned hweaker]

theorem asks_conditioned : prices.asks strong anchor subject = prices.asks weak anchor subject := by
  funext observation
  rw [asks, asks, prices.relevant_conditioned hweaker]

theorem ownCost_conditioned : prices.ownCost strong anchor subject =
    prices.ownCost weak anchor subject := by
  funext observation
  rw [ownCost, ownCost, prices.relevant_conditioned hweaker, passedOver_conditioned hweaker]

/-- A search under weaker conditions stops no later, so it costs no more and asks about no other
candidate. -/
theorem scan_conditioned {holds holds' : SignedObservation → Bool}
    (himplies : ∀ observation, holds' observation = true → holds observation = true)
    {candidates : List Candidate} {found : Bool × Option AttachmentDigest}
    (hfound : prices.scanOutcome strong anchor subject holds' candidates = .ok found)
    (hsome : found.2.isSome = true) :
    ∃ other, prices.scanOutcome weak anchor subject holds candidates = .ok other ∧
      other.2.isSome = true ∧
      prices.scanCost weak anchor subject holds candidates ≤
        prices.scanCost strong anchor subject holds' candidates ∧
      (prices.scanAsks weak anchor subject holds candidates).Within
        (prices.scanAsks strong anchor subject holds' candidates) := by
  induction candidates generalizing found with
  | nil =>
    obtain rfl := Except.ok.inj hfound
    cases hsome
  | cons candidate candidates ih =>
    have hcounts := congrFun (prices.counts_conditioned hweaker anchor subject) candidate.observation
    have hasks := congrFun (prices.asks_conditioned hweaker anchor subject) candidate.observation
    have hown := congrFun (prices.ownCost_conditioned hweaker anchor subject) candidate.observation
    rw [scanOutcome, hcounts] at hfound
    simp only [scanOutcome, scanCost, scanAsks, stops, hcounts, hasks, hown]
    obtain ⟨counts, hanswer, hfound⟩ := Except.bind_eq_ok.mp hfound
    rw [hanswer]
    dsimp only
    cases hstop : counts && holds candidate.observation with
    | true =>
      refine ⟨(true, some candidate.digest), if_pos hstop, rfl, ?_, ?_⟩
      · rw [cond_true]
        omega
      · exact Marks.Within.cons id (Marks.none_within _)
    | false =>
      have hstop' : (counts && holds' candidate.observation) = false := by
        rw [Bool.and_eq_false_iff] at hstop ⊢
        refine hstop.imp_right fun h => ?_
        by_contra hholds
        rw [Bool.not_eq_false] at hholds
        rw [himplies _ hholds] at h
        cases h
      rw [if_neg (by rw [hstop']; exact Bool.false_ne_true)] at hfound
      obtain ⟨rest, hrest, hpair⟩ := Except.bind_eq_ok.mp hfound
      obtain rfl := Except.ok.inj hpair
      obtain ⟨other, hother, hisSome, hcost, hwithin⟩ := ih hrest hsome
      refine ⟨(counts || other.1, other.2), ?_, hisSome, ?_, ?_⟩
      · rw [hother]
        exact if_neg (by rw [hstop]; exact Bool.false_ne_true)
      · rw [hstop', cond_false, cond_false]
        omega
      · rw [hstop', cond_false, cond_false]
        exact Marks.Within.cons id hwithin

end Search

omit [Cbor] [Sha256] in
theorem saturatingU64_le {n m : Nat} (h : n ≤ m) :
    (saturatingU64 n).toNat ≤ (saturatingU64 m).toNat := by
  have hvalue (n : Nat) : (saturatingU64 n).toNat = min n (2 ^ 64 - 1) := by
    unfold saturatingU64
    split_ifs with hlt
    · rw [UInt64.toNat_ofNat', Nat.mod_eq_of_lt hlt]
      omega
    · have hmax : (0xFFFFFFFFFFFFFFFF : UInt64).toNat = 2 ^ 64 - 1 := rfl
      omega
  rw [hvalue, hvalue]
  omega

/-- A search whose verdict is a satisfaction found a candidate. -/
theorem verdict_ok {requirement : ObservationRequirement} {found : Bool × Option AttachmentDigest} :
    found.2.isSome = true ↔ ∃ satisfaction, verdict requirement found = .ok satisfaction := by
  obtain ⟨anyEligible, _ | digest⟩ := found
  · cases anyEligible <;> simp [verdict, requirementVerdict]
  · cases anyEligible <;> simp [verdict, requirementVerdict]

theorem facts_conditioned (hweaker : weak.Conditioned strong) {policy : ProfilePolicy}
    {subject : ResourceId} {values : List (Option FactValue)}
    (h : prices.factsOutcome policy strong = .ok (some (subject, values))) :
    ∃ kept, prices.factsOutcome policy weak = .ok (some (subject, kept)) ∧
      prices.factsCost policy weak ≤ prices.factsCost policy strong ∧
      ∀ facts, observationConditionsHold strong.conditions values facts = true →
        observationConditionsHold weak.conditions kept facts = true := by
  unfold factsOutcome factsCost at *
  rw [hweaker.subject] at h ⊢
  cases hsubject : prices.subjectOutcome policy weak.subject with
  | error failure =>
    rw [hsubject] at h
    cases h
  | ok resource =>
    rw [hsubject] at h
    cases resource with
    | none => cases h
    | some resource =>
      dsimp only at h ⊢
      cases hvalues : stage.valuesOutcome policy strong.conditions with
      | error failure =>
        rw [hvalues] at h
        cases h
      | ok offered =>
        rw [hvalues] at h
        obtain ⟨all, rfl, hpair⟩ := Option.map_eq_some_iff.mp (Except.ok.inj h)
        obtain ⟨rfl, rfl⟩ := Prod.mk.inj hpair
        obtain ⟨kept, hkept, hcost, himplies⟩ := values_sublist hweaker.conditions hvalues
        refine ⟨kept, ?_, Nat.add_le_add_left hcost _, himplies⟩
        rw [hkept]
        rfl

/-- A requirement with fewer conditions is satisfied where one with more is, costs no more and asks
about no other candidate. -/
theorem bill_conditioned (hweaker : weak.Conditioned strong) {anchor : Option ObserverAnchor}
    {candidates : List Candidate} {satisfaction : ObservationSatisfaction}
    (h : prices.Satisfied candidates (strong, anchor) satisfaction) :
    (∃ own, prices.Satisfied candidates (weak, anchor) own) ∧
      (prices.bill weak anchor candidates).cost ≤ (prices.bill strong anchor candidates).cost ∧
      (prices.bill weak anchor candidates).asked.Within
        (prices.bill strong anchor candidates).asked := by
  unfold Satisfied bill at h ⊢
  cases anchor with
  | none => cases h
  | some anchor =>
    cases hpolicy : stage.registries.profilePolicy stage.context.acceptedRegistries
        stage.context.profilePolicy with
    | none =>
      rw [hpolicy] at h
      cases h
    | some policy =>
      rw [hpolicy] at h
      dsimp only at h ⊢
      cases hfacts : prices.factsOutcome policy strong with
      | error failure =>
        rw [hfacts] at h
        cases h
      | ok facts =>
        rw [hfacts] at h
        cases facts with
        | none => cases h
        | some facts =>
          obtain ⟨subject, values⟩ := facts
          obtain ⟨kept, hkept, hcost, himplies⟩ := prices.facts_conditioned hweaker hfacts
          dsimp only at h ⊢
          rw [hkept]
          cases hfound : prices.scanOutcome strong anchor subject (holdsOf strong values)
              candidates with
          | error failure =>
            rw [hfound] at h
            cases h
          | ok found =>
            rw [hfound] at h
            have hsome := verdict_ok.mpr ⟨satisfaction, Except.ok.inj h⟩
            have hholds : ∀ observation, holdsOf strong values observation = true →
                holdsOf weak kept observation = true :=
              fun observation => himplies observation.statement.facts
            obtain ⟨other, hother, hisSome, hscan, hwithin⟩ :=
              prices.scan_conditioned hweaker anchor subject hholds hfound hsome
            obtain ⟨own, hown⟩ := verdict_ok.mp hisSome
            dsimp only
            refine ⟨⟨own, ?_⟩, ?_, hwithin⟩
            · rw [hother]
              exact congrArg Except.ok hown
            · have hconditions := saturatingU64_le (Nat.add_le_add_right
                (Nat.mul_le_mul_right candidates.length hweaker.conditions.length_le) 1)
              omega

end Prices

/-- The observer anchor of a requirement. -/
def anchorOf (stage : ObservationStage) (requirement : ObservationRequirement) :
    Option ObserverAnchor :=
  stage.context.observerAnchors.find? fun anchor => anchor.id = requirement.observerAnchor

def pairsOf (stage : ObservationStage) (requirements : List ObservationRequirement) :
    List (ObservationRequirement × Option ObserverAnchor) :=
  requirements.map fun requirement => (requirement, stage.anchorOf requirement)

namespace Prices

variable (prices : stage.Prices) {candidates : List Candidate}

theorem fill_none (candidates : List Candidate) : prices.fill .none candidates = candidates := by
  induction candidates with
  | nil => rfl
  | cons candidate candidates ih =>
    rw [fill, Marks.tail_none, ih]
    rfl

theorem within_askedBy {pairs : List (ObservationRequirement × Option ObserverAnchor)}
    {pair : ObservationRequirement × Option ObserverAnchor} (h : pair ∈ pairs) :
    (prices.bill pair.1 pair.2 candidates).asked.Within (prices.askedBy candidates pairs) := by
  induction pairs with
  | nil => exact absurd h List.not_mem_nil
  | cons first pairs ih =>
    rcases List.mem_cons.mp h with rfl | hrest
    · exact Marks.within_join_left _ _
    · exact (ih hrest).trans (Marks.within_join_right _ _)

theorem askedBy_within {pairs : List (ObservationRequirement × Option ObserverAnchor)}
    {marks : Marks}
    (h : ∀ pair ∈ pairs, (prices.bill pair.1 pair.2 candidates).asked.Within marks) :
    (prices.askedBy candidates pairs).Within marks := by
  induction pairs with
  | nil => exact Marks.none_within marks
  | cons pair pairs ih =>
    obtain ⟨hfirst, hrest⟩ := List.forall_mem_cons.mp h
    exact hfirst.join (ih hrest)

omit [Cbor] [Sha256] in
theorem exists_forall₂ {α β : Type} {R : α → β → Prop} {xs : List α} (h : ∀ x ∈ xs, ∃ y, R x y) :
    ∃ ys, List.Forall₂ R xs ys := by
  induction xs with
  | nil => exact ⟨[], .nil⟩
  | cons x xs ih =>
    obtain ⟨⟨y, hy⟩, hrest⟩ := List.forall_mem_cons.mp h
    obtain ⟨ys, hys⟩ := ih hrest
    exact ⟨y :: ys, .cons hy hys⟩

/-- Distinct requirements of a list cost no more than the list. -/
theorem ownCosts_le {few many : List ObservationRequirement}
    {strengthen : ObservationRequirement → ObservationRequirement}
    (hnodup : (few.map strengthen).Nodup)
    (hstrengthen : ∀ requirement ∈ few, strengthen requirement ∈ many ∧
      requirement.Conditioned (strengthen requirement))
    (hcost : ∀ requirement ∈ few,
      (prices.bill requirement (stage.anchorOf requirement) candidates).cost ≤
        (prices.bill (strengthen requirement) (stage.anchorOf (strengthen requirement))
          candidates).cost) :
    prices.ownCosts candidates (stage.pairsOf few) ≤
      prices.ownCosts candidates (stage.pairsOf many) := by
  have hsubset : few.map strengthen ⊆ many := by
    intro requirement hmem
    obtain ⟨own, hown, rfl⟩ := List.mem_map.mp hmem
    exact (hstrengthen own hown).1
  obtain ⟨kept, hperm, hkept⟩ := List.subperm_of_subset hnodup hsubset
  let cost := fun requirement =>
    (prices.bill requirement (stage.anchorOf requirement) candidates).cost
  have hsum (requirements : List ObservationRequirement) :
      prices.ownCosts candidates (stage.pairsOf requirements) = (requirements.map cost).sum := by
    rw [ownCosts, pairsOf, List.map_map]
    rfl
  calc prices.ownCosts candidates (stage.pairsOf few)
      = (few.map cost).sum := hsum few
    _ ≤ (few.map (cost ∘ strengthen)).sum := List.sum_le_sum hcost
    _ = ((few.map strengthen).map cost).sum := by rw [List.map_map]
    _ = (kept.map cost).sum := (hperm.map cost).symm.sum_eq
    _ ≤ (many.map cost).sum := (hkept.map cost).sum_le_sum fun _ _ => Nat.zero_le _
    _ = prices.ownCosts candidates (stage.pairsOf many) := (hsum many).symm

omit [Cbor] [Sha256] in
theorem exists_of_forall₂ {α β : Type} {R : α → β → Prop} {xs : List α} {ys : List β}
    (h : List.Forall₂ R xs ys) {x : α} (hx : x ∈ xs) : ∃ y, R x y := by
  induction h with
  | nil => exact absurd hx List.not_mem_nil
  | cons hxy _ ih =>
    rcases List.mem_cons.mp hx with rfl | hrest
    · exact ⟨_, hxy⟩
    · exact ih hrest

/-- Where the requirements that strengthen others all are satisfied within a meter, so are the others,
at a cost that fits the same meter unless two of them are strengthened into one. -/
theorem spends_of_strengthened (hfresh : ∀ candidate ∈ candidates, candidate.authentic = none)
    {few many : List ObservationRequirement}
    {strengthen : ObservationRequirement → ObservationRequirement}
    (hstrengthen : ∀ requirement ∈ few, strengthen requirement ∈ many ∧
      requirement.Conditioned (strengthen requirement))
    {meter : WorkMeter} (hroom : meter.Room 0) {answered : List ObservationSatisfaction}
    (h : (stage.evaluateEach (stage.pairsOf many) candidates [] none meter).1 = .ok answered) :
    ∃ found cost, Spends (stage.evaluateEach (stage.pairsOf few) candidates [] none) cost
        (.ok found) ∧ ((few.map strengthen).Nodup → meter.Room cost) := by
  obtain ⟨prices⟩ := stage.exists_prices
  have hrun := h
  rw [← prices.fill_none candidates] at hrun
  obtain ⟨-, found', -, hfound'⟩ := prices.satisfied_of_ok hfresh hroom hrun
  have hstrong := prices.spends_evaluateEach hfresh hfound' [] .none
  rw [prices.fill_none] at hstrong
  obtain ⟨-, hfits, -⟩ := hstrong.of_ok hroom (Prod.ext h rfl)
  -- every requirement is satisfied, for no more than the one that strengthens it
  have hbill : ∀ requirement ∈ few,
      (∃ own, prices.Satisfied candidates (requirement, stage.anchorOf requirement) own) ∧
      (prices.bill requirement (stage.anchorOf requirement) candidates).cost ≤
        (prices.bill (strengthen requirement) (stage.anchorOf (strengthen requirement))
          candidates).cost ∧
      (prices.bill requirement (stage.anchorOf requirement) candidates).asked.Within
        (prices.askedBy candidates (stage.pairsOf many)) := by
    intro requirement hmem
    obtain ⟨hmany, hweaker⟩ := hstrengthen requirement hmem
    have hpair : (strengthen requirement, stage.anchorOf (strengthen requirement)) ∈
        stage.pairsOf many := List.mem_map_of_mem hmany
    have hanchor : stage.anchorOf (strengthen requirement) = stage.anchorOf requirement := by
      rw [anchorOf, anchorOf, hweaker.observerAnchor]
    obtain ⟨satisfaction, hsatisfied⟩ := exists_of_forall₂ hfound' hpair
    have hasked := @within_askedBy _ _ _ prices candidates _ _ hpair
    rw [hanchor] at hsatisfied hasked ⊢
    obtain ⟨hown, hcost, hwithin⟩ := prices.bill_conditioned hweaker hsatisfied
    exact ⟨hown, hcost, hwithin.trans hasked⟩
  obtain ⟨found, hfound⟩ : ∃ found,
      List.Forall₂ (prices.Satisfied candidates) (stage.pairsOf few) found := by
    refine exists_forall₂ fun pair hpair => ?_
    obtain ⟨requirement, hmem, rfl⟩ := List.mem_map.mp hpair
    exact (hbill requirement hmem).1
  have hspends := prices.spends_evaluateEach hfresh hfound [] .none
  rw [prices.fill_none, List.nil_append] at hspends
  refine ⟨found, _, hspends, fun hnodup => hfits.mono (Nat.add_le_add ?_ (due_le _ ?_ _ _))⟩
  · exact prices.ownCosts_le hnodup hstrengthen fun requirement hmem => (hbill requirement hmem).2.1
  · refine prices.askedBy_within fun pair hpair => ?_
    obtain ⟨requirement, hmem, rfl⟩ := List.mem_map.mp hpair
    exact (hbill requirement hmem).2.2

end Prices

end ObservationStage

end AuthsProof
