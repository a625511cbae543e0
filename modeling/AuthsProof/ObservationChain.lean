import AuthsProof.EntryPoints
import AuthsProof.ExtensionLaws
import AuthsProof.ObservationCost

/-! The observation requirements of a chain: none that a grant carries is left out, and neither a
further grant nor a further condition makes a refused stage succeed, unless two requirements fall
together and the stage had run out of a limit. -/

namespace AuthsProof

open Memo

section Carried

variable [Cbor]

/-- One of the grant's extensions is a list of observation requirements with this one in it. -/
def SignedGrant.Carries (grant : SignedGrant) (requirement : ObservationRequirement) : Prop :=
  ∃ extension ∈ grant.statement.extensions.entries, extension.id = observationRequirementExtensionV1 ∧
    ∃ decoded, decodeObservationRequirements extension.bytes = .ok decoded ∧ requirement ∈ decoded.items

/-- Every requirement extension of the grant decodes. -/
def SignedGrant.Readable (grant : SignedGrant) : Prop :=
  ∀ extension ∈ grant.statement.extensions.entries, extension.id = observationRequirementExtensionV1 →
    ∃ decoded, decodeObservationRequirements extension.bytes = .ok decoded

/-- The distinct requirements of a chain before their number is bounded. -/
def collectRequirements (chain : List SignedGrant) :
    Except VerificationFailure (List ObservationRequirement) :=
  (chain.flatMap fun grant => grant.statement.extensions.entries).foldlM addRequirements []

def addNew (known : List ObservationRequirement) (requirement : ObservationRequirement) :
    List ObservationRequirement :=
  if requirement ∈ known then known else known ++ [requirement]

omit [Cbor] in
theorem foldl_addNew {requirements known : List ObservationRequirement} (hknown : known.Nodup) :
    (requirements.foldl addNew known).Nodup ∧
      ∀ r, r ∈ requirements.foldl addNew known ↔ r ∈ known ∨ r ∈ requirements := by
  induction requirements generalizing known with
  | nil => exact ⟨hknown, by simp⟩
  | cons requirement requirements ih =>
    rw [List.foldl_cons]
    by_cases hmem : requirement ∈ known
    · rw [addNew, if_pos hmem]
      obtain ⟨hnodup, hiff⟩ := ih hknown
      refine ⟨hnodup, fun r => (hiff r).trans ?_⟩
      rw [List.mem_cons]
      constructor
      · exact Or.imp_right Or.inr
      · rintro (h | rfl | h)
        · exact Or.inl h
        · exact Or.inl hmem
        · exact Or.inr h
    · rw [addNew, if_neg hmem]
      have hnodup' : (known ++ [requirement]).Nodup := by
        rw [List.nodup_append]
        refine ⟨hknown, List.nodup_singleton _, fun a ha b hb => ?_⟩
        rw [List.mem_singleton.mp hb]
        exact fun hab => hmem (hab ▸ ha)
      obtain ⟨hnodup, hiff⟩ := ih hnodup'
      refine ⟨hnodup, fun r => (hiff r).trans ?_⟩
      simp only [List.mem_append, List.mem_cons, List.not_mem_nil, or_false, or_assoc]

/-- What adding extension after extension comes to. -/
theorem foldlM_addRequirements {extensions : List CriticalExtension}
    {known requirements : List ObservationRequirement} (hknown : known.Nodup)
    (h : extensions.foldlM addRequirements known = .ok requirements) :
    requirements.Nodup ∧
      (∀ extension ∈ extensions, extension.id = observationRequirementExtensionV1 →
        ∃ decoded, decodeObservationRequirements extension.bytes = .ok decoded) ∧
      ∀ r, r ∈ requirements ↔ r ∈ known ∨ ∃ extension ∈ extensions,
        extension.id = observationRequirementExtensionV1 ∧
        ∃ decoded, decodeObservationRequirements extension.bytes = .ok decoded ∧ r ∈ decoded.items := by
  induction extensions generalizing known with
  | nil =>
    obtain rfl := Except.ok.inj h
    exact ⟨hknown, by simp, by simp⟩
  | cons extension extensions ih =>
    rw [List.foldlM_cons] at h
    obtain ⟨next, hnext, h⟩ := Except.bind_eq_ok.mp h
    unfold addRequirements at hnext
    split_ifs at hnext with hid
    · obtain rfl := Except.ok.inj hnext
      obtain ⟨hnodup, hreadable, hiff⟩ := ih hknown h
      refine ⟨hnodup, List.forall_mem_cons.mpr ⟨fun h => absurd h hid, hreadable⟩, fun r => ?_⟩
      rw [hiff, List.exists_mem_cons_iff]
      simp [hid]
    · rw [not_not] at hid
      obtain ⟨decoded, hdecoded, hnext⟩ := Except.bind_eq_ok.mp hnext
      have hread : decodeObservationRequirements extension.bytes = .ok decoded := by
        cases hread : decodeObservationRequirements extension.bytes with
        | error error => rw [hread] at hdecoded; cases hdecoded
        | ok found => rw [hread] at hdecoded; exact congrArg _ (Except.ok.inj hdecoded)
      obtain ⟨hnodup', hadded⟩ := @foldl_addNew decoded.items _ hknown
      have hsame : next = decoded.items.foldl addNew known := (Except.ok.inj hnext).symm
      obtain ⟨hnodup, hreadable, hiff⟩ := ih (hsame ▸ hnodup') h
      refine ⟨hnodup, List.forall_mem_cons.mpr ⟨fun _ => ⟨decoded, hread⟩, hreadable⟩, fun r => ?_⟩
      rw [hiff, List.exists_mem_cons_iff, hsame, hadded]
      simp [hid, hread, or_assoc]

/-- Extensions that all decode can be added. -/
theorem exists_foldlM {extensions : List CriticalExtension} (known : List ObservationRequirement)
    (h : ∀ extension ∈ extensions, extension.id = observationRequirementExtensionV1 →
      ∃ decoded, decodeObservationRequirements extension.bytes = .ok decoded) :
    ∃ requirements, extensions.foldlM addRequirements known = .ok requirements := by
  induction extensions generalizing known with
  | nil => exact ⟨known, rfl⟩
  | cons extension extensions ih =>
    obtain ⟨hfirst, hrest⟩ := List.forall_mem_cons.mp h
    rw [List.foldlM_cons]
    by_cases hid : extension.id = observationRequirementExtensionV1
    · obtain ⟨decoded, hread⟩ := hfirst hid
      obtain ⟨requirements, hall⟩ := ih (decoded.items.foldl addNew known) hrest
      refine ⟨requirements, Except.bind_eq_ok.mpr ⟨_, ?_, hall⟩⟩
      rw [addRequirements, if_neg (not_not.mpr hid), hread]
      rfl
    · obtain ⟨requirements, hall⟩ := ih known hrest
      refine ⟨requirements, Except.bind_eq_ok.mpr ⟨_, ?_, hall⟩⟩
      rw [addRequirements, if_pos hid]

/-- The requirements of a chain are those its grants carry, each once. -/
theorem collectRequirements_ok {chain : List SignedGrant} {requirements : List ObservationRequirement}
    (h : collectRequirements chain = .ok requirements) :
    requirements.Nodup ∧ (∀ grant ∈ chain, grant.Readable) ∧
      ∀ r, r ∈ requirements ↔ ∃ grant ∈ chain, grant.Carries r := by
  obtain ⟨hnodup, hreadable, hiff⟩ := foldlM_addRequirements List.nodup_nil h
  refine ⟨hnodup, fun grant hgrant extension hextension => ?_, fun r => ?_⟩
  · exact hreadable extension (List.mem_flatMap.mpr ⟨grant, hgrant, hextension⟩)
  · rw [hiff]
    simp only [List.not_mem_nil, false_or, List.mem_flatMap, SignedGrant.Carries]
    constructor
    · rintro ⟨extension, ⟨grant, hgrant, hmem⟩, hid, decoded, hread, hr⟩
      exact ⟨grant, hgrant, extension, hmem, hid, decoded, hread, hr⟩
    · rintro ⟨grant, hgrant, extension, hmem, hid, decoded, hread, hr⟩
      exact ⟨extension, ⟨grant, hgrant, hmem⟩, hid, decoded, hread, hr⟩

theorem exists_collectRequirements {chain : List SignedGrant}
    (h : ∀ grant ∈ chain, grant.Readable) :
    ∃ requirements, collectRequirements chain = .ok requirements := by
  refine exists_foldlM [] fun extension hextension => ?_
  obtain ⟨grant, hgrant, hmem⟩ := List.mem_flatMap.mp hextension
  exact h grant hgrant extension hmem

theorem chainObservationRequirements_ok {chain : List SignedGrant}
    {requirements : List ObservationRequirement} :
    chainObservationRequirements chain = .ok requirements ↔
      collectRequirements chain = .ok requirements ∧
        requirements.length ≤ maxObservationRequirementsPerChain := by
  rw [chainObservationRequirements]
  constructor
  · intro h
    obtain ⟨found, hfound, h⟩ := Except.bind_eq_ok.mp h
    obtain ⟨⟨⟩, hlength, h⟩ := Except.bind_eq_ok.mp h
    obtain rfl := Except.ok.inj h
    exact ⟨hfound, require_eq_ok.mp hlength⟩
  · intro ⟨hfound, hlength⟩
    exact Except.bind_eq_ok.mpr ⟨requirements, hfound,
      Except.bind_eq_ok.mpr ⟨(), require_eq_ok.mpr hlength, rfl⟩⟩

end Carried

namespace ObservationStage

variable [Cbor] [Sha256] {stage : ObservationStage}

/-- A failure that denies. -/
def Denies (failure : VerificationFailure) : Prop := ∃ reason, failure = .denied reason

omit [Cbor] [Sha256] in
theorem denies_exhausted : Denies exhausted := ⟨_, rfl⟩

section Denies

omit [Cbor] [Sha256] in
theorem denies_registryOperation (error : RegistryOperationError) :
    Denies (registryOperationFailure error) := by
  cases error <;> exact ⟨_, rfl⟩

omit [Cbor] [Sha256] in
theorem denies_reserve (maximum : UInt64) : Run.FailsIn Denies (reserve maximum) := by
  intro meter failure h
  rcases reserve_spec maximum meter with hrefused | ⟨charged, hgranted, -⟩
  · rw [hrefused] at h
    exact Except.error.inj h ▸ denies_exhausted
  · rw [hgranted] at h
    cases h

omit [Cbor] [Sha256] in
theorem denies_ensure {p : Prop} [Decidable p] :
    Run.FailsIn Denies (Run.ensure p exhausted : Metered Unit) := by
  by_cases hp : p
  · rw [Run.ensure_pos _ hp]
    exact Run.failsIn_pure ()
  · rw [Run.ensure_neg _ hp]
    exact fun _ => .error denies_exhausted

omit [Sha256] in
theorem denies_authentic (observation : SignedObservation) :
    Run.FailsIn Denies (stage.authentic observation) := by
  unfold authentic
  dsimp only
  split
  · split
    · exact Run.failsIn_pure false
    · refine (denies_reserve _).bind fun _ => (denies_reserve _).bind fun _ => ?_
      split
      · exact Run.failsIn_pure false
      · refine denies_ensure.bind fun _ => ?_
        split
        · exact Run.failsIn_pure false
        · split
          · exact Run.failsIn_pure true
          · exact Run.failsIn_pure false
  · exact Run.failsIn_pure false

omit [Cbor] [Sha256] in
theorem denies_namespacesMatch (matcher : ResourceMatcher) (subject : ResourceId)
    (namespaces : List ResourceId) :
    Run.FailsIn Denies (namespacesMatch matcher subject namespaces) := by
  induction namespaces with
  | nil => exact Run.failsIn_pure false
  | cons namespaceId namespaces ih =>
    refine (denies_reserve _).bind fun _ => ?_
    refine (Run.failsIn_ofExcept (.mapError denies_registryOperation)).bind fun matched => ?_
    split
    · exact Run.failsIn_pure true
    · exact ih

omit [Cbor] [Sha256] in
theorem denies_resolveFact (policy : ProfilePolicy) (name : FactName) :
    Run.FailsIn Denies (stage.resolveFact policy name) :=
  (denies_reserve _).bind fun _ => Run.failsIn_ofExcept (.mapError denies_registryOperation)

omit [Cbor] [Sha256] in
theorem denies_conditionValues (policy : ProfilePolicy) (conditions : List ObservationCondition) :
    Run.FailsIn Denies (stage.conditionValues policy conditions) := by
  induction conditions with
  | nil => exact Run.failsIn_pure _
  | cons condition conditions ih =>
    unfold conditionValues
    split
    · exact ih.bind fun _ => Run.failsIn_pure _
    · refine (denies_resolveFact policy _).bind fun value => ?_
      split
      · exact Run.failsIn_pure _
      · exact ih.bind fun _ => Run.failsIn_pure _

omit [Cbor] [Sha256] in
theorem denies_actionFacts (policy : ProfilePolicy) (requirement : ObservationRequirement) :
    Run.FailsIn Denies (stage.actionFacts requirement policy) := by
  have hsubject : Run.FailsIn Denies (stage.subjectResource policy requirement.subject) := by
    unfold subjectResource
    split
    · exact Run.failsIn_pure _
    · refine (denies_resolveFact policy _).bind fun value => ?_
      split <;> exact Run.failsIn_pure _
  refine hsubject.bind fun subject => ?_
  split
  · exact Run.failsIn_pure _
  · exact (denies_conditionValues policy _).bind fun _ => Run.failsIn_pure _

end Denies

/-- The stage has the profile policy and the resource matcher its context names. -/
structure Supported (stage : ObservationStage) : Prop where
  policy : (stage.registries.profilePolicy stage.context.acceptedRegistries
    stage.context.profilePolicy).isSome
  matcher : (stage.registries.resourceMatcher stage.context.acceptedRegistries
    stage.context.resourceMatcher).isSome

section Supported

variable (hsupported : stage.Supported)

include hsupported

theorem Supported.denies_eligible (requirement : ObservationRequirement) (anchor : ObserverAnchor)
    (subject : ResourceId) (candidate : Candidate) :
    Run.FailsIn Denies (stage.eligible requirement anchor subject candidate) := by
  obtain ⟨matcher, hmatcher⟩ := Option.isSome_iff_exists.mp hsupported.matcher
  unfold eligible subjectInNamespaces
  rw [hmatcher]
  dsimp only
  split
  · exact Run.failsIn_pure _
  · refine (denies_namespacesMatch matcher _ _).bind fun inside => ?_
    split
    · exact Run.failsIn_pure _
    · split
      · exact Run.failsIn_pure _
      · exact (denies_authentic _).bind fun _ => Run.failsIn_pure _

theorem Supported.denies_scan (requirement : ObservationRequirement) (anchor : ObserverAnchor)
    (subject : ResourceId) (values : List (Option FactValue)) (candidates : List Candidate) :
    Run.FailsIn Denies (stage.scan requirement anchor subject values candidates) := by
  induction candidates with
  | nil => exact Run.failsIn_pure _
  | cons candidate candidates ih =>
    refine (hsupported.denies_eligible requirement anchor subject candidate).bind fun checked => ?_
    dsimp only
    split
    · exact Run.failsIn_pure _
    · exact ih.bind fun _ => Run.failsIn_pure _

/-- A requirement that stops a supported stage stops it with a denial. -/
theorem Supported.denies_requirement (requirement : ObservationRequirement)
    (anchor : Option ObserverAnchor) (candidates : List Candidate) :
    Run.FailsIn Denies (stage.requirement requirement anchor candidates) := by
  obtain ⟨policy, hpolicy⟩ := Option.isSome_iff_exists.mp hsupported.policy
  unfold ObservationStage.requirement
  rw [hpolicy]
  split
  · exact Run.failsIn_pure _
  · refine (denies_actionFacts policy requirement).bind fun facts => ?_
    split
    · exact Run.failsIn_pure _
    · refine (denies_reserve _).bind fun _ => ?_
      refine (hsupported.denies_scan _ _ _ _ _).bind fun found => ?_
      dsimp only
      split <;> exact Run.failsIn_pure _

end Supported

section Denied

theorem answers_eligible_matcher (requirement : ObservationRequirement) (anchor : ObserverAnchor)
    (subject : ResourceId) (candidate : Candidate) :
    Run.Answers (fun checked => checked.1 = true → (stage.registries.resourceMatcher
        stage.context.acceptedRegistries stage.context.resourceMatcher).isSome)
      (stage.eligible requirement anchor subject candidate) := by
  have hmatcher : Run.Answers (fun _ => (stage.registries.resourceMatcher
      stage.context.acceptedRegistries stage.context.resourceMatcher).isSome)
      (stage.subjectInNamespaces anchor candidate.observation.statement.subject) :=
    (Run.answers_ofOption fun matcher h => h).bind fun matcher h _ _ _ => h ▸ rfl
  unfold eligible
  dsimp only
  split
  · exact Run.answers_pure fun h => nomatch h
  · refine hmatcher.bind fun inside hinside => ?_
    split
    · exact Run.answers_pure fun h => nomatch h
    · split
      · exact Run.answers_pure fun _ => hinside
      · exact (Run.answers_self _).bind fun _ _ => Run.answers_pure fun _ => hinside

/-- A search that comes on an eligible candidate has a matcher. -/
theorem answers_scan_matcher (requirement : ObservationRequirement) (anchor : ObserverAnchor)
    (subject : ResourceId) (values : List (Option FactValue)) (candidates : List Candidate) :
    Run.Answers (fun scanned => scanned.1 = true → (stage.registries.resourceMatcher
        stage.context.acceptedRegistries stage.context.resourceMatcher).isSome)
      (stage.scan requirement anchor subject values candidates) := by
  induction candidates with
  | nil => exact Run.answers_pure fun h => nomatch h
  | cons candidate candidates ih =>
    refine (answers_eligible_matcher requirement anchor subject candidate).bind
      fun checked hchecked => ?_
    obtain ⟨counts, checked⟩ := checked
    dsimp only at hchecked ⊢
    split
    · rename_i hstop
      exact Run.answers_pure fun _ => hchecked (Bool.and_eq_true_iff.mp hstop).1
    · refine ih.bind fun scanned hscanned => Run.answers_pure fun h => ?_
      exact (Bool.or_eq_true_iff.mp h).elim hchecked hscanned

/-- A stage with a requirement whose own verdict denies has all it needs to judge any other. -/
theorem answers_requirement_denied (requirement : ObservationRequirement)
    (anchor : Option ObserverAnchor) (candidates : List Candidate) :
    Run.Answers (fun verdict => (∃ reason, verdict.1 = .error (.denied reason)) → stage.Supported)
      (stage.requirement requirement anchor candidates) := by
  unfold ObservationStage.requirement
  split
  · exact Run.answers_pure fun ⟨_, h⟩ => nomatch h
  · rename_i anchor
    refine (Run.answers_ofOption fun _ h => h).bind fun policy hpolicy => ?_
    refine (Run.answers_self _).bind fun facts _ => ?_
    split
    · exact Run.answers_pure fun ⟨_, h⟩ => nomatch h
    · refine (Run.answers_self _).bind fun _ _ => ?_
      refine (answers_scan_matcher _ _ _ _ _).bind fun scanned hscanned => ?_
      obtain ⟨anyEligible, satisfying, scanned⟩ := scanned
      dsimp only at hscanned ⊢
      split
      · exact Run.answers_pure fun ⟨_, h⟩ => nomatch h
      · rename_i hverdict
        refine Run.answers_pure fun _ => ⟨hpolicy ▸ rfl, hscanned ?_⟩
        unfold requirementVerdict at hverdict
        split_ifs at hverdict with _ hany
        exact hany
      · exact Run.answers_pure fun ⟨_, h⟩ => nomatch h

/-- A requirement denied by itself denies every run over a list with it in. -/
theorem evaluateEach_denied (prices : stage.Prices) (hsupported : stage.Supported)
    {candidates : List Candidate} (hfresh : ∀ candidate ∈ candidates, candidate.authentic = none)
    {denied : ObservationRequirement × Option ObserverAnchor} {reason : DenialReason}
    (hdenied : (prices.bill denied.1 denied.2 candidates).outcome = .ok (.error (.denied reason)))
    {pairs : List (ObservationRequirement × Option ObserverAnchor)} (hmem : denied ∈ pairs)
    (known : Marks) (satisfactions : List ObservationSatisfaction)
    (unavailable : Option VerificationFailure) {meter : WorkMeter} (hroom : meter.Room 0) :
    ∃ failure, (stage.evaluateEach pairs (prices.fill known candidates) satisfactions unavailable
      meter).1 = .error failure ∧ Denies failure := by
  induction pairs generalizing known satisfactions unavailable meter with
  | nil => exact absurd hmem List.not_mem_nil
  | cons pair pairs ih =>
    have hbill := prices.spends_requirement pair.1 pair.2 hfresh known
    rw [evaluateEach]
    rcases hrun : stage.requirement pair.1 pair.2 (prices.fill known candidates) meter with
      ⟨failure | ⟨verdict, left⟩, charged⟩
    · have hdenies := hsupported.denies_requirement pair.1 pair.2 (prices.fill known candidates) meter
        failure (by rw [hrun])
      rw [Run.bind_error hrun]
      exact ⟨failure, rfl, hdenies⟩
    · obtain ⟨houtcome, -, hroom'⟩ := hbill.of_ok hroom hrun
      rw [Run.bind_ok hrun]
      cases hown : (prices.bill pair.1 pair.2 candidates).outcome with
      | error failure =>
        rw [hown] at houtcome
        cases houtcome
      | ok own =>
        rw [hown] at houtcome
        obtain ⟨rfl, rfl⟩ := Prod.mk.inj (Except.ok.inj houtcome)
        have hlater (hne : own ≠ .error (.denied reason)) : denied ∈ pairs := by
          rcases List.mem_cons.mp hmem with rfl | hrest
          · exact absurd (Except.ok.inj (hown.symm.trans hdenied)) hne
          · exact hrest
        cases own with
        | ok satisfaction => exact ih (hlater (by simp)) _ _ _ hroom'
        | error failure =>
          cases failure with
          | denied found => exact ⟨_, rfl, found, rfl⟩
          | indeterminate missing => exact ih (hlater (by simp)) _ _ _ hroom'

end Denied

section Stage

omit [Cbor] [Sha256] in
theorem anchorsFor_ok {requirements : List ObservationRequirement} :
    (∃ anchors, stage.anchorsFor requirements = .ok anchors) ↔
      ∀ requirement ∈ requirements, ∀ found ∈ stage.anchorOf requirement,
        stage.inAuthorityChain found.principal = false := by
  induction requirements with
  | nil => exact ⟨fun _ => by simp, fun _ => ⟨[], rfl⟩⟩
  | cons requirement requirements ih =>
    rw [List.forall_mem_cons, ← ih, anchorsFor]
    constructor
    · intro ⟨anchors, h⟩
      obtain ⟨⟨⟩, hfirst, h⟩ := Except.bind_eq_ok.mp h
      obtain ⟨rest, hrest, -⟩ := Except.bind_eq_ok.mp h
      exact ⟨require_eq_ok.mp hfirst, rest, hrest⟩
    · intro ⟨hfirst, rest, hrest⟩
      exact ⟨_, Except.bind_eq_ok.mpr ⟨(), require_eq_ok.mpr hfirst,
        Except.bind_eq_ok.mpr ⟨rest, hrest, rfl⟩⟩⟩

omit [Cbor] [Sha256] in
theorem denies_anchorsFor (requirements : List ObservationRequirement) :
    (stage.anchorsFor requirements).FailsIn Denies := by
  induction requirements with
  | nil => exact .ok
  | cons requirement requirements ih =>
    refine Except.FailsIn.bind ?_ fun _ _ => ih.bind fun _ _ => .ok
    unfold require
    split
    · exact .ok
    · exact .error ⟨_, rfl⟩

omit [Cbor] [Sha256] in
theorem denies_limitOrMalformed (error : CodecError) : Denies (limitOrMalformed error) := by
  unfold limitOrMalformed
  split
  · exact denies_exhausted
  · exact ⟨_, rfl⟩

theorem denies_candidates : stage.candidates.FailsIn Denies := by
  have hfrom (descriptors : List AttachmentDescriptor) :
      (stage.candidatesFrom descriptors).FailsIn Denies := by
    induction descriptors with
    | nil => exact .ok
    | cons descriptor descriptors ih =>
      unfold candidatesFrom
      split
      · exact ih
      · split
        · exact ih
        · exact Except.FailsIn.bind (.mapError denies_limitOrMalformed) fun _ _ =>
            ih.bind fun _ _ => .ok
  exact (hfrom _).bind fun _ _ => .ok

theorem candidates_fresh {candidates : List Candidate} (h : stage.candidates = .ok candidates) :
    ∀ candidate ∈ candidates, candidate.authentic = none := by
  obtain ⟨listed, hlisted, hsorted⟩ := Except.bind_eq_ok.mp h
  intro candidate hmem
  rw [← Except.ok.inj hsorted, Sorting.mem_sortByKey] at hmem
  exact candidatesFrom_unchecked stage hlisted candidate hmem

/-- The run of a stage whose requirements, anchors and candidates are all there. -/
theorem evaluate_eq {requirements : List ObservationRequirement} {candidates : List Candidate}
    {anchors : List (Option ObserverAnchor)}
    (hrequirements : chainObservationRequirements stage.chain = .ok requirements)
    (hne : requirements ≠ []) (hanchors : stage.anchorsFor requirements = .ok anchors)
    (hcandidates : stage.candidates = .ok candidates) :
    stage.evaluate = stage.evaluateEach (stage.pairsOf requirements) candidates [] none := by
  rw [evaluate, hrequirements, Run.ofExcept_ok, Run.pure_bind,
    if_neg (fun h => hne (List.isEmpty_iff.mp h)), hanchors, Run.ofExcept_ok, Run.pure_bind,
    hcandidates, Run.ofExcept_ok, Run.pure_bind, anchorsFor_eq stage hanchors]
  rfl

/-- What a run that answers has found in place. -/
theorem evaluate_ok {requirements : List ObservationRequirement} (hne : requirements ≠ [])
    (hrequirements : chainObservationRequirements stage.chain = .ok requirements)
    {meter : WorkMeter} {answered : List ObservationSatisfaction}
    (h : (stage.evaluate meter).1 = .ok answered) : ∃ anchors candidates,
      stage.anchorsFor requirements = .ok anchors ∧ stage.candidates = .ok candidates ∧
      (stage.evaluateEach (stage.pairsOf requirements) candidates [] none meter).1 = .ok answered := by
  cases hanchors : stage.anchorsFor requirements with
  | error failure =>
    rw [evaluate, hrequirements, Run.ofExcept_ok, Run.pure_bind,
      if_neg (fun h => hne (List.isEmpty_iff.mp h)), hanchors] at h
    cases h
  | ok anchors =>
    cases hcandidates : stage.candidates with
    | error failure =>
      rw [evaluate, hrequirements, Run.ofExcept_ok, Run.pure_bind,
        if_neg (fun h => hne (List.isEmpty_iff.mp h)), hanchors, Run.ofExcept_ok, Run.pure_bind,
        hcandidates] at h
      cases h
    | ok candidates =>
      rw [evaluate_eq hrequirements hne hanchors hcandidates] at h
      exact ⟨anchors, candidates, rfl, rfl, h⟩

/-- A requirement whose own verdict denies makes the stage deny, whatever the others come to. -/
theorem evaluate_denied {requirements : List ObservationRequirement} {candidates : List Candidate}
    (hrequirements : chainObservationRequirements stage.chain = .ok requirements)
    (hcandidates : stage.candidates = .ok candidates) {requirement : ObservationRequirement}
    (hmem : requirement ∈ requirements) {own : WorkMeter} (hown : own.Room 0) {reason : DenialReason}
    {after : List Candidate}
    (hverdict : (stage.requirement requirement (stage.anchorOf requirement) candidates own).1 =
      .ok (.error (.denied reason), after)) {meter : WorkMeter} (hroom : meter.Room 0) :
    ∃ reason, (stage.evaluate meter).1 = .error (.denied reason) := by
  have hne : requirements ≠ [] := List.ne_nil_of_mem hmem
  cases hanchors : stage.anchorsFor requirements with
  | error failure =>
    obtain ⟨found, rfl⟩ := denies_anchorsFor requirements failure hanchors
    rw [evaluate, hrequirements, Run.ofExcept_ok, Run.pure_bind,
      if_neg (fun h => hne (List.isEmpty_iff.mp h)), hanchors]
    exact ⟨found, rfl⟩
  | ok anchors =>
    obtain ⟨prices⟩ := stage.exists_prices
    have hfresh := candidates_fresh hcandidates
    have hsupported : stage.Supported :=
      answers_requirement_denied requirement _ candidates own _ hverdict ⟨reason, rfl⟩
    have hbill : (prices.bill requirement (stage.anchorOf requirement) candidates).outcome =
        .ok (.error (.denied reason)) := by
      have hspends := prices.spends_requirement requirement (stage.anchorOf requirement) hfresh .none
      rw [prices.fill_none] at hspends
      obtain ⟨houtcome, -⟩ := hspends.of_ok hown (Prod.ext hverdict rfl)
      cases hbill : (prices.bill requirement (stage.anchorOf requirement) candidates).outcome with
      | error failure =>
        rw [hbill] at houtcome
        cases houtcome
      | ok verdict =>
        rw [hbill] at houtcome
        exact congrArg _ (Prod.mk.inj (Except.ok.inj houtcome)).1
    have hpair : (requirement, stage.anchorOf requirement) ∈ stage.pairsOf requirements :=
      List.mem_map.mpr ⟨requirement, hmem, rfl⟩
    obtain ⟨failure, hfailure, found, rfl⟩ := evaluateEach_denied prices hsupported hfresh
      hbill hpair .none [] none hroom
    rw [prices.fill_none] at hfailure
    rw [evaluate_eq hrequirements hne hanchors hcandidates]
    exact ⟨found, hfailure⟩

end Stage

/-- The stage of the same action on another chain. -/
def onChain (stage : ObservationStage) (chain : List SignedGrant) : ObservationStage :=
  { stage with chain := chain }

section Retained

section OnChain

variable (chain : List SignedGrant)

theorem onChain_candidatesFrom (descriptors : List AttachmentDescriptor) :
    (stage.onChain chain).candidatesFrom descriptors = stage.candidatesFrom descriptors := by
  induction descriptors with
  | nil => rfl
  | cons descriptor descriptors ih =>
    rw [candidatesFrom, candidatesFrom, ih]
    rfl

omit [Cbor] [Sha256] in
theorem onChain_conditionValues (policy : ProfilePolicy) (conditions : List ObservationCondition) :
    (stage.onChain chain).conditionValues policy conditions =
      stage.conditionValues policy conditions := by
  induction conditions with
  | nil => rfl
  | cons condition conditions ih =>
    rw [conditionValues, conditionValues, ih]
    rfl

theorem onChain_scan (requirement : ObservationRequirement) (anchor : ObserverAnchor)
    (subject : ResourceId) (values : List (Option FactValue)) (candidates : List Candidate) :
    (stage.onChain chain).scan requirement anchor subject values candidates =
      stage.scan requirement anchor subject values candidates := by
  induction candidates with
  | nil => rfl
  | cons candidate candidates ih =>
    rw [scan, scan, ih]
    rfl

theorem onChain_requirement (requirement : ObservationRequirement) (anchor : Option ObserverAnchor)
    (candidates : List Candidate) :
    (stage.onChain chain).requirement requirement anchor candidates =
      stage.requirement requirement anchor candidates := by
  unfold ObservationStage.requirement actionFacts
  simp only [onChain_scan, onChain_conditionValues]
  rfl

theorem onChain_evaluateEach (pairs : List (ObservationRequirement × Option ObserverAnchor))
    (candidates : List Candidate) (satisfactions : List ObservationSatisfaction)
    (unavailable : Option VerificationFailure) :
    (stage.onChain chain).evaluateEach pairs candidates satisfactions unavailable =
      stage.evaluateEach pairs candidates satisfactions unavailable := by
  induction pairs generalizing candidates satisfactions unavailable with
  | nil => rfl
  | cons pair pairs ih =>
    simp only [evaluateEach, onChain_requirement, ih]

end OnChain

/-- Where a stage whose requirements strengthen those of another chain succeeds, the stage of that chain
succeeds or runs out of a limit; it succeeds where no two requirements are strengthened into one. -/
theorem evaluate_retained {chain : List SignedGrant} {few many : List ObservationRequirement}
    (hfew : collectRequirements stage.chain = .ok few)
    (hmany : chainObservationRequirements chain = .ok many)
    (hinside : ∀ principal, stage.inAuthorityChain principal = true →
      (stage.onChain chain).inAuthorityChain principal = true)
    {strengthen : ObservationRequirement → ObservationRequirement}
    (hstrengthen : ∀ requirement ∈ few, strengthen requirement ∈ many ∧
      requirement.Conditioned (strengthen requirement))
    {meter : WorkMeter} (hroom : meter.Room 0) {answered : List ObservationSatisfaction}
    (h : ((stage.onChain chain).evaluate meter).1 = .ok answered) :
    ((∃ found, (stage.evaluate meter).1 = .ok found) ∨ (stage.evaluate meter).1 = .error exhausted) ∧
      ((few.map strengthen).Nodup → ∃ found, (stage.evaluate meter).1 = .ok found) := by
  by_cases hne : few = []
  · have hrun : (stage.evaluate meter).1 = .ok [] := by
      have hrequirements : chainObservationRequirements stage.chain = .ok [] :=
        chainObservationRequirements_ok.mpr ⟨hne ▸ hfew, Nat.zero_le _⟩
      rw [evaluate, hrequirements]
      rfl
    exact ⟨Or.inl ⟨[], hrun⟩, fun _ => ⟨[], hrun⟩⟩
  · obtain ⟨first, hfirst⟩ := List.exists_mem_of_ne_nil few hne
    have hmanyne : many ≠ [] := List.ne_nil_of_mem (hstrengthen first hfirst).1
    obtain ⟨anchors', candidates, hanchors', hcandidates, heach⟩ := evaluate_ok hmanyne hmany h
    have hanchors : ∃ anchors, stage.anchorsFor few = .ok anchors := by
      rw [anchorsFor_ok]
      intro requirement hmem found hfound
      obtain ⟨hin, hweaker⟩ := hstrengthen requirement hmem
      have houtside := anchorsFor_ok.mp ⟨anchors', hanchors'⟩ (strengthen requirement) hin found
        (by rw [anchorOf, hweaker.observerAnchor]; exact hfound)
      by_contra hnot
      rw [hinside _ (Bool.not_eq_false _ ▸ hnot)] at houtside
      cases houtside
    obtain ⟨anchors, hanchors⟩ := hanchors
    have hsame : stage.candidates = .ok candidates := by
      rw [← hcandidates, ObservationStage.candidates, ObservationStage.candidates,
        onChain_candidatesFrom]
      rfl
    rw [onChain_evaluateEach] at heach
    obtain ⟨found, cost, hspends, hfits⟩ := Prices.spends_of_strengthened (candidates_fresh hsame)
      hstrengthen hroom heach
    by_cases hlength : few.length ≤ maxObservationRequirementsPerChain
    · have hrequirements := chainObservationRequirements_ok.mpr ⟨hfew, hlength⟩
      rw [evaluate_eq hrequirements hne hanchors hsame]
      have hok (hcost : meter.Room cost) :
          (stage.evaluateEach (stage.pairsOf few) candidates [] none meter).1 = .ok found := by
        obtain ⟨charged, hrun, -⟩ := hspends.fits meter hcost
        rw [hrun]
      refine ⟨?_, fun hnodup => ⟨found, hok (hfits hnodup)⟩⟩
      by_cases hcost : meter.Room cost
      · exact Or.inl ⟨found, hok hcost⟩
      · exact Or.inr (hspends.exceeds meter hroom hcost)
    · have hover : (stage.evaluate meter).1 = .error exhausted := by
        have hrefused : chainObservationRequirements stage.chain = .error exhausted := by
          have hall : (stage.chain.flatMap fun grant => grant.statement.extensions.entries).foldlM
              addRequirements [] = .ok few := hfew
          rw [chainObservationRequirements, hall]
          show (require _ exhausted >>= fun _ => .ok few) = _
          rw [require, if_neg hlength]
          rfl
        rw [evaluate, hrefused]
        rfl
      refine ⟨Or.inr hover, fun hnodup => absurd ?_ hlength⟩
      have hsubset : few.map strengthen ⊆ many := by
        intro requirement hmem
        obtain ⟨own, hown, rfl⟩ := List.mem_map.mp hmem
        exact (hstrengthen own hown).1
      have hcount := (List.subperm_of_subset hnodup hsubset).length_le
      rw [List.length_map] at hcount
      exact hcount.trans (chainObservationRequirements_ok.mp hmany).2

omit [Cbor] [Sha256] in
theorem inAuthorityChain_iff {principal : PrincipalId} : stage.inAuthorityChain principal = true ↔
    principal = stage.root ∨ principal = stage.action.envelope.actor ∨
      ∃ grant ∈ stage.chain, principal = grant.statement.issuer ∨
        principal = grant.statement.subject := by
  simp [inAuthorityChain, or_assoc]

/-- Further grants never make a refused stage succeed. -/
theorem evaluate_subset {chain : List SignedGrant} (hsubset : stage.chain ⊆ chain) {meter : WorkMeter}
    (hroom : meter.Room 0) {answered : List ObservationSatisfaction}
    (h : ((stage.onChain chain).evaluate meter).1 = .ok answered) :
    ∃ found, (stage.evaluate meter).1 = .ok found := by
  cases hmany : chainObservationRequirements chain with
  | error failure =>
    rw [evaluate, show chainObservationRequirements (stage.onChain chain).chain = _ from hmany] at h
    cases h
  | ok many =>
    obtain ⟨-, hreadable, hcarried⟩ :=
      collectRequirements_ok (chainObservationRequirements_ok.mp hmany).1
    obtain ⟨few, hfew⟩ := exists_collectRequirements fun grant hgrant =>
      hreadable grant (hsubset hgrant)
    obtain ⟨hnodup, -, hfewcarried⟩ := collectRequirements_ok hfew
    have hinside (principal : PrincipalId) (hin : stage.inAuthorityChain principal = true) :
        (stage.onChain chain).inAuthorityChain principal = true := by
      rw [inAuthorityChain_iff] at hin ⊢
      refine hin.imp_right (Or.imp_right ?_)
      exact fun ⟨grant, hgrant, hprincipal⟩ => ⟨grant, hsubset hgrant, hprincipal⟩
    have hstrengthen (requirement : ObservationRequirement) (hmem : requirement ∈ few) :
        id requirement ∈ many ∧ requirement.Conditioned (id requirement) := by
      obtain ⟨grant, hgrant, hcarries⟩ := (hfewcarried requirement).mp hmem
      exact ⟨(hcarried requirement).mpr ⟨grant, hsubset hgrant, hcarries⟩, .refl requirement⟩
    exact (evaluate_retained hfew hmany hinside hstrengthen hroom h).2 (by simpa using hnodup)

/-- `strong` is the grant `weak` with conditions added to one of its requirements. -/
structure Strengthened (weak strong : SignedGrant) (before after : ObservationRequirement) : Prop where
  issuer : strong.statement.issuer = weak.statement.issuer
  subject : strong.statement.subject = weak.statement.subject
  readable : weak.Readable
  carries : weak.Carries before
  conditioned : before.Conditioned after
  replaced : ∀ r, strong.Carries r ↔ r = after ∨ weak.Carries r ∧ r ≠ before

variable {before after : List SignedGrant} {weak strong : SignedGrant}
  {requirement added : ObservationRequirement}

omit [Sha256] in
theorem Strengthened.inAuthorityChain (hstrengthened : Strengthened weak strong requirement added)
    (hchain : stage.chain = before ++ weak :: after) {principal : PrincipalId}
    (hin : stage.inAuthorityChain principal = true) :
    (stage.onChain (before ++ strong :: after)).inAuthorityChain principal = true := by
  rw [inAuthorityChain_iff] at hin ⊢
  refine hin.imp_right (Or.imp_right fun ⟨grant, hgrant, hprincipal⟩ => ?_)
  rw [hchain] at hgrant
  show ∃ grant ∈ before ++ strong :: after, _
  simp only [List.mem_append, List.mem_cons] at hgrant ⊢
  rcases hgrant with hbefore | rfl | hafter
  · exact ⟨grant, Or.inl hbefore, hprincipal⟩
  · rw [← hstrengthened.issuer, ← hstrengthened.subject] at hprincipal
    exact ⟨strong, Or.inr (Or.inl rfl), hprincipal⟩
  · exact ⟨grant, Or.inr (Or.inr hafter), hprincipal⟩

omit [Sha256] in
/-- A requirement of the weaker chain that is not the strengthened one is a requirement of the
stronger chain. -/
theorem Strengthened.carried (hstrengthened : Strengthened weak strong requirement added)
    {r : ObservationRequirement} (hr : ∃ grant ∈ before ++ weak :: after, grant.Carries r)
    (hother : r ≠ requirement ∨ ∃ grant ∈ before ++ after, grant.Carries r) :
    ∃ grant ∈ before ++ strong :: after, grant.Carries r := by
  simp only [List.mem_append, List.mem_cons] at hr hother ⊢
  obtain ⟨grant, hbefore | rfl | hafter, hcarries⟩ := hr
  · exact ⟨grant, Or.inl hbefore, hcarries⟩
  · rcases hother with hne | ⟨other, hmem, hother⟩
    · exact ⟨strong, Or.inr (Or.inl rfl), (hstrengthened.replaced r).mpr (Or.inr ⟨hcarries, hne⟩)⟩
    · exact ⟨other, hmem.imp_right Or.inr, hother⟩
  · exact ⟨grant, Or.inr (Or.inr hafter), hcarries⟩

/-- A further condition makes a refused stage succeed only where the requirement becomes one that the
chain already had and no other grant keeps it as it was; and then a limit had run out. -/
theorem evaluate_strengthened (hstrengthened : Strengthened weak strong requirement added)
    (hchain : stage.chain = before ++ weak :: after) {meter : WorkMeter} (hroom : meter.Room 0)
    {answered : List ObservationSatisfaction}
    (h : ((stage.onChain (before ++ strong :: after)).evaluate meter).1 = .ok answered) :
    (∃ found, (stage.evaluate meter).1 = .ok found) ∨
      (stage.evaluate meter).1 = .error exhausted ∧ (∃ grant ∈ stage.chain, grant.Carries added) ∧
        ∀ grant ∈ before ++ after, ¬grant.Carries requirement := by
  cases hmany : chainObservationRequirements (before ++ strong :: after) with
  | error failure =>
    rw [evaluate, show chainObservationRequirements
      (stage.onChain (before ++ strong :: after)).chain = _ from hmany] at h
    cases h
  | ok many =>
    obtain ⟨-, hreadable, hcarried⟩ :=
      collectRequirements_ok (chainObservationRequirements_ok.mp hmany).1
    have hinside (principal : PrincipalId) (hin : stage.inAuthorityChain principal = true) :
        (stage.onChain (before ++ strong :: after)).inAuthorityChain principal = true :=
      hstrengthened.inAuthorityChain hchain hin
    obtain ⟨few, hfew⟩ : ∃ few, collectRequirements stage.chain = .ok few := by
      refine exists_collectRequirements fun grant hgrant => ?_
      rw [hchain, List.mem_append, List.mem_cons] at hgrant
      rcases hgrant with hbefore | rfl | hafter
      · exact hreadable grant (List.mem_append_left _ hbefore)
      · exact hstrengthened.readable
      · exact hreadable grant (List.mem_append_right _ (List.mem_cons_of_mem _ hafter))
    obtain ⟨hnodup, -, hfewcarried⟩ := collectRequirements_ok hfew
    rw [hchain] at hfewcarried
    by_cases hkept : ∃ grant ∈ before ++ after, grant.Carries requirement
    · -- another grant keeps the requirement, so the chain has only gained one
      have hgained (r : ObservationRequirement) (hr : r ∈ few) :
          id r ∈ many ∧ r.Conditioned (id r) := by
        refine ⟨(hcarried r).mpr ?_, .refl r⟩
        refine hstrengthened.carried ((hfewcarried r).mp hr) ?_
        by_cases hsame : r = requirement
        · exact Or.inr (hsame ▸ hkept)
        · exact Or.inl hsame
      exact Or.inl ((evaluate_retained hfew hmany hinside hgained hroom h).2 (by simpa using hnodup))
    · let strengthen := fun r => if r = requirement then added else r
      have hreplaced (r : ObservationRequirement) (hr : r ∈ few) :
          strengthen r ∈ many ∧ r.Conditioned (strengthen r) := by
        by_cases hsame : r = requirement
        · have hstrong : strong.Carries added := (hstrengthened.replaced added).mpr (Or.inl rfl)
          rw [show strengthen r = added from if_pos hsame, hsame]
          exact ⟨(hcarried added).mpr ⟨strong, List.mem_append_right _ List.mem_cons_self, hstrong⟩,
            hstrengthened.conditioned⟩
        · rw [show strengthen r = r from if_neg hsame]
          exact ⟨(hcarried r).mpr (hstrengthened.carried ((hfewcarried r).mp hr) (Or.inl hsame)),
            .refl r⟩
      obtain ⟨hanswer, hdistinct⟩ := evaluate_retained hfew hmany hinside hreplaced hroom h
      by_cases hnew : added ∈ few
      · refine hanswer.imp_right fun hexhausted => ⟨hexhausted, ?_, ?_⟩
        · exact hchain ▸ (hfewcarried added).mp hnew
        · exact fun grant hgrant hcarries => hkept ⟨grant, hgrant, hcarries⟩
      · refine Or.inl (hdistinct (hnodup.map_on fun r hr r' hr' hequal => ?_))
        simp only [strengthen] at hequal
        split_ifs at hequal with hsame hsame'
        · exact hsame.trans (Eq.symm ‹_›)
        · exact absurd (hequal ▸ hr') hnew
        · exact absurd (hequal.symm ▸ hr) hnew
        · exact hequal

/-- What the stage of a chain enforces, records and denies, and what further grants and conditions do
to it, at every meter of a run. -/
theorem evaluate_retains (stage : ObservationStage) {limit : UInt64} {meter : WorkMeter}
    (hmeter : Charges (WorkMeter.new limit) meter) :
    (∀ answered, (stage.evaluate meter).1 = .ok answered → ∃ requirements,
      chainObservationRequirements stage.chain = .ok requirements ∧
      ∀ grant ∈ stage.chain, ∀ r, grant.Carries r → r ∈ requirements ∧ ∃ candidates,
        stage.candidates = .ok candidates ∧
        ∃ satisfaction ∈ answered, stage.Records candidates r satisfaction) ∧
    (∀ requirements, chainObservationRequirements stage.chain = .ok requirements →
      ∀ r, r ∈ requirements ↔ ∃ grant ∈ stage.chain, grant.Carries r) ∧
    (∀ chain answered, stage.chain ⊆ chain → ((stage.onChain chain).evaluate meter).1 = .ok answered →
      ∃ found, (stage.evaluate meter).1 = .ok found) ∧
    (∀ before after weak strong requirement added answered, stage.chain = before ++ weak :: after →
      Strengthened weak strong requirement added →
      ((stage.onChain (before ++ strong :: after)).evaluate meter).1 = .ok answered →
      (∃ found, (stage.evaluate meter).1 = .ok found) ∨
        (stage.evaluate meter).1 = .error exhausted ∧ (∃ grant ∈ stage.chain, grant.Carries added) ∧
          ∀ grant ∈ before ++ after, ¬grant.Carries requirement) ∧
    ∀ requirements candidates, chainObservationRequirements stage.chain = .ok requirements →
      stage.candidates = .ok candidates → ∀ requirement ∈ requirements, ∀ own reason left,
      Charges (WorkMeter.new limit) own →
      (stage.requirement requirement (stage.anchorOf requirement) candidates own).1 =
        .ok (.error (.denied reason), left) →
      ∃ reason, (stage.evaluate meter).1 = .error (.denied reason) := by
  have hroom := WorkMeter.room_of_charges hmeter
  refine ⟨?_, ?_, ?_, ?_, ?_⟩
  · intro answered hanswered
    obtain ⟨requirements, hrequirements, hrecorded⟩ := answers_observationStage stage meter answered
      hanswered
    obtain ⟨-, -, hcarried⟩ := collectRequirements_ok (chainObservationRequirements_ok.mp hrequirements).1
    refine ⟨requirements, hrequirements, fun grant hgrant r hcarries => ?_⟩
    have hmem := (hcarried r).mpr ⟨grant, hgrant, hcarries⟩
    exact ⟨hmem, hrecorded r hmem⟩
  · intro requirements hrequirements
    exact (collectRequirements_ok (chainObservationRequirements_ok.mp hrequirements).1).2.2
  · intro chain answered hsubset hanswered
    exact evaluate_subset hsubset hroom hanswered
  · intro before after weak strong requirement added answered hchain hstrengthened hanswered
    exact evaluate_strengthened hstrengthened hchain hroom hanswered
  · intro requirements candidates hrequirements hcandidates requirement hmem own reason left hown hverdict
    exact evaluate_denied hrequirements hcandidates hmem (WorkMeter.room_of_charges hown) hverdict hroom

end Retained

end ObservationStage

section Sample

local instance sampleChainCbor : Cbor := rfc8949

local instance sampleChainSha256 : Sha256 :=
  ⟨fun bytes => ⟨Sha2.sha256 bytes, Sha2.sha256_length bytes⟩⟩

def sampleWatcher : PrincipalId := ⟨"raw:watcher", by decide, by decide⟩

/-- An observation by someone outside the chain of the sample grants. -/
theorem sampleWatched_facts_nonempty : ([⟨sampleId, .uint 7⟩] : List ObservationFact) ≠ [] := by
  decide

theorem sampleWatched_facts_bounded :
    ([⟨sampleId, .uint 7⟩] : List ObservationFact).length ≤ maxObservationFacts := by decide

theorem sampleWatched_facts_sorted :
    ([⟨sampleId, .uint 7⟩] : List ObservationFact).Pairwise fun a b => a.name < b.name :=
  List.pairwise_singleton ..

def sampleWatched : SignedObservation where
  statement := {
    observer := sampleWatcher
    schema := sampleId
    subject := samplePermission.resource
    observedAt := 55
    facts := ⟨[⟨sampleId, .uint 7⟩], sampleWatched_facts_nonempty, sampleWatched_facts_bounded,
      sampleWatched_facts_sorted⟩ }
  signature := sampleSignature
  evidence := [sampleEvidence 7 sampleSize_lt]
  bounded := Nat.le_of_ble_eq_true rfl
  sorted := List.pairwise_singleton _ _

/-- The fact lies in one range. -/
def looseObserved : ObservationRequirements :=
  sampleObserved 20 (by decide) [⟨0, 9, by decide⟩] (by decide)

/-- The fact lies in that range and has one value. -/
def tightObserved : ObservationRequirements :=
  sampleObserved 20 (by decide) [⟨0, 9, by decide⟩, ⟨7, 7, by decide⟩] (by decide)

theorem looseObserved_decodes :
    decodeObservationRequirements (encodeObservationRequirements looseObserved) = .ok looseObserved :=
  rfl

theorem tightObserved_decodes :
    decodeObservationRequirements (encodeObservationRequirements tightObserved) = .ok tightObserved :=
  rfl

theorem sampleWatched_decodes :
    decodeSignedObservation (encodeSignedObservation sampleWatched) .defaultDeployment =
      .ok sampleWatched := by
  have hdecoded : (decodeSignedObservation (encodeSignedObservation sampleWatched)
      .defaultDeployment).toOption = some sampleWatched := by
    decide +kernel
  cases h : decodeSignedObservation (encodeSignedObservation sampleWatched) .defaultDeployment with
  | error error =>
    rw [h] at hdecoded
    cases hdecoded
  | ok found =>
    rw [h] at hdecoded
    exact congrArg Except.ok (Option.some.inj hdecoded)

def observedExtensions (requirements : ObservationRequirements)
    (h : (encodeObservationRequirements requirements).length ≤ hardMaxExtensionBytes) :
    CriticalExtensions where
  entries := [⟨observationRequirementExtensionV1, encodeObservationRequirements requirements, h⟩]
  bounded := Nat.le_of_ble_eq_true rfl
  sorted := List.pairwise_singleton ..

theorem looseObserved_size :
    (encodeObservationRequirements looseObserved).length ≤ hardMaxExtensionBytes := by
  decide +kernel

theorem tightObserved_size :
    (encodeObservationRequirements tightObserved).length ≤ hardMaxExtensionBytes := by
  decide +kernel

def looseGrant : SignedGrant where
  statement := { sampleGrant with extensions := observedExtensions looseObserved looseObserved_size }
  signature := sampleSignature

def tightGrant : SignedGrant where
  statement := { sampleGrant with extensions := observedExtensions tightObserved tightObserved_size }
  signature := sampleSignature

/-- A grant back to the root, with the tighter requirement. -/
def observedChild (parent : SignedGrant) : SignedGrant where
  statement := { tightGrant.statement with
    issuer := sampleAgent
    subject := sampleRoot
    remainingDepth := 0
    parent := some (grantId parent.statement) }
  signature := sampleSignature

def sampleControl (grant : SignedGrant) : VerifiedControl where
  statement := .grant (grantId grant.statement)
  principal := grant.statement.issuer
  result := (ControlEvidence.new [7] [] [.zero] sampleId 1 1).mapError fun _ => exhausted

/-- The branch of a grant and its child, with the observation attached to the action. -/
def observedBranch (parent : SignedGrant) : BranchInput where
  controls := [parent, observedChild parent].map sampleControl
  action := {
    envelope := {
      sampleAction sampleRoot (some (grantId (observedChild parent).statement))
        (some (sampleBudget 4)) with
      attachments := [{
        digest := .filled 5
        mediaType := ⟨observationMediaType, by decide +kernel⟩
        byteLength := UInt64.ofNat (encodeSignedObservation sampleWatched).length
        disposition := sampleId
        confidentiality := .plain
        presence := .required
        opacity := .mustBeInspectable }] }
    signature := sampleSignature }
  actionId := .zero
  chain := [parent, observedChild parent]
  rootControl := (sampleRoot, ⟨[7], [], [.zero], sampleId, 1, 1, none, sampleKey_nonempty,
    by decide, List.pairwise_singleton _ _, by decide⟩)
  canonical := { sampleCanonical with
    detachedAttachments := [{
      digest := .filled 5
      bytes := encodeSignedObservation sampleWatched
      nonempty := by decide +kernel
      bounded := by decide +kernel }]
    attachmentsBounded := Nat.le_of_ble_eq_true rfl
    attachmentBytesBounded := by decide +kernel
    attachmentsSorted := List.pairwise_singleton _ _ }
  context := { sampleDeploymentParts [sampleRootAnchor .expiryOnly] sampleNoStatus with
    acceptedRegistries := { sampleSelection with
      criticalExtensions :=
        ⟨[observationRequirementExtensionV1], by decide, List.pairwise_singleton _ _⟩ }
    observerAnchors := [{ sampleObserver with principal := sampleWatcher }] }
  registries := sampleImplementations []

def observedStage (parent : SignedGrant) : ObservationStage :=
  (observedBranch parent).observationStage (sampleRootAnchor .expiryOnly)

def looseRequirement : ObservationRequirement := looseObserved.items.head looseObserved.nonempty

def tightRequirement : ObservationRequirement := tightObserved.items.head tightObserved.nonempty

theorem carries_observed {grant : SignedGrant} {requirements : ObservationRequirements}
    {h : (encodeObservationRequirements requirements).length ≤ hardMaxExtensionBytes}
    (hgrant : grant.statement.extensions = observedExtensions requirements h)
    (hdecodes : decodeObservationRequirements (encodeObservationRequirements requirements) =
      .ok requirements) (r : ObservationRequirement) : grant.Carries r ↔ r ∈ requirements.items := by
  simp [SignedGrant.Carries, hgrant, observedExtensions, hdecodes]

theorem looseGrant_strengthened :
    ObservationStage.Strengthened looseGrant tightGrant looseRequirement tightRequirement where
  issuer := rfl
  subject := rfl
  readable := by
    intro extension hmem _
    obtain rfl := List.mem_singleton.mp hmem
    exact ⟨looseObserved, looseObserved_decodes⟩
  carries := (carries_observed rfl looseObserved_decodes _).mpr (List.head_mem _)
  conditioned := ⟨rfl, rfl, rfl, rfl, (List.nil_sublist _).cons_cons _⟩
  replaced r := by
    have hloose : looseGrant.Carries r ↔ r ∈ [looseRequirement] :=
      carries_observed rfl looseObserved_decodes r
    have htight : tightGrant.Carries r ↔ r ∈ [tightRequirement] :=
      carries_observed rfl tightObserved_decodes r
    rw [hloose, htight]
    rw [List.mem_singleton, List.mem_singleton]
    exact ⟨Or.inl, fun h => h.resolve_right fun ⟨h, hne⟩ => hne h⟩

theorem observedStage_candidates (parent : SignedGrant) :
    (observedStage parent).candidates = .ok [⟨.filled 5, sampleWatched, none⟩] := by
  have hread : (observedStage parent).candidatesFrom
      (observedStage parent).action.envelope.attachments = .ok [⟨.filled 5, sampleWatched, none⟩] := by
    change ((decodeSignedObservation (encodeSignedObservation sampleWatched)
      .defaultDeployment).mapError limitOrMalformed >>= _) = _
    rw [sampleWatched_decodes]
    rfl
  rw [ObservationStage.candidates, hread]
  rfl

theorem looseGrant_requirements : chainObservationRequirements (observedStage looseGrant).chain =
    .ok [looseRequirement, tightRequirement] :=
  rfl

theorem tightGrant_requirements : chainObservationRequirements (observedStage tightGrant).chain =
    .ok [tightRequirement] :=
  rfl

/-- The walk of the chain of a branch, on a meter of `limit`. -/
def delegated (parent : SignedGrant) (limit : UInt64) :
    Except VerificationFailure (List ParticipantAssurance) × WorkMeter :=
  (observedBranch parent).delegateChain (sampleRootAnchor .expiryOnly) [] (WorkMeter.new limit)

theorem looseGrant_delegated : (delegated looseGrant 365).1.toBool = true ∧
    (delegated looseGrant 365).2 = ⟨286, 365⟩ := by
  decide +kernel

theorem tightGrant_delegated : (delegated tightGrant 365).1.toBool = true ∧
    (delegated tightGrant 365).2 = ⟨316, 365⟩ := by
  decide +kernel

/-- A condition added to the parent makes two requirements one: the delegation is accepted with and
without it, and only with it the stage stays within its limit. -/
theorem evaluate_merged :
    ObservationStage.Strengthened looseGrant tightGrant looseRequirement tightRequirement ∧
      (delegated looseGrant 365).1.toBool = true ∧ (delegated tightGrant 365).1.toBool = true ∧
      ((observedStage looseGrant).evaluate (delegated looseGrant 365).2).1 = .error exhausted ∧
      ((observedStage tightGrant).evaluate (delegated tightGrant 365).2).1.toBool = true := by
  refine ⟨looseGrant_strengthened, looseGrant_delegated.1, tightGrant_delegated.1, ?_, ?_⟩
  · rw [looseGrant_delegated.2, ObservationStage.evaluate_eq looseGrant_requirements
      (List.cons_ne_nil _ _) rfl (observedStage_candidates _)]
    decide +kernel
  · rw [tightGrant_delegated.2, ObservationStage.evaluate_eq tightGrant_requirements
      (List.cons_ne_nil _ _) rfl (observedStage_candidates _)]
    decide +kernel

/-- The tighter chain succeeds on a new meter, with the observation recorded for its requirement. -/
theorem evaluate_retains_sample :
    ∃ answered, ((observedStage tightGrant).evaluate (WorkMeter.new 50)).1 = .ok answered ∧
      ∃ satisfaction ∈ answered, (observedStage tightGrant).Records
        [⟨.filled 5, sampleWatched, none⟩] tightRequirement satisfaction := by
  have hmeter : Charges (WorkMeter.new 50) (WorkMeter.new 50) := refl_of Charges _
  have hanswers : ((observedStage tightGrant).evaluate (WorkMeter.new 50)).1.toBool = true := by
    rw [ObservationStage.evaluate_eq tightGrant_requirements (List.cons_ne_nil _ _) rfl
      (observedStage_candidates _)]
    decide +kernel
  cases hrun : ((observedStage tightGrant).evaluate (WorkMeter.new 50)).1 with
  | error failure =>
    rw [hrun] at hanswers
    cases hanswers
  | ok answered =>
    obtain ⟨requirements, -, hkept⟩ :=
      (ObservationStage.evaluate_retains (observedStage tightGrant) hmeter).1 answered hrun
    have hcarries : tightGrant.Carries tightRequirement :=
      (carries_observed rfl tightObserved_decodes _).mpr (List.head_mem _)
    obtain ⟨-, candidates, hcandidates, hrecorded⟩ := hkept tightGrant List.mem_cons_self _ hcarries
    obtain rfl := Except.ok.inj ((observedStage_candidates tightGrant).symm.trans hcandidates)
    exact ⟨answered, rfl, hrecorded⟩

end Sample

end AuthsProof
