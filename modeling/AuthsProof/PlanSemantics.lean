import AuthsProof.Composition

/-! The evaluator of authorization plans computes the threshold semantics, which forgets the order of
members and the spelling of thresholds and is monotone in what is known about the leaves. -/

namespace AuthsProof

open Sorting Threshold

def authorizedCount (outcomes : List BranchOutcome) : Nat :=
  (outcomes.map BranchOutcome.verdict).count .authorized

/-- The tally the member loop ends with. -/
def tallyOf (outcomes : List BranchOutcome) : Tally where
  authorized := authorizedCount outcomes
  denied := outcomes.filterMap BranchOutcome.denial
  indeterminate := outcomes.filterMap BranchOutcome.requirement

theorem foldl_record (outcomes : List BranchOutcome) (tally : Tally) :
    outcomes.foldl Tally.record tally =
      ⟨tally.authorized + (tallyOf outcomes).authorized, tally.denied ++ (tallyOf outcomes).denied,
        tally.indeterminate ++ (tallyOf outcomes).indeterminate⟩ := by
  induction outcomes generalizing tally with
  | nil => simp [tallyOf, authorizedCount]
  | cons outcome outcomes ih =>
    rw [List.foldl_cons, ih]
    cases outcome <;>
      simp [tallyOf, authorizedCount, Tally.record, BranchOutcome.verdict, BranchOutcome.denial,
        BranchOutcome.requirement, List.filterMap_cons, Nat.add_assoc, Nat.add_comm 1]

theorem count_indeterminate (outcomes : List BranchOutcome) :
    (outcomes.map BranchOutcome.verdict).count .indeterminate =
      (outcomes.filterMap BranchOutcome.requirement).length := by
  induction outcomes with
  | nil => rfl
  | cons outcome outcomes ih =>
    cases outcome <;> simp [BranchOutcome.verdict, BranchOutcome.requirement, List.filterMap_cons, ih]

theorem count_denied (outcomes : List BranchOutcome) :
    (outcomes.map BranchOutcome.verdict).count .denied =
      (outcomes.filterMap BranchOutcome.denial).length := by
  induction outcomes with
  | nil => rfl
  | cons outcome outcomes ih =>
    cases outcome <;> simp [BranchOutcome.verdict, BranchOutcome.denial, List.filterMap_cons, ih]

/-- Authorized, undecided and denied members make up the whole member list. -/
theorem tallyOf_total (outcomes : List BranchOutcome) :
    (tallyOf outcomes).authorized + (tallyOf outcomes).indeterminate.length +
      (tallyOf outcomes).denied.length = outcomes.length := by
  have htotal := count_truths (outcomes.map BranchOutcome.verdict)
  rw [count_indeterminate, count_denied, List.length_map] at htotal
  exact htotal

theorem threshold_tallyOf (k : Nat) (outcomes : List BranchOutcome) :
    threshold k (outcomes.map BranchOutcome.verdict) =
      if k ≤ (tallyOf outcomes).authorized then .authorized
      else if k ≤ (tallyOf outcomes).authorized + (tallyOf outcomes).indeterminate.length then
        .indeterminate
      else .denied := by
  rw [threshold, count_indeterminate]
  rfl

theorem minByKey_isSome {α β : Type} [LinearOrder β] (key : α → β) {xs : List α}
    (h : 0 < xs.length) : ∃ m, minByKey key xs = some m := by
  cases hm : minByKey key xs with
  | none => simp [minByKey_eq_none_iff.mp hm] at h
  | some m => exact ⟨m, rfl⟩

theorem thresholdOutcome_allOf (outcomes : List BranchOutcome) :
    thresholdOutcome outcomes.length outcomes = some (allOfOutcome (tallyOf outcomes)) := by
  have htotal := tallyOf_total outcomes
  rw [thresholdOutcome, threshold_tallyOf, allOfOutcome, canonicalDenial, canonicalRequirement]
  by_cases hdenied : 0 < (tallyOf outcomes).denied.length
  · obtain ⟨reason, hreason⟩ := minByKey_isSome DenialReason.code hdenied
    rw [if_neg (by omega), if_neg (by omega), hreason]
    simp only [tallyOf] at hreason
    simp [hreason]
  · have hnone : (tallyOf outcomes).denied = [] := List.length_eq_zero_iff.mp (by omega)
    rw [hnone]
    by_cases hopen : 0 < (tallyOf outcomes).indeterminate.length
    · obtain ⟨requirement, hrequirement⟩ := minByKey_isSome Requirement.code hopen
      rw [if_neg (by omega), if_pos (by omega), hrequirement]
      simp only [tallyOf] at hrequirement
      simp [hrequirement, minByKey]
    · have hempty : (tallyOf outcomes).indeterminate = [] := List.length_eq_zero_iff.mp (by omega)
      rw [if_pos (by omega), hempty]
      simp [minByKey]

theorem thresholdOutcome_anyOf {outcomes : List BranchOutcome} (hne : outcomes ≠ []) :
    thresholdOutcome 1 outcomes = some (anyOfOutcome (tallyOf outcomes)) := by
  have htotal := tallyOf_total outcomes
  have hpos : 0 < outcomes.length := List.length_pos_iff.mpr hne
  rw [thresholdOutcome, threshold_tallyOf, anyOfOutcome, canonicalDenial, canonicalRequirement]
  by_cases hauth : 0 < (tallyOf outcomes).authorized
  · rw [if_pos (by omega), if_pos hauth]
  · by_cases hopen : 0 < (tallyOf outcomes).indeterminate.length
    · obtain ⟨requirement, hrequirement⟩ := minByKey_isSome Requirement.code hopen
      rw [if_neg (by omega), if_pos (by omega), if_neg hauth, hrequirement]
      simp only [tallyOf] at hrequirement
      simp [hrequirement]
    · have hempty : (tallyOf outcomes).indeterminate = [] := List.length_eq_zero_iff.mp (by omega)
      obtain ⟨reason, hreason⟩ := minByKey_isSome DenialReason.code
        (show 0 < (tallyOf outcomes).denied.length by omega)
      rw [if_neg (by omega), if_neg (by omega), if_neg hauth, hempty, hreason]
      simp only [tallyOf] at hreason
      simp [hreason, minByKey]

theorem thresholdCounts_eq (k : UInt16) (authorized indeterminate : Nat) :
    thresholdCounts k authorized indeterminate =
      if k.toNat ≤ authorized then .authorized
      else if k.toNat ≤ authorized + indeterminate then .indeterminate
      else .denied := by
  have hk : k.toNat ≤ usizeMax := by
    have hlt := k.toNat_lt
    simp only [usizeMax]
    omega
  simp [thresholdCounts, hk]

theorem thresholdOutcome_kOfN {k : UInt16} {outcomes : List BranchOutcome}
    (hle : k.toNat ≤ outcomes.length) :
    thresholdOutcome k.toNat outcomes = some (kOfNOutcome k (tallyOf outcomes)) := by
  have htotal := tallyOf_total outcomes
  rw [thresholdOutcome, threshold_tallyOf, kOfNOutcome, thresholdCounts_eq, canonicalDenial,
    canonicalRequirement]
  by_cases hauth : k.toNat ≤ (tallyOf outcomes).authorized
  · rw [if_pos hauth]
  · by_cases hopen : k.toNat ≤
        (tallyOf outcomes).authorized + (tallyOf outcomes).indeterminate.length
    · obtain ⟨requirement, hrequirement⟩ := minByKey_isSome Requirement.code
        (show 0 < (tallyOf outcomes).indeterminate.length by omega)
      rw [if_neg hauth, if_pos hopen, hrequirement]
      simp only [tallyOf] at hrequirement
      simp [hrequirement]
    · obtain ⟨reason, hreason⟩ := minByKey_isSome DenialReason.code
        (show 0 < (tallyOf outcomes).denied.length by omega)
      rw [if_neg hauth, if_neg hopen, hreason]
      simp only [tallyOf] at hreason
      simp [hreason]

section Evaluator

variable {σ : Type} {f : ProofRef → BranchOutcome} {branch : ProofRef → σ → BranchOutcome × σ}
  {observer : EvaluationEvent → σ → σ}

mutual

theorem evaluateNode_semantics (hbranch : ∀ r s, (branch r s).1 = f r) : ∀ {plan : AuthorizationPlan} (_ : plan.Shaped) (s : σ),
    planSemantics f plan = some (evaluateNode branch observer plan s).1
  | .proof reference, _, s => by
    simp [planSemantics, evaluateNode, hbranch]
  | .allOf members, h, s => by
    obtain ⟨outcomes, hsem, hlen, htally⟩ := evaluateMembers_semantics hbranch h.2 {} s
    show _ = some (allOfOutcome (evaluateMembers branch observer members {} s).1)
    rw [planSemantics, hsem, Option.bind_some, ← hlen, thresholdOutcome_allOf, htally, foldl_record]
    simp
  | .anyOf members, h, s => by
    obtain ⟨outcomes, hsem, hlen, htally⟩ := evaluateMembers_semantics hbranch h.2 {} s
    have hne : outcomes ≠ [] := by
      rintro rfl
      exact h.1 (List.length_eq_zero_iff.mp hlen.symm)
    show _ = some (anyOfOutcome (evaluateMembers branch observer members {} s).1)
    rw [planSemantics, hsem, Option.bind_some, thresholdOutcome_anyOf hne, htally, foldl_record]
    simp
  | .kOfN k members, h, s => by
    obtain ⟨outcomes, hsem, hlen, htally⟩ := evaluateMembers_semantics hbranch h.2.2 {} s
    show _ = some (kOfNOutcome k (evaluateMembers branch observer members {} s).1)
    rw [planSemantics, hsem, Option.bind_some, thresholdOutcome_kOfN (hlen ▸ h.2.1), htally,
      foldl_record]
    simp

theorem evaluateMembers_semantics (hbranch : ∀ r s, (branch r s).1 = f r) :
    ∀ {members : List AuthorizationPlan} (_ : AuthorizationPlan.MembersShaped members)
      (tally : Tally) (s : σ), ∃ outcomes, memberSemantics f members = some outcomes ∧
        outcomes.length = members.length ∧
        (evaluateMembers branch observer members tally s).1 = outcomes.foldl Tally.record tally
  | [], _, tally, s => ⟨[], rfl, rfl, rfl⟩
  | member :: members, h, tally, s => by
    have hmember := evaluateNode_semantics hbranch h.1 s
    obtain ⟨outcomes, hsem, hlen, htally⟩ := evaluateMembers_semantics hbranch h.2
      (tally.record (evaluateNode branch observer member s).1)
      (evaluateNode branch observer member s).2
    refine ⟨(evaluateNode branch observer member s).1 :: outcomes, ?_, by simp [hlen], ?_⟩
    · simp [memberSemantics, hmember, hsem]
    · rw [evaluateMembers, List.foldl_cons, ← htally]

end

end Evaluator

section Relational

variable {σ τ : Type} {R : σ → τ → Prop} {b : ProofRef → σ → BranchOutcome × σ}
  {c : ProofRef → τ → BranchOutcome × τ} {o : EvaluationEvent → σ → σ} {p : EvaluationEvent → τ → τ}

/-- The leaf functions `b` and `c` answer alike on related states and keep them related. -/
def LeavesRelated (R : σ → τ → Prop) (b : ProofRef → σ → BranchOutcome × σ)
    (c : ProofRef → τ → BranchOutcome × τ) (references : List ProofRef) : Prop :=
  ∀ r ∈ references, ∀ s t, R s t → (b r s).1 = (c r t).1 ∧ R (b r s).2 (c r t).2

theorem LeavesRelated.mono {xs ys : List ProofRef} (h : LeavesRelated R b c ys) (hsub : xs ⊆ ys) :
    LeavesRelated R b c xs :=
  fun r hr => h r (hsub hr)

mutual

theorem evaluateNode_related (ho : ∀ e s t, R s t → R (o e s) (p e t)) :
    ∀ (plan : AuthorizationPlan), LeavesRelated R b c plan.references → ∀ s t, R s t →
      (evaluateNode b o plan s).1 = (evaluateNode c p plan t).1 ∧
        R (evaluateNode b o plan s).2 (evaluateNode c p plan t).2
  | .proof r, h, s, t, hst => by
    obtain ⟨houtcome, hstate⟩ := h r (by simp [AuthorizationPlan.references]) s t hst
    simp only [evaluateNode, houtcome, true_and]
    exact ho _ _ _ hstate
  | .allOf members, h, s, t, hst => by
    obtain ⟨htally, hstate⟩ := evaluateMembers_related ho members h {} s t hst
    simp only [evaluateNode, htally, true_and]
    exact ho _ _ _ hstate
  | .anyOf members, h, s, t, hst => by
    obtain ⟨htally, hstate⟩ := evaluateMembers_related ho members h {} s t hst
    simp only [evaluateNode, htally, true_and]
    exact ho _ _ _ hstate
  | .kOfN k members, h, s, t, hst => by
    obtain ⟨htally, hstate⟩ := evaluateMembers_related ho members h {} s t hst
    simp only [evaluateNode, htally, true_and]
    exact ho _ _ _ hstate

theorem evaluateMembers_related (ho : ∀ e s t, R s t → R (o e s) (p e t)) :
    ∀ (members : List AuthorizationPlan),
      LeavesRelated R b c (AuthorizationPlan.memberReferences members) →
      ∀ (tally : Tally) s t, R s t →
        (evaluateMembers b o members tally s).1 = (evaluateMembers c p members tally t).1 ∧
          R (evaluateMembers b o members tally s).2 (evaluateMembers c p members tally t).2
  | [], _, _, _, _, hst => ⟨rfl, hst⟩
  | member :: members, h, tally, s, t, hst => by
    rw [AuthorizationPlan.memberReferences] at h
    have hhead := h.mono (List.subset_append_left _ _)
    have htail := h.mono (List.subset_append_right _ _)
    obtain ⟨houtcome, hstate⟩ := evaluateNode_related ho member hhead s t hst
    have hrest := evaluateMembers_related ho members htail (tally.record (evaluateNode b o member s).1)
      _ _ hstate
    simpa only [evaluateMembers, houtcome] using hrest

end

/-- Plan evaluation keeps every relation that its leaves and its observer keep. -/
theorem evaluateObserved_related (plan : AuthorizationPlan) (limits : VerifierLimits)
    (h : LeavesRelated R b c plan.references) (ho : ∀ e s t, R s t → R (o e s) (p e t)) {s : σ} {t : τ}
    (hst : R s t) :
    (evaluateObserved b o plan limits s).1 = (evaluateObserved c p plan limits t).1 ∧
      R (evaluateObserved b o plan limits s).2 (evaluateObserved c p plan limits t).2 := by
  unfold evaluateObserved
  cases plan.validate limits with
  | error _ => exact ⟨rfl, hst⟩
  | ok shape =>
    obtain ⟨houtcome, hstate⟩ := evaluateNode_related ho plan h s t hst
    exact ⟨congrArg Except.ok houtcome, hstate⟩

end Relational

/-- A leaf function that also writes down every reference it is asked for. -/
def recordVisit (f : ProofRef → BranchOutcome) (reference : ProofRef) (visited : List ProofRef) :
    BranchOutcome × List ProofRef :=
  (f reference, visited ++ [reference])

mutual

theorem evaluateNode_visits (f : ProofRef → BranchOutcome) :
    ∀ (plan : AuthorizationPlan) (visited : List ProofRef),
      (evaluateNode (recordVisit f) (fun _ s => s) plan visited).2 = visited ++ plan.references
  | .proof _, _ => rfl
  | .allOf members, visited => evaluateMembers_visits f members {} visited
  | .anyOf members, visited => evaluateMembers_visits f members {} visited
  | .kOfN _ members, visited => evaluateMembers_visits f members {} visited

theorem evaluateMembers_visits (f : ProofRef → BranchOutcome) :
    ∀ (members : List AuthorizationPlan) (tally : Tally) (visited : List ProofRef),
      (evaluateMembers (recordVisit f) (fun _ s => s) members tally visited).2 =
        visited ++ AuthorizationPlan.memberReferences members
  | [], tally, visited => by simp [evaluateMembers, AuthorizationPlan.memberReferences]
  | member :: members, tally, visited => by
    rw [evaluateMembers, evaluateMembers_visits f members, evaluateNode_visits f member,
      AuthorizationPlan.memberReferences, List.append_assoc]

end

theorem evaluate_of_validate {plan : AuthorizationPlan} {limits : VerifierLimits}
    {shape : AuthorizationPlan.PlanShape} (h : plan.validate limits = .ok shape)
    (f : ProofRef → BranchOutcome) :
    ∃ outcome, planSemantics f plan = some outcome ∧
      evaluate (recordVisit f) plan limits [] = (.ok outcome, plan.references) := by
  have hshaped := (AuthorizationPlan.validate_ok h).1
  refine ⟨(evaluateNode (recordVisit f) (fun _ s => s) plan []).1,
    evaluateNode_semantics (f := f) (fun _ _ => rfl) hshaped [], ?_⟩
  simp [evaluate, evaluateObserved, h, evaluateNode_visits]

/-- Plans with the same members in another order, or a threshold of all or of one spelled as a
conjunction or a disjunction, at any level. -/
inductive Respelled : AuthorizationPlan → AuthorizationPlan → Prop where
  | refl (p : AuthorizationPlan) : Respelled p p
  | symm {p q : AuthorizationPlan} : Respelled p q → Respelled q p
  | trans {p q r : AuthorizationPlan} : Respelled p q → Respelled q r → Respelled p r
  | permAllOf {ms ns : List AuthorizationPlan} : ms.Perm ns → Respelled (.allOf ms) (.allOf ns)
  | permAnyOf {ms ns : List AuthorizationPlan} : ms.Perm ns → Respelled (.anyOf ms) (.anyOf ns)
  | permKOfN (k : UInt16) {ms ns : List AuthorizationPlan} :
      ms.Perm ns → Respelled (.kOfN k ms) (.kOfN k ns)
  | memberAllOf {p q : AuthorizationPlan} (ms ns : List AuthorizationPlan) :
      Respelled p q → Respelled (.allOf (ms ++ p :: ns)) (.allOf (ms ++ q :: ns))
  | memberAnyOf {p q : AuthorizationPlan} (ms ns : List AuthorizationPlan) :
      Respelled p q → Respelled (.anyOf (ms ++ p :: ns)) (.anyOf (ms ++ q :: ns))
  | memberKOfN (k : UInt16) {p q : AuthorizationPlan} (ms ns : List AuthorizationPlan) :
      Respelled p q → Respelled (.kOfN k (ms ++ p :: ns)) (.kOfN k (ms ++ q :: ns))
  | nOfN {k : UInt16} {ms : List AuthorizationPlan} :
      k.toNat = ms.length → Respelled (.kOfN k ms) (.allOf ms)
  | oneOfN (ms : List AuthorizationPlan) : Respelled (.kOfN 1 ms) (.anyOf ms)

theorem thresholdOutcome_perm (k : Nat) {os ps : List BranchOutcome} (h : os.Perm ps) :
    thresholdOutcome k os = thresholdOutcome k ps := by
  rw [thresholdOutcome, thresholdOutcome, threshold_perm (h.map _),
    minByKey_perm Requirement.code_injective (h.filterMap _),
    minByKey_perm DenialReason.code_injective (h.filterMap _)]

theorem memberSemantics_perm {f : ProofRef → BranchOutcome} {ms ns : List AuthorizationPlan}
    (h : ms.Perm ns) : ∀ {os : List BranchOutcome}, memberSemantics f ms = some os →
      ∃ ps, memberSemantics f ns = some ps ∧ os.Perm ps := by
  induction h with
  | nil => exact fun h => ⟨_, h, .refl _⟩
  | cons m _ ih =>
    intro os hos
    simp only [memberSemantics] at hos ⊢
    split at hos
    · rename_i o os' hm hms
      obtain rfl := Option.some.inj hos
      obtain ⟨ps, hps, hperm⟩ := ih hms
      exact ⟨o :: ps, by simp [hm, hps], hperm.cons o⟩
    · cases hos
  | swap m n ms =>
    intro os hos
    simp only [memberSemantics] at hos ⊢
    cases hm : planSemantics f m <;> cases hn : planSemantics f n <;>
      cases hms : memberSemantics f ms <;> simp [hm, hn, hms] at hos ⊢
    rw [← hos]
    exact List.Perm.swap _ _ _
  | trans _ _ ih ih' =>
    intro os hos
    obtain ⟨ps, hps, hperm⟩ := ih hos
    obtain ⟨qs, hqs, hperm'⟩ := ih' hps
    exact ⟨qs, hqs, hperm.trans hperm'⟩

theorem memberSemantics_bind_perm {f : ProofRef → BranchOutcome} {ms ns : List AuthorizationPlan}
    (h : ms.Perm ns) (k : Nat) :
    (memberSemantics f ms).bind (thresholdOutcome k) =
      (memberSemantics f ns).bind (thresholdOutcome k) := by
  cases hms : memberSemantics f ms with
  | some os =>
    obtain ⟨ps, hps, hperm⟩ := memberSemantics_perm h hms
    simp [hps, thresholdOutcome_perm k hperm]
  | none =>
    cases hns : memberSemantics f ns with
    | none => rfl
    | some ps =>
      obtain ⟨os, hos, _⟩ := memberSemantics_perm h.symm hns
      rw [hms] at hos
      cases hos

theorem memberSemantics_congr {f : ProofRef → BranchOutcome} {p q : AuthorizationPlan}
    (h : planSemantics f p = planSemantics f q) (ms ns : List AuthorizationPlan) :
    memberSemantics f (ms ++ p :: ns) = memberSemantics f (ms ++ q :: ns) := by
  induction ms with
  | nil => simp [memberSemantics, h]
  | cons m ms ih => simp [memberSemantics, ih]

theorem planSemantics_respelled (f : ProofRef → BranchOutcome) {p q : AuthorizationPlan}
    (h : Respelled p q) : planSemantics f p = planSemantics f q := by
  induction h with
  | refl => rfl
  | symm _ ih => exact ih.symm
  | trans _ _ ih ih' => exact ih.trans ih'
  | permAllOf h =>
    simp only [planSemantics, h.length_eq]
    exact memberSemantics_bind_perm h _
  | permAnyOf h =>
    simp only [planSemantics]
    exact memberSemantics_bind_perm h _
  | permKOfN k h =>
    simp only [planSemantics]
    exact memberSemantics_bind_perm h _
  | memberAllOf ms ns _ ih => simp [planSemantics, memberSemantics_congr ih ms ns]
  | memberAnyOf ms ns _ ih => simp [planSemantics, memberSemantics_congr ih ms ns]
  | memberKOfN k ms ns _ ih => simp [planSemantics, memberSemantics_congr ih ms ns]
  | nOfN h => simp [planSemantics, h]
  | oneOfN ms => simp [planSemantics]

/-- Evaluation visits every reference of a validated plan once and returns its threshold semantics,
whatever the order of members and however its thresholds are spelled. -/
theorem evaluate_eq_planSemantics {plan : AuthorizationPlan} {limits : VerifierLimits}
    {shape : AuthorizationPlan.PlanShape} (h : plan.validate limits = .ok shape)
    (f : ProofRef → BranchOutcome) :
    ∃ outcome,
      evaluate (recordVisit f) plan limits [] = (.ok outcome, plan.references) ∧
      plan.references.Nodup ∧ shape.leaves.Perm plan.references ∧
      planSemantics f plan = some outcome ∧
      ∀ other limits' shape', Respelled plan other → other.validate limits' = .ok shape' →
        (evaluate (recordVisit f) other limits' []).1 = .ok outcome := by
  obtain ⟨outcome, hsem, heval⟩ := evaluate_of_validate h f
  obtain ⟨_, hnodup, hleaves⟩ := AuthorizationPlan.validate_ok h
  refine ⟨outcome, heval, hnodup, hleaves ▸ sortByKey_perm id _, hsem, ?_⟩
  intro other limits' shape' hrespelled hother
  obtain ⟨outcome', hsem', heval'⟩ := evaluate_of_validate hother f
  have hsame : outcome' = outcome := by
    rw [planSemantics_respelled f hrespelled, hsem'] at hsem
    exact Option.some.inj hsem
  rw [heval', hsame]

/-- Two of three proofs, the middle one of them a conjunction of two. -/
def twoOfThree : AuthorizationPlan :=
  .kOfN 2 [.proof (.filled 1), .allOf [.proof (.filled 2), .proof (.filled 3)], .proof (.filled 4)]

def twoOfThreeLeaf (reference : ProofRef) : BranchOutcome :=
  if reference = .filled 2 then .indeterminate .staleStatus
  else if reference = .filled 4 then .structurallyInvalid .missingReference
  else .authorized

theorem evaluate_twoOfThree :
    ∃ outcome, evaluate (recordVisit twoOfThreeLeaf) twoOfThree .hard [] =
        (.ok outcome, [.filled 1, .filled 2, .filled 3, .filled 4]) ∧
      planSemantics twoOfThreeLeaf twoOfThree = some outcome := by
  obtain ⟨outcome, heval, -, -, hsem, -⟩ :=
    @evaluate_eq_planSemantics twoOfThree .hard _ rfl twoOfThreeLeaf
  exact ⟨outcome, heval, hsem⟩

theorem verdict_thresholdOutcome {k : Nat} {outcomes : List BranchOutcome} {outcome : BranchOutcome}
    (h : thresholdOutcome k outcomes = some outcome) :
    outcome.verdict = threshold k (outcomes.map BranchOutcome.verdict) := by
  rw [thresholdOutcome] at h
  split at h
  · rename_i hthreshold
    obtain rfl := Option.some.inj h
    exact hthreshold.symm
  · rename_i hthreshold
    obtain ⟨requirement, -, rfl⟩ := Option.map_eq_some_iff.mp h
    exact hthreshold.symm
  · rename_i hthreshold
    obtain ⟨reason, -, rfl⟩ := Option.map_eq_some_iff.mp h
    exact hthreshold.symm

section Monotone

variable {R : Truth → Truth → Prop}
  (hR : ∀ k {vs ws : List Truth}, List.Forall₂ R vs ws → R (threshold k vs) (threshold k ws))
  {f g : ProofRef → BranchOutcome}

include hR in
theorem thresholdOutcome_related {k : Nat} {os ps : Option (List BranchOutcome)}
    {o p : BranchOutcome} (ho : os.bind (thresholdOutcome k) = some o)
    (hp : ps.bind (thresholdOutcome k) = some p)
    (h : ∀ os' ps', os = some os' → ps = some ps' →
      List.Forall₂ R (os'.map BranchOutcome.verdict) (ps'.map BranchOutcome.verdict)) :
    R o.verdict p.verdict := by
  obtain ⟨os', hos, ho⟩ := Option.bind_eq_some_iff.mp ho
  obtain ⟨ps', hps, hp⟩ := Option.bind_eq_some_iff.mp hp
  rw [verdict_thresholdOutcome ho, verdict_thresholdOutcome hp]
  exact hR k (h os' ps' hos hps)

mutual

/-- A relation that every threshold preserves carries over from the leaves to the plan. -/
theorem planSemantics_related
    (hR : ∀ k {vs ws : List Truth}, List.Forall₂ R vs ws → R (threshold k vs) (threshold k ws)) :
    ∀ {plan : AuthorizationPlan} {o p : BranchOutcome},
      (∀ r ∈ plan.references, R (f r).verdict (g r).verdict) →
      planSemantics f plan = some o → planSemantics g plan = some p → R o.verdict p.verdict
  | .proof reference, o, p, h, ho, hp => by
    simp only [planSemantics, Option.some.injEq] at ho hp
    rw [← ho, ← hp]
    exact h reference (by simp [AuthorizationPlan.references])
  | .allOf members, o, p, h, ho, hp =>
    thresholdOutcome_related hR ho hp fun _ _ => memberSemantics_related hR h
  | .anyOf members, o, p, h, ho, hp =>
    thresholdOutcome_related hR ho hp fun _ _ => memberSemantics_related hR h
  | .kOfN k members, o, p, h, ho, hp =>
    thresholdOutcome_related hR ho hp fun _ _ => memberSemantics_related hR h

theorem memberSemantics_related
    (hR : ∀ k {vs ws : List Truth}, List.Forall₂ R vs ws → R (threshold k vs) (threshold k ws)) :
    ∀ {members : List AuthorizationPlan} {os ps : List BranchOutcome},
      (∀ r ∈ AuthorizationPlan.memberReferences members, R (f r).verdict (g r).verdict) →
      memberSemantics f members = some os → memberSemantics g members = some ps →
      List.Forall₂ R (os.map BranchOutcome.verdict) (ps.map BranchOutcome.verdict)
  | [], os, ps, h, ho, hp => by
    simp only [memberSemantics, Option.some.injEq] at ho hp
    simp [← ho, ← hp]
  | member :: members, os, ps, h, ho, hp => by
    simp only [AuthorizationPlan.memberReferences, List.mem_append] at h
    simp only [memberSemantics] at ho hp
    split at ho
    · rename_i o os' hm hms
      split at hp
      · rename_i p ps' hn hns
        obtain rfl := Option.some.inj ho
        obtain rfl := Option.some.inj hp
        exact List.Forall₂.cons (planSemantics_related hR (fun r hr => h r (Or.inl hr)) hm hn)
          (memberSemantics_related hR (fun r hr => h r (Or.inr hr)) hms hns)
      · cases hp
    · cases ho

end

end Monotone

theorem planSemantics_denied {f : ProofRef → BranchOutcome} {plan : AuthorizationPlan}
    {outcome : BranchOutcome} (h : planSemantics f plan = some outcome)
    (hleaf : ∀ r, plan = .proof r → ∃ reason, f r = .denied reason)
    (hverdict : outcome.verdict = .denied) : ∃ reason, outcome = .denied reason := by
  have hnode : ∀ k (os : Option (List BranchOutcome)), os.bind (thresholdOutcome k) = some outcome →
      ∃ reason, outcome = .denied reason := by
    intro k os hos
    obtain ⟨outcomes, -, houtcome⟩ := Option.bind_eq_some_iff.mp hos
    rw [thresholdOutcome, ← verdict_thresholdOutcome houtcome, hverdict] at houtcome
    obtain ⟨reason, -, rfl⟩ := Option.map_eq_some_iff.mp houtcome
    exact ⟨reason, rfl⟩
  cases plan with
  | proof r =>
    obtain ⟨reason, hreason⟩ := hleaf r rfl
    simp only [planSemantics, Option.some.injEq] at h
    exact ⟨reason, by rw [← h, hreason]⟩
  | allOf members => exact hnode _ _ h
  | anyOf members => exact hnode _ _ h
  | kOfN k members => exact hnode _ _ h

/-- The outcome of a validated plan under a leaf assignment. -/
def planOutcome (plan : AuthorizationPlan) (limits : VerifierLimits) (f : ProofRef → BranchOutcome) :
    Except DenialReason BranchOutcome :=
  (evaluate (recordVisit f) plan limits []).1

/-- Deciding open leaves keeps a decided plan decided, and raising one leaf never lowers the plan. -/
theorem planOutcome_monotone {plan : AuthorizationPlan} {limits : VerifierLimits}
    {shape : AuthorizationPlan.PlanShape} (h : plan.validate limits = .ok shape)
    (f : ProofRef → BranchOutcome) :
    (∀ g : ProofRef → BranchOutcome,
      (∀ r ∈ plan.references, (∀ requirement, f r ≠ .indeterminate requirement) → g r = f r) →
      (planOutcome plan limits f = .ok .authorized → planOutcome plan limits g = .ok .authorized) ∧
      ((∃ reason, planOutcome plan limits f = .ok (.denied reason)) →
        ∃ reason, planOutcome plan limits g = .ok (.denied reason))) ∧
    ∀ reference outcome, (f reference).verdict ≤ outcome.verdict →
      ∃ before after, planOutcome plan limits f = .ok before ∧
        planOutcome plan limits (Function.update f reference outcome) = .ok after ∧
        before.verdict ≤ after.verdict := by
  obtain ⟨before, hbefore, hf⟩ := evaluate_of_validate h f
  refine ⟨fun g hagree => ?_, fun reference outcome hle => ?_⟩
  · obtain ⟨after, hafter, hg⟩ := evaluate_of_validate h g
    have hleaves : ∀ r ∈ plan.references, Refines (f r).verdict (g r).verdict := by
      intro r hr
      cases hfr : f r with
      | indeterminate requirement => exact Or.inl rfl
      | _ => exact Or.inr (by rw [hagree r hr (by simp [hfr]), hfr])
    have hrefines := planSemantics_related threshold_refines hleaves hbefore hafter
    simp only [planOutcome, hf, hg, Except.ok.injEq]
    refine ⟨?_, ?_⟩
    · rintro rfl
      cases after <;> simp_all [Refines, BranchOutcome.verdict]
    · rintro ⟨reason, rfl⟩
      refine planSemantics_denied hafter (fun r hr => ⟨reason, ?_⟩) ?_
      · subst hr
        simp only [planSemantics, Option.some.injEq] at hbefore
        rw [hagree r (by simp [AuthorizationPlan.references]) (by simp [hbefore]), hbefore]
      · rcases hrefines with hrefines | hrefines
        · cases hrefines
        · exact hrefines.symm
  · obtain ⟨after, hafter, hg⟩ := evaluate_of_validate h (Function.update f reference outcome)
    refine ⟨before, after, by rw [planOutcome, hf], by rw [planOutcome, hg], ?_⟩
    refine planSemantics_related threshold_mono (fun r _ => ?_) hbefore hafter
    by_cases hr : r = reference
    · subst hr
      simpa using hle
    · simp [Function.update_of_ne hr]

theorem planOutcome_twoOfThree :
    ∃ before after, planOutcome twoOfThree .hard twoOfThreeLeaf = .ok before ∧
      planOutcome twoOfThree .hard (Function.update twoOfThreeLeaf (.filled 2) .authorized) =
        .ok after ∧ before.verdict ≤ after.verdict :=
  (@planOutcome_monotone twoOfThree .hard _ rfl twoOfThreeLeaf).2 (.filled 2)
    .authorized (by decide)

end AuthsProof
