import AuthsProof.AssuranceStage

/-! What an assurance policy asks of the participants of a chain: its evaluation succeeds exactly
when every requirement is met by its role, and more claims never refuse what fewer satisfied. -/

namespace AuthsProof

open Sorting

section Meets

variable (implies : AssuranceClaim → AssuranceClaimId → Bool) (evaluationTime : Timestamp)

/-- A claim that answers a requirement, made by the participant of `report`. -/
structure ClaimAnswers (requirement : AssuranceRequirement) (report : ParticipantAssurance)
    (claim : AssuranceClaim) : Prop where
  kind : claim.kind = requirement.claimKind ∨ implies claim requirement.claimKind = true
  parameters : ∀ parameter ∈ requirement.parameters.entries, parameter ∈ claim.parameters.entries
  source : ∀ source, requirement.source = some source → claim.source = source
  adapter : ∀ adapter, requirement.adapter = some adapter → report.adapter = adapter
  version : ∀ version, requirement.adapterVersion = some version → report.adapterVersion = version
  age : ∀ maximumAge, requirement.maximumAge = some maximumAge → ∃ observedAt,
    claim.observedAt = some observedAt ∧ observedAt ≤ evaluationTime ∧
      evaluationTime.toNat - observedAt.toNat ≤ maximumAge.seconds.toNat

/-- A participant one of whose claims answers the requirement. -/
def MeetsRequirement (requirement : AssuranceRequirement) (report : ParticipantAssurance) : Prop :=
  ∃ claim ∈ report.claims.items, ClaimAnswers implies evaluationTime requirement report claim

/-- The participants of the requirement's role meet it as its quantifier asks. -/
def RoleMeets (reports : List ParticipantAssurance) (requirement : AssuranceRequirement) : Prop :=
  match requirement.quantifier with
  | .any => ∃ report ∈ reports, report.role = requirement.role ∧
      MeetsRequirement implies evaluationTime requirement report
  | .every => (∃ report ∈ reports, report.role = requirement.role) ∧
      ∀ report ∈ reports, report.role = requirement.role →
        MeetsRequirement implies evaluationTime requirement report

variable {implies evaluationTime}

theorem all_some_iff {α : Type} {p : α → Prop} [DecidablePred p] {value : Option α} :
    (value.all fun x => decide (p x)) = true ↔ ∀ x, value = some x → p x := by
  cases value <;> simp

/-- The age check, which no undated claim passes. -/
theorem ageMet_iff {maximumAge : Option FreshnessLimit} {observed : Option Timestamp} :
    (maximumAge.all fun maximumAge => observed.any fun observedAt =>
        observedAt ≤ evaluationTime && evaluationTime - observedAt ≤ maximumAge.seconds) = true ↔
      ∀ limit, maximumAge = some limit → ∃ observedAt, observed = some observedAt ∧
        observedAt ≤ evaluationTime ∧
          evaluationTime.toNat - observedAt.toNat ≤ limit.seconds.toNat := by
  cases maximumAge with
  | none => simp
  | some limit =>
    cases observed with
    | none => simp
    | some observedAt =>
      by_cases hpast : observedAt ≤ evaluationTime
      · have hsub : (evaluationTime - observedAt).toNat =
            evaluationTime.toNat - observedAt.toNat := UInt64.toNat_sub_of_le _ _ hpast
        simp [UInt64.le_iff_toNat_le, hsub]
      · simp [hpast]

theorem claimMeets_iff {requirement : AssuranceRequirement} {report : ParticipantAssurance}
    {claim : AssuranceClaim} :
    claimMeets implies evaluationTime requirement report claim = true ↔
      ClaimAnswers implies evaluationTime requirement report claim := by
  rw [claimMeets]
  simp only [Bool.and_eq_true, Bool.or_eq_true, decide_eq_true_eq, List.all_eq_true, all_some_iff,
    ageMet_iff]
  exact ⟨fun ⟨⟨⟨⟨⟨hkind, hparameters⟩, hsource⟩, hadapter⟩, hversion⟩, hage⟩ =>
      ⟨hkind, hparameters, hsource, hadapter, hversion, hage⟩,
    fun h => ⟨⟨⟨⟨⟨h.kind, h.parameters⟩, h.source⟩, h.adapter⟩, h.version⟩, h.age⟩⟩

theorem mem_answering {requirement : AssuranceRequirement} {report : ParticipantAssurance}
    {claim : AssuranceClaim} :
    claim ∈ sortByKey id
        (report.claims.items.filter (claimMeets implies evaluationTime requirement report)) ↔
      claim ∈ report.claims.items ∧ ClaimAnswers implies evaluationTime requirement report claim := by
  rw [(sortByKey_perm id _).mem_iff, List.mem_filter, claimMeets_iff]

/-- The selected claim is one of the participant's own and answers the requirement. -/
theorem selectClaim_some {requirement : AssuranceRequirement} {report : ParticipantAssurance}
    {claim : AssuranceClaim} (h : selectClaim implies evaluationTime requirement report = some claim) :
    claim ∈ report.claims.items ∧ ClaimAnswers implies evaluationTime requirement report claim :=
  mem_answering.mp (List.mem_of_mem_head? h)

theorem selectClaim_none {requirement : AssuranceRequirement} {report : ParticipantAssurance} :
    selectClaim implies evaluationTime requirement report = none ↔
      ¬MeetsRequirement implies evaluationTime requirement report := by
  rw [selectClaim, List.head?_eq_none_iff, List.eq_nil_iff_forall_not_mem]
  simp only [mem_answering, MeetsRequirement, not_exists, not_and]

/-- A satisfaction of a requirement by one of the participants. -/
def Satisfies (implies : AssuranceClaim → AssuranceClaimId → Bool) (evaluationTime : Timestamp)
    (reports : List ParticipantAssurance) (index : UInt16) (requirement : AssuranceRequirement)
    (satisfaction : AssuranceSatisfaction) : Prop :=
  satisfaction.requirementIndex = index ∧ ∃ report ∈ reports,
    report.role = requirement.role ∧ satisfaction.principal = report.principal ∧
      satisfaction.claim ∈ report.claims.items ∧
      ClaimAnswers implies evaluationTime requirement report satisfaction.claim ∧
      satisfaction.evidence = report.evidence.items

/-- Matching an `any` requirement never fails, and counts a match exactly when there is one. -/
theorem matchReports_any {requirement : AssuranceRequirement} (h : requirement.quantifier = .any)
    (index : UInt16) (reports : List ParticipantAssurance) (count : Nat)
    (satisfactions : List AssuranceSatisfaction) :
    ∃ matched, matchReports implies evaluationTime requirement index reports count satisfactions =
        .ok matched ∧
      (matched.1 = count + 1 ∧
          (∃ report ∈ reports, MeetsRequirement implies evaluationTime requirement report) ∨
        matched.1 = count ∧
          ∀ report ∈ reports, ¬MeetsRequirement implies evaluationTime requirement report) := by
  induction reports with
  | nil => exact ⟨_, rfl, .inr ⟨rfl, fun _ hmem => nomatch hmem⟩⟩
  | cons report reports ih =>
    rw [matchReports]
    cases hselect : selectClaim implies evaluationTime requirement report with
    | some claim =>
      have hmeets : MeetsRequirement implies evaluationTime requirement report :=
        ⟨claim, selectClaim_some hselect⟩
      exact ⟨_, if_pos h, .inl ⟨rfl, report, List.mem_cons_self, hmeets⟩⟩
    | none =>
      have hfails := selectClaim_none.mp hselect
      have hquantifier : requirement.quantifier ≠ .every := by rw [h]; exact nofun
      obtain ⟨matched, hmatch, hcount⟩ := ih
      refine ⟨matched, (if_neg hquantifier).trans hmatch, ?_⟩
      rcases hcount with ⟨hcount, other, hmem, hmeets⟩ | ⟨hcount, hnone⟩
      · exact .inl ⟨hcount, other, List.mem_cons_of_mem _ hmem, hmeets⟩
      · exact .inr ⟨hcount, List.forall_mem_cons.mpr ⟨hfails, hnone⟩⟩

/-- Matching an `every` requirement succeeds exactly when all participants meet it, counting each. -/
theorem matchReports_every {requirement : AssuranceRequirement} (h : requirement.quantifier = .every)
    (index : UInt16) (reports : List ParticipantAssurance) (count : Nat)
    (satisfactions : List AssuranceSatisfaction) :
    ((∀ report ∈ reports, MeetsRequirement implies evaluationTime requirement report) ∧
      ∃ matched, matchReports implies evaluationTime requirement index reports count satisfactions =
          .ok matched ∧ matched.1 = count + reports.length) ∨
    ((¬∀ report ∈ reports, MeetsRequirement implies evaluationTime requirement report) ∧
      matchReports implies evaluationTime requirement index reports count satisfactions =
        .error .assuranceRequirementNotMet) := by
  induction reports generalizing count satisfactions with
  | nil => exact .inl ⟨(fun _ hmem => nomatch hmem), _, rfl, rfl⟩
  | cons report reports ih =>
    rw [matchReports]
    cases hselect : selectClaim implies evaluationTime requirement report with
    | some claim =>
      have hmeets : MeetsRequirement implies evaluationTime requirement report :=
        ⟨claim, selectClaim_some hselect⟩
      have hquantifier : requirement.quantifier ≠ .any := by rw [h]; exact nofun
      rcases ih (count + 1)
          (satisfactions ++ [⟨index, report.principal, claim, report.evidence.items⟩]) with
        ⟨hall, matched, hmatch, hcount⟩ | ⟨hnot, hmatch⟩
      · refine .inl ⟨List.forall_mem_cons.mpr ⟨hmeets, hall⟩, matched,
          (if_neg hquantifier).trans hmatch, ?_⟩
        rw [hcount, List.length_cons]
        omega
      · exact .inr ⟨fun hall => hnot (List.forall_mem_cons.mp hall).2,
          (if_neg hquantifier).trans hmatch⟩
    | none =>
      exact .inr ⟨fun hall => selectClaim_none.mp hselect (hall report List.mem_cons_self), if_pos h⟩

/-- Matching adds only satisfactions by the participants it goes through. -/
theorem matchReports_satisfies {requirement : AssuranceRequirement} {index : UInt16}
    {reports selected : List ParticipantAssurance} {count : Nat}
    {satisfactions : List AssuranceSatisfaction} {matched : Nat × List AssuranceSatisfaction}
    (h : matchReports implies evaluationTime requirement index selected count satisfactions =
      .ok matched)
    (hselected : ∀ report ∈ selected, report ∈ reports ∧ report.role = requirement.role) :
    ∀ satisfaction ∈ matched.2, satisfaction ∈ satisfactions ∨
      Satisfies implies evaluationTime reports index requirement satisfaction := by
  induction selected generalizing count satisfactions with
  | nil =>
    obtain rfl := Except.ok.inj h
    exact fun _ hmem => .inl hmem
  | cons report selected ih =>
    obtain ⟨⟨hmem, hrole⟩, hrest⟩ := List.forall_mem_cons.mp hselected
    rw [matchReports] at h
    cases hselect : selectClaim implies evaluationTime requirement report with
    | some claim =>
      rw [hselect] at h
      obtain ⟨hclaim, hanswers⟩ := selectClaim_some hselect
      have hadded : ∀ satisfaction ∈
          satisfactions ++ [⟨index, report.principal, claim, report.evidence.items⟩],
          satisfaction ∈ satisfactions ∨
            Satisfies implies evaluationTime reports index requirement satisfaction := by
        intro satisfaction hmem'
        rcases List.mem_append.mp hmem' with hold | hnew
        · exact .inl hold
        · obtain rfl := List.mem_singleton.mp hnew
          exact .inr ⟨rfl, report, hmem, hrole, rfl, hclaim, hanswers, rfl⟩
      by_cases hany : requirement.quantifier = .any
      · obtain rfl := Except.ok.inj ((if_pos hany).symm.trans h)
        exact hadded
      · intro satisfaction hmem'
        rcases ih ((if_neg hany).symm.trans h) hrest satisfaction hmem' with hold | hnew
        · exact hadded satisfaction hold
        · exact .inr hnew
    | none =>
      rw [hselect] at h
      by_cases hevery : requirement.quantifier = .every
      · cases (if_pos hevery).symm.trans h
      · exact ih ((if_neg hevery).symm.trans h) hrest

/-- One requirement is satisfied exactly when its role meets it as its quantifier asks. -/
theorem satisfyRequirement_ok_iff {reports : List ParticipantAssurance} {index : Nat}
    (hindex : index < 65536) (requirement : AssuranceRequirement)
    (satisfactions : List AssuranceSatisfaction) :
    (∃ out, satisfyRequirement implies evaluationTime reports index requirement satisfactions =
        .ok out) ↔ RoleMeets implies evaluationTime reports requirement := by
  have hmem : ∀ report, report ∈ reports.filter (fun report => report.role = requirement.role) ↔
      report ∈ reports ∧ report.role = requirement.role := by simp
  generalize hselected : reports.filter (fun report => report.role = requirement.role) = selected
    at hmem
  rw [satisfyRequirement, hselected]
  cases selected with
  | nil =>
    have hnone : ∀ report ∈ reports, report.role ≠ requirement.role :=
      fun report hreport hrole => nomatch (hmem report).mpr ⟨hreport, hrole⟩
    refine ⟨fun ⟨_, h⟩ => (nomatch h), fun h => ?_⟩
    rw [RoleMeets] at h
    split at h
    · obtain ⟨report, hreport, hrole, -⟩ := h
      exact absurd hrole (hnone report hreport)
    · obtain ⟨⟨report, hreport, hrole⟩, -⟩ := h
      exact absurd hrole (hnone report hreport)
  | cons first rest =>
    generalize hall : first :: rest = selected at hmem
    have hempty : ¬selected.isEmpty = true := by rw [← hall]; exact Bool.false_ne_true
    rw [if_neg hempty, if_neg (by omega : ¬65536 ≤ index)]
    cases hquantifier : requirement.quantifier with
    | any =>
      obtain ⟨matched, hmatch, hcount⟩ := @matchReports_any implies evaluationTime _ hquantifier
        (UInt16.ofNat index) selected 0 satisfactions
      simp only [hmatch, RoleMeets, hquantifier]
      rcases hcount with ⟨hcount, report, hreport, hmeets⟩ | ⟨hcount, hnone⟩
      · obtain ⟨hin, hrole⟩ := (hmem report).mp hreport
        exact ⟨fun _ => ⟨report, hin, hrole, hmeets⟩, fun _ => ⟨matched.2, if_neg (by omega)⟩⟩
      · have hfew : matched.1 < 1 := by omega
        simp only [if_pos hfew]
        refine ⟨fun ⟨_, h⟩ => (nomatch h), fun ⟨report, hin, hrole, hmeets⟩ => ?_⟩
        exact absurd hmeets (hnone report ((hmem report).mpr ⟨hin, hrole⟩))
    | every =>
      obtain ⟨hin, hrole⟩ := (hmem first).mp (hall ▸ List.mem_cons_self)
      simp only [RoleMeets, hquantifier]
      rcases @matchReports_every implies evaluationTime _ hquantifier (UInt16.ofNat index) selected 0
          satisfactions with ⟨hmeet, matched, hmatch, hcount⟩ | ⟨hnot, hmatch⟩
      · simp only [hmatch]
        refine ⟨fun _ => ⟨⟨first, hin, hrole⟩, fun report hreport hown => ?_⟩,
          fun _ => ⟨matched.2, if_neg (by omega)⟩⟩
        exact hmeet report ((hmem report).mpr ⟨hreport, hown⟩)
      · simp only [hmatch]
        refine ⟨fun ⟨_, h⟩ => (nomatch h), fun ⟨_, hmeet⟩ => absurd (fun report hreport => ?_) hnot⟩
        obtain ⟨hreport, hown⟩ := (hmem report).mp hreport
        exact hmeet report hreport hown

theorem satisfyRequirement_satisfies {reports : List ParticipantAssurance} {index : Nat}
    {requirement : AssuranceRequirement} {satisfactions out : List AssuranceSatisfaction}
    (h : satisfyRequirement implies evaluationTime reports index requirement satisfactions = .ok out) :
    ∀ satisfaction ∈ out, satisfaction ∈ satisfactions ∨
      Satisfies implies evaluationTime reports (UInt16.ofNat index) requirement satisfaction := by
  have hselected : ∀ report ∈ reports.filter (fun report => report.role = requirement.role),
      report ∈ reports ∧ report.role = requirement.role := by simp
  rw [satisfyRequirement] at h
  by_cases hempty : (reports.filter fun report => report.role = requirement.role).isEmpty = true
  · cases (if_pos hempty).symm.trans h
  · rw [if_neg hempty] at h
    by_cases hindex : 65536 ≤ index
    · cases (if_pos hindex).symm.trans h
    · rw [if_neg hindex] at h
      cases hmatch : matchReports implies evaluationTime requirement (UInt16.ofNat index)
          (reports.filter fun report => report.role = requirement.role) 0 satisfactions with
      | error failure =>
        simp only [hmatch] at h
        cases h
      | ok matched =>
        simp only [hmatch] at h
        split_ifs at h
        obtain rfl := Except.ok.inj h
        exact matchReports_satisfies hmatch hselected

theorem satisfyRequirements_ok_iff {reports : List ParticipantAssurance} {index : Nat}
    {requirements : List AssuranceRequirement} (hindex : index + requirements.length ≤ 65536)
    (satisfactions : List AssuranceSatisfaction) :
    (∃ out, satisfyRequirements implies evaluationTime reports index requirements satisfactions =
        .ok out) ↔
      ∀ requirement ∈ requirements, RoleMeets implies evaluationTime reports requirement := by
  induction requirements generalizing index satisfactions with
  | nil => exact ⟨fun _ _ hmem => (nomatch hmem), fun _ => ⟨satisfactions, rfl⟩⟩
  | cons requirement requirements ih =>
    rw [List.length_cons] at hindex
    have hfirst := @satisfyRequirement_ok_iff implies evaluationTime reports index (by omega)
      requirement satisfactions
    rw [List.forall_mem_cons, ← hfirst]
    constructor
    · rintro ⟨out, h⟩
      obtain ⟨mid, hmid, hrest⟩ := Except.bind_eq_ok.mp h
      exact ⟨⟨mid, hmid⟩, (ih (by omega) mid).mp ⟨out, hrest⟩⟩
    · rintro ⟨⟨mid, hmid⟩, hmeet⟩
      obtain ⟨out, hrest⟩ := (@ih (index + 1) (by omega) mid).mpr hmeet
      exact ⟨out, Except.bind_eq_ok.mpr ⟨mid, hmid, hrest⟩⟩

theorem satisfyRequirements_satisfies {reports : List ParticipantAssurance} {index : Nat}
    {requirements : List AssuranceRequirement} {satisfactions out : List AssuranceSatisfaction}
    (h : satisfyRequirements implies evaluationTime reports index requirements satisfactions =
      .ok out) :
    ∀ satisfaction ∈ out, satisfaction ∈ satisfactions ∨ ∃ k requirement,
      requirements[k]? = some requirement ∧
        Satisfies implies evaluationTime reports (UInt16.ofNat (index + k)) requirement
          satisfaction := by
  induction requirements generalizing index satisfactions with
  | nil =>
    obtain rfl := Except.ok.inj h
    exact fun _ hmem => .inl hmem
  | cons requirement requirements ih =>
    obtain ⟨mid, hmid, hrest⟩ := Except.bind_eq_ok.mp h
    intro satisfaction hmem
    rcases ih hrest satisfaction hmem with hold | ⟨k, later, hlater, hsatisfies⟩
    · rcases satisfyRequirement_satisfies hmid satisfaction hold with hold | hsatisfies
      · exact .inl hold
      · exact .inr ⟨0, requirement, rfl, hsatisfies⟩
    · refine .inr ⟨k + 1, later, hlater, ?_⟩
      rwa [← Nat.add_assoc, Nat.add_right_comm]

theorem exists_of_forall₂ {α β : Type} {R : α → β → Prop} {xs : List α} {ys : List β}
    (h : List.Forall₂ R xs ys) {x : α} (hx : x ∈ xs) : ∃ y ∈ ys, R x y := by
  induction h with
  | nil => cases hx
  | cons hhead _ ih =>
    rcases List.mem_cons.mp hx with rfl | hx
    · exact ⟨_, List.mem_cons_self, hhead⟩
    · obtain ⟨y, hy, hxy⟩ := ih hx
      exact ⟨y, List.mem_cons_of_mem _ hy, hxy⟩

/-- The same participants with at least the claims they made before. -/
structure Extends (report extended : ParticipantAssurance) : Prop where
  role : extended.role = report.role
  adapter : extended.adapter = report.adapter
  version : extended.adapterVersion = report.adapterVersion
  claims : report.claims.items ⊆ extended.claims.items

theorem MeetsRequirement.extends {requirement : AssuranceRequirement}
    {report extended : ParticipantAssurance} (hextends : Extends report extended)
    (h : MeetsRequirement implies evaluationTime requirement report) :
    MeetsRequirement implies evaluationTime requirement extended := by
  obtain ⟨claim, hclaim, hanswers⟩ := h
  refine ⟨claim, hextends.claims hclaim, { hanswers with adapter := ?_, version := ?_ }⟩
  · rw [hextends.adapter]
    exact hanswers.adapter
  · rw [hextends.version]
    exact hanswers.version

theorem RoleMeets.extends {reports extended : List ParticipantAssurance}
    (hextends : List.Forall₂ Extends reports extended) {requirement : AssuranceRequirement}
    (h : RoleMeets implies evaluationTime reports requirement) :
    RoleMeets implies evaluationTime extended requirement := by
  have hforward : ∀ report ∈ reports, ∃ other ∈ extended, Extends report other :=
    fun report hmem => exists_of_forall₂ hextends hmem
  have hbackward : ∀ other ∈ extended, ∃ report ∈ reports, Extends report other :=
    fun other hmem => exists_of_forall₂ hextends.flip hmem
  cases hquantifier : requirement.quantifier with
  | any =>
    simp only [RoleMeets, hquantifier] at h ⊢
    obtain ⟨report, hreport, hrole, hmeets⟩ := h
    obtain ⟨other, hother, hown⟩ := hforward report hreport
    exact ⟨other, hother, hown.role.trans hrole, hmeets.extends hown⟩
  | every =>
    simp only [RoleMeets, hquantifier] at h ⊢
    obtain ⟨⟨report, hreport, hrole⟩, hmeets⟩ := h
    obtain ⟨other, hother, hown⟩ := hforward report hreport
    refine ⟨⟨other, hother, hown.role.trans hrole⟩, fun other hother hrole => ?_⟩
    obtain ⟨report, hreport, hown⟩ := hbackward other hother
    exact (hmeets report hreport (hown.role.symm.trans hrole)).extends hown

theorem evaluateWithImplications_ok_iff {policy : AssurancePolicy}
    {reports : List ParticipantAssurance} :
    (∃ satisfactions, evaluateWithImplications implies evaluationTime policy reports =
        .ok satisfactions) ↔
      ∀ requirement ∈ policy.requirements.items,
        RoleMeets implies evaluationTime reports requirement := by
  have hbound : 0 + policy.requirements.items.length ≤ 65536 := by
    have hpolicy : policy.requirements.items.length ≤ 512 := policy.requirements.bounded
    omega
  rw [← satisfyRequirements_ok_iff hbound []]
  constructor
  · rintro ⟨satisfactions, h⟩
    obtain ⟨out, hout, -⟩ := Except.bind_eq_ok.mp h
    exact ⟨out, hout⟩
  · rintro ⟨out, hout⟩
    exact ⟨sortDedup out, Except.bind_eq_ok.mpr ⟨out, hout, rfl⟩⟩

theorem evaluateWithImplications_satisfies {policy : AssurancePolicy}
    {reports : List ParticipantAssurance} {satisfactions : List AssuranceSatisfaction}
    (h : evaluateWithImplications implies evaluationTime policy reports = .ok satisfactions) :
    ∀ satisfaction ∈ satisfactions, ∃ requirement,
      policy.requirements.items[satisfaction.requirementIndex.toNat]? = some requirement ∧
        Satisfies implies evaluationTime reports satisfaction.requirementIndex requirement
          satisfaction := by
  obtain ⟨out, hout, hsorted⟩ := Except.bind_eq_ok.mp h
  obtain rfl := Except.ok.inj hsorted
  intro satisfaction hmem
  rcases satisfyRequirements_satisfies hout satisfaction (mem_sortDedup.mp hmem) with
    hnone | ⟨k, requirement, hrequirement, hsatisfies⟩
  · cases hnone
  · have hk : k < policy.requirements.items.length := (List.getElem?_eq_some_iff.mp hrequirement).1
    have hbound : policy.requirements.items.length ≤ 512 := policy.requirements.bounded
    have hsize : 0 + k < UInt16.size := by rw [UInt16.size]; omega
    have hindex : satisfaction.requirementIndex.toNat = k := by
      rw [hsatisfies.1, UInt16.toNat_ofNat_of_lt' hsize, Nat.zero_add]
    exact ⟨requirement, by rw [hindex, hrequirement], rfl, hsatisfies.2⟩

end Meets

/-- The evaluation of a policy succeeds exactly when every requirement is met by its role, names only
satisfactions by participants of that role, still succeeds when participants claim more, and takes no
undated claim for a requirement with a maximum age. -/
theorem evaluateWithImplications_exact (implies : AssuranceClaim → AssuranceClaimId → Bool)
    (evaluationTime : Timestamp) (policy : AssurancePolicy) (reports : List ParticipantAssurance) :
    ((∃ satisfactions, evaluateWithImplications implies evaluationTime policy reports =
        .ok satisfactions) ↔
      ∀ requirement ∈ policy.requirements.items,
        RoleMeets implies evaluationTime reports requirement) ∧
    (∀ satisfactions, evaluateWithImplications implies evaluationTime policy reports =
        .ok satisfactions → ∀ satisfaction ∈ satisfactions, ∃ requirement,
      policy.requirements.items[satisfaction.requirementIndex.toNat]? = some requirement ∧
        Satisfies implies evaluationTime reports satisfaction.requirementIndex requirement
          satisfaction) ∧
    (∀ extended, List.Forall₂ Extends reports extended →
      (∃ satisfactions, evaluateWithImplications implies evaluationTime policy reports =
        .ok satisfactions) →
      ∃ satisfactions, evaluateWithImplications implies evaluationTime policy extended =
        .ok satisfactions) ∧
    ∀ requirement ∈ policy.requirements.items, requirement.maximumAge ≠ none →
      ∀ report ∈ reports, ∀ claim ∈ report.claims.items, claim.observedAt = none →
        ¬ClaimAnswers implies evaluationTime requirement report claim := by
  refine ⟨evaluateWithImplications_ok_iff, fun _ h => evaluateWithImplications_satisfies h,
    fun extended hextends h => ?_, fun requirement _ hage report _ claim _ hundated hanswers => ?_⟩
  · exact evaluateWithImplications_ok_iff.mpr fun requirement hmem =>
      (evaluateWithImplications_ok_iff.mp h requirement hmem).extends hextends
  · obtain ⟨maximumAge, hmaximum⟩ := Option.ne_none_iff_exists'.mp hage
    obtain ⟨observedAt, hobserved, -⟩ := hanswers.age maximumAge hmaximum
    rw [hundated] at hobserved
    cases hobserved

section Sample

def hardwareKey : AssuranceClaimId := ⟨"hardware-key", by decide⟩

/-- An undated claim without parameters. -/
def selfClaim : AssuranceClaim := ⟨hardwareKey, ⟨[], by decide, .nil⟩, none, ⟨"self", by decide⟩⟩

theorem selfReport_bounded : boundedText 512 "raw:root" = true := by decide

theorem selfReport_scheme : canonicalScheme "raw:root" = true := by decide

theorem selfReport_evidence : ([] : List EvidenceId).Pairwise (· < ·) := .nil

def selfReport : ParticipantAssurance where
  principal := ⟨"raw:root", selfReport_bounded, selfReport_scheme⟩
  role := .root
  claims := ⟨[selfClaim], by decide, List.pairwise_singleton _ _⟩
  evidence := ⟨[], by decide, selfReport_evidence⟩
  adapter := ⟨"raw", by decide⟩
  adapterVersion := 1

/-- A requirement of any root's claim from one source. -/
def vendorRequirement : AssuranceRequirement where
  role := .root
  quantifier := .any
  claimKind := hardwareKey
  parameters := ⟨[], by decide, .nil⟩
  source := some ⟨"vendor", by decide⟩
  adapter := none
  adapterVersion := none
  maximumAge := none
  versionNonzero := nofun
  versionNeedsAdapter := nofun

def vendorPolicy : AssurancePolicy :=
  ⟨⟨"policy", by decide⟩, ⟨[vendorRequirement], by decide, List.pairwise_singleton _ _⟩⟩

/-- A claim of the right kind, parameters and age from another source is not enough. -/
theorem evaluateWithImplications_source :
    vendorPolicy.requirements.items = [vendorRequirement] ∧ selfReport.role = vendorRequirement.role ∧
      vendorRequirement.quantifier = .any ∧
      (∃ claim ∈ selfReport.claims.items, claim.kind = vendorRequirement.claimKind ∧
        vendorRequirement.parameters.entries = [] ∧ vendorRequirement.maximumAge = none) ∧
      ¬∃ satisfactions, evaluateWithImplications (fun _ _ => false) 0 vendorPolicy [selfReport] =
        .ok satisfactions := by
  refine ⟨rfl, rfl, rfl, ⟨selfClaim, List.mem_cons_self, rfl, rfl, rfl⟩, fun h => ?_⟩
  obtain ⟨report, hreport, -, claim, hclaim, hanswers⟩ :=
    evaluateWithImplications_ok_iff.mp h vendorRequirement List.mem_cons_self
  obtain rfl := List.mem_singleton.mp hreport
  obtain rfl := List.mem_singleton.mp hclaim
  have hsource := hanswers.source _ rfl
  exact absurd (congrArg BoundedString.str hsource) (by decide)

end Sample

end AuthsProof
