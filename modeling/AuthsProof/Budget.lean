import AuthsProof.AuthorityChain
import AuthsProof.EntryPoints

/-! The two budget rules of a branch: the verifier's, through the algebra a ceiling names, and the
kernel's relation on optional ceilings. -/

namespace AuthsProof

open Attenuation Run

/-- Two ceilings of which the second is held against the first, where both are bounded. -/
def comparedBudget : Option BudgetCeiling → Option BudgetCeiling → List (BudgetCeiling × BudgetCeiling)
  | some parent, some child => [(parent, child)]
  | _, _ => []

/-- Every ceiling held against the one above it, from `parent` down to what the action requests. -/
def comparedBudgets (requested : Option BudgetCeiling) :
    Option BudgetCeiling → List SignedGrant → List (BudgetCeiling × BudgetCeiling)
  | parent, [] => comparedBudget parent requested
  | parent, grant :: grants =>
    comparedBudget parent grant.statement.budgetCeiling ++
      comparedBudgets requested grant.statement.budgetCeiling grants

/-- The kernel's budget check of one edge, under any authority that `parent` bounds. -/
def EdgeBudgetAttenuates (parent : Option BudgetCeiling) (grant : SignedGrant) : Prop :=
  ∀ laws authority, authority.budgetCeiling = parent →
    (attenuationChecks laws authority grant.statement).budgetAttenuates = true

theorem edgeBudgetAttenuates_iff {parent : Option BudgetCeiling} {grant : SignedGrant} :
    EdgeBudgetAttenuates parent grant ↔
      optionalBudgetAttenuates grant.statement.budgetCeiling parent = true := by
  constructor
  · intro h
    exact h ⟨fun _ _ _ => false⟩ {
      root := grant.statement.issuer
      subject := grant.statement.subject
      allowedProfiles := []
      profile := none
      permissions := grant.statement.permissions
      validity := grant.statement.validity
      audiences := grant.statement.audiences
      actionConstraint := grant.statement.actionConstraint
      budgetCeiling := parent
      remainingDepth := 0
      lastGrant := none
      assurancePolicy := grant.statement.assuranceFloor
      statusPolicy := grant.statement.statusPolicy
      extensions := none } rfl
  · intro h laws authority hparent
    rw [attenuationChecks, hparent]
    exact h

/-- The ceiling of the last grant, or the one above the chain. -/
def terminalBudget (parent : Option BudgetCeiling) (grants : List SignedGrant) : Option BudgetCeiling :=
  (grants.map fun grant => grant.statement.budgetCeiling).getLastD parent

theorem terminalBudget_cons (parent : Option BudgetCeiling) (grant : SignedGrant)
    (grants : List SignedGrant) : terminalBudget parent (grant :: grants) =
      terminalBudget grant.statement.budgetCeiling grants := by
  rw [terminalBudget, List.map_cons, List.getLastD_cons, terminalBudget]

theorem mem_comparedBudgets_terminal {requested parent : Option BudgetCeiling}
    {grants : List SignedGrant} {pair : BudgetCeiling × BudgetCeiling}
    (h : pair ∈ comparedBudget (terminalBudget parent grants) requested) :
    pair ∈ comparedBudgets requested parent grants := by
  induction grants generalizing parent with
  | nil => exact h
  | cons grant grants ih =>
    rw [terminalBudget_cons] at h
    exact List.mem_append_right _ (ih h)

namespace BranchInput

variable (branch : BranchInput) (anchor : TrustAnchor)

/-- The kernel takes the budget dimension of every edge and of the action. -/
structure BudgetsAccepted : Prop where
  edges : Linked EdgeBudgetAttenuates (fun grant => grant.statement.budgetCeiling)
    anchor.budgetCeiling branch.chain
  action : budgetCeilingCoversAction (terminalBudget anchor.budgetCeiling branch.chain)
    branch.action.envelope.requestedBudget (branch.context.acceptedRegistries.profileBudgetExpression
      branch.action.envelope.profile) = true

/-- The pairs of ceilings a branch compares. -/
def budgets : List (BudgetCeiling × BudgetCeiling) :=
  comparedBudgets branch.action.envelope.requestedBudget anchor.budgetCeiling branch.chain

theorem numericAttenuates_iff {child parent : BudgetCeiling} :
    numericAttenuates child parent = .ok true ↔ parent.algebra = numericCeilingV1 ∧
      budgetCeilingAttenuates child parent = true := by
  rw [budgetCeilingAttenuates_iff, numericAttenuates]
  by_cases hchild : child.algebra = numericCeilingV1 <;>
    by_cases hparent : parent.algebra = numericCeilingV1 <;> simp [hchild, hparent]

variable [Sha256]

/-- One comparison through the algebra the upper ceiling names; `next` goes on with its answer. -/
def compareBudgets {α : Type} (branch : BranchInput) (parent : BudgetCeiling)
    (check : BudgetAlgebra → Except RegistryOperationError Bool) (next : Bool → Metered α) :
    Metered α := do
  let algebra ← ofOption
    (branch.registries.budgetAlgebra branch.context.acceptedRegistries parent.algebra)
    (.indeterminate .unsupportedBudgetAlgebra)
  reserve algebra.maximumWorkUnits
  let answer ← ofExcept ((check algebra).mapError registryOperationFailure)
  next answer

section Comparison

variable {α : Type} {child parent : BudgetCeiling}
  {check : BudgetAlgebra → Except RegistryOperationError Bool} {next : Bool → Metered α}

/-- What the numeric algebra affirms, the kernel's relation affirms. -/
theorem answers_compareBudgets {P : α → Prop}
    (hcheck : check numericBudgetAlgebra = numericAttenuates child parent)
    (hnumeric : ∀ algebra, branch.registries.budgetAlgebra branch.context.acceptedRegistries
      parent.algebra = some algebra → algebra = numericBudgetAlgebra)
    (hnext : ∀ answer, (answer = true → budgetCeilingAttenuates child parent = true) →
      Run.Answers P (next answer)) : Run.Answers P (branch.compareBudgets parent check next) := by
  refine (answers_ofOption (P := fun algebra => algebra = numericBudgetAlgebra) hnumeric).bind
    fun algebra halgebra => ?_
  subst halgebra
  refine (answers_self _).bind fun _ _ => ?_
  refine (answers_ofExcept (P := fun answer => numericAttenuates child parent = .ok answer)
    fun answer hanswer => ?_).bind fun answer hanswer => ?_
  · rw [hcheck] at hanswer
    cases hvalue : numericAttenuates child parent with
    | error error =>
      rw [hvalue] at hanswer
      cases hanswer
    | ok value =>
      rw [hvalue] at hanswer
      exact congrArg Except.ok (Except.ok.inj hanswer)
  · refine hnext answer fun htrue => ?_
    rw [htrue] at hanswer
    exact (numericAttenuates_iff.mp hanswer).2

omit [Sha256] in
theorem reserve_one {meter : WorkMeter} (h : meter.used.toNat + 1 ≤ meter.limit.toNat) :
    reserve 1 meter = (.ok (), { meter with used := meter.used + 1 }) ∧
      (meter.used + 1).toNat = meter.used.toNat + 1 := by
  have hlimit := meter.limit.toNat_lt
  have hone : (1 : UInt64).toNat = 1 := rfl
  have hsum : (meter.used + 1).toNat = meter.used.toNat + 1 := by
    rw [UInt64.toNat_add, hone, Nat.mod_eq_of_lt (by omega)]
  refine ⟨?_, hsum⟩
  rw [reserve, if_neg (by omega), if_neg (by rw [UInt64.lt_iff_toNat_lt]; omega)]

theorem budgetAlgebra_numeric
    (haccepted : branch.context.acceptedRegistries.acceptsBudgetAlgebra numericCeilingV1 = true) :
    branch.registries.budgetAlgebra branch.context.acceptedRegistries numericCeilingV1 =
      some numericBudgetAlgebra := by
  rw [ImmutableRegistries.budgetAlgebra, if_pos haccepted]
  simp [numericBudgetAlgebra]

/-- What the kernel's relation affirms of numeric ceilings, the verifier affirms for one unit of work. -/
theorem compareBudgets_eq
    (haccepted : branch.context.acceptedRegistries.acceptsBudgetAlgebra numericCeilingV1 = true)
    (hcheck : check numericBudgetAlgebra = numericAttenuates child parent)
    (hparent : parent.algebra = numericCeilingV1)
    (hattenuates : budgetCeilingAttenuates child parent = true) {meter : WorkMeter}
    (hwork : meter.used.toNat + 1 ≤ meter.limit.toNat) :
    branch.compareBudgets parent check next meter =
      next true { meter with used := meter.used + 1 } := by
  have hvalue := numericAttenuates_iff.mpr ⟨hparent, hattenuates⟩
  rw [compareBudgets, hparent, branch.budgetAlgebra_numeric haccepted, ofOption_some, pure_bind,
    show numericBudgetAlgebra.maximumWorkUnits = 1 from rfl, bind_ok (reserve_one hwork).1, hcheck,
    hvalue]
  rfl

end Comparison

/-! ## From the verifier to the kernel -/

/-- Where no other algebra answers for the ceilings compared, a chain that passes narrows edge by
edge. -/
theorem answers_attenuateBudgets {requested : Option BudgetCeiling} {grants : List SignedGrant}
    {parent : Option BudgetCeiling}
    (hnumeric : ∀ pair ∈ comparedBudgets requested parent grants, ∀ algebra,
      branch.registries.budgetAlgebra branch.context.acceptedRegistries pair.1.algebra = some algebra →
        algebra = numericBudgetAlgebra) :
    Run.Answers (fun terminal => terminal = terminalBudget parent grants ∧
        Linked EdgeBudgetAttenuates (fun grant => grant.statement.budgetCeiling) parent grants)
      (branch.attenuateBudgets grants parent) := by
  induction grants generalizing parent with
  | nil =>
    intro meter terminal hterminal
    exact ⟨(Except.ok.inj hterminal).symm, trivial⟩
  | cons grant grants ih =>
    have hrest := ih fun pair hpair => hnumeric pair (List.mem_append_right _ hpair)
    rw [terminalBudget_cons]
    unfold attenuateBudgets
    cases parent with
    | none =>
      intro meter terminal hterminal
      obtain ⟨hlast, hedges⟩ := hrest meter terminal hterminal
      exact ⟨hlast, edgeBudgetAttenuates_iff.mpr rfl, hedges⟩
    | some parent =>
      refine (answers_ofOption (P := fun child => grant.statement.budgetCeiling = some child)
        fun child hchild => hchild).bind fun child hchild => ?_
      have hpair : (parent, child) ∈ comparedBudgets requested (some parent) (grant :: grants) :=
        List.mem_append_left _ (by rw [hchild, comparedBudget]; exact List.mem_singleton_self _)
      refine @answers_compareBudgets branch _ _ child _ _ _ _ rfl (hnumeric _ hpair)
        fun answer hanswer => answers_ensure.bind fun _ htrue => ?_
      intro meter terminal hterminal
      obtain ⟨hlast, hedges⟩ := hrest meter terminal hterminal
      refine ⟨hlast, edgeBudgetAttenuates_iff.mpr ?_, hedges⟩
      rw [hchild]
      exact hanswer htrue

theorem budgetsAccepted_of_validate
    (hnumeric : ∀ pair ∈ branch.budgets anchor, ∀ algebra,
      branch.registries.budgetAlgebra branch.context.acceptedRegistries pair.1.algebra = some algebra →
        algebra = numericBudgetAlgebra) :
    Run.Answers (fun _ => branch.BudgetsAccepted anchor) (branch.validateBudgetConstraints anchor) := by
  refine (branch.answers_attenuateBudgets hnumeric).bind fun terminal hterminal => ?_
  obtain ⟨rfl, hedges⟩ := hterminal
  have hterminal := @mem_comparedBudgets_terminal branch.action.envelope.requestedBudget
    anchor.budgetCeiling branch.chain
  have hwhole := @BudgetsAccepted.mk branch anchor hedges
  dsimp only
  cases hceiling : terminalBudget anchor.budgetCeiling branch.chain with
  | none =>
    intro _ _ _
    refine hwhole ?_
    rw [hceiling]
    cases branch.action.envelope.requestedBudget <;>
      cases branch.context.acceptedRegistries.profileBudgetExpression
        branch.action.envelope.profile <;> rfl
  | some ceiling =>
    cases hrequested : branch.action.envelope.requestedBudget with
    | none =>
      cases hexpression : branch.context.acceptedRegistries.profileBudgetExpression
          branch.action.envelope.profile with
      | expressible => exact answers_fail
      | inexpressible =>
        intro _ _ _
        refine hwhole ?_
        rw [hrequested, hexpression]
        rfl
    | some requested =>
      rw [hceiling, hrequested] at hterminal
      refine @answers_compareBudgets branch _ _ requested _ _ _ _ rfl
        (hnumeric _ (by rw [budgets, hrequested]; exact hterminal (List.mem_singleton_self _)))
        fun answer hanswer => ?_
      intro meter _ hensure
      refine hwhole ?_
      rw [hceiling, hrequested]
      exact hanswer (answers_ensure meter _ hensure)

/-! ## From the kernel to the verifier -/

/-- A chain of numeric ceilings that narrows passes, and charges one unit a comparison. -/
theorem attenuateBudgets_eq
    (haccepted : branch.context.acceptedRegistries.acceptsBudgetAlgebra numericCeilingV1 = true)
    {requested : Option BudgetCeiling} {grants : List SignedGrant} {parent : Option BudgetCeiling}
    (hnumeric : ∀ pair ∈ comparedBudgets requested parent grants, pair.1.algebra = numericCeilingV1)
    (hedges : Linked EdgeBudgetAttenuates (fun grant => grant.statement.budgetCeiling) parent grants)
    {meter : WorkMeter} (hwork : meter.used.toNat + (comparedBudgets requested parent grants).length ≤
      meter.limit.toNat) :
    ∃ used, branch.attenuateBudgets grants parent meter =
        (.ok (terminalBudget parent grants), { meter with used }) ∧
      used.toNat + (comparedBudget (terminalBudget parent grants) requested).length ≤
        meter.limit.toNat := by
  induction grants generalizing parent meter with
  | nil => exact ⟨meter.used, rfl, hwork⟩
  | cons grant grants ih =>
    obtain ⟨hedge, hedges⟩ := hedges
    rw [edgeBudgetAttenuates_iff] at hedge
    rw [comparedBudgets, List.length_append] at hwork
    have hrest := @ih grant.statement.budgetCeiling
      (fun pair hpair => hnumeric pair (List.mem_append_right _ hpair)) hedges
    rw [terminalBudget_cons]
    unfold attenuateBudgets
    cases parent with
    | none => exact hrest (by omega)
    | some parent =>
      cases hchild : grant.statement.budgetCeiling with
      | none =>
        rw [hchild] at hedge
        cases hedge
      | some child =>
        rw [hchild] at hedge hrest hwork
        have hpair : (parent, child) ∈ comparedBudgets requested (some parent) (grant :: grants) :=
          List.mem_append_left _ (by rw [hchild, comparedBudget]; exact List.mem_singleton_self _)
        have hone : (comparedBudget (some parent) (some child)).length = 1 := rfl
        obtain ⟨-, hsum⟩ := reserve_one (show meter.used.toNat + 1 ≤ meter.limit.toNat by omega)
        obtain ⟨used, hrun, hleft⟩ := @hrest { meter with used := meter.used + 1 }
          (by dsimp only; omega)
        refine ⟨used, ?_, hleft⟩
        have hcompare : branch.compareBudgets parent (fun algebra => algebra.attenuates child parent)
            (fun narrower => do
              ensure (narrower = true) (.denied .delegationExpanded)
              branch.attenuateBudgets grants (some child)) meter = _ :=
          branch.compareBudgets_eq haccepted rfl (hnumeric _ hpair) hedge (by omega)
        exact hcompare.trans hrun

theorem validate_of_budgetsAccepted
    (haccepted : branch.context.acceptedRegistries.acceptsBudgetAlgebra numericCeilingV1 = true)
    (hnumeric : ∀ pair ∈ branch.budgets anchor, pair.1.algebra = numericCeilingV1)
    (h : branch.BudgetsAccepted anchor) {meter : WorkMeter}
    (hwork : meter.used.toNat + (branch.budgets anchor).length ≤ meter.limit.toNat) :
    (branch.validateBudgetConstraints anchor meter).1 = .ok () := by
  obtain ⟨hedges, haction⟩ := h
  obtain ⟨used, hrun, hleft⟩ := branch.attenuateBudgets_eq haccepted hnumeric hedges hwork
  have hterminal := @mem_comparedBudgets_terminal branch.action.envelope.requestedBudget
    anchor.budgetCeiling branch.chain
  rw [validateBudgetConstraints, bind_ok hrun]
  cases hceiling : terminalBudget anchor.budgetCeiling branch.chain with
  | none => rfl
  | some ceiling =>
    rw [hceiling] at haction hleft hterminal
    cases hrequested : branch.action.envelope.requestedBudget with
    | none =>
      rw [hrequested] at haction
      cases hexpression : branch.context.acceptedRegistries.profileBudgetExpression
          branch.action.envelope.profile with
      | expressible =>
        rw [hexpression] at haction
        cases haction
      | inexpressible => rfl
    | some requested =>
      rw [hrequested] at haction hleft hterminal
      have hattenuates : budgetCeilingAttenuates requested ceiling = true := haction
      have hparent : ceiling.algebra = numericCeilingV1 := hnumeric (ceiling, requested)
        (by rw [budgets, hrequested]; exact hterminal (List.mem_singleton_self _))
      have hcompare : branch.compareBudgets ceiling (fun algebra => algebra.covers ceiling requested)
          (fun covered => ensure (covered = true) (.denied .budgetCeilingExceeded))
          { meter with used } = _ :=
        branch.compareBudgets_eq haccepted rfl hparent hattenuates hleft
      exact congrArg Prod.fst hcompare

/-- The two rules agree on numeric ceilings; from the verifier to the kernel it is enough that no other
algebra answers for a ceiling that is compared. -/
theorem budgets_agree
    (haccepted : branch.context.acceptedRegistries.acceptsBudgetAlgebra numericCeilingV1 = true) :
    ((∀ pair ∈ branch.budgets anchor, ∀ algebra,
        branch.registries.budgetAlgebra branch.context.acceptedRegistries pair.1.algebra =
          some algebra → algebra = numericBudgetAlgebra) →
      ∀ meter, (branch.validateBudgetConstraints anchor meter).1 = .ok () →
        branch.BudgetsAccepted anchor) ∧
    ((∀ pair ∈ branch.budgets anchor, pair.1.algebra = numericCeilingV1) →
      branch.BudgetsAccepted anchor → ∀ meter : WorkMeter,
        meter.used.toNat + (branch.budgets anchor).length ≤ meter.limit.toNat →
          (branch.validateBudgetConstraints anchor meter).1 = .ok ()) := by
  refine ⟨fun hnumeric meter hok => ?_, fun hnumeric hbudgets meter hwork => ?_⟩
  · exact branch.budgetsAccepted_of_validate anchor hnumeric meter () hok
  · exact branch.validate_of_budgetsAccepted anchor haccepted hnumeric hbudgets hwork

end BranchInput

section Sample

local instance sampleBudgetSha256 : Sha256 :=
  ⟨fun bytes => ⟨Sha2.sha256 bytes, Sha2.sha256_length bytes⟩⟩

def sampleOtherAlgebra : BudgetAlgebraId := ⟨"other-v1", by decide⟩

/-- An algebra that affirms everything. -/
def sampleAffirming : BudgetAlgebra where
  id := sampleOtherAlgebra
  configurationId := .zero
  maximumWorkUnits := 1
  attenuates _ _ := .ok true
  covers _ _ := .ok true

def sampleAlgebras (algebras : List BudgetAlgebra) (h : { budgetAlgebras := algebras : PureRegistrySet }.distinct) :
    ImmutableRegistries where
  principalMethods := []
  signatureSuites := []
  pure := { budgetAlgebras := algebras }
  methodsDistinct := List.nodup_nil
  suitesDistinct := List.nodup_nil
  pureDistinct := h

/-- The root acts under its own anchor, or an agent under a grant of the root. -/
theorem sampleConsumed_nonempty : ([.zero] : List EvidenceId) ≠ [] := by decide

theorem sampleConsumed_sorted : ([.zero] : List EvidenceId).Pairwise (· < ·) :=
  List.pairwise_singleton _ _

theorem sampleMessage_nonempty : (none : Option Bytes) ≠ some [] := by decide

def sampleBudgetBranch (registries : ImmutableRegistries) (chain : List SignedGrant)
    (requested : Option BudgetCeiling) : BranchInput where
  controls := []
  action := ⟨sampleAction sampleRoot none requested, sampleSignature⟩
  actionId := .zero
  chain
  rootControl := (sampleRoot, {
    verificationKey := [7]
    claims := []
    consumedEvidence := [.zero]
    adapter := sampleId
    adapterVersion := 1
    workUnits := 1
    signatureMessage := none
    keyNonempty := sampleKey_nonempty
    evidenceNonempty := sampleConsumed_nonempty
    evidenceSorted := sampleConsumed_sorted
    messageNonempty := sampleMessage_nonempty })
  canonical := sampleCanonical
  context := { sampleParts .defaultDeployment sampleNoStatus [] with
    acceptedRegistries := { sampleRegistries ⟨[], sampleFree_bounded, sampleFree_sorted⟩ sampleFree_subset with
      budgetAlgebras := ⟨[numericCeilingV1, sampleOtherAlgebra], by decide, by decide +kernel⟩ } }
  registries

def sampleOtherAnchor : TrustAnchor :=
  { sampleAnchor with budgetCeiling := some ⟨sampleOtherAlgebra, 10⟩ }

/-- Ceilings of another algebra tell the two rules apart: the kernel compares them by value, the
verifier asks that algebra, or refuses where it is not installed. -/
theorem budgets_disagree :
    (∃ branch : BranchInput, ∃ anchor meter,
      branch.context.acceptedRegistries.acceptsBudgetAlgebra numericCeilingV1 = true ∧
      branch.BudgetsAccepted anchor ∧
      meter.used.toNat + (branch.budgets anchor).length ≤ meter.limit.toNat ∧
      (branch.validateBudgetConstraints anchor meter).1 =
        .error (.indeterminate .unsupportedBudgetAlgebra)) ∧
    ∃ branch : BranchInput, ∃ anchor meter,
      branch.context.acceptedRegistries.acceptsBudgetAlgebra numericCeilingV1 = true ∧
      (branch.validateBudgetConstraints anchor meter).1 = .ok () ∧
      ¬branch.BudgetsAccepted anchor := by
  refine ⟨⟨sampleBudgetBranch (sampleAlgebras [] (by decide +kernel)) []
    (some ⟨sampleOtherAlgebra, 4⟩), sampleOtherAnchor, .new 100, by decide +kernel,
    ⟨trivial, by decide +kernel⟩, by decide +kernel, by decide +kernel⟩,
    ⟨sampleBudgetBranch (sampleAlgebras [sampleAffirming] (by decide +kernel)) []
    (some ⟨sampleOtherAlgebra, 20⟩), sampleOtherAnchor, .new 100, by decide +kernel,
    by decide +kernel, fun h => ?_⟩⟩
  exact absurd h.action (by decide +kernel)

/-- A ceiling of ten, a grant of five and a request of four. -/
theorem sample_budgets_agree :
    let branch := sampleBudgetBranch (sampleAlgebras [] (by decide +kernel))
      [⟨sampleGrant, sampleSignature⟩] (some (sampleBudget 4))
    branch.BudgetsAccepted sampleAnchor ∧
      (branch.validateBudgetConstraints sampleAnchor (.new 2)).1 = .ok () := by
  intro branch
  have hagree := branch.budgets_agree sampleAnchor (by decide +kernel)
  have hnumeric : ∀ pair ∈ branch.budgets sampleAnchor, pair.1.algebra = numericCeilingV1 := by
    decide +kernel
  have hbudgets : branch.BudgetsAccepted sampleAnchor := by
    refine hagree.1 (fun pair hpair algebra halgebra => ?_) (.new 2) (by decide +kernel)
    rw [hnumeric pair hpair, branch.budgetAlgebra_numeric (by decide +kernel)] at halgebra
    exact (Option.some.inj halgebra).symm
  exact ⟨hbudgets, hagree.2 hnumeric hbudgets (.new 2) (by decide +kernel)⟩

end Sample

end AuthsProof
