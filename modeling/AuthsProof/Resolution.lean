import AuthsProof.Work
import Mathlib.Data.List.Dedup

/-! What resolution establishes once for every later stage: the parent links of every action end, the
plan and the actions name each other, and no binding dangles. -/

namespace AuthsProof

open Sorting

section Chain

variable [Cbor] [Sha256]

/-- The first grant has the given parent, and each later one the grant before it. -/
def LinkedFrom : Option GrantId → List SignedGrant → Prop
  | _, [] => True
  | parent, grant :: grants =>
    grant.statement.parent = parent ∧ LinkedFrom (some (grantId grant.statement)) grants

theorem linkedFrom_append {parent : Option GrantId} {grants : List SignedGrant} {grant : SignedGrant} :
    LinkedFrom parent (grants ++ [grant]) ↔ LinkedFrom parent grants ∧ grant.statement.parent =
      (grants.getLast?.map fun last => grantId last.statement).or parent := by
  induction grants generalizing parent with
  | nil => simp [LinkedFrom]
  | cons first grants ih =>
    rw [List.cons_append, LinkedFrom, LinkedFrom, ih, and_assoc]
    cases hlast : grants.getLast? with
    | none =>
      obtain rfl := List.getLast?_eq_none_iff.mp hlast
      simp
    | some last => simp [List.getLast?_cons, hlast]

/-- A chain of grants of the records, terminal grant first, that starts at `cursor` and ends at a
grant without a parent. -/
def WalkedFrom (grants : List GrantRecord) : Option GrantId → List SignedGrant → Prop
  | cursor, [] => cursor = none
  | cursor, grant :: chain => ∃ id, cursor = some id ∧ findGrant grants id = .ok grant ∧
      WalkedFrom grants grant.statement.parent chain

omit [Cbor] [Sha256] in
/-- The unguarded loop over a walk ends within as many steps as the walk has grants. -/
theorem chainFrom_of_walkedFrom {grants : List GrantRecord} {cursor : Option GrantId}
    {chain : List SignedGrant} (h : WalkedFrom grants cursor chain) {steps : Nat}
    (hsteps : chain.length ≤ steps) : chainFrom grants steps cursor = .ok chain := by
  induction chain generalizing cursor steps with
  | nil =>
    obtain rfl : cursor = none := h
    cases steps <;> rfl
  | cons grant chain ih =>
    obtain ⟨id, rfl, hfind, hrest⟩ := h
    cases steps with
    | zero => simp at hsteps
    | succ steps =>
      have hlength : chain.length ≤ steps := by simpa using hsteps
      rw [chainFrom, hfind]
      change (chainFrom grants steps grant.statement.parent >>= fun rest => .ok (grant :: rest)) = _
      rw [ih hrest hlength]
      rfl

omit [Cbor] [Sha256] in
/-- A guarded walk that succeeds meets the identifiers of a walk, none of them twice. -/
theorem walkedFrom_of_resolveChain {grants : List GrantRecord} {steps : Nat} {branch ids : List GrantId}
    {cursor : Option GrantId} (h : resolveChain grants steps branch cursor = .ok ids) :
    ∃ chain, WalkedFrom grants cursor chain ∧ chain.length = ids.length ∧
      (∀ id ∈ ids, ∃ grant ∈ chain, findGrant grants id = .ok grant) ∧
      ids.Nodup ∧ ∀ id ∈ ids, id ∉ branch := by
  induction steps generalizing branch cursor ids with
  | zero =>
    cases cursor with
    | none =>
      obtain rfl := Except.ok.inj h
      exact ⟨[], rfl, rfl, by simp, List.nodup_nil, by simp⟩
    | some id => cases h
  | succ steps ih =>
    cases cursor with
    | none =>
      obtain rfl := Except.ok.inj h
      exact ⟨[], rfl, rfl, by simp, List.nodup_nil, by simp⟩
    | some id =>
      simp only [resolveChain, Except.bind_eq_ok, require_eq_ok] at h
      obtain ⟨_, hfresh, grant, hfind, rest, hrest, hreturn⟩ := h
      obtain rfl := Except.ok.inj hreturn
      obtain ⟨chain, hwalk, hlength, hfound, hnodup, hnew⟩ := ih hrest
      refine ⟨grant :: chain, ⟨id, rfl, hfind, hwalk⟩, by simp [hlength], fun other hother => ?_,
        List.nodup_cons.mpr ⟨fun hmem => hnew id hmem List.mem_cons_self, hnodup⟩,
        fun other hother => ?_⟩
      · rcases List.mem_cons.mp hother with rfl | hmem
        · exact ⟨grant, List.mem_cons_self, hfind⟩
        · obtain ⟨found, hmember, hlookup⟩ := hfound other hmem
          exact ⟨found, List.mem_cons_of_mem grant hmember, hlookup⟩
      · rcases List.mem_cons.mp hother with rfl | hmem
        · exact hfresh
        · exact fun hbranch => hnew other hmem (List.mem_cons_of_mem id hbranch)

/-- The records of the grants of a bundle carry the identifiers of their grants. -/
theorem findGrant_grantRecords {grants : List SignedGrant} {id : GrantId} {grant : SignedGrant}
    (h : findGrant (grantRecords grants) id = .ok grant) :
    grant ∈ grants ∧ grantId grant.statement = id := by
  unfold findGrant at h
  cases hfind : (grantRecords grants).find? fun record => record.id = id with
  | none =>
    rw [hfind] at h
    cases h
  | some record =>
    rw [hfind] at h
    obtain rfl := Except.ok.inj h
    have hmem := List.mem_of_find?_eq_some hfind
    have hid : record.id = id := by simpa using List.find?_some hfind
    obtain ⟨source, hsource, rfl⟩ := List.mem_map.mp ((sortByKey_perm _ _).mem_iff.mp hmem)
    exact ⟨hsource, hid⟩

/-- A walk, turned root first, is linked from no parent on and ends at the cursor. -/
theorem linkedFrom_of_walkedFrom {grants : List SignedGrant} {cursor : Option GrantId}
    {chain : List SignedGrant} (h : WalkedFrom (grantRecords grants) cursor chain) :
    LinkedFrom none chain.reverse ∧
      cursor = chain.head?.map (fun grant => grantId grant.statement) ∧
      ∀ grant ∈ chain, grant ∈ grants := by
  induction chain generalizing cursor with
  | nil => exact ⟨trivial, h, by simp⟩
  | cons grant chain ih =>
    obtain ⟨id, rfl, hfind, hrest⟩ := h
    obtain ⟨hlinked, hparent, hmembers⟩ := ih hrest
    obtain ⟨hmember, hid⟩ := findGrant_grantRecords hfind
    refine ⟨?_, by simp [hid], fun other hother => ?_⟩
    · rw [List.reverse_cons, linkedFrom_append]
      refine ⟨hlinked, ?_⟩
      rw [hparent, List.getLast?_reverse, Option.or_none]
    · exact (List.mem_cons.mp hother).elim (fun heq => heq ▸ hmember) (hmembers other)

end Chain

section Resolved

variable [Cbor] [Sha256]

/-- The statement a reference names is in the bundle or in a snapshot of the context. -/
def StatementRef.Names (bundle : ProofBundle) (context : ContextParts) : StatementRef → Prop
  | .grant id => ∃ grant ∈ bundle.grants, grantId grant.statement = id
  | .action id => ∃ action ∈ bundle.actions, actionId action.envelope = id
  | .principalStatus id => ∃ status ∈ context.principalStatusSnapshot.statements,
      principalStatusId status.statement = id
  | .grantStatus id => ∃ status ∈ context.grantStatusSnapshot.statements,
      grantStatusId status.statement = id

/-- The checks of resolution that later stages rest on. -/
structure ResolutionChecks (bundle : ProofBundle) (context : ContextParts) : Prop where
  grantIds : ((grantRecords bundle.grants).map GrantRecord.id).Nodup
  actions : checkActions (planId bundle.plan.plan) [] bundle.actions = .ok ()
  leaves : ∃ shape, bundle.plan.plan.validate context.limits = .ok shape ∧
    shape.leaves.length = bundle.actions.length ∧
    ∀ reference ∈ shape.leaves, ∃ action ∈ bundle.actions, action.envelope.proofRef = reference
  bindings : ∃ principalStatus grantStatus, principalStatusRecords context = .ok principalStatus ∧
    grantStatusRecords context = .ok grantStatus ∧
    checkBindings (statementExists (grantRecords bundle.grants) (actionRecords bundle.actions)
      principalStatus grantStatus) (bundle.evidence.map EvidenceObject.id) [] bundle.bindings = .ok ()
  used : ∃ ids, usedGrants (grantRecords bundle.grants) bundle.actions = .ok ids ∧
    ids.dedup.length = (grantRecords bundle.grants).length

theorem resolutionChecks_of_resolveProof {decoded : DecodedProof} {context : ContextParts}
    {resolved : ResolvedProof} (h : resolveProof decoded context = .ok resolved) :
    ResolutionChecks decoded.bundle context := by
  obtain ⟨-, hdistinct, -, ⟨shape, hshape⟩, -, -⟩ := resolves_of_resolveProof h
  simp only [resolveProof, Except.bind_eq_ok, require_eq_ok, hshape] at h
  obtain ⟨_, _, _, _, _, hactions, _, _, _, hvalidated, _, ⟨hlength, hleaves⟩, _, _, principalStatus,
    hprincipal, grantStatus, hgrant, _, hbindings, used, hused, _, hcount, _, _, _, _, _⟩ := h
  obtain rfl := Except.ok.inj hvalidated
  have hsorted : (grantRecords decoded.bundle.grants).Pairwise fun a b => a.id < b.id :=
    pairwise_lt_of_adjacentDistinct (sortByKey_pairwise _ _) hdistinct
  have hnodup : ((grantRecords decoded.bundle.grants).map GrantRecord.id).Nodup :=
    List.pairwise_map.mpr (hsorted.imp ne_of_lt)
  exact ⟨hnodup, hactions, ⟨shape, hshape, hlength, hleaves⟩,
    ⟨principalStatus, grantStatus, hprincipal, hgrant, hbindings⟩, ⟨used, hused, hcount⟩⟩

omit [Cbor] [Sha256] in
/-- The actions of a checked bundle have distinct proof references, none of them seen before. -/
theorem nodup_of_checkActions {plan : PlanId} {seen : List ProofRef} {actions : List SignedAction}
    (h : checkActions plan seen actions = .ok ()) :
    (actions.map fun action => action.envelope.proofRef).Nodup ∧
      ∀ action ∈ actions, action.envelope.proofRef ∉ seen := by
  induction actions generalizing seen with
  | nil => exact ⟨List.nodup_nil, by simp⟩
  | cons action actions ih =>
    simp only [checkActions, Except.bind_eq_ok, require_eq_ok] at h
    obtain ⟨_, _, _, hfresh, hrest⟩ := h
    obtain ⟨hnodup, hnew⟩ := ih hrest
    refine ⟨List.nodup_cons.mpr ⟨fun hmem => ?_, hnodup⟩, fun other hother => ?_⟩
    · obtain ⟨other, hother, hsame⟩ := List.mem_map.mp hmem
      exact hnew other hother (hsame ▸ List.mem_cons_self)
    · rcases List.mem_cons.mp hother with rfl | hmem
      · exact hfresh
      · exact fun hseen => hnew other hmem (List.mem_cons_of_mem _ hseen)

omit [Cbor] [Sha256] in
theorem known_of_checkBindings {known : StatementRef → Bool} {evidence : List EvidenceId}
    {seen : List StatementRef} {bindings : List ControlBinding}
    (h : checkBindings known evidence seen bindings = .ok ()) {binding : ControlBinding}
    (hbinding : binding ∈ bindings) :
    known binding.statement = true ∧ ∀ id ∈ binding.evidence, id ∈ evidence := by
  induction bindings generalizing seen with
  | nil => cases hbinding
  | cons first bindings ih =>
    simp only [checkBindings, Except.bind_eq_ok, require_eq_ok] at h
    obtain ⟨_, _, _, hknown, hrest⟩ := h
    rcases List.mem_cons.mp hbinding with rfl | hmem
    · exact hknown
    · exact ih hrest hmem

omit [Cbor] [Sha256] in
/-- The identifiers used are those on the walk of some action. -/
theorem resolveChain_of_usedGrants {grants : List GrantRecord} {actions : List SignedAction}
    {used : List GrantId} (h : usedGrants grants actions = .ok used) :
    (∀ action ∈ actions, ∃ ids,
      resolveChain grants (grants.length + 1) [] action.envelope.terminalGrant = .ok ids) ∧
    ∀ id ∈ used, ∃ action ∈ actions, ∃ ids,
      resolveChain grants (grants.length + 1) [] action.envelope.terminalGrant = .ok ids ∧ id ∈ ids := by
  induction actions generalizing used with
  | nil =>
    obtain rfl := Except.ok.inj h
    exact ⟨by simp, by simp⟩
  | cons action actions ih =>
    simp only [usedGrants, Except.bind_eq_ok] at h
    obtain ⟨ids, hids, rest, hrest, hreturn⟩ := h
    obtain rfl := Except.ok.inj hreturn
    obtain ⟨hall, hfound⟩ := ih hrest
    refine ⟨fun other hother => ?_, fun id hid => ?_⟩
    · rcases List.mem_cons.mp hother with rfl | hmem
      · exact ⟨ids, hids⟩
      · exact hall other hmem
    · rcases List.mem_append.mp hid with hfirst | hlater
      · exact ⟨action, List.mem_cons_self, ids, hids, hfirst⟩
      · obtain ⟨other, hother, found⟩ := hfound id hlater
        exact ⟨other, List.mem_cons_of_mem action hother, found⟩

namespace ResolutionChecks

variable {bundle : ProofBundle} {context : ContextParts} (h : ResolutionChecks bundle context)

include h

theorem walked {action : SignedAction} (haction : action ∈ bundle.actions) :
    ∃ chain, WalkedFrom (grantRecords bundle.grants) action.envelope.terminalGrant chain ∧
      chain.length ≤ (grantRecords bundle.grants).length := by
  obtain ⟨used, hused, -⟩ := h.used
  obtain ⟨ids, hids⟩ := (resolveChain_of_usedGrants hused).1 action haction
  obtain ⟨chain, hwalk, hlength, hfound, hnodup, -⟩ := walkedFrom_of_resolveChain hids
  refine ⟨chain, hwalk, ?_⟩
  have hsubset : ids ⊆ (grantRecords bundle.grants).map GrantRecord.id := by
    intro id hid
    obtain ⟨grant, -, hlookup⟩ := hfound id hid
    unfold findGrant at hlookup
    cases hfind : (grantRecords bundle.grants).find? fun record => record.id = id with
    | none =>
      rw [hfind] at hlookup
      cases hlookup
    | some record =>
      have hid : record.id = id := by simpa using List.find?_some hfind
      exact List.mem_map.mpr ⟨record, List.mem_of_find?_eq_some hfind, hid⟩
  have hbound := (List.subperm_of_subset hnodup hsubset).length_le
  rw [List.length_map] at hbound
  exact hlength ▸ hbound

/-- Each grant is the one found under its identifier. -/
theorem findGrant_self {grant : SignedGrant} (hgrant : grant ∈ bundle.grants) :
    findGrant (grantRecords bundle.grants) (grantId grant.statement) = .ok grant := by
  have hmem : (⟨grantId grant.statement, grant⟩ : GrantRecord) ∈ grantRecords bundle.grants :=
    (sortByKey_perm _ _).mem_iff.mpr (List.mem_map.mpr ⟨grant, hgrant, rfl⟩)
  unfold findGrant
  cases hfind : (grantRecords bundle.grants).find? fun record =>
      record.id = grantId grant.statement with
  | none =>
    have hnone := List.find?_eq_none.mp hfind _ hmem
    simp at hnone
  | some record =>
    have hid : record.id = grantId grant.statement := by simpa using List.find?_some hfind
    have hsame := List.inj_on_of_nodup_map h.grantIds (List.mem_of_find?_eq_some hfind) hmem hid
    rw [hsame]

/-- Every grant is on the walk of some action: the identifiers used are as many as the grants. -/
theorem grantWalked {grant : SignedGrant} (hgrant : grant ∈ bundle.grants) :
    ∃ action ∈ bundle.actions, ∃ chain,
      WalkedFrom (grantRecords bundle.grants) action.envelope.terminalGrant chain ∧
        grant ∈ chain := by
  obtain ⟨used, hused, hcount⟩ := h.used
  have hwalks := (resolveChain_of_usedGrants hused).2
  have hsubset : used.dedup ⊆ (grantRecords bundle.grants).map GrantRecord.id := by
    intro id hid
    obtain ⟨action, -, ids, hids, hmem⟩ := hwalks id (List.mem_dedup.mp hid)
    obtain ⟨_, -, -, hfound, -⟩ := walkedFrom_of_resolveChain hids
    obtain ⟨found, -, hlookup⟩ := hfound id hmem
    obtain ⟨hmember, hfoundId⟩ := findGrant_grantRecords hlookup
    refine List.mem_map.mpr ⟨⟨grantId found.statement, found⟩, ?_, hfoundId⟩
    exact (sortByKey_perm _ _).mem_iff.mpr (List.mem_map.mpr ⟨found, hmember, rfl⟩)
  have hperm : used.dedup.Perm ((grantRecords bundle.grants).map GrantRecord.id) :=
    (List.subperm_of_subset (List.nodup_dedup used) hsubset).perm_of_length_le (by simp [hcount])
  have hid : grantId grant.statement ∈ used := by
    refine List.mem_dedup.mp (hperm.mem_iff.mpr (List.mem_map.mpr ⟨⟨_, grant⟩, ?_, rfl⟩))
    exact (sortByKey_perm _ _).mem_iff.mpr (List.mem_map.mpr ⟨grant, hgrant, rfl⟩)
  obtain ⟨action, haction, ids, hids, hmem⟩ := hwalks _ hid
  obtain ⟨chain, hwalk, -, hfound, -⟩ := walkedFrom_of_resolveChain hids
  obtain ⟨found, hmember, hlookup⟩ := hfound _ hmem
  obtain rfl := Except.ok.inj ((h.findGrant_self hgrant).symm.trans hlookup)
  exact ⟨action, haction, chain, hwalk, hmember⟩

/-- The plan and the actions name each other, one to one. -/
theorem references_perm : bundle.plan.plan.references.Nodup ∧
    bundle.plan.plan.references.Perm (bundle.actions.map fun action => action.envelope.proofRef) := by
  obtain ⟨shape, hshape, hlength, hleaves⟩ := h.leaves
  obtain ⟨-, hnodup, hsorted⟩ := AuthorizationPlan.validate_ok hshape
  have hperm : shape.leaves.Perm bundle.plan.plan.references := hsorted ▸ sortByKey_perm _ _
  have hsubset : bundle.plan.plan.references ⊆
      bundle.actions.map fun action => action.envelope.proofRef := by
    intro reference hreference
    obtain ⟨action, haction, hsame⟩ := hleaves reference (hperm.mem_iff.mpr hreference)
    exact List.mem_map.mpr ⟨action, haction, hsame⟩
  refine ⟨hnodup, (List.subperm_of_subset hnodup hsubset).perm_of_length_le ?_⟩
  rw [List.length_map, ← hlength, hperm.length_eq]

/-- Every binding names a statement that exists and evidence the bundle holds. -/
theorem binding_exists {binding : ControlBinding} (hbinding : binding ∈ bundle.bindings) :
    binding.statement.Names bundle context ∧
      ∀ id ∈ binding.evidence, ∃ object ∈ bundle.evidence, object.id = id := by
  obtain ⟨principalStatus, grantStatus, hprincipal, hgrant, hbindings⟩ := h.bindings
  obtain ⟨hknown, hevidence⟩ := known_of_checkBindings hbindings hbinding
  refine ⟨?_, fun id hid => List.mem_map.mp (hevidence id hid)⟩
  have hrecords {σ : Type} {identifier : StatusStatement σ → Digest} {statements : List (SignedStatus σ)}
      {ids : List Digest} (hids : statusRecords identifier statements = .ok ids) {id : Digest}
      (hid : id ∈ ids) : ∃ status ∈ statements, identifier status.statement = id := by
    simp only [statusRecords, Except.bind_eq_ok, require_eq_ok] at hids
    obtain ⟨_, _, hreturn⟩ := hids
    obtain rfl := Except.ok.inj hreturn
    exact List.mem_map.mp ((sortByKey_perm _ _).mem_iff.mp hid)
  cases hstatement : binding.statement with
  | grant id =>
    rw [hstatement] at hknown
    obtain ⟨record, hrecord, hid⟩ := List.any_eq_true.mp hknown
    obtain ⟨grant, hmem, rfl⟩ := List.mem_map.mp ((sortByKey_perm _ _).mem_iff.mp hrecord)
    exact ⟨grant, hmem, by simpa using hid⟩
  | action id =>
    rw [hstatement] at hknown
    obtain ⟨record, hrecord, hid⟩ := List.any_eq_true.mp hknown
    obtain ⟨action, hmem, rfl⟩ := List.mem_map.mp ((sortByKey_perm _ _).mem_iff.mp hrecord)
    exact ⟨action, hmem, by simpa using hid⟩
  | principalStatus id =>
    rw [hstatement] at hknown
    exact hrecords hprincipal (of_decide_eq_true hknown)
  | grantStatus id =>
    rw [hstatement] at hknown
    exact hrecords hgrant (of_decide_eq_true hknown)

/-- After resolution the evidence bound to every statement is in the bundle. -/
theorem boundEvidence_resolved (statement : StatementRef) :
    (boundEvidence bundle statement).FailsIn fun failure => failure.dangling = false := by
  unfold boundEvidence
  split
  · rename_i binding hfind
    have hevidence := (h.binding_exists (List.mem_of_find?_eq_some hfind)).2
    refine .mapM fun id hid => ?_
    obtain ⟨object, hobject, hsame⟩ := hevidence id hid
    unfold findEvidence
    split
    · exact .ok
    · rename_i hnone
      have hmissing := List.find?_eq_none.mp hnone object hobject
      simp [hsame] at hmissing
  · exact .error rfl

end ResolutionChecks

variable {decoded : DecodedProof} {context : ContextParts} {resolved : ResolvedProof}
  (h : resolveProof decoded context = .ok resolved)

include h

/-- The chain of every action of a resolved proof. The loop that follows the parent links has no cycle
guard, and ends within as many steps as there are grants. -/
theorem branchChain_resolved {action : SignedAction} (haction : action ∈ decoded.bundle.actions) :
    ∃ chain, branchChain resolved action = .ok chain ∧
      (∀ steps, resolved.grants.length ≤ steps →
        chainFrom resolved.grants steps action.envelope.terminalGrant = .ok chain.reverse) ∧
      LinkedFrom none chain ∧ (∀ grant ∈ chain, grant ∈ decoded.bundle.grants) ∧
      action.envelope.terminalGrant = chain.getLast?.map fun grant => grantId grant.statement := by
  have hresolved := (resolves_of_resolveProof h).eq
  obtain ⟨chain, hwalk, hlength⟩ := (resolutionChecks_of_resolveProof h).walked haction
  obtain ⟨hlinked, hcursor, hmembers⟩ := linkedFrom_of_walkedFrom hwalk
  have hloop (steps : Nat) (hsteps : resolved.grants.length ≤ steps) :
      chainFrom resolved.grants steps action.envelope.terminalGrant = .ok chain := by
    rw [hresolved] at hsteps ⊢
    exact chainFrom_of_walkedFrom hwalk (hlength.trans hsteps)
  refine ⟨chain.reverse, ?_, fun steps hsteps => ?_, hlinked, fun grant hgrant => ?_, ?_⟩
  · rw [branchChain, grantChain, hloop _ (Nat.le_succ _)]
    rfl
  · rw [List.reverse_reverse]
    exact hloop steps hsteps
  · exact hmembers grant (List.mem_reverse.mp hgrant)
  · rw [List.getLast?_reverse]
    exact hcursor

/-- No control check of a resolved proof fails for a dangling reference. -/
theorem verifyPrincipalControl_resolved_failure {registries : ImmutableRegistries} :
    (verifyPrincipalControl context registries resolved).FailsIn
      (fun failure => failure.dangling = false) ∧
    ∀ controlled, verifyPrincipalControl context registries resolved = .ok controlled →
      ∀ statement, (controlFor controlled.controls statement).FailsIn
        fun failure => failure.dangling = false := by
  have hchecks := resolutionChecks_of_resolveProof h
  have hresolved := (resolves_of_resolveProof h).eq
  have hcontrols := sat_verifyControls (E := fun failure => failure.dangling = false)
    (fun _ hfailure => hfailure) context registries resolved fun statement => by
      rw [hresolved]
      exact hchecks.boundEvidence_resolved statement
  have hrun := hcontrols.failure (WorkMeter.new context.limits.maxWorkUnits)
  have hvalue := hcontrols.value (WorkMeter.new context.limits.maxWorkUnits)
  constructor
  · unfold verifyPrincipalControl
    have hrequire {p : Prop} [Decidable p] {failure : VerificationFailure}
        (hfailure : failure.dangling = false) :
        (require p failure).FailsIn fun failure => failure.dangling = false :=
      failsIn_require (fun _ hfailure => hfailure) hfailure
    refine (hrequire rfl).bind fun _ _ => (hrequire rfl).bind fun _ _ => ?_
    refine Except.FailsIn.bind (fun failure hfailure => hrun failure hfailure ▸ rfl) fun _ _ => ?_
    exact (hrequire rfl).bind fun _ _ => (hrequire rfl).bind fun _ _ => .ok
  · intro controlled hcontrolled
    simp only [verifyPrincipalControl, Except.bind_eq_ok, require_eq_ok] at hcontrolled
    obtain ⟨_, _, _, _, controls, hok, _, _, _, _, hreturn⟩ := hcontrolled
    rw [← Except.ok.inj hreturn]
    exact failsIn_controlFor (fun _ hfailure => hfailure) (hvalue controls hok)

/-- No branch of a resolved proof fails for a dangling reference. -/
theorem verifyBranch_resolved_failure {registries : ImmutableRegistries}
    {controlled : ControlVerifiedProof}
    (hcontrol : verifyPrincipalControl context registries resolved = .ok controlled)
    (canonical : CanonicalAction) (approvals : Approvals) {reference : ProofRef}
    (hreference : reference ∈ decoded.bundle.plan.plan.references) (progress : Progress) :
    ((verifyBranch resolved controlled.controls canonical context registries approvals reference
      progress).1).FailsIn fun failure => failure.dangling = false := by
  have hcontrols := (verifyPrincipalControl_resolved_failure h).2 controlled hcontrol
  have hbundle : resolved.decoded = decoded :=
    congrArg ResolvedProof.decoded (resolves_of_resolveProof h).eq
  have hinput : (branchInput resolved controlled.controls canonical context registries
      reference).FailsIn fun failure => failure.dangling = false := by
    have hperm := (resolutionChecks_of_resolveProof h).references_perm.2
    obtain ⟨action, haction, hsame⟩ := List.mem_map.mp (hperm.mem_iff.mp hreference)
    unfold branchInput
    rw [hbundle]
    cases hfind : decoded.bundle.actions.find? fun action => action.envelope.proofRef = reference with
    | none =>
      have hmissing := List.find?_eq_none.mp hfind action haction
      simp [hsame] at hmissing
    | some found =>
      obtain ⟨chain, hchain, -⟩ := branchChain_resolved h (List.mem_of_find?_eq_some hfind)
      have hended : (branchChain resolved found).FailsIn fun failure => failure.dangling = false := by
        rw [hchain]
        exact .ok
      refine Except.FailsIn.ok.bind fun action haction => ?_
      obtain rfl := Except.ok.inj haction
      exact hended.bind fun _ _ => (hcontrols _).bind fun _ _ => .ok
  exact (sat_verifyBranch (fun _ hfailure => hfailure) hcontrols canonical context registries approvals
    hinput).failure progress

end Resolved

section Sample

local instance sampleResolutionCbor : Cbor := rfc8949

local instance sampleResolutionSha256 : Sha256 :=
  ⟨fun bytes => ⟨Sha2.sha256 bytes, Sha2.sha256_length bytes⟩⟩

end Sample

end AuthsProof
