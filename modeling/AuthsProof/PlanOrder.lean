import AuthsProof.BundleRoundTrip
import Mathlib.Data.List.Perm.Basic

/-! The order of a plan's members does not reach the plan: the constructors sort every level, and a
decoded bundle lists them sorted already. -/

namespace AuthsProof

open Sorting Wire Decode

namespace AuthorizationPlan

section Tokens

mutual

/-- A plan's tokens end by themselves. -/
theorem tokens_append : ∀ {a b : AuthorizationPlan} {xs ys : List Nat},
    a.tokens ++ xs = b.tokens ++ ys → a = b ∧ xs = ys
  | .proof r, b, xs, ys, h => by
    cases b with
    | proof s =>
      rw [tokens, tokens, List.cons_append, List.cons_append] at h
      have hlen : (r.bytes.map UInt8.toNat).length = (s.bytes.map UInt8.toNat).length := by
        rw [List.length_map, List.length_map, r.length_eq, s.length_eq]
      obtain ⟨hbytes, hrest⟩ := List.append_inj (List.cons.inj h).2 hlen
      have hinj : Function.Injective UInt8.toNat := fun _ _ => UInt8.toNat_inj.mp
      exact ⟨congrArg _ (Digest.bytes_injective (hinj.list_map hbytes)), hrest⟩
    | allOf members => simp [tokens] at h
    | anyOf members => simp [tokens] at h
    | kOfN k members => simp [tokens] at h
  | .allOf members, b, xs, ys, h => by
    cases b with
    | allOf others =>
      rw [tokens, tokens, List.cons_append, List.cons_append] at h
      obtain ⟨rfl, hrest⟩ := memberTokens_append (List.cons.inj h).2
      exact ⟨rfl, hrest⟩
    | proof s => simp [tokens] at h
    | anyOf others => simp [tokens] at h
    | kOfN k others => simp [tokens] at h
  | .anyOf members, b, xs, ys, h => by
    cases b with
    | anyOf others =>
      rw [tokens, tokens, List.cons_append, List.cons_append] at h
      obtain ⟨rfl, hrest⟩ := memberTokens_append (List.cons.inj h).2
      exact ⟨rfl, hrest⟩
    | proof s => simp [tokens] at h
    | allOf others => simp [tokens] at h
    | kOfN k others => simp [tokens] at h
  | .kOfN k members, b, xs, ys, h => by
    cases b with
    | kOfN l others =>
      simp only [tokens, List.cons_append, List.cons.injEq, true_and] at h
      obtain rfl := UInt16.toNat_inj.mp h.1
      obtain ⟨rfl, hrest⟩ := memberTokens_append h.2
      exact ⟨rfl, hrest⟩
    | proof s => simp [tokens] at h
    | allOf others => simp [tokens] at h
    | anyOf others => simp [tokens] at h

theorem memberTokens_append : ∀ {as bs : List AuthorizationPlan} {xs ys : List Nat},
    memberTokens as ++ xs = memberTokens bs ++ ys → as = bs ∧ xs = ys
  | [], bs, xs, ys, h => by
    cases bs with
    | nil => exact ⟨rfl, (List.cons.inj h).2⟩
    | cons b bs => simp [memberTokens] at h
  | a :: as, bs, xs, ys, h => by
    cases bs with
    | nil => simp [memberTokens] at h
    | cons b bs =>
      simp only [memberTokens, List.cons_append, List.append_assoc, List.cons.injEq, true_and] at h
      obtain ⟨rfl, hmembers⟩ := tokens_append h
      obtain ⟨rfl, hrest⟩ := memberTokens_append hmembers
      exact ⟨rfl, hrest⟩

end

theorem tokens_injective : Function.Injective tokens := by
  intro a b h
  exact (@tokens_append a b [] [] (congrArg (· ++ []) h)).1

/-- No two plans tie in the derived order, so the sorted members do not depend on their order. -/
theorem sortMembers_eq_of_perm {xs ys : List AuthorizationPlan} (h : xs.Perm ys) :
    sortMembers xs = sortMembers ys :=
  sortByKey_eq_of_perm h fun _ _ _ _ hkey => tokens_injective hkey

end Tokens

/-- The three constructors that take members. -/
inductive Operator where
  | allOf
  | anyOf
  | kOfN (k : UInt16)

def Operator.node : Operator → List AuthorizationPlan → AuthorizationPlan
  | .allOf, members => .allOf members
  | .anyOf, members => .anyOf members
  | .kOfN k, members => .kOfN k members

/-- The constructor call of an operator. -/
def Operator.new : Operator → List AuthorizationPlan → Except ModelError AuthorizationPlan
  | .allOf, members => allOf.new members
  | .anyOf, members => anyOf.new members
  | .kOfN k, members => kOfN.new k members

mutual

/-- Induction that treats the three operators alike. -/
@[elab_as_elim]
theorem nodeInduction {motive : AuthorizationPlan → Prop}
    (proof : ∀ reference, motive (.proof reference))
    (node : ∀ (operator : Operator) (members : List AuthorizationPlan),
      (∀ member ∈ members, motive member) → motive (operator.node members)) :
    ∀ plan, motive plan
  | .proof reference => proof reference
  | .allOf members => node .allOf members (memberInduction proof node members)
  | .anyOf members => node .anyOf members (memberInduction proof node members)
  | .kOfN k members => node (.kOfN k) members (memberInduction proof node members)

theorem memberInduction {motive : AuthorizationPlan → Prop}
    (proof : ∀ reference, motive (.proof reference))
    (node : ∀ (operator : Operator) (members : List AuthorizationPlan),
      (∀ member ∈ members, motive member) → motive (operator.node members)) :
    ∀ (members : List AuthorizationPlan), ∀ member ∈ members, motive member
  | [] => fun _ h => absurd h List.not_mem_nil
  | first :: rest => List.forall_mem_cons.mpr
      ⟨nodeInduction proof node first, memberInduction proof node rest⟩

end

theorem Operator.new_eq (operator : Operator) (members : List AuthorizationPlan) :
    operator.new members = compound (operator.node (sortMembers members)) := by
  cases operator <;> rfl

mutual

/-- What a tree of constructor calls returns: the members are built first, in the order they are
given, and the first failing call ends it. -/
def construct : AuthorizationPlan → Except ModelError AuthorizationPlan
  | .proof reference => .ok (.proof reference)
  | .allOf members => do allOf.new (← constructMembers members)
  | .anyOf members => do anyOf.new (← constructMembers members)
  | .kOfN k members => do kOfN.new k (← constructMembers members)

def constructMembers : List AuthorizationPlan → Except ModelError (List AuthorizationPlan)
  | [] => .ok []
  | member :: members => do
    let plan ← construct member
    let plans ← constructMembers members
    .ok (plan :: plans)

end

/-- The same calls with the member lists permuted, at any levels. -/
inductive Reordered : AuthorizationPlan → AuthorizationPlan → Prop where
  | refl (p : AuthorizationPlan) : Reordered p p
  | trans {p q r : AuthorizationPlan} : Reordered p q → Reordered q r → Reordered p r
  | members (operator : Operator) {ps qs : List AuthorizationPlan} : ps.Perm qs →
      Reordered (operator.node ps) (operator.node qs)
  | member (operator : Operator) (before after : List AuthorizationPlan)
      {p q : AuthorizationPlan} : Reordered p q →
      Reordered (operator.node (before ++ p :: after)) (operator.node (before ++ q :: after))

theorem Reordered.symm {p q : AuthorizationPlan} (h : p.Reordered q) : q.Reordered p := by
  induction h with
  | refl p => exact .refl p
  | trans _ _ ihpq ihqr => exact ihqr.trans ihpq
  | members operator hperm => exact .members operator hperm.symm
  | member operator before after _ ih => exact .member operator before after ih

section Construct

theorem constructMembers_iff {members plans : List AuthorizationPlan} :
    constructMembers members = .ok plans ↔
      List.Forall₂ (fun member plan => construct member = .ok plan) members plans := by
  induction members generalizing plans with
  | nil =>
    rw [constructMembers, List.forall₂_nil_left_iff]
    exact ⟨fun h => (Except.ok.inj h).symm, fun h => congrArg _ h.symm⟩
  | cons member members ih =>
    rw [constructMembers, List.forall₂_cons_left_iff]
    constructor
    · intro h
      obtain ⟨plan, hplan, h⟩ := exists_of_bind_ok h
      obtain ⟨rest, hrest, h⟩ := exists_of_bind_ok h
      exact ⟨plan, rest, hplan, ih.mp hrest, (Except.ok.inj h).symm⟩
    · intro ⟨plan, rest, hplan, hrest, hplans⟩
      rw [hplan, ih.mpr hrest, hplans]
      rfl

theorem construct_node (operator : Operator) (members : List AuthorizationPlan) :
    construct (operator.node members) = constructMembers members >>= operator.new := by
  cases operator <;> rw [Operator.node, construct] <;> rfl

/-- A compound call succeeds where every member does and the constructor accepts them. -/
theorem construct_node_ok {operator : Operator} {members : List AuthorizationPlan}
    {plan : AuthorizationPlan} : construct (operator.node members) = .ok plan ↔
      ∃ plans, List.Forall₂ (fun member plan => construct member = .ok plan) members plans ∧
        operator.new plans = .ok plan := by
  rw [construct_node]
  constructor
  · intro h
    obtain ⟨plans, hplans, hplan⟩ := exists_of_bind_ok h
    exact ⟨plans, constructMembers_iff.mp hplans, hplan⟩
  · intro ⟨plans, hplans, hplan⟩
    rw [constructMembers_iff.mpr hplans]
    exact hplan

/-- One member may be replaced by a call that returns whatever it returns. -/
theorem forall₂_replace {R : AuthorizationPlan → AuthorizationPlan → Prop}
    {before after plans : List AuthorizationPlan} {p q : AuthorizationPlan}
    (hpq : ∀ plan, R p plan → R q plan) (h : List.Forall₂ R (before ++ p :: after) plans) :
    List.Forall₂ R (before ++ q :: after) plans := by
  induction before generalizing plans with
  | nil =>
    cases h with
    | cons hp hafter => exact .cons (hpq _ hp) hafter
  | cons first before ih =>
    cases h with
    | cons hfirst hrest => exact .cons hfirst (ih hrest)

theorem construct_of_reordered {p q : AuthorizationPlan} (h : p.Reordered q) :
    ∀ {plan : AuthorizationPlan}, construct p = .ok plan → construct q = .ok plan := by
  induction h with
  | refl p => exact id
  | trans _ _ ihpq ihqr => exact fun hp => ihqr (ihpq hp)
  | members operator hperm =>
    intro plan hplan
    obtain ⟨plans, hplans, hnew⟩ := construct_node_ok.mp hplan
    obtain ⟨others, hothers, hsame⟩ := List.perm_comp_forall₂ hperm.symm hplans
    refine construct_node_ok.mpr ⟨others, hothers, ?_⟩
    rwa [Operator.new_eq, sortMembers_eq_of_perm hsame, ← Operator.new_eq]
  | member operator before after _ ih =>
    intro plan hplan
    obtain ⟨plans, hplans, hnew⟩ := construct_node_ok.mp hplan
    refine construct_node_ok.mpr ⟨plans, ?_, hnew⟩
    exact forall₂_replace (fun _ => ih) hplans

/-- Reordered calls return the same plan or both fail. -/
theorem construct_reordered {p q : AuthorizationPlan} (h : p.Reordered q)
    (plan : AuthorizationPlan) : construct p = .ok plan ↔ construct q = .ok plan :=
  ⟨construct_of_reordered h, construct_of_reordered h.symm⟩

end Construct

section Leaves

theorem memberReferences_eq (members : List AuthorizationPlan) :
    memberReferences members = members.flatMap references := by
  induction members with
  | nil => rfl
  | cons member members ih => rw [memberReferences, ih, List.flatMap_cons]

theorem Operator.references_node (operator : Operator) (members : List AuthorizationPlan) :
    (operator.node members).references = members.flatMap references := by
  cases operator <;> rw [Operator.node, references, memberReferences_eq]

theorem validate_proof (reference : ProofRef) :
    (AuthorizationPlan.proof reference).validate .hard = .ok ⟨[reference], 1⟩ := rfl

theorem references_construct {p : AuthorizationPlan} :
    ∀ {plan : AuthorizationPlan}, construct p = .ok plan → plan.references.Perm p.references := by
  induction p using nodeInduction with
  | proof reference =>
    intro plan h
    rw [construct] at h
    rw [← Except.ok.inj h]
  | node operator members ih =>
    intro plan h
    obtain ⟨plans, hplans, hnew⟩ := construct_node_ok.mp h
    rw [Operator.new_eq] at hnew
    rw [compound_ok hnew, Operator.references_node, Operator.references_node]
    refine ((sortByKey_perm tokens plans).flatMap_right references).trans ?_
    clear hnew h
    induction hplans with
    | nil => exact .nil
    | cons hplan _ ihplans =>
      rw [List.flatMap_cons, List.flatMap_cons]
      exact (ih _ List.mem_cons_self hplan).append
        (ihplans fun member hmember => ih member (List.mem_cons_of_mem _ hmember))

/-- A plan the constructors return validates under the hard limits. -/
theorem validate_construct {p plan : AuthorizationPlan} (h : construct p = .ok plan) :
    ∃ shape, plan.validate .hard = .ok shape := by
  induction p using nodeInduction with
  | proof reference =>
    rw [construct] at h
    rw [← Except.ok.inj h]
    exact ⟨_, validate_proof reference⟩
  | node operator members _ =>
    obtain ⟨plans, -, hnew⟩ := construct_node_ok.mp h
    rw [Operator.new_eq] at hnew
    have hvalid := validate_of_compound hnew
    rwa [← compound_ok hnew] at hvalid

/-- Its leaves are the references of the calls, each once. -/
theorem leaves_construct {p plan : AuthorizationPlan} {shape : PlanShape}
    (h : construct p = .ok plan) (hshape : plan.validate .hard = .ok shape) :
    shape.leaves.Nodup ∧ shape.leaves.Perm p.references := by
  obtain ⟨-, hnodup, hleaves⟩ := validate_ok hshape
  have hperm : shape.leaves.Perm plan.references := hleaves ▸ sortByKey_perm id plan.references
  exact ⟨hperm.nodup_iff.mpr hnodup, hperm.trans (references_construct h)⟩

end Leaves

/-- The members of every node stand in the derived order. -/
inductive Sorted : AuthorizationPlan → Prop where
  | proof (reference : ProofRef) : Sorted (.proof reference)
  | node (operator : Operator) {members : List AuthorizationPlan} :
      (members.Pairwise fun a b => tokens a ≤ tokens b) → (∀ member ∈ members, Sorted member) →
      Sorted (operator.node members)

section Sorted

theorem Operator.node_injective {operator : Operator} {xs ys : List AuthorizationPlan}
    (h : operator.node xs = operator.node ys) : xs = ys := by
  cases operator <;> cases h <;> rfl

theorem Operator.canonical_node {operator : Operator} {members : List AuthorizationPlan} :
    (operator.node members).Canonical ↔
      operator.new members = .ok (operator.node members) ∧ ∀ member ∈ members, member.Canonical := by
  cases operator <;> rw [Operator.node, Canonical, membersCanonical_iff] <;> rfl

theorem Operator.length_lt {operator : Operator} {members : List AuthorizationPlan}
    {plan : AuthorizationPlan} (h : operator.new members = .ok plan) : members.length < 2 ^ 64 := by
  cases operator with
  | allOf => exact length_lt_of_compound h length_le_of_fits_allOf
  | anyOf => exact length_lt_of_compound h length_le_of_fits_anyOf
  | kOfN k => exact length_lt_of_compound h length_le_of_fits_kOfN

/-- The constructors leave the members of every node sorted. -/
theorem Canonical.sorted {plan : AuthorizationPlan} (h : plan.Canonical) : plan.Sorted := by
  induction plan using nodeInduction with
  | proof reference => exact .proof reference
  | node operator members ih =>
    obtain ⟨hnew, hmembers⟩ := Operator.canonical_node.mp h
    rw [Operator.new_eq] at hnew
    have hsorted : members = sortMembers members := Operator.node_injective (compound_ok hnew)
    refine .node operator ?_ fun member hmember => ih member hmember (hmembers member hmember)
    rw [hsorted]
    exact sortByKey_pairwise tokens members

end Sorted

end AuthorizationPlan

open AuthorizationPlan

namespace Decode

variable [Cbor] (limits : VerifierLimits)

/-- The tree `authorizationPlan` reads, its members in the order of the bytes: the same reader with
the bare nodes in place of the constructors. -/
def planTree : Nat → Decoder AuthorizationPlan
  | 0 => fail .limitExceeded
  | remaining + 1 => do
    let entries ← mapEntries
    key 0
    let operator ← u8
    if operator = 0 ∧ entries = 2 then do
      key 1
      let reference ← digestBytes
      pure (.proof reference)
    else if (operator = 1 ∨ operator = 2) ∧ entries = 2 then do
      key 1
      let members ← list (limits.get .planBranching) (planTree remaining)
      if operator = 1 then pure (.allOf members) else pure (.anyOf members)
    else if operator = 3 ∧ entries = 3 then do
      key 1
      let k ← u16
      key 2
      let members ← list (limits.get .planBranching) (planTree remaining)
      pure (.kOfN k members)
    else
      fail .malformed

/-- The fields of a bundle up to its plan. -/
def beforePlan : Decoder (BundleHeader × List SignedGrant × List SignedAction) := do
  map 11
  key 0
  let header ← bundleHeader
  key 1
  let grants ← list (limits.get .grants) (signedGrant limits)
  key 2
  let actions ← list (limits.get .actions) (signedAction limits)
  key 3
  pure (header, grants, actions)

/-- The fields of a bundle after its plan, and its constructors. -/
def afterPlan [Sha256] (header : BundleHeader) (grants : List SignedGrant)
    (actions : List SignedAction) (plan : CanonicalPlan) : Decoder ProofBundle := do
  let _ ← model (plan.plan.validate limits)
  key 4
  let evidenceObjects ← list (limits.get .evidenceObjects) (evidence limits)
  key 5
  let bindings ← list (limits.get .controlBindings) (binding limits)
  key 6
  let principalStatus ← list (limits.get .principalStatusStatements) (signedPrincipalStatus limits)
  key 7
  let grantStatus ← list (limits.get .grantStatusStatements) (signedGrantStatus limits)
  ensure (signatureCount grants actions principalStatus grantStatus ≤ limits.get .signatures)
    .limitExceeded
  key 8
  let attachments ← list (limits.get .attachments) attachment
  key 9
  let canonicalBody ← optional (boundedBytes (limits.get .canonicalBodyBytes) false)
  key 10
  let approvals ← list (limits.get .approvals) (signedApproval limits)
  let bundle ← model (ProofBundle.new header grants actions plan evidenceObjects bindings
    principalStatus grantStatus attachments canonicalBody)
  model (bundle.withApprovals approvals)

theorem bundleFrom_eq [Sha256] : bundleFrom limits = beforePlan limits >>= fun fields =>
    authorizationPlan limits (limits.get .planDepth) >>= fun plan =>
      afterPlan limits fields.1 fields.2.1 fields.2.2 plan := by
  simp only [bundleFrom, beforePlan, afterPlan, bind_assoc, pure_bind]

end Decode

namespace AuthorizationPlan

variable [Cbor] [LawfulCbor] (limits : VerifierLimits)

omit [Cbor] [LawfulCbor] in
theorem membersFit_iff {remaining : Nat} {members : List AuthorizationPlan} :
    MembersFit limits remaining members ↔ ∀ member ∈ members, member.Fits limits remaining := by
  induction members with
  | nil => simp [MembersFit]
  | cons member members ih => simp [MembersFit, ih]

omit [Cbor] [LawfulCbor] in
theorem Operator.fits_node {operator : Operator} {members : List AuthorizationPlan}
    {remaining : Nat} : (operator.node members).Fits limits (remaining + 1) ↔
      members.length ≤ limits.get .planBranching ∧
        ∀ member ∈ members, member.Fits limits remaining := by
  cases operator <;> rw [Operator.node, Fits, membersFit_iff]

omit [LawfulCbor] in
theorem encodePlanMembers_eq (members : List AuthorizationPlan) :
    encodePlanMembers members = members.flatMap encodeAuthorizationPlan := by
  induction members with
  | nil => rfl
  | cons member members ih => rw [encodePlanMembers, ih, List.flatMap_cons]

/-- The bare reader returns the tree whose encoding it reads. -/
theorem readsIf_planTree {plan : AuthorizationPlan} (hplan : plan.Canonical) :
    ∀ remaining, ReadsIf (plan.Fits limits remaining) (planTree limits remaining)
      (encodeAuthorizationPlan plan) plan := by
  induction plan using nodeInduction with
  | proof reference =>
    intro remaining
    cases remaining with
    | zero => exact ⟨fun h => absurd h (by simp [Fits]), fun _ rest => ⟨.limitExceeded, rfl⟩⟩
    | succ remaining =>
      rw [encodeAuthorizationPlan, planTree]
      refine ReadsIf.congr ?_ (iff_true_intro trivial)
      refine (reads_mapEntries (by norm_num)).seq ?_
      refine reads_field 0 (reads_u8 0) ?_
      exact reads_field 1 (reads_digestBytes reference) (ReadsIf.pure _)
  | node operator members ih =>
    intro remaining
    obtain ⟨hnew, hmembers⟩ := Operator.canonical_node.mp hplan
    cases remaining with
    | zero => exact ⟨fun h => absurd h (by simp [Fits]), fun _ rest => ⟨.limitExceeded, rfl⟩⟩
    | succ remaining =>
      have hlist : ReadsIf (members.length ≤ limits.get .planBranching ∧
          ∀ member ∈ members, member.Fits limits remaining)
          (list (limits.get .planBranching) (planTree limits remaining))
          (encodeList encodeAuthorizationPlan members) members :=
        readsIf_list (Operator.length_lt hnew) _ fun member hmember =>
          ih member hmember (hmembers member hmember) remaining
      refine ReadsIf.congr ?_ (Operator.fits_node limits)
      cases operator with
      | allOf =>
        rw [Operator.node, encodeAuthorizationPlan, encodePlanMembers_eq, planTree]
        refine (reads_mapEntries (by norm_num)).seq ?_
        refine reads_field 0 (reads_u8 1) ?_
        exact (readsIf_field 1 hlist (ReadsIf.pure _)).congr (by simp)
      | anyOf =>
        rw [Operator.node, encodeAuthorizationPlan, encodePlanMembers_eq, planTree]
        refine (reads_mapEntries (by norm_num)).seq ?_
        refine reads_field 0 (reads_u8 2) ?_
        exact (readsIf_field 1 hlist (ReadsIf.pure _)).congr (by simp)
      | kOfN k =>
        rw [Operator.node, encodeAuthorizationPlan, encodePlanMembers_eq, planTree]
        refine (reads_mapEntries (by norm_num)).seq ?_
        refine reads_field 0 (reads_u8 3) ?_
        refine reads_field 1 (reads_u16 k) ?_
        exact (readsIf_field 2 hlist (ReadsIf.pure _)).congr (by simp)

end AuthorizationPlan

section Bundle

variable [Cbor] (limits : VerifierLimits)

theorem yields_array (maximum : Nat) : Yields (array maximum) (· ≤ maximum) := by
  refine Yields.skip fun header => ?_
  cases header with
  | none => exact Yields.fromExcept fun _ h => nomatch h
  | some length =>
    have hensure : Yields (ensure (length ≤ maximum) CodecError.limitExceeded) fun _ =>
        length ≤ maximum := by
      refine Yields.fromExcept fun _ h => ?_
      split_ifs at h with hlength
      exact hlength
    exact hensure.bind fun _ hlength => Yields.pure hlength

/-- A counted list is within its maximum, and so is each of its items within whatever its reader
ensures. -/
theorem yields_list {α : Type} {P : α → Prop} {read : Decoder α} (hread : Yields read P)
    (maximum : Nat) :
    Yields (list maximum read) fun items => items.length ≤ maximum ∧ ∀ item ∈ items, P item := by
  refine (yields_array maximum).bind fun length hlength => ?_
  intro input items rest hrun
  obtain ⟨hitems, hall⟩ := hread.many length input items rest hrun
  exact ⟨hitems ▸ hlength, hall⟩

theorem yields_actionEnvelope : Yields (actionEnvelope limits) fun envelope =>
    envelope.attachments.length < 2 ^ 64 := by
  rw [actionEnvelope]
  iterate 38 refine Yields.skip fun _ => ?_
  have hattachment : Yields attachment fun _ : AttachmentDescriptor => True := fun _ _ _ _ => trivial
  refine (yields_list hattachment _).bind fun attachments hattachments => ?_
  refine Yields.skip fun _ => Yields.skip fun extensions => Yields.pure ?_
  have hhard : limits.get .attachments ≤ 512 := limits.get_le .attachments
  have hlen : attachments.length < 2 ^ 64 := by
    have hmaximum := hattachments.1
    omega
  exact hlen

theorem yields_signedAction : Yields (signedAction limits) fun action =>
    action.envelope.attachments.length < 2 ^ 64 := by
  refine Yields.skip fun _ => Yields.skip fun _ => ?_
  refine (yields_actionEnvelope limits).bind fun envelope henvelope => ?_
  exact Yields.skip fun _ => Yields.skip fun _ => Yields.pure henvelope

theorem yields_beforePlan : Yields (beforePlan limits) fun fields =>
    ∀ action ∈ fields.2.2, action.envelope.attachments.length < 2 ^ 64 := by
  rw [beforePlan]
  iterate 6 refine Yields.skip fun _ => ?_
  refine (yields_list (yields_signedAction limits) _).bind fun actions hactions => ?_
  exact Yields.skip fun _ => Yields.pure hactions.2

omit [Cbor] in
theorem yields_model {α : Type} {P : α → Prop} {value : Except ModelError α}
    (h : ∀ a, value = .ok a → P a) : Yields (model value) P := by
  refine Yields.fromExcept fun a ha => ?_
  cases value with
  | error error => cases ha
  | ok b => exact h a (congrArg _ (Except.ok.inj ha))

omit [Cbor] in
theorem new_parts {header : BundleHeader} {grants : List SignedGrant} {actions : List SignedAction}
    {plan : CanonicalPlan} {evidenceObjects : List EvidenceObject} {bindings : List ControlBinding}
    {principalStatus : List SignedPrincipalStatus} {grantStatus : List SignedGrantStatus}
    {attachments : List AttachmentDescriptor} {canonicalBody : Option Bytes} {b : ProofBundle}
    (h : ProofBundle.new header grants actions plan evidenceObjects bindings principalStatus
      grantStatus attachments canonicalBody = .ok b) : b.actions.Perm actions ∧ b.plan = plan := by
  rw [ProofBundle.new] at h
  split at h
  · split at h
    · cases h
      exact ⟨sortByKey_perm _ _, rfl⟩
    · cases h
  · cases h

/-- The bundle keeps the actions and the plan it was given. -/
theorem yields_afterPlan [Sha256] (header : BundleHeader) (grants : List SignedGrant)
    (actions : List SignedAction) (plan : CanonicalPlan) :
    Yields (afterPlan limits header grants actions plan) fun bundle =>
      bundle.actions.Perm actions ∧ bundle.plan = plan := by
  rw [afterPlan]
  iterate 16 refine Yields.skip fun _ => ?_
  refine (yields_model fun base hbase => new_parts hbase).bind fun base hbase => ?_
  refine yields_model fun bundle hbundle => ?_
  rw [ProofBundle.withApprovals] at hbundle
  split at hbundle
  · cases hbundle
    exact hbase
  · cases hbundle

omit [Cbor] in
/-- What a reader makes of an input that starts with an encoding it reads or rejects. -/
theorem of_run_ok {α : Type} {p : Prop} {r : Decoder α} {bs rest rest' : Bytes} {a b : α}
    (h : ReadsIf p r bs a) (hrun : r.run (bs ++ rest) = .ok (b, rest')) :
    p ∧ b = a ∧ rest' = rest := by
  by_cases hp : p
  · rw [h.reads hp rest] at hrun
    obtain ⟨rfl, rfl⟩ := Prod.mk.inj (Except.ok.inj hrun)
    exact ⟨hp, rfl, rfl⟩
  · obtain ⟨error, herror⟩ := h.rejects hp rest
    rw [herror] at hrun
    cases hrun

omit [Cbor] in
theorem run_of_decodeCanonical {α : Type} {read : Decoder α} {encode : α → Bytes} {input : Bytes}
    {value : α} (h : decodeCanonical read encode input = .ok value) :
    read.run input = .ok (value, []) := by
  rw [decodeCanonical] at h
  split at h
  · cases h
  · rename_i result rest hrun
    split_ifs at h with hrest hencode
    cases h
    rw [hrun, not_not.mp hrest]

variable [Sha256] {limits}

/-- The fields of a bundle's encoding up to the plan. -/
def planPrefix (b : ProofBundle) : List Bytes :=
  [Cbor.map 11,
    encodeKey 0, [Cbor.map 2, encodeKey 0, encodeU16 protocolV1,
      encodeKey 1, encodeU64 b.header.flags].flatten,
    encodeKey 1, encodeList encodeSignedGrant (sortedGrants b.grants),
    encodeKey 2, encodeList encodeSignedAction b.actions, encodeKey 3]

theorem exists_encodeBundle (b : ProofBundle) : ∃ after,
    encodeBundle b = (planPrefix b).flatten ++ (encodeAuthorizationPlan b.plan.plan ++ after) := by
  have hactions := sortByKey_of_pairwise b.actionsSorted
  rw [encodeBundle, hactions]
  refine ⟨List.flatten ?suffix, ?split⟩
  case' split =>
    rw [← List.flatten_cons, ← List.flatten_append]
    rfl

/-- A bundle has few enough grants and actions for a list header. -/
theorem lengths_lt (b : ProofBundle) :
    (sortedGrants b.grants).length < 2 ^ 64 ∧ b.actions.length < 2 ^ 64 := by
  have hbounded := b.isBounded
  simp only [BundleParts.bounded, Bool.and_eq_true, decide_eq_true_eq] at hbounded
  have hgrants : b.grants.length ≤ 256 := hbounded.1.1.1.1.1.1.1.1.1
  have hactions : b.actions.length ≤ 128 := hbounded.1.1.1.1.1.1.1.2
  rw [sortedGrants, length_sortByKey]
  omega

theorem readsIf_beforePlan [LawfulCbor] {b : ProofBundle}
    (hactions : ∀ a ∈ b.actions, a.envelope.attachments.length < 2 ^ 64) :
    ReadsIf
      (((sortedGrants b.grants).length ≤ limits.get .grants ∧
        ∀ g ∈ sortedGrants b.grants, g.Fits limits) ∧
        b.actions.length ≤ limits.get .actions ∧ ∀ a ∈ b.actions, a.Fits limits)
      (beforePlan limits) (planPrefix b).flatten (b.header, sortedGrants b.grants, b.actions) := by
  obtain ⟨hgrantCount, hactionCount⟩ := lengths_lt b
  have hgrants := readsIf_list hgrantCount (limits.get .grants)
    fun g (_ : g ∈ sortedGrants b.grants) => readsIf_signedGrant limits g
  have hactionList := readsIf_list hactionCount (limits.get .actions)
    fun a ha => readsIf_signedAction limits a (hactions a ha)
  refine (reads_map (by norm_num)).seq ?_
  refine reads_field 0 (ProofBundle.reads_header b.header) ?_
  refine readsIf_field 1 hgrants ?_
  refine (readsIf_field 2 hactionList ((reads_key 3).seq (ReadsIf.pure _))).congr ?_
  rw [and_true]

/-- Where the bundle decoder starts reading the plan of an accepted bundle, the bytes list the
members of every node in the derived order. -/
theorem decodeBundle_plan [LawfulCbor] {bytes : Bytes} {b : ProofBundle}
    (h : decodeBundle bytes limits = .ok b) : ∃ fields planBytes rest,
      (beforePlan limits).run bytes = .ok (fields, planBytes) ∧
      (authorizationPlan limits (limits.get .planDepth)).run planBytes = .ok (b.plan, rest) ∧
      (planTree limits (limits.get .planDepth)).run planBytes = .ok (b.plan.plan, rest) ∧
      b.plan.plan.Sorted := by
  rw [decodeBundle] at h
  split_ifs at h with hbytes
  have hrun := run_of_decodeCanonical h
  rw [bundleFrom_eq, StateT.run_bind] at hrun
  obtain ⟨⟨fields, planBytes⟩, hbefore, hrun⟩ := exists_of_bind_ok hrun
  rw [StateT.run_bind] at hrun
  obtain ⟨⟨plan, rest⟩, hplan, hafter⟩ := exists_of_bind_ok hrun
  obtain ⟨hperm, rfl⟩ := yields_afterPlan limits _ _ _ _ _ _ _ hafter
  have hactions : ∀ a ∈ b.actions, a.envelope.attachments.length < 2 ^ 64 := fun a ha =>
    yields_beforePlan limits _ _ _ hbefore a (hperm.mem_iff.mp ha)
  obtain ⟨after, hencode⟩ := exists_encodeBundle b
  rw [← encode_of_decodeCanonical h, hencode] at hbefore ⊢
  obtain ⟨-, -, rfl⟩ := of_run_ok (readsIf_beforePlan hactions) hbefore
  obtain ⟨hfits, -, rfl⟩ :=
    of_run_ok (readsIf_authorizationPlan limits b.plan.plan b.plan.canonical _) hplan
  have htree := (readsIf_planTree limits b.plan.canonical _).reads hfits rest
  exact ⟨fields, _, rest, hbefore, hplan, htree, b.plan.canonical.sorted⟩

end Bundle

open AuthorizationPlan in
/-- Permuting members at any levels changes neither whether the calls succeed nor the plan, its
encoding and its identifier; every plan they return validates under the hard limits, its leaves
naming each reference once; and an accepted bundle lists the members of every node of its plan in
the sorted order. -/
theorem authorizationPlan_canonical [Cbor] [LawfulCbor] [Sha256] :
    (∀ p q : AuthorizationPlan, p.Reordered q →
      ((∃ plan, construct p = .ok plan) ↔ ∃ plan, construct q = .ok plan) ∧
      ∀ a b, construct p = .ok a → construct q = .ok b →
        a = b ∧ encodeAuthorizationPlan a = encodeAuthorizationPlan b ∧ planId a = planId b) ∧
    (∀ p plan, construct p = .ok plan →
      ∃ shape, plan.validate .hard = .ok shape ∧ shape.leaves.Nodup ∧
        shape.leaves.Perm p.references) ∧
    ∀ (bytes : Bytes) (limits : VerifierLimits) (b : ProofBundle),
      decodeBundle bytes limits = .ok b → ∃ fields planBytes rest,
        (beforePlan limits).run bytes = .ok (fields, planBytes) ∧
        (authorizationPlan limits (limits.get .planDepth)).run planBytes = .ok (b.plan, rest) ∧
        (planTree limits (limits.get .planDepth)).run planBytes = .ok (b.plan.plan, rest) ∧
        b.plan.plan.Sorted := by
  refine ⟨fun p q hpq => ⟨?_, fun a b ha hb => ?_⟩, fun p plan hplan => ?_,
    fun bytes limits b hdecode => decodeBundle_plan hdecode⟩
  · exact exists_congr fun plan => construct_reordered hpq plan
  · have hab : a = b := by
      rw [construct_reordered hpq, hb] at ha
      exact (Except.ok.inj ha).symm
    exact ⟨hab, congrArg _ hab, congrArg _ hab⟩
  · obtain ⟨shape, hshape⟩ := validate_construct hplan
    exact ⟨shape, hshape, leaves_construct hplan hshape⟩

section Sample

local instance orderCbor : Cbor := rfc8949

local instance orderSha256 : Sha256 := ⟨fun bytes => ⟨Sha2.sha256 bytes, Sha2.sha256_length bytes⟩⟩

/-- Two members, the later one first. -/
def sampleMembers : List AuthorizationPlan := [.proof (.filled 1), .proof .zero]

def samplePlanTree : AuthorizationPlan := .allOf sampleMembers.reverse

theorem construct_sampleMembers : construct (.allOf sampleMembers) = .ok samplePlanTree := rfl

def orderedBundle : ProofBundle :=
  { sampleBundle 7 sampleSize_lt with
    plan := ⟨samplePlanTree, rfl, trivial, trivial, trivial⟩
    planValidates := ⟨⟨[.zero, .filled 1], 2⟩, rfl⟩ }

theorem decodeBundle_orderedBundle : ∃ decoded,
    decodeBundle (encodeBundle orderedBundle) .defaultDeployment = .ok decoded ∧
      decoded.plan.plan = samplePlanTree := by
  have : LawfulCbor := rfc8949_lawful
  have hbytes : (encodeBundle orderedBundle).length ≤ 262144 := by decide +kernel
  have hsample := @sampleBundle_within 7 (by decide) (by decide +kernel) (by decide)
  have hwithin : orderedBundle.Within .defaultDeployment :=
    { hsample with bytes := hbytes, plan := ⟨⟨[.zero, .filled 1], 2⟩, rfl⟩ }
  have hids := sampleBundle_contentAddressed 7 (by decide)
  have happrovals : orderedBundle.ApprovalsBounded := by
    intro a ha
    obtain rfl := List.mem_singleton.mp ha
    decide +kernel
  exact ⟨_, ProofBundle.decodeBundle_of_readsIf hwithin ⟨hids.evidence, hids.approvals⟩ happrovals,
    rfl⟩

/-- Calls with the later member first return the plan a decoded bundle lists in order. -/
theorem authorizationPlan_canonical_sample :
    (∃ plan, construct (.allOf sampleMembers.reverse) = .ok plan ∧
      ∃ shape, plan.validate .hard = .ok shape ∧ shape.leaves.Nodup) ∧
    ∃ decoded fields planBytes rest,
      decodeBundle (encodeBundle orderedBundle) .defaultDeployment = .ok decoded ∧
      (beforePlan .defaultDeployment).run (encodeBundle orderedBundle) = .ok (fields, planBytes) ∧
      (planTree .defaultDeployment 8).run planBytes = .ok (samplePlanTree, rest) ∧
      samplePlanTree.Sorted := by
  have : LawfulCbor := rfc8949_lawful
  obtain ⟨hreordered, hvalid, hdecoded⟩ := authorizationPlan_canonical
  have hperm := Reordered.members .allOf (List.reverse_perm sampleMembers).symm
  obtain ⟨plan, hplan⟩ := (hreordered _ _ hperm).1.mp ⟨samplePlanTree, construct_sampleMembers⟩
  obtain ⟨shape, hshape, hnodup, -⟩ := hvalid _ _ hplan
  obtain ⟨decoded, hdecode, hsame⟩ := decodeBundle_orderedBundle
  obtain ⟨fields, planBytes, rest, hbefore, -, htree, hsorted⟩ := hdecoded _ _ _ hdecode
  rw [hsame] at htree hsorted
  exact ⟨⟨plan, hplan, shape, hshape, hnodup⟩, decoded, fields, planBytes, rest, hdecode, hbefore,
    htree, hsorted⟩

end Sample

end AuthsProof
