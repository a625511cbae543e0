import AuthsProof.Limits

/-! Authorization plans: leaves that name a proof and threshold nodes over them, kept in canonical
member order and bounded in depth, branching and leaves. -/

namespace AuthsProof

open Sorting

inductive AuthorizationPlan where
  | proof (reference : ProofRef)
  | allOf (members : List AuthorizationPlan)
  | anyOf (members : List AuthorizationPlan)
  | kOfN (k : UInt16) (members : List AuthorizationPlan)

namespace AuthorizationPlan

mutual

/-- A plan as a self-delimiting token list. The derived order of plans compares the variant first
and then members from the left, a proper prefix of a member list coming first, which is the order
of these lists. -/
def tokens : AuthorizationPlan → List Nat
  | .proof reference => 0 :: reference.bytes.map UInt8.toNat
  | .allOf members => 1 :: memberTokens members
  | .anyOf members => 2 :: memberTokens members
  | .kOfN k members => 3 :: k.toNat :: memberTokens members

def memberTokens : List AuthorizationPlan → List Nat
  | [] => [0]
  | member :: members => 1 :: (tokens member ++ memberTokens members)

end

def sortMembers (members : List AuthorizationPlan) : List AuthorizationPlan :=
  sortByKey tokens members

mutual

def references : AuthorizationPlan → List ProofRef
  | .proof reference => [reference]
  | .allOf members => memberReferences members
  | .anyOf members => memberReferences members
  | .kOfN _ members => memberReferences members

def memberReferences : List AuthorizationPlan → List ProofRef
  | [] => []
  | member :: members => references member ++ memberReferences members

end

/-- What a validation walk has seen: the references so far, latest first, and the deepest level. -/
structure Walk where
  refs : List ProofRef
  maximumDepth : Nat

mutual

def walk (limits : VerifierLimits) (depth : Nat) :
    AuthorizationPlan → Walk → Except ModelError Walk
  | .proof reference, seen =>
    if limits.get .planDepth < depth then .error .planLimitExceeded
    else if reference ∈ seen.refs ∨ limits.get .planLeaves < seen.refs.length + 1 then
      .error .planLimitExceeded
    else .ok ⟨reference :: seen.refs, max seen.maximumDepth depth⟩
  | .allOf members, seen =>
    if limits.get .planDepth < depth then .error .planLimitExceeded
    else if members.isEmpty then .error .invalidPlan
    else if limits.get .planBranching < members.length then .error .planLimitExceeded
    else walkMembers limits (depth + 1) members ⟨seen.refs, max seen.maximumDepth depth⟩
  | .anyOf members, seen =>
    if limits.get .planDepth < depth then .error .planLimitExceeded
    else if members.isEmpty then .error .invalidPlan
    else if limits.get .planBranching < members.length then .error .planLimitExceeded
    else walkMembers limits (depth + 1) members ⟨seen.refs, max seen.maximumDepth depth⟩
  | .kOfN k members, seen =>
    if limits.get .planDepth < depth then .error .planLimitExceeded
    else if k = 0 ∨ members.length < k.toNat ∨ members.isEmpty then .error .invalidPlan
    else if limits.get .planBranching < members.length then .error .planLimitExceeded
    else walkMembers limits (depth + 1) members ⟨seen.refs, max seen.maximumDepth depth⟩

def walkMembers (limits : VerifierLimits) (depth : Nat) :
    List AuthorizationPlan → Walk → Except ModelError Walk
  | [], seen => .ok seen
  | member :: members, seen =>
    match walk limits depth member seen with
    | .ok seen => walkMembers limits depth members seen
    | .error error => .error error

end

/-- The references of a validated plan in ascending order and its deepest level. -/
structure PlanShape where
  leaves : List ProofRef
  maximumDepth : Nat

def validate (plan : AuthorizationPlan) (limits : VerifierLimits) : Except ModelError PlanShape :=
  match walk limits 1 plan ⟨[], 0⟩ with
  | .ok seen => .ok ⟨sortByKey id seen.refs, seen.maximumDepth⟩
  | .error error => .error error

def compound (plan : AuthorizationPlan) : Except ModelError AuthorizationPlan :=
  match plan.validate .hard with
  | .ok _ => .ok plan
  | .error error => .error error

def allOf.new (members : List AuthorizationPlan) : Except ModelError AuthorizationPlan :=
  compound (.allOf (sortMembers members))

def anyOf.new (members : List AuthorizationPlan) : Except ModelError AuthorizationPlan :=
  compound (.anyOf (sortMembers members))

def kOfN.new (k : UInt16) (members : List AuthorizationPlan) : Except ModelError AuthorizationPlan :=
  compound (.kOfN k (sortMembers members))

mutual

/-- Every compound node of the plan is what its constructor returns: it validates under the hard
limits and its members are sorted. -/
def Canonical : AuthorizationPlan → Prop
  | .proof _ => True
  | .allOf members => allOf.new members = .ok (.allOf members) ∧ MembersCanonical members
  | .anyOf members => anyOf.new members = .ok (.anyOf members) ∧ MembersCanonical members
  | .kOfN k members => kOfN.new k members = .ok (.kOfN k members) ∧ MembersCanonical members

def MembersCanonical : List AuthorizationPlan → Prop
  | [] => True
  | member :: members => Canonical member ∧ MembersCanonical members

end

mutual

/-- Every node has a member and asks for between one and all of them. -/
def Shaped : AuthorizationPlan → Prop
  | .proof _ => True
  | .allOf members => members ≠ [] ∧ MembersShaped members
  | .anyOf members => members ≠ [] ∧ MembersShaped members
  | .kOfN k members => 0 < k.toNat ∧ k.toNat ≤ members.length ∧ MembersShaped members

def MembersShaped : List AuthorizationPlan → Prop
  | [] => True
  | member :: members => Shaped member ∧ MembersShaped members

end

/-- What a successful walk over references `refs` leaves behind. -/
structure Walked (refs : List ProofRef) (seen seen' : Walk) : Prop where
  refs_eq : seen'.refs = refs.reverse ++ seen.refs
  nodup : seen.refs.Nodup → seen'.refs.Nodup

theorem Walked.append {xs ys : List ProofRef} {a b c : Walk} (hab : Walked xs a b)
    (hbc : Walked ys b c) : Walked (xs ++ ys) a c where
  refs_eq := by rw [hbc.refs_eq, hab.refs_eq]; simp
  nodup h := hbc.nodup (hab.nodup h)

mutual

theorem walk_ok {limits : VerifierLimits} :
    ∀ {plan : AuthorizationPlan} {depth : Nat} {seen seen' : Walk},
      walk limits depth plan seen = .ok seen' → plan.Shaped ∧ Walked plan.references seen seen'
  | .proof reference, depth, seen, seen', h => by
    rw [walk] at h
    split_ifs at h with hdepth hleaf
    obtain rfl := Except.ok.inj h
    push Not at hleaf
    exact ⟨trivial, by simp [references], fun hn => List.nodup_cons.mpr ⟨hleaf.1, hn⟩⟩
  | .allOf members, depth, seen, seen', h => by
    rw [walk] at h
    split_ifs at h with hdepth hempty hbranch
    obtain ⟨hshape, hwalk⟩ := walkMembers_ok h
    exact ⟨⟨by simpa using hempty, hshape⟩, ⟨hwalk.refs_eq, hwalk.nodup⟩⟩
  | .anyOf members, depth, seen, seen', h => by
    rw [walk] at h
    split_ifs at h with hdepth hempty hbranch
    obtain ⟨hshape, hwalk⟩ := walkMembers_ok h
    exact ⟨⟨by simpa using hempty, hshape⟩, ⟨hwalk.refs_eq, hwalk.nodup⟩⟩
  | .kOfN k members, depth, seen, seen', h => by
    rw [walk] at h
    split_ifs at h with hdepth hk hbranch
    push Not at hk
    obtain ⟨hshape, hwalk⟩ := walkMembers_ok h
    have hpos : 0 < k.toNat := Nat.pos_of_ne_zero fun h0 => hk.1 (UInt16.toNat_inj.mp h0)
    exact ⟨⟨hpos, hk.2.1, hshape⟩, ⟨hwalk.refs_eq, hwalk.nodup⟩⟩

theorem walkMembers_ok {limits : VerifierLimits} :
    ∀ {members : List AuthorizationPlan} {depth : Nat} {seen seen' : Walk},
      walkMembers limits depth members seen = .ok seen' →
        MembersShaped members ∧ Walked (memberReferences members) seen seen'
  | [], depth, seen, seen', h => by
    rw [walkMembers] at h
    obtain rfl := Except.ok.inj h
    exact ⟨trivial, by simp [memberReferences], id⟩
  | member :: members, depth, seen, seen', h => by
    rw [walkMembers] at h
    split at h
    · rename_i mid hmember
      obtain ⟨hshape, hwalk⟩ := walk_ok hmember
      obtain ⟨hshapes, hwalks⟩ := walkMembers_ok h
      exact ⟨⟨hshape, hshapes⟩, hwalk.append hwalks⟩
    · cases h

end

/-- A plan that validates is well shaped and names no reference twice. -/
theorem validate_ok {plan : AuthorizationPlan} {limits : VerifierLimits} {shape : PlanShape}
    (h : plan.validate limits = .ok shape) :
    plan.Shaped ∧ plan.references.Nodup ∧ shape.leaves = sortByKey id plan.references := by
  rw [validate] at h
  split at h
  · rename_i seen hwalk
    obtain rfl := Except.ok.inj h
    obtain ⟨hshape, hseen⟩ := walk_ok hwalk
    have hrefs : seen.refs = plan.references.reverse := by simpa using hseen.refs_eq
    have hnodup : plan.references.Nodup := by
      simpa [hrefs] using hseen.nodup List.nodup_nil
    refine ⟨hshape, hnodup, ?_⟩
    have hperm : seen.refs.Perm plan.references := hrefs ▸ List.reverse_perm _
    exact sortByKey_eq_of_perm hperm fun _ _ _ _ hkey => hkey
  · cases h

theorem membersCanonical_iff {members : List AuthorizationPlan} :
    MembersCanonical members ↔ ∀ member ∈ members, member.Canonical := by
  induction members with
  | nil => simp [MembersCanonical]
  | cons member members ih => simp [MembersCanonical, ih]

theorem membersCanonical_sortMembers {members : List AuthorizationPlan}
    (h : ∀ member ∈ members, member.Canonical) : MembersCanonical (sortMembers members) := by
  rw [membersCanonical_iff]
  intro member hmember
  exact h member ((sortByKey_perm tokens members).mem_iff.mp hmember)

theorem compound_ok {plan built : AuthorizationPlan} (h : compound plan = .ok built) :
    built = plan := by
  rw [compound] at h
  split at h
  · exact (Except.ok.inj h).symm
  · cases h

theorem validate_of_compound {plan built : AuthorizationPlan} (h : compound plan = .ok built) :
    ∃ shape, plan.validate .hard = .ok shape := by
  rw [compound] at h
  split at h
  · rename_i shape hshape
    exact ⟨shape, hshape⟩
  · cases h

theorem sortMembers_sortMembers (members : List AuthorizationPlan) :
    sortMembers (sortMembers members) = sortMembers members :=
  sortByKey_sortByKey tokens members

theorem allOf.new_ok {members : List AuthorizationPlan} {plan : AuthorizationPlan}
    (h : allOf.new members = .ok plan) (hmembers : ∀ member ∈ members, member.Canonical) :
    plan.Canonical := by
  obtain rfl := compound_ok h
  refine ⟨?_, membersCanonical_sortMembers hmembers⟩
  rw [allOf.new, sortMembers_sortMembers]
  exact h

theorem anyOf.new_ok {members : List AuthorizationPlan} {plan : AuthorizationPlan}
    (h : anyOf.new members = .ok plan) (hmembers : ∀ member ∈ members, member.Canonical) :
    plan.Canonical := by
  obtain rfl := compound_ok h
  refine ⟨?_, membersCanonical_sortMembers hmembers⟩
  rw [anyOf.new, sortMembers_sortMembers]
  exact h

theorem kOfN.new_ok {k : UInt16} {members : List AuthorizationPlan} {plan : AuthorizationPlan}
    (h : kOfN.new k members = .ok plan) (hmembers : ∀ member ∈ members, member.Canonical) :
    plan.Canonical := by
  obtain rfl := compound_ok h
  refine ⟨?_, membersCanonical_sortMembers hmembers⟩
  rw [kOfN.new, sortMembers_sortMembers]
  exact h

end AuthorizationPlan

/-- A plan made by the plan constructors. -/
structure CanonicalPlan where
  plan : AuthorizationPlan
  canonical : plan.Canonical

namespace CanonicalPlan

open AuthorizationPlan

def proof (reference : ProofRef) : CanonicalPlan := ⟨.proof reference, trivial⟩

theorem canonical_of_mem (members : List CanonicalPlan) :
    ∀ member ∈ members.map CanonicalPlan.plan, member.Canonical := by
  intro member hmember
  obtain ⟨own, -, rfl⟩ := List.mem_map.mp hmember
  exact own.canonical

/-- What a plan constructor returned, as a canonical plan. -/
def ofResult (result : Except ModelError AuthorizationPlan)
    (h : ∀ plan, result = .ok plan → plan.Canonical) : Except ModelError CanonicalPlan :=
  match result, h with
  | .ok plan, h => .ok ⟨plan, h plan rfl⟩
  | .error error, _ => .error error

theorem ofResult_ok {result : Except ModelError AuthorizationPlan}
    {h : ∀ plan, result = .ok plan → plan.Canonical} {built : CanonicalPlan}
    (hresult : result = .ok built.plan) : ofResult result h = .ok built := by
  subst hresult
  rfl

def allOf (members : List CanonicalPlan) : Except ModelError CanonicalPlan :=
  ofResult (allOf.new (members.map CanonicalPlan.plan)) fun _ h =>
    allOf.new_ok h (canonical_of_mem members)

def anyOf (members : List CanonicalPlan) : Except ModelError CanonicalPlan :=
  ofResult (anyOf.new (members.map CanonicalPlan.plan)) fun _ h =>
    anyOf.new_ok h (canonical_of_mem members)

def kOfN (k : UInt16) (members : List CanonicalPlan) : Except ModelError CanonicalPlan :=
  ofResult (kOfN.new k (members.map CanonicalPlan.plan)) fun _ h =>
    kOfN.new_ok h (canonical_of_mem members)

end CanonicalPlan

end AuthsProof
