import AuthsProof.Identifier

/-! The dimensions of a delegated scope: bounded sets, body constraints, budget ceilings, status
policies and critical extensions, with the attenuation order of each. -/

namespace AuthsProof

open Sorting

inductive BoundError where
  | empty
  | aboveMaximum
  | duplicate
  deriving DecidableEq

/-- A non-empty, strictly increasing list of at most `maximum` items. -/
structure BoundedSet (α : Type) [LinearOrder α] (maximum : Nat) where
  items : List α
  nonempty : items ≠ []
  bounded : items.length ≤ maximum
  sorted : items.Pairwise (· < ·)
  deriving DecidableEq

namespace BoundedSet

variable {α : Type} [LinearOrder α] {maximum : Nat}

theorem items_injective : Function.Injective (@items α _ maximum) := by
  rintro ⟨xs, _, _, _⟩ ⟨ys, _, _, _⟩ (rfl : xs = ys)
  rfl

def new (maximum : Nat) (items : List α) : Except BoundError (BoundedSet α maximum) :=
  if hne : items = [] then .error .empty
  else if hlen : maximum < items.length then .error .aboveMaximum
  else if hd : adjacentDistinct (sortByKey id items) = true then
    .ok {
      items := sortByKey id items
      nonempty := fun h => hne (h ▸ sortByKey_perm id items).nil_eq.symm
      bounded := by simpa using hlen
      sorted := pairwise_lt_of_adjacentDistinct (sortByKey_pairwise id items) (by simpa using hd) }
  else .error .duplicate

@[simp] theorem new_items (s : BoundedSet α maximum) : new maximum s.items = .ok s := by
  have hsort : sortByKey id s.items = s.items :=
    sortByKey_of_pairwise (s.sorted.imp fun h => h.le)
  have hdistinct : adjacentDistinct s.items = true := by
    simpa using @adjacentDistinct_of_pairwise_lt α α _ id _ s.sorted
  have hlen := s.bounded.not_gt
  simp [new, s.nonempty, hsort, hdistinct, hlen]

end BoundedSet

/-- A strictly increasing list of at most `maximum` items, possibly empty. -/
structure CanonicalList (α : Type) [LinearOrder α] (maximum : Nat) where
  items : List α
  bounded : items.length ≤ maximum
  sorted : items.Pairwise (· < ·)
  deriving DecidableEq

namespace CanonicalList

variable {α : Type} [LinearOrder α] {maximum : Nat}

theorem items_injective : Function.Injective (@items α _ maximum) := by
  rintro ⟨xs, _, _⟩ ⟨ys, _, _⟩ (rfl : xs = ys)
  rfl

/-- Sorts and removes repetitions before checking the bound. -/
def ofSortDedup (maximum : Nat) (error : ModelError) (items : List α) :
    Except ModelError (CanonicalList α maximum) :=
  if h : (sortDedup items).length ≤ maximum then
    .ok ⟨sortDedup items, h, sortDedup_pairwise items⟩
  else .error error

/-- Checks the bound before sorting and removing repetitions. -/
def ofBounded (maximum : Nat) (error : ModelError) (items : List α) :
    Except ModelError (CanonicalList α maximum) :=
  if h : items.length ≤ maximum then
    .ok ⟨sortDedup items, (sortDedup_length_le items).trans h, sortDedup_pairwise items⟩
  else .error error

@[simp] theorem ofSortDedup_items (error : ModelError) (l : CanonicalList α maximum) :
    ofSortDedup maximum error l.items = .ok l := by
  have hself := sortDedup_of_pairwise l.sorted
  simp [ofSortDedup, hself, l.bounded]

@[simp] theorem ofBounded_items (error : ModelError) (l : CanonicalList α maximum) :
    ofBounded maximum error l.items = .ok l := by
  have hself := sortDedup_of_pairwise l.sorted
  simp [ofBounded, hself, l.bounded]

end CanonicalList

def sliceContains {α : Type} (equal : α → α → Bool) (items : List α) (item : α) : Bool :=
  items.any fun candidate => equal candidate item

def sliceIsSubset {α : Type} (equal : α → α → Bool) (child parent : List α) : Bool :=
  child.all fun item => sliceContains equal parent item

section Slices

variable {α : Type} {equal : α → α → Bool} (hequal : ∀ {a b}, equal a b = true ↔ a = b)
include hequal

theorem sliceContains_iff {items : List α} {item : α} :
    sliceContains equal items item = true ↔ item ∈ items := by
  simp [sliceContains, hequal]

theorem sliceIsSubset_iff {child parent : List α} :
    sliceIsSubset equal child parent = true ↔ child ⊆ parent := by
  simp [sliceIsSubset, sliceContains_iff hequal, List.subset_def]

end Slices

def hardMaxPermissions : Nat := 1024
def hardMaxAudiences : Nat := 256
def hardMaxBodyDigests : Nat := 256

abbrev PermissionSet := BoundedSet Permission hardMaxPermissions
abbrev AudienceSet := BoundedSet Audience hardMaxAudiences
abbrev BodyDigestSet := BoundedSet Digest hardMaxBodyDigests

/-- A bounded set with its own error for repeated items and one for every other failure. -/
def setOfItems {α : Type} [LinearOrder α] (maximum : Nat) (duplicate invalid : ModelError)
    (items : List α) : Except ModelError (BoundedSet α maximum) :=
  match BoundedSet.new maximum items with
  | .ok set => .ok set
  | .error .duplicate => .error duplicate
  | .error .empty => .error invalid
  | .error .aboveMaximum => .error invalid

@[simp] theorem setOfItems_items {α : Type} [LinearOrder α] {maximum : Nat}
    (duplicate invalid : ModelError) (s : BoundedSet α maximum) :
    setOfItems maximum duplicate invalid s.items = .ok s := by
  simp [setOfItems]

def PermissionSet.new : List Permission → Except ModelError PermissionSet :=
  setOfItems hardMaxPermissions .duplicatePermission .invalidPermissionSet

def AudienceSet.new : List Audience → Except ModelError AudienceSet :=
  setOfItems hardMaxAudiences .duplicateAudience .invalidAudienceSet

def BodyDigestSet.new : List Digest → Except ModelError BodyDigestSet :=
  setOfItems hardMaxBodyDigests .duplicateBodyDigest .invalidActionConstraint

def permissionSetContains (set : PermissionSet) (permission : Permission) : Bool :=
  sliceContains permissionsEqual set.items permission

def permissionSetIsSubset (child parent : PermissionSet) : Bool :=
  sliceIsSubset permissionsEqual child.items parent.items

theorem permissionSetContains_iff {set : PermissionSet} {permission : Permission} :
    permissionSetContains set permission = true ↔ permission ∈ set.items :=
  sliceContains_iff permissionsEqual_iff

theorem permissionSetIsSubset_iff {child parent : PermissionSet} :
    permissionSetIsSubset child parent = true ↔ child.items ⊆ parent.items :=
  sliceIsSubset_iff permissionsEqual_iff

def audiencesEqual (left right : Audience) : Bool := left.str == right.str

theorem audiencesEqual_iff {left right : Audience} :
    audiencesEqual left right = true ↔ left = right := by
  rw [audiencesEqual, beq_iff_eq, BoundedString.str_injective.eq_iff]

def audienceSetContains (set : AudienceSet) (audience : Audience) : Bool :=
  sliceContains audiencesEqual set.items audience

def audienceSetIsSubset (child parent : AudienceSet) : Bool :=
  sliceIsSubset audiencesEqual child.items parent.items

theorem audienceSetContains_iff {set : AudienceSet} {audience : Audience} :
    audienceSetContains set audience = true ↔ audience ∈ set.items :=
  sliceContains_iff audiencesEqual_iff

theorem audienceSetIsSubset_iff {child parent : AudienceSet} :
    audienceSetIsSubset child parent = true ↔ child.items ⊆ parent.items :=
  sliceIsSubset_iff audiencesEqual_iff

def digestsEqual (left right : Digest) : Bool := left.bytes == right.bytes

theorem digestsEqual_iff {left right : Digest} : digestsEqual left right = true ↔ left = right := by
  rw [digestsEqual, beq_iff_eq, Digest.bytes_injective.eq_iff]

def bodyDigestSetContains (set : BodyDigestSet) (digest : Digest) : Bool :=
  sliceContains digestsEqual set.items digest

def bodyDigestSetIsSubset (child parent : BodyDigestSet) : Bool :=
  sliceIsSubset digestsEqual child.items parent.items

def bodyDigestSetOnlyContains (set : BodyDigestSet) (digest : Digest) : Bool :=
  set.items.all fun item => digestsEqual item digest

theorem bodyDigestSetContains_iff {set : BodyDigestSet} {digest : Digest} :
    bodyDigestSetContains set digest = true ↔ digest ∈ set.items :=
  sliceContains_iff digestsEqual_iff

theorem bodyDigestSetIsSubset_iff {child parent : BodyDigestSet} :
    bodyDigestSetIsSubset child parent = true ↔ child.items ⊆ parent.items :=
  sliceIsSubset_iff digestsEqual_iff

theorem bodyDigestSetOnlyContains_iff {set : BodyDigestSet} {digest : Digest} :
    bodyDigestSetOnlyContains set digest = true ↔ ∀ item ∈ set.items, item = digest := by
  simp [bodyDigestSetOnlyContains, digestsEqual_iff]

inductive ActionConstraint where
  | anyBody
  | exactBodyDigest (digest : Digest)
  | allowedBodyDigests (digests : BodyDigestSet)
  deriving DecidableEq

def ActionConstraint.allowed (digests : List Digest) : Except ModelError ActionConstraint := do
  return .allowedBodyDigests (← BodyDigestSet.new digests)

def actionConstraintAllows (constraint : ActionConstraint) (digest : Digest) : Bool :=
  match constraint with
  | .anyBody => true
  | .exactBodyDigest expected => digestsEqual expected digest
  | .allowedBodyDigests allowed => bodyDigestSetContains allowed digest

def actionConstraintAttenuates (child parent : ActionConstraint) : Bool :=
  match child, parent with
  | _, .anyBody => true
  | .exactBodyDigest child, .exactBodyDigest parent => digestsEqual child parent
  | .exactBodyDigest child, .allowedBodyDigests parent => bodyDigestSetContains parent child
  | .allowedBodyDigests child, .exactBodyDigest parent => bodyDigestSetOnlyContains child parent
  | .allowedBodyDigests child, .allowedBodyDigests parent => bodyDigestSetIsSubset child parent
  | _, _ => false

/-- A constraint that attenuates another allows no body the other forbids. -/
theorem actionConstraintAllows_of_attenuates {child parent : ActionConstraint} {digest : Digest}
    (h : actionConstraintAttenuates child parent = true)
    (ha : actionConstraintAllows child digest = true) :
    actionConstraintAllows parent digest = true := by
  cases parent with
  | anyBody => rfl
  | exactBodyDigest expected =>
    cases child with
    | anyBody => simp [actionConstraintAttenuates] at h
    | exactBodyDigest other =>
      simp only [actionConstraintAttenuates, actionConstraintAllows, digestsEqual_iff] at h ha ⊢
      rw [← h, ha]
    | allowedBodyDigests allowed =>
      simp only [actionConstraintAttenuates, actionConstraintAllows, digestsEqual_iff,
        bodyDigestSetOnlyContains_iff, bodyDigestSetContains_iff] at h ha ⊢
      exact (h digest ha).symm
  | allowedBodyDigests expected =>
    cases child with
    | anyBody => simp [actionConstraintAttenuates] at h
    | exactBodyDigest other =>
      simp only [actionConstraintAttenuates, actionConstraintAllows, digestsEqual_iff,
        bodyDigestSetContains_iff] at h ha ⊢
      rw [← ha]
      exact h
    | allowedBodyDigests allowed =>
      simp only [actionConstraintAttenuates, actionConstraintAllows, bodyDigestSetIsSubset_iff,
        bodyDigestSetContains_iff] at h ha ⊢
      exact h ha

structure BudgetCeiling where
  algebra : BudgetAlgebraId
  value : UInt64
  deriving DecidableEq

def budgetCeilingAttenuates (child parent : BudgetCeiling) : Bool :=
  child.algebra.str == parent.algebra.str && child.value ≤ parent.value

theorem budgetCeilingAttenuates_iff {child parent : BudgetCeiling} :
    budgetCeilingAttenuates child parent = true ↔
      child.algebra = parent.algebra ∧ child.value ≤ parent.value := by
  simp [budgetCeilingAttenuates, BoundedString.str_injective.eq_iff]

def BudgetCeiling.covers (ceiling requested : BudgetCeiling) : Bool :=
  budgetCeilingAttenuates requested ceiling

def optionalBudgetAttenuates (child parent : Option BudgetCeiling) : Bool :=
  match child, parent with
  | _, none => true
  | some child, some parent => budgetCeilingAttenuates child parent
  | none, some _ => false

def optionalBudgetCovers (ceiling requested : Option BudgetCeiling) : Bool :=
  match ceiling, requested with
  | none, _ => true
  | some _, none => false
  | some ceiling, some requested => ceiling.covers requested

theorem budgetCeilingAttenuates_trans {a b c : BudgetCeiling}
    (hab : budgetCeilingAttenuates a b = true) (hbc : budgetCeilingAttenuates b c = true) :
    budgetCeilingAttenuates a c = true := by
  rw [budgetCeilingAttenuates_iff] at *
  exact ⟨hab.1.trans hbc.1, hab.2.trans hbc.2⟩

/-- A ceiling that attenuates another covers no request the other refuses. -/
theorem optionalBudgetCovers_of_attenuates {child parent requested : Option BudgetCeiling}
    (h : optionalBudgetAttenuates child parent = true)
    (hc : optionalBudgetCovers child requested = true) :
    optionalBudgetCovers parent requested = true := by
  cases parent with
  | none => rfl
  | some parent =>
    cases child with
    | none => simp [optionalBudgetAttenuates] at h
    | some child =>
      cases requested with
      | none => simp [optionalBudgetCovers] at hc
      | some requested => exact budgetCeilingAttenuates_trans hc h

inductive ProfileBudgetExpression where
  | expressible
  | inexpressible
  deriving DecidableEq

def budgetCeilingCoversAction (ceiling requested : Option BudgetCeiling)
    (expression : ProfileBudgetExpression) : Bool :=
  match requested, expression with
  | none, .inexpressible => true
  | _, _ => optionalBudgetCovers ceiling requested

/-- A non-zero maximum age in seconds. -/
structure FreshnessLimit where
  seconds : UInt64
  nonzero : seconds ≠ 0
  deriving DecidableEq

def FreshnessLimit.new (seconds : UInt64) : Except ModelError FreshnessLimit :=
  if h : seconds = 0 then .error .invalidStatus else .ok ⟨seconds, h⟩

@[simp] theorem FreshnessLimit.new_seconds (f : FreshnessLimit) :
    FreshnessLimit.new f.seconds = .ok f := by
  simp [FreshnessLimit.new, f.nonzero]

inductive StatusPolicy where
  | expiryOnly
  | snapshotRequired (method : StatusMethodId) (maxAge : FreshnessLimit)
  deriving DecidableEq

def statusPolicyAttenuates (child parent : StatusPolicy) : Bool :=
  match child, parent with
  | _, .expiryOnly => true
  | .snapshotRequired childMethod childAge, .snapshotRequired parentMethod parentAge =>
    childMethod.str == parentMethod.str && childAge.seconds ≤ parentAge.seconds
  | .expiryOnly, .snapshotRequired .. => false

theorem statusPolicyAttenuates_refl (p : StatusPolicy) : statusPolicyAttenuates p p = true := by
  cases p <;> simp [statusPolicyAttenuates]

theorem statusPolicyAttenuates_trans {a b c : StatusPolicy}
    (hab : statusPolicyAttenuates a b = true) (hbc : statusPolicyAttenuates b c = true) :
    statusPolicyAttenuates a c = true := by
  cases c with
  | expiryOnly => cases a <;> rfl
  | snapshotRequired method age =>
    cases b with
    | expiryOnly => simp [statusPolicyAttenuates] at hbc
    | snapshotRequired method' age' =>
      cases a with
      | expiryOnly => simp [statusPolicyAttenuates] at hab
      | snapshotRequired method'' age'' =>
        simp only [statusPolicyAttenuates, Bool.and_eq_true, beq_iff_eq, decide_eq_true_eq]
          at hab hbc ⊢
        exact ⟨hab.1.trans hbc.1, hab.2.trans hbc.2⟩

def hardMaxExtensions : Nat := 32
def hardMaxExtensionBytes : Nat := 65536

structure CriticalExtension where
  id : ExtensionId
  bytes : Bytes
  bounded : bytes.length ≤ hardMaxExtensionBytes
  deriving DecidableEq

def CriticalExtension.new (id : ExtensionId) (bytes : Bytes) :
    Except ModelError CriticalExtension :=
  if h : bytes.length ≤ hardMaxExtensionBytes then .ok ⟨id, bytes, h⟩ else .error .invalidExtension

@[simp] theorem CriticalExtension.new_self (e : CriticalExtension) :
    CriticalExtension.new e.id e.bytes = .ok e := by
  simp [CriticalExtension.new, e.bounded]

def CriticalExtension.key (e : CriticalExtension) : ExtensionId ×ₗ Bytes := toLex (e.id, e.bytes)

/-- Critical extensions in identifier order, at most one for each identifier. -/
structure CriticalExtensions where
  entries : List CriticalExtension
  bounded : entries.length ≤ hardMaxExtensions
  sorted : entries.Pairwise (fun a b => a.id < b.id)
  deriving DecidableEq

theorem CriticalExtension.id_le_of_key_le {a b : CriticalExtension} (h : a.key ≤ b.key) :
    a.id ≤ b.id := by
  rcases Prod.Lex.toLex_le_toLex.mp h with h | h
  · exact h.le
  · exact h.1.le

def CriticalExtensions.new (extensions : List CriticalExtension) :
    Except ModelError CriticalExtensions :=
  if hlen : hardMaxExtensions < extensions.length then .error .invalidExtension
  else if hd : adjacentDistinct ((sortByKey CriticalExtension.key extensions).map (·.id)) = true then
    .ok {
      entries := sortByKey CriticalExtension.key extensions
      bounded := by simpa using hlen
      sorted := pairwise_lt_of_adjacentDistinct
        ((sortByKey_pairwise CriticalExtension.key extensions).imp
          CriticalExtension.id_le_of_key_le) hd }
  else .error .duplicateExtension

@[simp] theorem CriticalExtensions.new_entries (e : CriticalExtensions) :
    CriticalExtensions.new e.entries = .ok e := by
  have hsort : sortByKey CriticalExtension.key e.entries = e.entries :=
    sortByKey_of_pairwise (e.sorted.imp fun h => (Prod.Lex.toLex_lt_toLex.mpr (Or.inl h)).le)
  have hdistinct := adjacentDistinct_of_pairwise_lt e.sorted
  have hlen := e.bounded.not_gt
  simp [CriticalExtensions.new, hsort, hdistinct, hlen]

def CriticalExtensions.empty : CriticalExtensions := ⟨[], by simp, List.Pairwise.nil⟩

/-- The attenuation laws of the critical-extension handlers; `none` marks an absent payload. -/
structure CriticalExtensionLaws where
  attenuates : ExtensionId → Option Bytes → Option Bytes → Bool

def criticalExtensionFind (extensions : CriticalExtensions) (id : ExtensionId) :
    Option CriticalExtension :=
  extensions.entries.find? fun extension => extension.id.str == id.str

end AuthsProof
