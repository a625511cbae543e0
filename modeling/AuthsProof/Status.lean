import AuthsProof.Anchor

/-! Status snapshots: the lifecycle facts a context carries, the issuers it trusts for them and the
trust anchors under which each issuer counts. -/

namespace AuthsProof

open Sorting

def hardMaxStatus : Nat := 512
def hardMaxEvidence : Nat := 512
def hardMaxTrustAnchors : Nat := 1024

abbrev StatusScopeAnchors := BoundedSet TrustAnchorId hardMaxTrustAnchors

def StatusScopeAnchors.new (anchors : List TrustAnchorId) : Except ModelError StatusScopeAnchors :=
  setOfItems hardMaxTrustAnchors .invalidStatusSnapshot .invalidStatusSnapshot anchors

/-- The trust anchors under which the statements of a status issuer count. -/
inductive StatusScope where
  | ownAnchor
  | anchors (listed : StatusScopeAnchors)
  | anyAnchor
  deriving DecidableEq

def StatusScope.covers (scope : StatusScope) (issuer : PrincipalId) (anchor : TrustAnchor) : Bool :=
  match scope with
  | .ownAnchor => anchor.principal = issuer
  | .anchors listed => anchor.id ∈ listed.items
  | .anyAnchor => true

def StatusScope.key : StatusScope → Nat ×ₗ List TrustAnchorId
  | .ownAnchor => toLex (0, [])
  | .anchors listed => toLex (1, listed.items)
  | .anyAnchor => toLex (2, [])

/-- A status issuer trusted for one method, from a sequence on. -/
structure StatusTrustRule where
  method : StatusMethodId
  issuer : PrincipalId
  sequenceFloor : UInt64
  scope : StatusScope
  deriving DecidableEq

def StatusTrustRule.named (rule : StatusTrustRule) : StatusMethodId ×ₗ PrincipalId :=
  toLex (rule.method, rule.issuer)

def StatusTrustRule.key (rule : StatusTrustRule) :
    (StatusMethodId ×ₗ PrincipalId) ×ₗ (UInt64 ×ₗ (Nat ×ₗ List TrustAnchorId)) :=
  toLex (rule.named, toLex (rule.sequenceFloor, rule.scope.key))

def statusIssuerInScope (trust : List StatusTrustRule) (issuer : PrincipalId)
    (anchor : TrustAnchor) : Bool :=
  (trust.filter fun rule => rule.issuer = issuer).all fun rule => rule.scope.covers issuer anchor

/-- Whose status evaluation a statement may take part in. -/
inductive StatusView where
  | anchor (anchor : TrustAnchor)
  | approver
  deriving DecidableEq

def statusIssuerVisible (trust : List StatusTrustRule) (issuer : PrincipalId) :
    StatusView → Bool
  | .anchor anchor => statusIssuerInScope trust issuer anchor
  | .approver => (trust.filter fun rule => rule.issuer = issuer).all fun rule =>
      rule.scope = .anyAnchor

section Snapshot

variable {σ : Type} [LinearOrder σ]

/-- The order of the statements of a snapshot: subject, method, sequence, issuer. -/
def SignedStatus.key (status : SignedStatus σ) :
    σ ×ₗ (StatusMethodId ×ₗ (UInt64 ×ₗ PrincipalId)) :=
  toLex (status.statement.subject, toLex (status.statement.method,
    toLex (status.statement.sequence, status.statement.issuer)))

variable (σ) in
/-- The status facts of one kind a context carries. -/
@[ext] structure StatusSnapshot where
  id : StatusSnapshotId
  observedAt : Timestamp
  validUntil : Timestamp
  statements : List (SignedStatus σ)
  checkpoints : CanonicalList EvidenceId hardMaxEvidence
  trust : List StatusTrustRule
  ordered : observedAt ≤ validUntil
  statementsBounded : statements.length ≤ hardMaxStatus
  statementsSorted : statements.Pairwise fun a b => a.key ≤ b.key
  statementsDistinct : adjacentDistinct (statements.map SignedStatus.statement) = true
  statementsCover : ∀ status ∈ statements, status.statement.observedAt ≤ observedAt ∧
    validUntil ≤ status.statement.validUntil
  trustBounded : trust.length ≤ hardMaxRegistryEntries
  trustSorted : trust.Pairwise fun a b => a.named < b.named

instance [DecidableEq σ] : DecidableEq (StatusSnapshot σ) := fun _ _ =>
  decidable_of_iff' _ StatusSnapshot.ext_iff

abbrev PrincipalStatusSnapshot := StatusSnapshot PrincipalId
abbrev GrantStatusSnapshot := StatusSnapshot GrantId

theorem StatusTrustRule.named_le_of_key_le {a b : StatusTrustRule} (h : a.key ≤ b.key) :
    a.named ≤ b.named := by
  rcases Prod.Lex.toLex_le_toLex.mp h with h | h
  · exact h.le
  · exact h.1.le

/-- `PrincipalStatusSnapshot::with_trust` and its grant twin, which differ in nothing but the type of
the subject. Every failure has the one error. -/
def StatusSnapshot.withTrust (id : StatusSnapshotId) (observedAt validUntil : Timestamp)
    (statements : List (SignedStatus σ)) (checkpoints : List EvidenceId)
    (trust : List StatusTrustRule) : Except ModelError (StatusSnapshot σ) :=
  let sorted := sortByKey SignedStatus.key statements
  let rules := sortByKey StatusTrustRule.key trust
  if h : observedAt ≤ validUntil ∧ statements.length ≤ hardMaxStatus ∧
      checkpoints.length ≤ hardMaxEvidence ∧ trust.length ≤ hardMaxRegistryEntries ∧
      adjacentDistinct (sorted.map SignedStatus.statement) = true ∧
      (∀ status ∈ sorted, status.statement.observedAt ≤ observedAt ∧
        validUntil ≤ status.statement.validUntil) ∧
      adjacentDistinct (rules.map StatusTrustRule.named) = true then
    .ok {
      id, observedAt, validUntil
      statements := sorted
      checkpoints := ⟨sortDedup checkpoints, (sortDedup_length_le _).trans h.2.2.1,
        sortDedup_pairwise _⟩
      trust := rules
      ordered := h.1
      statementsBounded := by simpa [sorted] using h.2.1
      statementsSorted := sortByKey_pairwise _ _
      statementsDistinct := h.2.2.2.2.1
      statementsCover := h.2.2.2.2.2.1
      trustBounded := by simpa [rules] using h.2.2.2.1
      trustSorted := pairwise_lt_of_adjacentDistinct
        ((sortByKey_pairwise StatusTrustRule.key trust).imp StatusTrustRule.named_le_of_key_le) h.2.2.2.2.2.2 }
  else .error .invalidStatusSnapshot

theorem StatusSnapshot.ext_parts {a b : StatusSnapshot σ} (hid : a.id = b.id)
    (hobserved : a.observedAt = b.observedAt) (hvalid : a.validUntil = b.validUntil)
    (hstatements : a.statements = b.statements) (hcheckpoints : a.checkpoints = b.checkpoints)
    (htrust : a.trust = b.trust) : a = b := by
  cases a
  cases b
  simp only at hid hobserved hvalid hstatements hcheckpoints htrust
  subst hid hobserved hvalid hstatements hcheckpoints htrust
  rfl

theorem StatusSnapshot.trust_sortByKey (s : StatusSnapshot σ) :
    sortByKey StatusTrustRule.key s.trust = s.trust :=
  sortByKey_of_pairwise (s.trustSorted.imp fun h => (Prod.Lex.toLex_lt_toLex.mpr (Or.inl h)).le)

end Snapshot

end AuthsProof
