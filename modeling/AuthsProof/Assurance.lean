import AuthsProof.Status

/-! Assurance claims, the participants that make them and the policies that ask for them. -/

namespace AuthsProof

open Sorting

inductive ParticipantRole where
  | root
  | intermediate
  | actor
  | externalIssuer
  deriving DecidableEq

def ParticipantRole.code : ParticipantRole → UInt8
  | .root => 0
  | .intermediate => 1
  | .actor => 2
  | .externalIssuer => 3

inductive AssuranceQuantifier where
  | any
  | every
  deriving DecidableEq

def AssuranceQuantifier.code : AssuranceQuantifier → UInt8
  | .any => 0
  | .every => 1

abbrev ClaimParameter := ClaimParameterId ×ₗ ClaimParameterId

/-- Claim parameters in key order, at most one for each key. -/
structure ClaimParameters where
  entries : List ClaimParameter
  bounded : entries.length ≤ hardMaxExtensions
  sorted : entries.Pairwise fun a b => (ofLex a).1 < (ofLex b).1
  deriving DecidableEq

theorem ClaimParameter.key_le {a b : ClaimParameter} (h : a ≤ b) : (ofLex a).1 ≤ (ofLex b).1 := by
  rcases Prod.Lex.le_iff.mp h with h | h
  · exact h.le
  · exact h.1.le

def ClaimParameters.new (parameters : List ClaimParameter) : Except ModelError ClaimParameters :=
  if hlen : hardMaxExtensions < parameters.length then .error .invalidAssurance
  else if hd : adjacentDistinct ((sortByKey id parameters).map fun p => (ofLex p).1) = true then
    .ok {
      entries := sortByKey id parameters
      bounded := by simpa using hlen
      sorted := pairwise_lt_of_adjacentDistinct
        ((sortByKey_pairwise id parameters).imp ClaimParameter.key_le) hd }
  else .error .invalidAssurance

@[simp] theorem ClaimParameters.new_entries (p : ClaimParameters) :
    ClaimParameters.new p.entries = .ok p := by
  have hsort : sortByKey id p.entries = p.entries :=
    sortByKey_of_pairwise (p.sorted.imp fun h => (Prod.Lex.lt_iff.mpr (Or.inl h)).le)
  have hdistinct := adjacentDistinct_of_pairwise_lt p.sorted
  have hlen := p.bounded.not_gt
  simp [ClaimParameters.new, hsort, hdistinct, hlen]

theorem ClaimParameters.entries_injective : Function.Injective ClaimParameters.entries := by
  intro a b h
  cases a
  cases b
  cases h
  rfl

/-- One parameterized claim, as the derived order compares it. -/
structure AssuranceClaim where
  kind : AssuranceClaimId
  parameters : ClaimParameters
  observedAt : Option Timestamp
  source : EvidenceSourceId
  deriving DecidableEq

def AssuranceClaim.new (kind : AssuranceClaimId) (parameters : List ClaimParameter)
    (observedAt : Option Timestamp) (source : EvidenceSourceId) : Except ModelError AssuranceClaim := do
  let parameters ← ClaimParameters.new parameters
  return ⟨kind, parameters, observedAt, source⟩

@[simp] theorem AssuranceClaim.new_self (c : AssuranceClaim) :
    AssuranceClaim.new c.kind c.parameters.entries c.observedAt c.source = .ok c := by
  simp [AssuranceClaim.new, bind, Except.bind, pure, Except.pure]

/-- An absent value comes before every present one, as the empty list does. -/
def optionKey {α : Type} (value : Option α) : List α := value.toList

theorem optionKey_injective {α : Type} : Function.Injective (@optionKey α) := by
  intro a b h
  cases a <;> cases b <;> simp_all [optionKey]

def AssuranceClaim.key (claim : AssuranceClaim) :
    AssuranceClaimId ×ₗ (List ClaimParameter ×ₗ (List Timestamp ×ₗ EvidenceSourceId)) :=
  toLex (claim.kind, toLex (claim.parameters.entries, toLex (optionKey claim.observedAt, claim.source)))

theorem AssuranceClaim.key_injective : Function.Injective AssuranceClaim.key := by
  intro a b h
  obtain ⟨kind, parameters, observedAt, source⟩ := a
  obtain ⟨kind', parameters', observedAt', source'⟩ := b
  simp only [AssuranceClaim.key, EmbeddingLike.apply_eq_iff_eq, Prod.mk.injEq] at h
  obtain ⟨rfl, hparameters, hobserved, rfl⟩ := h
  obtain rfl := ClaimParameters.entries_injective hparameters
  obtain rfl := optionKey_injective hobserved
  rfl

instance : LinearOrder AssuranceClaim := orderByKey AssuranceClaim.key AssuranceClaim.key_injective

/-- The evidence of one principal in one role of a chain. -/
structure ParticipantAssurance where
  principal : PrincipalId
  role : ParticipantRole
  claims : CanonicalList AssuranceClaim hardMaxEvidence
  evidence : CanonicalList EvidenceId hardMaxEvidence
  adapter : AdapterId
  adapterVersion : UInt16
  deriving DecidableEq

def ParticipantAssurance.new (principal : PrincipalId) (role : ParticipantRole)
    (claims : List AssuranceClaim) (evidence : List EvidenceId) (adapter : AdapterId)
    (adapterVersion : UInt16) : Except ModelError ParticipantAssurance := do
  let claims ← CanonicalList.ofSortDedup _ .invalidAssurance claims
  let evidence ← CanonicalList.ofSortDedup _ .invalidAssurance evidence
  return { principal, role, claims, evidence, adapter, adapterVersion }

@[simp] theorem ParticipantAssurance.new_self (p : ParticipantAssurance) :
    ParticipantAssurance.new p.principal p.role p.claims.items p.evidence.items p.adapter
      p.adapterVersion = .ok p := by
  simp [ParticipantAssurance.new, bind, Except.bind, pure, Except.pure]

/-- An exact constraint on the claims of the participants in one role. -/
structure AssuranceRequirement where
  role : ParticipantRole
  quantifier : AssuranceQuantifier
  claimKind : AssuranceClaimId
  parameters : ClaimParameters
  source : Option EvidenceSourceId
  adapter : Option AdapterId
  adapterVersion : Option UInt16
  maximumAge : Option FreshnessLimit
  versionNonzero : adapterVersion ≠ some 0
  versionNeedsAdapter : adapterVersion.isSome = true → adapter.isSome = true
  deriving DecidableEq

def AssuranceRequirement.constrained (role : ParticipantRole) (quantifier : AssuranceQuantifier)
    (claimKind : AssuranceClaimId) (parameters : List ClaimParameter)
    (source : Option EvidenceSourceId) (adapter : Option AdapterId) (adapterVersion : Option UInt16)
    (maximumAge : Option FreshnessLimit) : Except ModelError AssuranceRequirement := do
  let parameters ← ClaimParameters.new parameters
  if h : adapterVersion ≠ some 0 ∧ (adapterVersion.isSome = true → adapter.isSome = true) then
    .ok { role, quantifier, claimKind, parameters, source, adapter, adapterVersion, maximumAge,
          versionNonzero := h.1, versionNeedsAdapter := h.2 }
  else .error .invalidAssurance

@[simp] theorem AssuranceRequirement.constrained_self (r : AssuranceRequirement) :
    AssuranceRequirement.constrained r.role r.quantifier r.claimKind r.parameters.entries r.source
      r.adapter r.adapterVersion r.maximumAge = .ok r := by
  have hversion : r.adapterVersion ≠ some 0 ∧
      (r.adapterVersion.isSome = true → r.adapter.isSome = true) :=
    ⟨r.versionNonzero, r.versionNeedsAdapter⟩
  rw [AssuranceRequirement.constrained, ClaimParameters.new_entries]
  exact dif_pos hversion

def AssuranceRequirement.key (r : AssuranceRequirement) :
    UInt8 ×ₗ (UInt8 ×ₗ (AssuranceClaimId ×ₗ (List ClaimParameter ×ₗ (List EvidenceSourceId ×ₗ
      (List AdapterId ×ₗ (List UInt16 ×ₗ List UInt64)))))) :=
  toLex (r.role.code, toLex (r.quantifier.code, toLex (r.claimKind, toLex (r.parameters.entries,
    toLex (optionKey r.source, toLex (optionKey r.adapter, toLex (optionKey r.adapterVersion,
      optionKey (r.maximumAge.map FreshnessLimit.seconds))))))))

theorem ParticipantRole.code_injective : Function.Injective ParticipantRole.code := by
  intro a b h
  cases a <;> cases b <;> first | rfl | cases h

theorem AssuranceQuantifier.code_injective : Function.Injective AssuranceQuantifier.code := by
  intro a b h
  cases a <;> cases b <;> first | rfl | cases h

theorem FreshnessLimit.seconds_injective : Function.Injective FreshnessLimit.seconds := by
  intro a b h
  cases a
  cases b
  cases h
  rfl

theorem AssuranceRequirement.key_injective : Function.Injective AssuranceRequirement.key := by
  intro a b h
  obtain ⟨role, quantifier, claimKind, parameters, source, adapter, version, age, h0, ha⟩ := a
  obtain ⟨role', quantifier', claimKind', parameters', source', adapter', version', age', h0', ha'⟩ :=
    b
  simp only [AssuranceRequirement.key, EmbeddingLike.apply_eq_iff_eq, Prod.mk.injEq] at h
  obtain ⟨hrole, hquantifier, rfl, hparameters, hsource, hadapter, hversion, hage⟩ := h
  obtain rfl := ParticipantRole.code_injective hrole
  obtain rfl := AssuranceQuantifier.code_injective hquantifier
  obtain rfl := ClaimParameters.entries_injective hparameters
  obtain rfl := optionKey_injective hsource
  obtain rfl := optionKey_injective hadapter
  obtain rfl := optionKey_injective hversion
  obtain rfl := Option.map_injective FreshnessLimit.seconds_injective (optionKey_injective hage)
  rfl

instance : LinearOrder AssuranceRequirement :=
  orderByKey AssuranceRequirement.key AssuranceRequirement.key_injective

structure AssurancePolicy where
  id : AssurancePolicyId
  requirements : CanonicalList AssuranceRequirement hardMaxEvidence
  deriving DecidableEq

def AssurancePolicy.new (id : AssurancePolicyId) (requirements : List AssuranceRequirement) :
    Except ModelError AssurancePolicy := do
  let requirements ← CanonicalList.ofBounded _ .invalidAssurance requirements
  return ⟨id, requirements⟩

@[simp] theorem AssurancePolicy.new_self (p : AssurancePolicy) :
    AssurancePolicy.new p.id p.requirements.items = .ok p := by
  simp [AssurancePolicy.new, bind, Except.bind, pure, Except.pure]

/-- How one requirement was satisfied. -/
structure AssuranceSatisfaction where
  requirementIndex : UInt16
  principal : PrincipalId
  claim : AssuranceClaim
  evidence : List EvidenceId
  deriving DecidableEq

def AssuranceSatisfaction.key (s : AssuranceSatisfaction) :
    UInt16 ×ₗ (PrincipalId ×ₗ (AssuranceClaim ×ₗ List EvidenceId)) :=
  toLex (s.requirementIndex, toLex (s.principal, toLex (s.claim, s.evidence)))

theorem AssuranceSatisfaction.key_injective : Function.Injective AssuranceSatisfaction.key := by
  intro a b h
  cases a
  cases b
  simpa [AssuranceSatisfaction.key] using h

instance : LinearOrder AssuranceSatisfaction :=
  orderByKey AssuranceSatisfaction.key AssuranceSatisfaction.key_injective

end AuthsProof
