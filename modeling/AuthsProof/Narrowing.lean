import AuthsProof.Approval
import AuthsProof.Observation

/-! The laws by which a child grant may narrow the critical extensions of its parent: observation
requirements, approval requirements and bounded-policy commitments. -/

namespace AuthsProof

def observerAnchorIdEqual (left right : ObserverAnchorId) : Bool := left.str == right.str

def observationSchemaEqual (left right : ObservationSchemaId) : Bool := left.str == right.str

def observationSubjectEqual (expected observed : ResourceId) : Bool := expected.str == observed.str

def factNameEqual (left right : FactName) : Bool := left.str == right.str

def requirementSubjectEqual : ObservationSubject → ObservationSubject → Bool
  | .resource left, .resource right => observationSubjectEqual left right
  | .actionFact left, .actionFact right => factNameEqual left right
  | _, _ => false

/-- Positional equality, which is equality of the canonical encodings. -/
def memberValuesEqual (left right : MemberValues) : Bool :=
  left.items.length == right.items.length &&
    (left.items.zip right.items).all fun (a, b) => factValueEqual a b

def conditionTestEqual : ConditionTest → ConditionTest → Bool
  | .eqLiteral left, .eqLiteral right => factValueEqual left right
  | .eqAction left, .eqAction right => factNameEqual left right
  | .uintRange left, .uintRange right => left.lo == right.lo && left.hi == right.hi
  | .member left, .member right => memberValuesEqual left right
  | _, _ => false

def observationConditionEqual (left right : ObservationCondition) : Bool :=
  factNameEqual left.name right.name && conditionTestEqual left.test right.test

def observationConditionsContain (conditions : List ObservationCondition)
    (condition : ObservationCondition) : Bool :=
  conditions.any fun item => observationConditionEqual item condition

/-- Every atom of `wider` occurs in `narrower`. -/
def observationConditionsInclude (narrower wider : List ObservationCondition) : Bool :=
  wider.all (observationConditionsContain narrower)

def observationConditionsEqual (left right : List ObservationCondition) : Bool :=
  left.length == right.length && (left.zip right).all fun (a, b) => observationConditionEqual a b

def observationRequirementSameTarget (child parent : ObservationRequirement) : Bool :=
  observerAnchorIdEqual child.observerAnchor parent.observerAnchor &&
    observationSchemaEqual child.schema parent.schema &&
    requirementSubjectEqual child.subject parent.subject

def observationRequirementEqual (child parent : ObservationRequirement) : Bool :=
  observationRequirementSameTarget child parent &&
    child.maxAgeSeconds == parent.maxAgeSeconds &&
    observationConditionsEqual child.conditions parent.conditions

/-- The same target, an age no larger, a superset of the atoms, and one of the two strictly so. -/
def observationRequirementNarrows (child parent : ObservationRequirement) : Bool :=
  if !observationRequirementSameTarget child parent then false
  else if parent.maxAgeSeconds < child.maxAgeSeconds then false
  else if !observationConditionsInclude child.conditions parent.conditions then false
  else if child.maxAgeSeconds < parent.maxAgeSeconds then true
  else !observationConditionsInclude parent.conditions child.conditions

def observationRequirementCovers (child parent : ObservationRequirement) : Bool :=
  observationRequirementEqual child parent || observationRequirementNarrows child parent

def observationRequirementRetained (child : ObservationRequirements)
    (parent : ObservationRequirement) : Bool :=
  child.items.any fun requirement => observationRequirementCovers requirement parent

/-- Every parent requirement is covered by some child requirement; the child may add more. -/
def observationRequirementsAttenuate (child parent : ObservationRequirements) : Bool :=
  parent.items.all (observationRequirementRetained child)

def principalIdsContain (principals : List PrincipalId) (principal : PrincipalId) : Bool :=
  principals.any fun item => principalIdEqual item principal

def principalIdsSubset (narrower wider : List PrincipalId) : Bool :=
  narrower.all (principalIdsContain wider)

def approvalRequirementCovers (child parent : ApprovalRequirement) : Bool :=
  principalIdsSubset child.approvers.items parent.approvers.items && parent.threshold ≤ child.threshold

def approvalRequirementRetained (child : ApprovalRequirements) (parent : ApprovalRequirement) : Bool :=
  child.items.any fun requirement => approvalRequirementCovers requirement parent

def approvalRequirementsAttenuate (child parent : ApprovalRequirements) : Bool :=
  parent.items.all (approvalRequirementRetained child)

def maxBoundedPolicyBytes : Nat := 4096
def maxPolicyIdentifierBytes : Nat := 128
def maxPolicyCanonicalizationBytes : Nat := 64
def boundedPolicyDigestDomain : String := "auths.bounded-policy.v1"
def boundedPolicyLinkDomain : String := "auths.bounded-policy-commitment.v1"

def isPolicyChar (c : Char) : Bool :=
  c.isAlphanum || c == '.' || c == '/' || c == ':' || c == '_' || c == '-'

/-- A closed-vocabulary ASCII identifier. -/
@[ext] structure PolicyIdentifier where
  str : String
  nonempty : str ≠ ""
  vocabulary : str.toList.all isPolicyChar = true

instance : DecidableEq PolicyIdentifier := fun _ _ => decidable_of_iff' _ PolicyIdentifier.ext_iff

def PolicyIdentifier.parse (value : String) (maximum : Nat) : Except ModelError PolicyIdentifier :=
  if h : value ≠ "" ∧ value.utf8ByteSize ≤ maximum ∧ value.toList.all isPolicyChar = true then
    .ok ⟨value, h.1, h.2.2⟩
  else .error .invalidBoundedPolicy

structure PolicyCommitment where
  policyType : PolicyIdentifier
  policyVersion : UInt16
  canonicalizationId : PolicyIdentifier
  policyDigest : Digest
  evaluatorSemanticId : PolicyIdentifier
  bounded : policyVersion ≠ 0 ∧ policyType.str.utf8ByteSize ≤ maxPolicyIdentifierBytes ∧
    canonicalizationId.str.utf8ByteSize ≤ maxPolicyCanonicalizationBytes ∧
    evaluatorSemanticId.str.utf8ByteSize ≤ maxPolicyIdentifierBytes
  deriving DecidableEq

def PolicyCommitment.new (policyType : PolicyIdentifier) (policyVersion : UInt16)
    (canonicalizationId : PolicyIdentifier) (policyDigest : Digest)
    (evaluatorSemanticId : PolicyIdentifier) : Except ModelError PolicyCommitment :=
  if h : policyVersion ≠ 0 ∧ policyType.str.utf8ByteSize ≤ maxPolicyIdentifierBytes ∧
      canonicalizationId.str.utf8ByteSize ≤ maxPolicyCanonicalizationBytes ∧
      evaluatorSemanticId.str.utf8ByteSize ≤ maxPolicyIdentifierBytes then
    .ok ⟨policyType, policyVersion, canonicalizationId, policyDigest, evaluatorSemanticId, h⟩
  else .error .invalidBoundedPolicy

@[ext] structure BoundedPolicyCommitment where
  commitment : PolicyCommitment
  policy : Bytes
  parent : Option Digest
  nonempty : policy ≠ []
  bounded : policy.length ≤ maxBoundedPolicyBytes

instance : DecidableEq BoundedPolicyCommitment := fun _ _ => decidable_of_iff' _ BoundedPolicyCommitment.ext_iff

def BoundedPolicyCommitment.new (commitment : PolicyCommitment) (policy : Bytes)
    (parent : Option Digest) : Except ModelError BoundedPolicyCommitment :=
  if hne : policy = [] then .error .invalidBoundedPolicy
  else if hlen : maxBoundedPolicyBytes < policy.length then .error .collectionLimitExceeded
  else .ok ⟨commitment, policy, parent, hne, not_lt.mp hlen⟩

def digestEqual (left right : Digest) : Bool := left.bytes == right.bytes

/-- A child that keeps the extension links exactly its parent's bytes; one that adds it links
nothing. -/
def boundedPolicyLinkAccepts (childLink parentDigest : Option Digest) : Bool :=
  match childLink with
  | some childLink =>
    match parentDigest with
    | some parentDigest => digestEqual childLink parentDigest
    | none => false
  | none => parentDigest.isNone

end AuthsProof
