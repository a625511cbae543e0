import AuthsProof.Assurance

/-! Evidence-conditioned authority: observed facts, the conditions a grant puts on them and the
observers a verifier trusts. -/

namespace AuthsProof

open Sorting

def maxObservationFacts : Nat := 16
def maxFactValueBytes : Nat := 64
def maxFactValueTextBytes : Nat := 256
def maxObservationConditions : Nat := 16
def maxMemberValues : Nat := 16
def maxObservationRequirementsPerGrant : Nat := 8
def maxObservationRequirementsPerChain : Nat := 32
def maxObservationAttachments : Nat := 32
def maxObservationBytes : Nat := 4096
def maxObservationAgeSeconds : UInt32 := 86400
def maxObserverAnchors : Nat := 32
def maxObservationEvidence : Nat := 4

def observationMediaType : String := "application/vnd.auths.observation.v1+cbor"

abbrev ObservationSchemaId := BoundedString 128
abbrev ObserverAnchorId := BoundedString 128
abbrev FactName := BoundedString 128

def ObservationSchemaId.parse : String → Except ModelError ObservationSchemaId :=
  parseBounded 128 .invalidObservation
def ObserverAnchorId.parse : String → Except ModelError ObserverAnchorId :=
  parseBounded 128 .invalidObserverAnchor
def FactName.parse : String → Except ModelError FactName := parseBounded 128 .invalidObservation

structure FactBytes where
  bytes : Bytes
  bounded : bytes.length ≤ maxFactValueBytes
  deriving DecidableEq

def FactBytes.new (bytes : Bytes) : Except ModelError FactBytes :=
  if h : bytes.length ≤ maxFactValueBytes then .ok ⟨bytes, h⟩ else .error .invalidObservation

structure FactText where
  str : String
  bounded : str.utf8ByteSize ≤ maxFactValueTextBytes
  deriving DecidableEq

def FactText.new (value : String) : Except ModelError FactText :=
  if h : value.utf8ByteSize ≤ maxFactValueTextBytes then .ok ⟨value, h⟩
  else .error .invalidObservation

inductive FactValue where
  | uint (value : UInt64)
  | bytes (value : FactBytes)
  | text (value : FactText)
  deriving DecidableEq

structure ObservationFact where
  name : FactName
  value : FactValue
  deriving DecidableEq

/-- Facts in name order, one for each name. -/
structure ObservationFacts where
  entries : List ObservationFact
  nonempty : entries ≠ []
  bounded : entries.length ≤ maxObservationFacts
  sorted : entries.Pairwise fun a b => a.name < b.name
  deriving DecidableEq

def ObservationFacts.new (facts : List ObservationFact) : Except ModelError ObservationFacts :=
  let sorted := sortByKey ObservationFact.name facts
  if h : sorted ≠ [] ∧ sorted.length ≤ maxObservationFacts ∧
      adjacentDistinct (sorted.map ObservationFact.name) = true then
    .ok ⟨sorted, h.1, h.2.1, pairwise_lt_of_adjacentDistinct (sortByKey_pairwise _ _) h.2.2⟩
  else .error .invalidObservation

structure ObservationStatement where
  observer : PrincipalId
  schema : ObservationSchemaId
  subject : ResourceId
  observedAt : Timestamp
  facts : ObservationFacts
  deriving DecidableEq

@[ext] structure SignedObservation where
  statement : ObservationStatement
  signature : SignatureEnvelope
  evidence : List EvidenceObject
  bounded : evidence.length ≤ maxObservationEvidence
  sorted : evidence.Pairwise fun a b => a.id < b.id

instance : DecidableEq SignedObservation := fun _ _ => decidable_of_iff' _ SignedObservation.ext_iff

theorem observationEvidence_sorted {evidence : List EvidenceObject}
    (hd : adjacentDistinct ((sortByKey EvidenceObject.id evidence).map EvidenceObject.id) = true) :
    (sortByKey EvidenceObject.id evidence).Pairwise fun a b => a.id < b.id :=
  pairwise_lt_of_adjacentDistinct (sortByKey_pairwise _ _) hd

def SignedObservation.new (statement : ObservationStatement) (signature : SignatureEnvelope)
    (evidence : List EvidenceObject) : Except ModelError SignedObservation :=
  if hlen : maxObservationEvidence < evidence.length then .error .invalidObservation
  else if hd : adjacentDistinct ((sortByKey EvidenceObject.id evidence).map EvidenceObject.id) = true
  then
    .ok {
      statement, signature
      evidence := sortByKey EvidenceObject.id evidence
      bounded := by simpa using hlen
      sorted := observationEvidence_sorted hd }
  else .error .invalidObservation

/-- The subject a requirement binds: a literal resource or one named by an action fact. -/
inductive ObservationSubject where
  | resource (resource : ResourceId)
  | actionFact (name : FactName)
  deriving DecidableEq

structure UintRange where
  lo : UInt64
  hi : UInt64
  ordered : lo ≤ hi
  deriving DecidableEq

def UintRange.new (lo hi : UInt64) : Except ModelError UintRange :=
  if h : lo ≤ hi then .ok ⟨lo, hi, h⟩ else .error .invalidObservationRequirement

structure MemberValues where
  items : List FactValue
  nonempty : items ≠ []
  bounded : items.length ≤ maxMemberValues
  distinct : items.Nodup
  deriving DecidableEq

def MemberValues.new (values : List FactValue) : Except ModelError MemberValues :=
  if h : values ≠ [] ∧ values.length ≤ maxMemberValues ∧ values.Nodup then
    .ok ⟨values, h.1, h.2.1, h.2.2⟩
  else .error .invalidObservationRequirement

inductive ConditionTest where
  | eqLiteral (literal : FactValue)
  | eqAction (name : FactName)
  | uintRange (range : UintRange)
  | member (values : MemberValues)
  deriving DecidableEq

structure ObservationCondition where
  name : FactName
  test : ConditionTest
  deriving DecidableEq

def ObservationCondition.actionFact (condition : ObservationCondition) : Option FactName :=
  match condition.test with
  | .eqAction name => some name
  | _ => none

structure ObservationRequirement where
  observerAnchor : ObserverAnchorId
  schema : ObservationSchemaId
  subject : ObservationSubject
  maxAgeSeconds : UInt32
  conditions : List ObservationCondition
  agePositive : maxAgeSeconds ≠ 0
  ageBounded : maxAgeSeconds ≤ maxObservationAgeSeconds
  nonempty : conditions ≠ []
  bounded : conditions.length ≤ maxObservationConditions
  deriving DecidableEq

def ObservationRequirement.new (observerAnchor : ObserverAnchorId) (schema : ObservationSchemaId)
    (subject : ObservationSubject) (maxAgeSeconds : UInt32)
    (conditions : List ObservationCondition) : Except ModelError ObservationRequirement :=
  if h : maxAgeSeconds ≠ 0 ∧ maxAgeSeconds ≤ maxObservationAgeSeconds ∧ conditions ≠ [] ∧
      conditions.length ≤ maxObservationConditions then
    .ok ⟨observerAnchor, schema, subject, maxAgeSeconds, conditions, h.1, h.2.1, h.2.2.1, h.2.2.2⟩
  else .error .invalidObservationRequirement

/-- The requirements a grant carries in its critical extension, in signed order. -/
structure ObservationRequirements where
  items : List ObservationRequirement
  nonempty : items ≠ []
  bounded : items.length ≤ maxObservationRequirementsPerGrant
  distinct : items.Nodup

def ObservationRequirements.new (requirements : List ObservationRequirement) :
    Except ModelError ObservationRequirements :=
  if hne : requirements = [] then .error .invalidObservationRequirement
  else if hlen : maxObservationRequirementsPerGrant < requirements.length then
    .error .collectionLimitExceeded
  else if hnodup : requirements.Nodup then .ok ⟨requirements, hne, not_lt.mp hlen, hnodup⟩
  else .error .invalidObservationRequirement

/-- A trusted observer: it makes facts count and confers nothing else. -/
@[ext] structure ObserverAnchor where
  id : ObserverAnchorId
  principal : PrincipalId
  acceptedMethods : RegistryList PrincipalMethodId
  schemas : RegistryList ObservationSchemaId
  subjectNamespaces : CanonicalList ResourceId hardMaxPermissions
  validity : ValidityWindow
  methodsNonempty : acceptedMethods.items ≠ []
  schemasNonempty : schemas.items ≠ []
  namespacesNonempty : subjectNamespaces.items ≠ []

instance : DecidableEq ObserverAnchor := fun _ _ => decidable_of_iff' _ ObserverAnchor.ext_iff

def ObserverAnchor.new (id : ObserverAnchorId) (principal : PrincipalId)
    (acceptedMethods : List PrincipalMethodId) (schemas : List ObservationSchemaId)
    (subjectNamespaces : List ResourceId) (validity : ValidityWindow) :
    Except ModelError ObserverAnchor := do
  let acceptedMethods ← CanonicalList.ofSortDedup _ .invalidObserverAnchor acceptedMethods
  let schemas ← CanonicalList.ofSortDedup _ .invalidObserverAnchor schemas
  let subjectNamespaces ← CanonicalList.ofSortDedup _ .invalidObserverAnchor subjectNamespaces
  if h : acceptedMethods.items ≠ [] ∧ schemas.items ≠ [] ∧ subjectNamespaces.items ≠ [] then
    .ok { id, principal, acceptedMethods, schemas, subjectNamespaces, validity,
          methodsNonempty := h.1, schemasNonempty := h.2.1, namespacesNonempty := h.2.2 }
  else .error .invalidObserverAnchor

@[simp] theorem ObserverAnchor.new_self (a : ObserverAnchor) :
    ObserverAnchor.new a.id a.principal a.acceptedMethods.items a.schemas.items
      a.subjectNamespaces.items a.validity = .ok a := by
  simp [ObserverAnchor.new, bind, Except.bind, a.methodsNonempty, a.schemasNonempty,
    a.namespacesNonempty]

structure ObservationSatisfaction where
  requirement : ObservationRequirementId
  observation : AttachmentDigest
  deriving DecidableEq

def ObservationSatisfaction.key (s : ObservationSatisfaction) : Digest ×ₗ Digest :=
  toLex (s.requirement, s.observation)

theorem ObservationSatisfaction.key_injective : Function.Injective ObservationSatisfaction.key := by
  intro a b h
  cases a
  cases b
  simpa [ObservationSatisfaction.key] using h

instance : LinearOrder ObservationSatisfaction :=
  orderByKey ObservationSatisfaction.key ObservationSatisfaction.key_injective

inductive RequirementVerdict where
  | satisfied
  | conditionFalse
  | missing
  deriving DecidableEq

def observationFresh (observedAt evaluationTime maxAgeSeconds anchorNotBefore anchorExpiresAt : UInt64) :
    Bool :=
  if evaluationTime < observedAt then false
  else if maxAgeSeconds < evaluationTime - observedAt then false
  else anchorNotBefore ≤ observedAt && observedAt ≤ anchorExpiresAt

def observationFact (facts : ObservationFacts) (name : FactName) : Option FactValue :=
  (facts.entries.find? fun fact => fact.name.str == name.str).map ObservationFact.value

/-- Values of different types are never equal. -/
def factValueEqual : FactValue → FactValue → Bool
  | .uint left, .uint right => left == right
  | .bytes left, .bytes right => left.bytes == right.bytes
  | .text left, .text right => left.str == right.str
  | _, _ => false

def memberValuesContain (values : MemberValues) (value : FactValue) : Bool :=
  values.items.any fun item => factValueEqual item value

def conditionValueHolds (test : ConditionTest) (observed actionValue : Option FactValue) : Bool :=
  match observed with
  | none => false
  | some observed =>
    match test with
    | .eqLiteral literal => factValueEqual observed literal
    | .eqAction _ =>
      match actionValue with
      | some actionValue => factValueEqual observed actionValue
      | none => false
    | .uintRange range =>
      match observed with
      | .uint value => range.lo ≤ value && value ≤ range.hi
      | _ => false
    | .member values => memberValuesContain values observed

def observationConditionsHold (conditions : List ObservationCondition)
    (actionValues : List (Option FactValue)) (facts : ObservationFacts) : Bool :=
  if conditions.length ≠ actionValues.length then false
  else (conditions.zip actionValues).all fun (condition, actionValue) =>
    conditionValueHolds condition.test (observationFact facts condition.name) actionValue

def requirementVerdict (anyEligible anySatisfying : Bool) : RequirementVerdict :=
  if anySatisfying then .satisfied else if anyEligible then .conditionFalse else .missing

end AuthsProof
