import AuthsProof.Encode

/-! The commitments of a pure policy evaluation: the identifiers, configurations, reservation intents
and obligations a lifecycle decision is bound to. -/

namespace AuthsProof.Lifecycle

open Sorting

inductive IdentifierError where
  | empty
  | tooLong
  | invalidByte
  deriving DecidableEq

def semanticByte (byte : UInt8) : Bool :=
  (0x30 ≤ byte && byte ≤ 0x39) || (0x41 ≤ byte && byte ≤ 0x5A) || (0x61 ≤ byte && byte ≤ 0x7A) ||
    byte == 0x2E || byte == 0x2F || byte == 0x3A || byte == 0x5F || byte == 0x2D

def validateSemantic (value : String) (maximum : Nat) : Except IdentifierError Unit :=
  if value.isEmpty then .error .empty
  else if maximum < value.utf8ByteSize then .error .tooLong
  else if !(utf8 value).all semanticByte then .error .invalidByte
  else .ok ()

/-- An identifier over the closed ASCII vocabulary, of at most `maximum` bytes. -/
structure SemanticId (maximum : Nat) where
  str : String
  valid : validateSemantic str maximum = .ok ()
  deriving DecidableEq

theorem SemanticId.str_injective {maximum : Nat} : Function.Injective (@SemanticId.str maximum) := by
  intro ⟨a, ha⟩ ⟨b, hb⟩ h
  subst h
  rfl

instance {maximum : Nat} : LinearOrder (SemanticId maximum) :=
  orderByKey SemanticId.str SemanticId.str_injective

def SemanticId.parse (maximum : Nat) (value : String) :
    Except IdentifierError (SemanticId maximum) :=
  match h : validateSemantic value maximum with
  | .ok _ => .ok ⟨value, h⟩
  | .error e => .error e

@[simp] theorem SemanticId.parse_str {maximum : Nat} (x : SemanticId maximum) :
    SemanticId.parse maximum x.str = .ok x := by
  unfold SemanticId.parse
  split
  · rfl
  · next e he => rw [x.valid] at he; cases he

abbrev PolicyTypeId := SemanticId 128
abbrev EvaluatorSemanticId := SemanticId 128
abbrev CanonicalizationId := SemanticId 64
abbrev ConfigurationSemanticId := SemanticId 128
abbrev UnitId := SemanticId 64
abbrev ObligationId := SemanticId 96
abbrev IntentId := SemanticId 96
abbrev SchemaId := SemanticId 128
abbrev ImplementationId := SemanticId 128
abbrev ProfileId := SemanticId 128
abbrev EvidenceSourceId := SemanticId 128

abbrev LifecycleId := SemanticId 64
abbrev ExecutionId := SemanticId 64
abbrev ReservationId := SemanticId 64
abbrev ReconciliationId := SemanticId 64
abbrev DomainId := SemanticId 128
abbrev ExecutorAudienceId := SemanticId 128
abbrev ProviderContractId := SemanticId 128
abbrev ReservationAlgebraId := SemanticId 128

def validateWorkflow (value : String) : Except IdentifierError Unit :=
  if value.isEmpty then .error .empty
  else if 256 < value.utf8ByteSize then .error .tooLong
  else .ok ()

/-- A workflow identity, over all of UTF-8. -/
structure WorkflowId where
  str : String
  valid : validateWorkflow str = .ok ()
  deriving DecidableEq

theorem WorkflowId.str_injective : Function.Injective WorkflowId.str := by
  intro ⟨a, ha⟩ ⟨b, hb⟩ h
  subst h
  rfl

instance : LinearOrder WorkflowId := orderByKey WorkflowId.str WorkflowId.str_injective

def WorkflowId.parse (value : String) : Except IdentifierError WorkflowId :=
  match h : validateWorkflow value with
  | .ok _ => .ok ⟨value, h⟩
  | .error e => .error e

@[simp] theorem WorkflowId.parse_str (x : WorkflowId) : WorkflowId.parse x.str = .ok x := by
  unfold WorkflowId.parse
  split
  · rfl
  · next e he => rw [x.valid] at he; cases he

abbrev CommitmentDigest := Digest
abbrev DecisionReceiptDigest := Digest
abbrev DomainReceiptDigest := Digest
abbrev ExecutionIntentDigest := Digest
abbrev LifecycleReceiptDigest := Digest
abbrev ObservationDigest := Digest
abbrev ProviderConditionDigest := Digest
abbrev ProviderRequestDigest := Digest
abbrev ProviderResultDigest := Digest
abbrev RecoveryReferenceDigest := Digest
abbrev ReservationSetDigest := Digest

/-- Whole Unix seconds. -/
abbrev VerifierTime := UInt64

inductive CommitmentError where
  | zeroVersion
  deriving DecidableEq

@[ext] structure PolicyCommitment where
  policyType : PolicyTypeId
  policyVersion : UInt16
  canonicalizationId : CanonicalizationId
  policyDigest : CommitmentDigest
  evaluatorSemanticId : EvaluatorSemanticId
  nonzero : policyVersion ≠ 0

instance : DecidableEq PolicyCommitment := fun _ _ => decidable_of_iff' _ PolicyCommitment.ext_iff

def PolicyCommitment.new (policyType : PolicyTypeId) (policyVersion : UInt16)
    (canonicalizationId : CanonicalizationId) (policyDigest : CommitmentDigest)
    (evaluatorSemanticId : EvaluatorSemanticId) : Except CommitmentError PolicyCommitment :=
  if h : policyVersion = 0 then .error .zeroVersion
  else .ok ⟨policyType, policyVersion, canonicalizationId, policyDigest, evaluatorSemanticId, h⟩

@[simp] theorem PolicyCommitment.new_self (p : PolicyCommitment) :
    PolicyCommitment.new p.policyType p.policyVersion p.canonicalizationId p.policyDigest
      p.evaluatorSemanticId = .ok p := by
  simp [PolicyCommitment.new, p.nonzero]

/-- The configuration an evaluator required or executed. A requirement without an implementation
accepts any of the same meaning. -/
structure ConfigurationCommitment where
  semanticId : ConfigurationSemanticId
  canonicalizationId : CanonicalizationId
  configurationDigest : CommitmentDigest
  implementationId : Option ImplementationId
  deriving DecidableEq

structure EvaluationCommitments where
  profileId : ProfileId
  exactActionDigest : CommitmentDigest
  policyCommitment : PolicyCommitment
  evidenceSchemaId : SchemaId
  evidenceDigest : CommitmentDigest
  evidenceSourceId : EvidenceSourceId
  evidenceObservedAt : VerifierTime
  stateSnapshotSchemaId : SchemaId
  stateSnapshotDigest : CommitmentDigest
  verifierTime : VerifierTime
  requiredConfiguration : ConfigurationCommitment
  executedConfiguration : ConfigurationCommitment
  deriving DecidableEq

inductive ConfigurationMatch where
  | «match»
  | semanticMismatch
  | canonicalizationMismatch
  | digestMismatch
  | implementationMismatch
  deriving DecidableEq

def configurationMatchCode (semanticEqual canonicalizationEqual digestEqual
    implementationEqualOrUnpinned : Bool) : ConfigurationMatch :=
  if !semanticEqual then .semanticMismatch
  else if !canonicalizationEqual then .canonicalizationMismatch
  else if !digestEqual then .digestMismatch
  else if !implementationEqualOrUnpinned then .implementationMismatch
  else .match

def configurationMatch (required executed : ConfigurationCommitment) : ConfigurationMatch :=
  let implementationEqualOrUnpinned := required.implementationId.all fun requiredId =>
    executed.implementationId = some requiredId
  configurationMatchCode (required.semanticId = executed.semanticId)
    (required.canonicalizationId = executed.canonicalizationId)
    (required.configurationDigest = executed.configurationDigest) implementationEqualOrUnpinned

inductive OutputError where
  | zeroReservationAmount
  | emptyCanonicalPayload
  | canonicalPayloadTooLarge
  | tooManyReservationIntents
  | tooManyObligations
  | intentOrdering
  | obligationOrdering
  | combinedBytesExceeded
  deriving DecidableEq

def maxReservationIntents : Nat := 32
def maxObligations : Nat := 32
def maxOutputBytes : Nat := 64 * 1024

def validateCanonicalLength (length : UInt32) : Except OutputError Unit :=
  if length = 0 then .error .emptyCanonicalPayload
  else if maxOutputBytes < length.toNat then .error .canonicalPayloadTooLarge
  else .ok ()

/-- Additive capacity in a unit, or one exclusive claim. The variant is open: only `additive` refuses
an amount of zero. -/
inductive ReservationKind where
  | additive (unit : UnitId) (amount : UInt64)
  | exclusive
  deriving DecidableEq

def ReservationKind.newAdditive (unit : UnitId) (amount : UInt64) :
    Except OutputError ReservationKind :=
  if amount = 0 then .error .zeroReservationAmount else .ok (.additive unit amount)

structure ReservationIntentCommitment where
  schemaId : SchemaId
  intentId : IntentId
  scopeDigest : CommitmentDigest
  kind : ReservationKind
  windowDigest : Option CommitmentDigest
  actionDigest : CommitmentDigest
  policyDigest : CommitmentDigest
  evidenceDigest : CommitmentDigest
  canonicalDigest : CommitmentDigest
  canonicalBytes : UInt32
  bounded : validateCanonicalLength canonicalBytes = .ok ()
  deriving DecidableEq

def ReservationIntentCommitment.new (schemaId : SchemaId) (intentId : IntentId)
    (scopeDigest : CommitmentDigest) (kind : ReservationKind)
    (windowDigest : Option CommitmentDigest)
    (actionDigest policyDigest evidenceDigest canonicalDigest : CommitmentDigest)
    (canonicalBytes : UInt32) : Except OutputError ReservationIntentCommitment :=
  match h : validateCanonicalLength canonicalBytes with
  | .ok _ => .ok ⟨schemaId, intentId, scopeDigest, kind, windowDigest, actionDigest, policyDigest,
      evidenceDigest, canonicalDigest, canonicalBytes, h⟩
  | .error e => .error e

@[simp] theorem ReservationIntentCommitment.new_self (i : ReservationIntentCommitment) :
    ReservationIntentCommitment.new i.schemaId i.intentId i.scopeDigest i.kind i.windowDigest
      i.actionDigest i.policyDigest i.evidenceDigest i.canonicalDigest i.canonicalBytes = .ok i := by
  unfold ReservationIntentCommitment.new
  split
  · rfl
  · next e he => rw [i.bounded] at he; cases he

inductive ObligationClass where
  | preExecution
  | commandConstruction
  | postExecutionObservation
  deriving DecidableEq

structure ObligationCommitment where
  schemaId : SchemaId
  obligationId : ObligationId
  «class» : ObligationClass
  payloadDigest : CommitmentDigest
  canonicalBytes : UInt32
  bounded : validateCanonicalLength canonicalBytes = .ok ()
  deriving DecidableEq

def ObligationCommitment.new (schemaId : SchemaId) (obligationId : ObligationId)
    (obligationClass : ObligationClass) (payloadDigest : CommitmentDigest)
    (canonicalBytes : UInt32) : Except OutputError ObligationCommitment :=
  match h : validateCanonicalLength canonicalBytes with
  | .ok _ => .ok ⟨schemaId, obligationId, obligationClass, payloadDigest, canonicalBytes, h⟩
  | .error e => .error e

@[simp] theorem ObligationCommitment.new_self (o : ObligationCommitment) :
    ObligationCommitment.new o.schemaId o.obligationId o.class o.payloadDigest o.canonicalBytes =
      .ok o := by
  unfold ObligationCommitment.new
  split
  · rfl
  · next e he => rw [o.bounded] at he; cases he

/-- Every window of two is strictly increasing. -/
def strictlyOrdered {κ : Type} [LinearOrder κ] : List κ → Bool
  | a :: b :: rest => a < b && strictlyOrdered (b :: rest)
  | _ => true

/-- The checks `BoundedOutputs.new` makes. The byte total is a checked `u32` sum there; its overflow
and its excess are the same error. -/
def validateOutputs (reservationIntents : List ReservationIntentCommitment)
    (obligations : List ObligationCommitment) : Except OutputError Unit :=
  if maxReservationIntents < reservationIntents.length then .error .tooManyReservationIntents
  else if maxObligations < obligations.length then .error .tooManyObligations
  else if !strictlyOrdered (reservationIntents.map (·.intentId)) then .error .intentOrdering
  else if !strictlyOrdered (obligations.map (·.obligationId)) then .error .obligationOrdering
  else if maxOutputBytes < (reservationIntents.map (·.canonicalBytes.toNat) ++
      obligations.map (·.canonicalBytes.toNat)).sum then .error .combinedBytesExceeded
  else .ok ()

structure BoundedOutputs where
  reservationIntents : List ReservationIntentCommitment
  obligations : List ObligationCommitment
  reservationIntentsCommitment : CommitmentDigest
  obligationsCommitment : CommitmentDigest
  bounded : validateOutputs reservationIntents obligations = .ok ()
  deriving DecidableEq

def BoundedOutputs.new (reservationIntents : List ReservationIntentCommitment)
    (obligations : List ObligationCommitment)
    (reservationIntentsCommitment obligationsCommitment : CommitmentDigest) :
    Except OutputError BoundedOutputs :=
  match h : validateOutputs reservationIntents obligations with
  | .ok _ => .ok ⟨reservationIntents, obligations, reservationIntentsCommitment,
      obligationsCommitment, h⟩
  | .error e => .error e

@[simp] theorem BoundedOutputs.new_self (o : BoundedOutputs) :
    BoundedOutputs.new o.reservationIntents o.obligations o.reservationIntentsCommitment
      o.obligationsCommitment = .ok o := by
  unfold BoundedOutputs.new
  split
  · rfl
  · next e he => rw [o.bounded] at he; cases he

theorem BoundedOutputs.length_le (o : BoundedOutputs) :
    o.reservationIntents.length ≤ maxReservationIntents := by
  by_contra h
  have hbounded := o.bounded
  rw [validateOutputs, if_pos (by omega)] at hbounded
  cases hbounded

end AuthsProof.Lifecycle
