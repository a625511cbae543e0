import AuthsProof.CodecPrimitive
import AuthsProof.Gateway.Record

/-! Append-only ancestor reservations of the operation journal. -/

namespace AuthsProof.Gateway.Engagement

open Interleave

def allocationSchema : String := "auths.engagement-allocation/1"

/-- What the reservations use of a validated binding. -/
structure EffectBinding where
  id : Digest
  reservations : List EngagementReservation
  prerequisiteBudgets : List (List EngagementReservation)

/-- How one protocol reads its records: the header's checks but for the allocation references, the
stage of the view, the declared reservations, and the digest of a row's bytes. -/
structure JournalProtocol (S : Type) where
  header : Record S → Except GatewayAttemptError EffectBinding
  stage : Record S → Except GatewayAttemptError Stage
  engagementReservations : Record S → Except GatewayAttemptError (List EngagementReservation)
  digest : Allocation → Digest

def isCount : EffectUnit → Bool
  | .mutationCount | .acquisitionCount | .disclosureCount => true
  | _ => false

/-- Whether a unit counts operations, and the largest ceiling it may have. -/
def unitLimit : EffectUnit → Option (Bool × Nat)
  | .mutationCount => some (true, 32)
  | .acquisitionCount | .disclosureCount => some (true, 64)
  | .disclosureBytes => some (false, 16 * 1048576)
  | .mutationSum | .responseBytes => none

def slots (reservation : EngagementReservation) : Except GatewayAttemptError Nat :=
  match unitLimit reservation.unit with
  | none => .error .corrupt
  | some (count, maximum) =>
    if reservation.ceiling < reservation.amount || maximum < reservation.ceiling ||
        (count && (reservation.amount ≠ 1 || reservation.ceiling = 0)) ||
        (!count && 65536 < reservation.amount) then .error .corrupt
    else .ok (if count then reservation.ceiling else 64)

variable {S : Type}

def decodeAllocation (value : Value S) (expected : EngagementReservation) (slot : Nat) :
    Except GatewayAttemptError Allocation :=
  match value with
  | .allocation row => match slots row.reservation with
    | .error error => .error error
    | .ok bound =>
      if row.schema ≠ allocationSchema || row.slot ≠ slot ||
          row.reservation.key ≠ expected.key || row.reservation.unit ≠ expected.unit ||
          row.reservation.ceiling ≠ expected.ceiling || bound ≤ row.slot ||
          row.cumulative < row.reservation.amount || expected.ceiling < row.cumulative ||
          (isCount expected.unit && row.cumulative ≠ slot + 1) then .error .corrupt
      else .ok row
  | _ => .error .corrupt

def validatePartial (binding : EffectBinding) (references : List AllocationRef) :
    Except GatewayAttemptError Unit :=
  if references.isEmpty then .ok ()
  else
    let actual := references.map AllocationRef.reservation
    if !(binding.reservations == actual || binding.prerequisiteBudgets.contains actual) then
      .error .corrupt
    else references.forM fun reference => do
      let bound ← slots reference.reservation
      if bound ≤ reference.slot then .error .corrupt else .ok ()

def validateHeader (journal : JournalProtocol S) (record : Record S) :
    Except GatewayAttemptError EffectBinding := do
  let binding ← journal.header record
  validatePartial binding record.engagementAllocations
  pure binding

def validateRecord (journal : JournalProtocol S) (record : Record S) :
    Except GatewayAttemptError Unit := do
  let binding ← validateHeader journal record
  validatePartial binding record.engagementAllocations
  let declarations ← journal.engagementReservations record
  let stage ← journal.stage record
  let actual := record.engagementAllocations.map AllocationRef.reservation
  if actual ≠ declarations && !(actual.isEmpty && stage = .notEntered) then .error .corrupt
  else .ok ()

/-- An operation stored as refused reserves nothing. -/
def declaredReservations (journal : JournalProtocol S) (record : Record S) :
    Except GatewayAttemptError (List EngagementReservation) := do
  let stage ← journal.stage record
  if stage = .notEntered then pure [] else journal.engagementReservations record

structure Candidate (S : Type) where
  row : Allocation
  predecessor : Option (Digest × Value S)

section Claims

variable [Sha256]

def slotKey (counter : Digest) (slot : Nat) : Digest :=
  Sha256.digest (utf8 "auths.engagement-allocation-key/1\x00" ++ counter.bytes ++ bigEndian64 slot)

def Candidate.reference (journal : JournalProtocol S) (candidate : Candidate S) : AllocationRef :=
  ⟨candidate.row.reservation, candidate.row.slot, journal.digest candidate.row⟩

def Candidate.entry (candidate : Candidate S) : GatewayRecordEntry (Value S) :=
  ⟨.effectAllocation, slotKey candidate.row.reservation.key candidate.row.slot,
    .allocation candidate.row, none⟩

/-- The row before a slot, with what was read for it. -/
def loadPredecessor (reservation : EngagementReservation) (slot : Nat) :
    StoreProg (Value S) (Option (Digest × Value S) × Nat) :=
  match slot with
  | 0 => pure (none, 0)
  | previous + 1 => do
    let key := slotKey reservation.key previous
    match ← load .effectAllocation key with
    | none => throw .corrupt
    | some bytes => do
      let row ← lifted (decodeAllocation bytes reservation previous)
      pure (some (key, bytes), row.cumulative)

def Candidate.new (reservation : EngagementReservation) (key effect : Digest) :
    StoreProg (Value S) (Candidate S) := do
  let bound ← lifted (slots reservation)
  let slot ← frontier .effectAllocation (slotKey reservation.key) bound
  if slot = bound then throw .invalidTransition
  else do
    let (predecessor, previous) ← loadPredecessor reservation slot
    if !chainSumsAdmit [previous] reservation.amount [reservation.ceiling] then
      throw .invalidTransition
    else match checkedAdd previous reservation.amount with
      | none => throw .invalidTransition
      | some cumulative =>
        pure ⟨⟨allocationSchema, key, effect, reservation, slot, cumulative⟩, predecessor⟩

/-- The arguments of one admission: the proposed record, the caller's batch with the operation
first, what its decision reads, and the decision, which stamps the time of evaluation. -/
structure Claim (S : Type) where
  record : Record S
  first : GatewayRecordEntry (Value S)
  rest : List (GatewayRecordEntry (Value S))
  dependencies : List (GatewayRecordKind × Digest)
  decision : UInt64 → Record S → List (Option (Value S)) → Except GatewayAttemptError UInt64

def Claim.entries (claim : Claim S) : List (GatewayRecordEntry (Value S)) := claim.first :: claim.rest

def appendDependency (keys : List (GatewayRecordKind × Digest))
    (dependency : GatewayRecordKind × Digest) : List (GatewayRecordKind × Digest) × Nat :=
  match keys.idxOf? dependency with
  | some index => (keys, index)
  | none => (keys ++ [dependency], keys.length)

def predecessorIndices (keys : List (GatewayRecordKind × Digest)) :
    List (Candidate S) → List (GatewayRecordKind × Digest) × List (Option Nat)
  | [] => (keys, [])
  | candidate :: candidates => match candidate.predecessor with
    | none =>
      let (keys, indices) := predecessorIndices keys candidates
      (keys, none :: indices)
    | some (key, _) =>
      let (keys, index) := appendDependency keys (.effectAllocation, key)
      let (keys, indices) := predecessorIndices keys candidates
      (keys, some index :: indices)

def predecessorsHold [DecidableEq S] (candidates : List (Candidate S)) (indices : List (Option Nat))
    (snapshots : List (Option (Value S))) : Bool :=
  (candidates.zip indices).all fun (candidate, index) =>
    match candidate.predecessor, index with
    | some (_, expected), some index => snapshots[index]? = some (some expected)
    | _, _ => true

def dependencies (references : List AllocationRef) : List (GatewayRecordKind × Digest) :=
  references.map fun reference =>
    (.effectAllocation, slotKey reference.reservation.key reference.slot)

/-- Whether the row read for a reference is the one it commits to. -/
def validateReference (journal : JournalProtocol S) (binding : EffectBinding) (claim : Digest)
    (reference : AllocationRef) (found : Option (Value S)) : Except GatewayAttemptError Unit :=
  match found with
  | none => .error .corrupt
  | some bytes => do
    let row ← decodeAllocation bytes reference.reservation reference.slot
    if journal.digest row ≠ reference.commitment || row.claim ≠ claim || row.effect ≠ binding.id ||
        row.reservation ≠ reference.reservation then .error .bindingConflict
    else .ok ()

def validateEntry (journal : JournalProtocol S) (record : Record S) (claim : Digest)
    (snapshots : List (Option (Value S))) : Except GatewayAttemptError Unit := do
  validateRecord journal record
  if snapshots.length ≠ record.engagementAllocations.length then .error .corrupt
  else do
    let binding ← validateHeader journal record
    (record.engagementAllocations.zip snapshots).forM fun (reference, found) =>
      validateReference journal binding claim reference found

variable [DecidableEq S] (journal : JournalProtocol S) (claim : Claim S)

/-- The decision under the fence: the rows before are unchanged, the caller admits, and the record
with its references is valid. -/
def decide (candidates : List (Candidate S)) (keys : List (GatewayRecordKind × Digest))
    (indices : List (Option Nat)) : Decision (Value S) := fun now snapshots =>
  let proposed :=
    { claim.record with engagementAllocations := candidates.map (Candidate.reference journal) }
  if snapshots.length ≠ keys.length then .error .corrupt
  else if !predecessorsHold candidates indices snapshots then .error .bindingConflict
  else do
    let evaluatedAt ← claim.decision now proposed (snapshots.take claim.dependencies.length)
    let record := { proposed with evaluatedAt := evaluatedAt }
    validateRecord journal record
    pure (.attempt record)

def insertBatch (candidates : List (Candidate S)) :
    StoreProg (Value S) (GatewayInsert (Value S)) :=
  let (keys, indices) := predecessorIndices claim.dependencies candidates
  Request.send (.fencedInsertAll (claim.entries ++ candidates.map Candidate.entry) keys
    (decide journal claim candidates keys indices))

def insertRounds (binding : EffectBinding) (declarations : List EngagementReservation) :
    Nat → StoreProg (Value S) (GatewayInsert (Value S))
  | 0 => throw .conflict
  | rounds + 1 =>
    settle (declarations.mapM fun declaration =>
        Candidate.new declaration claim.first.key binding.id) fun
      | .error error => do
        match ← load .attempt claim.first.key with
        | some _ => pure (.exists 0)
        | none => throw error
      | .ok candidates => do
        match ← insertBatch journal claim candidates with
        | .inserted first => pure (.inserted first)
        | .exists index =>
          if index < claim.entries.length then pure (.exists index)
          else match candidates[index - claim.entries.length]? with
            | none => throw .corrupt
            | some candidate => do
              match ← load .effectAllocation candidate.entry.key with
              | none => throw .corrupt
              | some bytes => do
                let _ ← lifted
                  (decodeAllocation bytes candidate.row.reservation candidate.row.slot)
                insertRounds binding declarations rounds

def insert : StoreProg (Value S) (GatewayInsert (Value S)) :=
  if claim.first.kind ≠ .attempt || claim.first.expiresAt.isSome || claim.record.revision ≠ 1 ||
      claim.record.entry.isSome || !claim.record.engagementAllocations.isEmpty then
    throw .invalidTransition
  else do
    let binding ← lifted (validateHeader journal claim.record)
    let declarations ← lifted (declaredReservations journal claim.record)
    insertRounds journal claim binding declarations maxClaimRounds

end Claims

end AuthsProof.Gateway.Engagement
