import AuthsProof.Gateway.Bounds
import AuthsProof.Gateway.Mutation

/-! Window slots: candidates chosen outside the fence, the batch that reserves them with the claim,
and their check at the grant. -/

namespace AuthsProof.Gateway

open Interleave

def countSlotSchema : String := "auths.gateway-bounded-count/2"
def sumSlotSchema : String := "auths.gateway-bounded-sum/1"
def maxCounters : Nat := 34

structure CapacityCandidate where
  counts : List Nat
  sums : List Nat
  totals : List Nat

def CounterWire.order (wire : CounterWire) : Nat ×ₗ (Digest ×ₗ Nat) :=
  toLex (if wire.kind = .count then 0 else 1, toLex (wire.counter, wire.slot))

section Candidates

variable [Sha256]

def decodeCumulative (value : Value MutationState) (counter : Digest) (slot : Nat) :
    Except GatewayAttemptError Nat :=
  match value with
  | .sumSlot row =>
    if row.schema ≠ sumSlotSchema || row.counter ≠ counter || row.slot ≠ slot ||
        row.cumulative < row.amount then .error .corrupt
    else .ok row.cumulative
  | _ => .error .corrupt

/-- The sum stored in one slot; an absent or malformed one fails closed. -/
def cumulative (counter : Digest) (slot : Nat) : StoreProg (Value MutationState) Nat := do
  match ← load .sumSlot (sumSlotKey counter slot) with
  | none => throw .corrupt
  | some value => lifted (decodeCumulative value counter slot)

def totalBefore (counter : SumCounter) : Nat → StoreProg (Value MutationState) Nat
  | 0 => pure 0
  | previous + 1 => cumulative counter.key previous

namespace CapacityCandidate

def new (bound : BoundAdmission) : StoreProg (Value MutationState) CapacityCandidate := do
  let counts ← bound.counts.mapM fun counter =>
    frontier .countSlot (countSlotKey counter.key) counter.capacity
  let sums ← bound.sums.mapM fun counter =>
    frontier .sumSlot (sumSlotKey counter.key) counter.slots
  let totals ← (sums.zip bound.sums).mapM fun (slot, counter) => totalBefore counter slot
  pure ⟨counts, sums, totals⟩

def refusal (bound : BoundAdmission) (candidate : CapacityCandidate) : Option String :=
  let slotsLeft := (candidate.sums.zip bound.sums).all fun (slot, counter) => slot < counter.slots
  if !chainCountsAdmit candidate.counts (bound.counts.map CountCounter.capacity) || !slotsLeft then
    some "gateway.policy.window-exhausted"
  else if !chainSumsAdmit candidate.totals bound.argument (bound.sums.map SumCounter.capacity) then
    some "gateway.policy.sum-exhausted"
  else none

def wires (bound : BoundAdmission) (candidate : CapacityCandidate) : List CounterWire :=
  Sorting.sortByKey CounterWire.order
    (((bound.counts.zip candidate.counts).map fun (counter, slot) => ⟨.count, counter.key, slot⟩) ++
      (bound.sums.zip candidate.sums).map fun (counter, slot) => ⟨.sum, counter.key, slot⟩)

def countEntry (bound : BoundAdmission) (key : Digest) (operatorNamespace operationId : String)
    (counter : CountCounter) (slot : Nat) : GatewayRecordEntry (Value MutationState) :=
  ⟨.countSlot, countSlotKey counter.key slot,
    .countSlot ⟨countSlotSchema, counter.key, slot, bound.windowSeconds, bound.windowIndex,
      bound.windowEnd, operatorNamespace, operationId, key⟩, some bound.expiresAt⟩

def sumEntry (bound : BoundAdmission) (key : Digest) (operatorNamespace operationId : String)
    (counter : SumCounter) (slot total : Nat) :
    Except GatewayAttemptError (GatewayRecordEntry (Value MutationState)) :=
  match checkedAdd total bound.argument with
  | none => .error .corrupt
  | some cumulative => .ok ⟨.sumSlot, sumSlotKey counter.key slot,
      .sumSlot ⟨sumSlotSchema, counter.key, slot, bound.argument, cumulative, bound.windowSeconds,
        bound.windowIndex, bound.windowEnd, operatorNamespace, operationId, key⟩,
      some bound.expiresAt⟩

def batch (bound : BoundAdmission) (candidate : CapacityCandidate) (key : Digest)
    (operatorNamespace operationId : String) :
    Except GatewayAttemptError (List (GatewayRecordEntry (Value MutationState))) := do
  let counts := (bound.counts.zip candidate.counts).map fun (counter, slot) =>
    countEntry bound key operatorNamespace operationId counter slot
  let sums ← ((bound.sums.zip candidate.sums).zip candidate.totals).mapM
    fun ((counter, slot), total) =>
      sumEntry bound key operatorNamespace operationId counter slot total
  pure (counts ++ sums)

/-- Moves past the slot that was found taken. -/
def advance (bound : BoundAdmission) (candidate : CapacityCandidate) (index : Nat) :
    StoreProg (Value MutationState) CapacityCandidate :=
  match candidate.counts[index]? with
  | some slot => pure { candidate with counts := candidate.counts.set index (slot + 1) }
  | none =>
    let position := index - candidate.counts.length
    match candidate.sums[position]?, candidate.totals[position]?, bound.sums[position]? with
    | some slot, some _, some counter => do
      let total ← cumulative counter.key slot
      pure { candidate with
        sums := candidate.sums.set position (slot + 1)
        totals := candidate.totals.set position total }
    | _, _, _ => throw .corrupt

def dependencies (bound : BoundAdmission) (candidate : CapacityCandidate) :
    List (GatewayRecordKind × Digest) :=
  (bound.sums.zip candidate.sums).filterMap fun (counter, slot) =>
    match slot with
    | 0 => none
    | previous + 1 => some (.sumSlot, sumSlotKey counter.key previous)

def predecessorValid (bound : BoundAdmission) (counter : SumCounter) (previous total : Nat)
    (value : Value MutationState) : Bool :=
  match value with
  | .sumSlot row => row.schema = sumSlotSchema && row.counter = counter.key &&
      row.slot = previous && row.amount ≤ row.cumulative && row.cumulative = total &&
      row.windowSeconds = bound.windowSeconds && row.windowIndex = bound.windowIndex &&
      row.windowEnd = bound.windowEnd && row.cumulative ≤ counter.capacity
  | _ => false

def validatePredecessorsFrom (bound : BoundAdmission) :
    List ((SumCounter × Nat) × Nat) → List (Option (Value MutationState)) →
      Except GatewayAttemptError Unit
  | [], _ => .ok ()
  | ((_, 0), total) :: rest, snapshots =>
    if total ≠ 0 then .error .corrupt else validatePredecessorsFrom bound rest snapshots
  | ((counter, previous + 1), total) :: rest, some value :: snapshots =>
    if predecessorValid bound counter previous total value then
      validatePredecessorsFrom bound rest snapshots
    else .error .corrupt
  | ((_, _ + 1), _) :: _, _ => .error .corrupt

def validatePredecessors (bound : BoundAdmission) (candidate : CapacityCandidate)
    (snapshots : List (Option (Value MutationState))) : Except GatewayAttemptError Unit :=
  if snapshots.length ≠ (candidate.dependencies bound).length then .error .corrupt
  else validatePredecessorsFrom bound ((bound.sums.zip candidate.sums).zip candidate.totals) snapshots

end CapacityCandidate

/-! ## The check at the grant -/

def decodeCounters (wires : List CounterWire) : Except GatewayAttemptError (List CounterWire) :=
  if maxCounters < wires.length then .error .corrupt
  else if (wires.zip wires.tail).any fun (left, right) => decide (right.order ≤ left.order) then
    .error .corrupt
  else .ok wires

def counterDependencies (wires : List CounterWire) :
    Except GatewayAttemptError (List (GatewayRecordKind × Digest)) := do
  let counters ← decodeCounters wires
  pure (counters.map fun counter => match counter.kind with
    | .count => (.countSlot, countSlotKey counter.counter counter.slot)
    | .sum => (.sumSlot, sumSlotKey counter.counter counter.slot))

def countSlotValid (bound : BoundAdmission) (operatorNamespace operationId : String) (key : Digest)
    (wire : CounterWire) (value : Value MutationState) : Bool :=
  match value, bound.counts.find? fun candidate => candidate.key == wire.counter with
  | .countSlot row, some limit => row.schema = countSlotSchema && row.counter = wire.counter &&
      row.slot = wire.slot && row.slot < limit.capacity &&
      row.operatorNamespace = operatorNamespace && row.operationId = operationId &&
      row.claim = key && row.windowSeconds = bound.windowSeconds &&
      row.windowIndex = bound.windowIndex && row.windowEnd = bound.windowEnd
  | _, _ => false

def sumSlotValid (bound : BoundAdmission) (operatorNamespace operationId : String) (key : Digest)
    (wire : CounterWire) (value : Value MutationState) : Bool :=
  match value, bound.sums.find? fun candidate => candidate.key == wire.counter with
  | .sumSlot row, some limit => row.schema = sumSlotSchema && row.counter = wire.counter &&
      row.slot = wire.slot && row.slot < limit.slots &&
      row.operatorNamespace = operatorNamespace && row.operationId = operationId &&
      row.claim = key && row.windowSeconds = bound.windowSeconds &&
      row.windowIndex = bound.windowIndex && row.windowEnd = bound.windowEnd &&
      row.amount = bound.argument && row.amount ≤ row.cumulative && row.cumulative ≤ limit.capacity
  | _, _ => false

def slotValid (bound : BoundAdmission) (operatorNamespace operationId : String) (key : Digest)
    (wire : CounterWire) (found : Option (Value MutationState)) : Bool :=
  match found, wire.kind with
  | none, _ => false
  | some value, .count => countSlotValid bound operatorNamespace operationId key wire value
  | some value, .sum => sumSlotValid bound operatorNamespace operationId key wire value

/-- The counters name each of the bound's own exactly once. -/
def countersMatch (bound : BoundAdmission) (counters : List CounterWire) : Bool :=
  counters.length = bound.counts.length + bound.sums.length &&
    (bound.counts.all fun counter => counters.countP (fun wire =>
      wire.kind = .count && wire.counter = counter.key) = 1) &&
    bound.sums.all fun counter => counters.countP (fun wire =>
      wire.kind = .sum && wire.counter = counter.key) = 1

def validateReservations (operatorNamespace operationId : String) (wires : List CounterWire)
    (key : Digest) (bound : Option BoundAdmission)
    (snapshots : List (Option (Value MutationState))) (now : Nat) :
    Except GatewayAttemptError Unit := do
  let counters ← decodeCounters wires
  match bound with
  | none => if counters.isEmpty && snapshots.isEmpty then pure () else throw .corrupt
  | some bound =>
    if !countersMatch bound counters || snapshots.length ≠ counters.length ||
        bound.windowSeconds = 0 || bound.windowEnd ≤ now ||
        now / bound.windowSeconds ≠ bound.windowIndex then throw .invalidTransition
    else if (counters.zip snapshots).all fun (wire, found) =>
        slotValid bound operatorNamespace operationId key wire found then pure ()
    else throw .corrupt

/-! ## Reserving slots with the claim -/

/-- What the admission of an approved effect reads and checks under the fence; the check stamps the
time of evaluation. -/
structure Admission where
  dependencies : List (GatewayRecordKind × Digest)
  stamp : UInt64 → Record MutationState → List (Option (Value MutationState)) →
    Except GatewayAttemptError UInt64

inductive Reserved where
  | claimed (stored : Value MutationState)
  | exhausted (code : String)
  | contended

variable [BoundedRecord (Value MutationState)] (journal : MutationJournal)

/-- The decision of an admission: the native authority, then the sums before its slots. -/
def admissionDecision (admission : Admission)
    (candidate : Option (BoundAdmission × CapacityCandidate)) (now : UInt64)
    (record : Record MutationState) (snapshots : List (Option (Value MutationState))) :
    Except GatewayAttemptError UInt64 := do
  let nativeEnd := admission.dependencies.length
  let evaluatedAt ← admission.stamp now record (snapshots.take nativeEnd)
  match candidate with
  | none => pure evaluatedAt
  | some (bound, candidate) => do
    candidate.validatePredecessors bound (snapshots.drop nativeEnd)
    pure evaluatedAt

def insertClaim (admission : Admission) (key : Digest) (record : Record MutationState)
    (slots : List (GatewayRecordEntry (Value MutationState)))
    (candidate : Option (BoundAdmission × CapacityCandidate)) :
    StoreProg (Value MutationState) (GatewayInsert (Value MutationState)) :=
  Engagement.insert journal.protocol
    { record := record
      first := ⟨.attempt, key, .attempt record, none⟩
      rest := slots
      dependencies := admission.dependencies ++
        (candidate.map fun (bound, candidate) => candidate.dependencies bound).getD []
      decision := admissionDecision admission candidate }

/-- The claim alone, stored as refused with `code`. -/
def storeExhausted (key : Digest) (base : Record MutationState) (code : String)
    (admission : Admission) : StoreProg (Value MutationState) Reserved := do
  let record :=
    { base with state := { base.state with stage := .notEntered, refusal := some code } }
  lifted (record.validate journal)
  match ← insertClaim journal admission key record [] none with
  | .inserted _ => pure (.exhausted code)
  | .exists _ => throw .replay

def reserveRounds (key : Digest) (base : Record MutationState) (bound : BoundAdmission)
    (admission : Admission) : Nat → CapacityCandidate → StoreProg (Value MutationState) Reserved
  | 0, _ => pure .contended
  | rounds + 1, candidate =>
    match candidate.refusal bound with
    | some code => storeExhausted journal key base code admission
    | none => do
      let slots ← lifted (candidate.batch bound key base.operatorNamespace base.operationId)
      let record := { base with state := { base.state with counters := candidate.wires bound } }
      lifted (record.validate journal)
      match ← insertClaim journal admission key record slots (some (bound, candidate)) with
      | .inserted stored => pure (.claimed stored)
      | .exists 0 => throw .replay
      | .exists (index + 1) => do
        let candidate ← candidate.advance bound index
        reserveRounds key base bound admission rounds candidate

def reserveWithClaim (key : Digest) (base : Record MutationState) (bound : BoundAdmission)
    (admission : Admission) : StoreProg (Value MutationState) Reserved := do
  let candidate ← CapacityCandidate.new bound
  reserveRounds journal key base bound admission maxClaimRounds candidate

end Candidates

end AuthsProof.Gateway
