import AuthsProof.Gateway.AttemptStore
import AuthsProof.Gateway.Transition
import AuthsProof.Encode

/-! The records of the gateway journal and the search for the next free slot of a counter. -/

namespace AuthsProof.Gateway

open Interleave

/-- The units an effect's reservations are counted in. -/
inductive EffectUnit where
  | mutationCount
  | mutationSum
  | acquisitionCount
  | responseBytes
  | disclosureCount
  | disclosureBytes
  deriving DecidableEq

structure EngagementReservation where
  key : Digest
  unit : EffectUnit
  amount : Nat
  ceiling : Nat
  deriving DecidableEq

structure AllocationRef where
  reservation : EngagementReservation
  slot : Nat
  commitment : Digest
  deriving DecidableEq

/-- One immutable row of an ancestor's reservations. -/
structure Allocation where
  schema : String
  claim : Digest
  effect : Digest
  reservation : EngagementReservation
  slot : Nat
  cumulative : Nat
  deriving DecidableEq

structure BasisWire where
  value : UInt64
  responseDigest : String
  readAt : UInt64
  deriving DecidableEq

structure PreEntryWire where
  observationsB64 : List String
  digest : Option String
  basis : Option BasisWire
  deriving DecidableEq

/-- The evidence of the one acknowledged grant. -/
structure EntryAudit where
  revision : UInt64
  authorizationStartedAt : UInt64
  approvalCanonical : String
  preEntry : Option PreEntryWire
  schema : String
  grantedAt : UInt64
  effectId : String
  dependencies : List (Option String)
  deriving DecidableEq

/-- The journal record of one logical operation. -/
structure Record (S : Type) where
  revision : UInt64
  schema : String
  bindingCanonical : String
  authorityCanonicalB64 : String
  approvalCanonical : String
  operatorNamespace : String
  operationId : String
  actionCommitment : String
  recipeDigest : String
  nonce : String
  evaluatedAt : UInt64
  entry : Option EntryAudit
  engagementAllocations : List AllocationRef
  state : S
  deriving DecidableEq

structure CountSlotRecord where
  schema : String
  counter : Digest
  slot : Nat
  windowSeconds : Nat
  windowIndex : Nat
  windowEnd : Nat
  operatorNamespace : String
  operationId : String
  claim : Digest
  deriving DecidableEq

structure SumSlotRecord where
  schema : String
  counter : Digest
  slot : Nat
  amount : Nat
  cumulative : Nat
  windowSeconds : Nat
  windowIndex : Nat
  windowEnd : Nat
  operatorNamespace : String
  operationId : String
  claim : Digest
  deriving DecidableEq

/-- What the store holds, by the type its bytes are the serialised form of. -/
inductive Value (S : Type) where
  | attempt (record : Record S)
  | countSlot (record : CountSlotRecord)
  | sumSlot (record : SumSlotRecord)
  | allocation (row : Allocation)
  | other (bytes : Bytes)
  deriving DecidableEq

/-- A claim that keeps losing slot races gives up after this many rounds. -/
def maxClaimRounds : Nat := 32

def checkedAdd (left right : Nat) : Option Nat :=
  if left + right < 2 ^ 64 then some (left + right) else none

def chainCountsAdmit (counts capacities : List Nat) : Bool :=
  counts.length == capacities.length &&
    (counts.zip capacities).all fun (count, capacity) => count < capacity

def chainSumsAdmit (sums : List Nat) (argument : Nat) (capacities : List Nat) : Bool :=
  sums.length == capacities.length && (sums.zip capacities).all fun (sum, capacity) =>
    match checkedAdd sum argument with
    | none => false
    | some total => total ≤ capacity

variable {V : Type}

def load (kind : GatewayRecordKind) (key : Digest) : StoreProg V (Option V) :=
  Request.send (.load kind key)

/-- The lowest free slot below `high`, by binary search over the occupied ones. -/
def frontierFrom (kind : GatewayRecordKind) (slotKey : Nat → Digest) (low high : Nat) :
    StoreProg V Nat :=
  if low < high then do
    let middle := low + (high - low) / 2
    match ← load kind (slotKey middle) with
    | some _ => frontierFrom kind slotKey (middle + 1) high
    | none => frontierFrom kind slotKey low middle
  else pure low
termination_by high - low

def frontier (kind : GatewayRecordKind) (slotKey : Nat → Digest) (bound : Nat) : StoreProg V Nat :=
  frontierFrom kind slotKey 0 bound

/-! ## The search -/

section Search

variable [BoundedRecord V] [DecidableEq V] {D : Discipline (Request V) Response (Store V)}
  {store : Store V} {kind : GatewayRecordKind} {slotKey : Nat → Digest}

/-- Every request is carried out by the store. -/
def Faithful (lossy : Prop) (D : Discipline (Request V) Response (Store V)) : Prop :=
  ∀ {request s response t}, D.exec request s response t →
    Request.Executes lossy request s response t

/-- A fact that stays true while others use the store. -/
def Stable (D : Discipline (Request V) Response (Store V)) (P : Store V → Prop) : Prop :=
  ∀ s t, D.order s t → D.inv t → P s → P t

/-- What a load tells, as far as it stays true. -/
theorem safe_load {lossy : Prop} (hD : Faithful lossy D) {kind : GatewayRecordKind} {key : Digest}
    (Q : Option V → Store V → Prop) (hQ : ∀ found, Stable D (Q found))
    (hload : ∀ t, D.order store t → D.inv t → Q (t.load kind key) t) :
    D.Safe (onOk Q) (load kind key : StoreProg V _).run store := by
  intro t hst ht response u hexec
  obtain ⟨rfl, hresponse⟩ := executes_load (hD hexec)
  refine ⟨ht, D.refl u, fun v huv hv => ?_⟩
  rcases hresponse with rfl | ⟨error, rfl⟩
  · exact hQ _ u v huv hv (hload u hst ht)
  · trivial

theorem safe_anyLoad {lossy : Prop} (hD : Faithful lossy D) {kind : GatewayRecordKind}
    {key : Digest} :
    D.Safe (onOk fun _ _ => True) (load kind key : StoreProg V _).run store :=
  safe_load hD (fun _ _ => True) (fun _ _ _ _ _ _ => trivial) fun _ _ _ => trivial

theorem still_load {lossy : Prop} (hD : Faithful lossy D) (kind : GatewayRecordKind) (key : Digest) :
    Still D (load kind key : StoreProg V _).run :=
  fun _ _ _ hexec => ⟨(executes_load (hD hexec)).1, trivial⟩

theorem still_frontierFrom {lossy : Prop} (hD : Faithful lossy D) (low high : Nat) :
    Still D (frontierFrom kind slotKey low high : StoreProg V Nat).run := by
  induction hn : high - low using Nat.strong_induction_on generalizing low high with
  | _ n ih =>
    rw [frontierFrom]
    split
    · refine still_bind_except (still_load hD _ _) fun found => ?_
      cases found with
      | none => exact ih _ (by omega) _ _ rfl
      | some value => exact ih _ (by omega) _ _ rfl
    · trivial

/-- The search ends at a slot whose predecessor was found taken. -/
theorem safe_frontierFrom {lossy : Prop} (hD : Faithful lossy D) {Taken : Nat → Store V → Prop}
    (hstable : ∀ slot, Stable D (Taken slot))
    (htaken : ∀ slot t, D.inv t → (t.load kind (slotKey slot)).isSome = true → Taken slot t)
    {low high : Nat} (hstore : D.inv store) (hle : low ≤ high)
    (hlow : 0 < low → Taken (low - 1) store) :
    D.Safe (onOk fun slot t => slot ≤ high ∧ (0 < slot → Taken (slot - 1) t))
      (frontierFrom kind slotKey low high : StoreProg V Nat).run store := by
  induction hn : high - low using Nat.strong_induction_on generalizing low high store with
  | _ n ih =>
    rw [frontierFrom]
    by_cases hlt : low < high
    · rw [if_pos hlt]
      have hmiddle : low + (high - low) / 2 < high := by omega
      refine safe_bind hstore (safe_load hD
        (fun found t => found.isSome = true → Taken (low + (high - low) / 2) t)
        (fun found s t hst ht h hfound => hstable _ s t hst ht (h hfound))
        fun t _ ht => htaken _ t ht) fun found t hst ht hfound => ?_
      cases found with
      | some value =>
        refine ih (high - (low + (high - low) / 2 + 1)) (by omega) ht (by omega) (fun _ => ?_) rfl
        exact hfound t (D.refl t) ht rfl
      | none =>
        refine (ih (low + (high - low) / 2 - low) (by omega) ht (by omega)
          (fun hpos => hstable _ store t hst ht (hlow hpos)) rfl).imp fun r u _ _ h => ?_
        cases r with
        | ok slot => exact ⟨by have := h.1; omega, h.2⟩
        | error e => trivial
    · rw [if_neg hlt]
      exact safe_pure fun t hst ht => ⟨by omega, fun hpos => hstable _ store t hst ht (hlow hpos)⟩

theorem safe_frontier {lossy : Prop} (hD : Faithful lossy D) {Taken : Nat → Store V → Prop}
    (hstable : ∀ slot, Stable D (Taken slot))
    (htaken : ∀ slot t, D.inv t → (t.load kind (slotKey slot)).isSome = true → Taken slot t)
    (hstore : D.inv store) (bound : Nat) :
    D.Safe (onOk fun slot t => slot ≤ bound ∧ (0 < slot → Taken (slot - 1) t))
      (frontier kind slotKey bound : StoreProg V Nat).run store :=
  safe_frontierFrom hD hstable htaken hstore (Nat.zero_le bound) fun h => absurd h (Nat.lt_irrefl 0)

end Search

end AuthsProof.Gateway
