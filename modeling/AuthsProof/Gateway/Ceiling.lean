import AuthsProof.Gateway.Allocations
import AuthsProof.Lib.Segment
import AuthsProof.Lib.Sha2

/-! What concurrent admissions leave in the journal: rows that fill the first slots of their keys
within the ceilings, all of an operation's rows or none. -/

namespace AuthsProof.Gateway.Engagement

open Interleave

section Journal

variable {S : Type} [Sha256] {journal : JournalProtocol S} {capacity : Digest → Nat}
  {store store' : Store (Value S)}

/-- The rows of a reservation key fill its first slots with the running totals of their amounts. -/
structure Series (store : Store (Value S)) (key : Digest) (slots : Nat) (rows : List Allocation) :
    Prop where
  length : rows.length ≤ slots
  occupied : ∀ slot < slots, store.load .effectAllocation (slotKey key slot) =
    rows[slot]?.map Value.allocation
  own : ∀ (slot : Nat) (row : Allocation), rows[slot]? = some row → row.reservation.key = key ∧ row.slot = slot
  same : ∀ row ∈ rows, ∀ other ∈ rows, row.reservation.unit = other.reservation.unit ∧
    row.reservation.ceiling = other.reservation.ceiling
  cumulative : ∀ (slot : Nat) (row : Allocation), rows[slot]? = some row →
    row.cumulative = ((rows.take (slot + 1)).map fun before => before.reservation.amount).sum
  bounded : ∀ row ∈ rows, row.cumulative ≤ row.reservation.ceiling
  count : ∀ (slot : Nat) (row : Allocation), rows[slot]? = some row →
    isCount row.reservation.unit = true → row.cumulative = slot + 1
  total : ∀ row ∈ rows,
    (rows.map fun charged => charged.reservation.amount).sum ≤ row.reservation.ceiling

def rowAt (store : Store (Value S)) (key : Digest) (slot : Nat) : Option Allocation :=
  (store.load .effectAllocation (slotKey key slot)).bind fun
    | .allocation row => some row
    | _ => none

theorem rowAt_eq_some {key : Digest} {slot : Nat} {row : Allocation} :
    rowAt store key slot = some row ↔
      store.load .effectAllocation (slotKey key slot) = some (.allocation row) := by
  unfold rowAt
  cases store.load .effectAllocation (slotKey key slot) with
  | none => simp
  | some value => cases value <;> simp

theorem Ledger.load_eq_rowAt (h : Ledger journal capacity store) {key : Digest} {slot : Nat}
    (hslot : slot < capacity key) : store.load .effectAllocation (slotKey key slot) =
      (rowAt store key slot).map Value.allocation := by
  cases hload : store.load .effectAllocation (slotKey key slot) with
  | none => simp [rowAt, hload]
  | some value =>
    obtain ⟨row, rfl, -⟩ := h.rows hslot hload
    rw [rowAt_eq_some.mpr hload]
    rfl

theorem Ledger.row_facts (h : Ledger journal capacity store) {key : Digest} {slot : Nat}
    (hslot : slot < capacity key) {row : Allocation} (hrow : rowAt store key slot = some row) :
    row.reservation.key = key ∧ row.slot = slot ∧ Charged store row ∧
      Claimed journal store row := by
  obtain ⟨row', hvalue, hfacts⟩ := h.rows hslot (rowAt_eq_some.mp hrow)
  cases hvalue
  exact hfacts

/-- A row after the first one continues the row before it. -/
theorem Ledger.row_next (h : Ledger journal capacity store) {key : Digest} {slot : Nat}
    (hslot : slot + 1 < capacity key) {row : Allocation}
    (hrow : rowAt store key (slot + 1) = some row) : ∃ before,
      rowAt store key slot = some before ∧ before.reservation.unit = row.reservation.unit ∧
      before.reservation.ceiling = row.reservation.ceiling ∧
      row.cumulative = before.cumulative + row.reservation.amount := by
  obtain ⟨hkey, hown, hcharged, -⟩ := h.row_facts hslot hrow
  obtain ⟨before, hload, hfacts⟩ := hcharged.next slot hown
  rw [hkey] at hload
  exact ⟨before, rowAt_eq_some.mpr hload, hfacts⟩

/-- The rows of a ledger stand in series. -/
theorem Ledger.series (h : Ledger journal capacity store) (key : Digest) :
    ∃ rows, Series store key (capacity key) rows := by
  obtain ⟨rows, hlength, hrows⟩ := @Segment.exists_list _ (rowAt store key) (capacity key)
    fun slot hslot hsome => by
      obtain ⟨row, hrow⟩ := Option.isSome_iff_exists.mp hsome
      obtain ⟨before, hbefore, -⟩ := h.row_next hslot hrow
      rw [hbefore]
      rfl
  have hget : ∀ {slot : Nat} {row : Allocation}, rows[slot]? = some row →
      slot < capacity key ∧ rowAt store key slot = some row := by
    intro slot row hrow
    obtain ⟨hlt, -⟩ := List.getElem?_eq_some_iff.mp hrow
    have hslot : slot < capacity key := by omega
    exact ⟨hslot, (hrows slot hslot).trans hrow⟩
  have hfacts : ∀ {slot : Nat} {row : Allocation}, rows[slot]? = some row →
      row.reservation.key = key ∧ row.slot = slot ∧ Charged store row := by
    intro slot row hrow
    obtain ⟨hslot, hat⟩ := hget hrow
    obtain ⟨hkey, hown, hcharged, -⟩ := h.row_facts hslot hat
    exact ⟨hkey, hown, hcharged⟩
  have hnext : ∀ (slot : Nat) (before row : Allocation), rows[slot]? = some before →
      rows[slot + 1]? = some row →
      (before.reservation.unit, before.reservation.ceiling) =
        (row.reservation.unit, row.reservation.ceiling) ∧
      row.cumulative = before.cumulative + row.reservation.amount := by
    intro slot before row hbefore hrow
    obtain ⟨hslot, hat⟩ := hget hrow
    obtain ⟨before', hat', hunit, hceiling, hsum⟩ := h.row_next hslot hat
    obtain rfl := Option.some.inj ((hget hbefore).2.symm.trans hat')
    exact ⟨Prod.ext hunit hceiling, hsum⟩
  have hsame := Segment.forall_eq_of_next fun slot before row hbefore hrow =>
    (hnext slot before row hbefore hrow).1
  have hfirst : ∀ row, rows[0]? = some row → row.cumulative = row.reservation.amount :=
    fun row hrow => (hfacts hrow).2.2.first (hfacts hrow).2.1
  have hsums : ∀ slot before row, rows[slot]? = some before → rows[slot + 1]? = some row →
      row.cumulative = before.cumulative + row.reservation.amount :=
    fun slot before row hbefore hrow => (hnext slot before row hbefore hrow).2
  have hcharged : ∀ row ∈ rows, Charged store row := by
    intro row hrow
    obtain ⟨slot, hslot⟩ := List.mem_iff_getElem?.mp hrow
    exact (hfacts hslot).2.2
  refine ⟨rows, hlength, fun slot hslot => ?_, fun slot row hrow => ?_,
    fun row hrow other hother => Prod.mk.inj (hsame row hrow other hother),
    fun slot row hrow => Segment.total_eq_sum hfirst hsums hrow,
    fun row hrow => (hcharged row hrow).ceiling, fun slot row hrow hcount => ?_,
    fun row hrow => ?_⟩
  · rw [h.load_eq_rowAt hslot, hrows slot hslot]
  · exact ⟨(hfacts hrow).1, (hfacts hrow).2.1⟩
  · refine Segment.total_eq_succ hfirst hsums (fun other hother => ?_) hrow
    obtain ⟨bound, hslots, -⟩ := (hcharged other hother).bound
    have hunit := (Prod.mk.inj (hsame row (List.mem_of_getElem? hrow) other hother)).1
    exact (slots_spec hslots).2 (hunit ▸ hcount)
  · exact Segment.sum_le hfirst hsums (fun other hother => (hcharged other hother).ceiling)
      (fun other hother another hanother =>
        (Prod.mk.inj (hsame other hother another hanother)).2) hrow

/-! ## The rows of an operation -/

/-- A row the operation holds. -/
structure Held (capacity : Digest → Nat) (store : Store (Value S)) (claim : Digest)
    (row : Allocation) : Prop where
  slot : row.slot < capacity row.reservation.key
  load : store.load .effectAllocation (slotKey row.reservation.key row.slot) =
    some (.allocation row)
  claim : row.claim = claim

/-- An operation holds one row for each of its references, bound by digest, and no other row. -/
structure Holds (journal : JournalProtocol S) (capacity : Digest → Nat) (store : Store (Value S))
    (claim : Digest) (references : List AllocationRef) : Prop where
  each : ∀ reference ∈ references, ∃ row, Held capacity store claim row ∧
    row.reservation = reference.reservation ∧ row.slot = reference.slot ∧
    journal.digest row = reference.commitment ∧ ∀ other, Held capacity store claim other →
      other.reservation.key = reference.reservation.key → other = row
  only : ∀ row, Held capacity store claim row →
    ⟨row.reservation, row.slot, journal.digest row⟩ ∈ references

/-- An operation has a row for every reservation its record declares, or none. -/
def AllOrNone (journal : JournalProtocol S) (capacity : Digest → Nat) (store : Store (Value S))
    (claim : Digest) : Prop :=
  (store.load .attempt claim = none ∧ Holds journal capacity store claim []) ∨
  ∃ record, store.load .attempt claim = some (.attempt record) ∧
    Holds journal capacity store claim record.engagementAllocations ∧
    (journal.engagementReservations record =
        .ok (record.engagementAllocations.map AllocationRef.reservation) ∨
      record.engagementAllocations = [])

theorem Ledger.claimed_of_held (h : Ledger journal capacity store) {claim : Digest}
    {row : Allocation} (hrow : Held capacity store claim row) :
    ∃ record, store.load .attempt claim = some (.attempt record) ∧
      ⟨row.reservation, row.slot, journal.digest row⟩ ∈ record.engagementAllocations := by
  obtain ⟨-, -, -, hclaimed⟩ := h.row_facts hrow.slot (rowAt_eq_some.mpr hrow.load)
  rw [← hrow.claim]
  exact hclaimed

/-- Every operation of a ledger holds all of its rows or none. -/
theorem Ledger.allOrNone (h : Ledger journal capacity store) (claim : Digest) :
    AllOrNone journal capacity store claim := by
  cases hload : store.load .attempt claim with
  | none =>
    refine .inl ⟨hload, by simp, fun row hrow => ?_⟩
    obtain ⟨record, hrecord, -⟩ := h.claimed_of_held hrow
    rw [hload] at hrecord
    cases hrecord
  | some value =>
    obtain ⟨record, rfl, hvalid, hnodup, hreferences⟩ := h.attempts hload
    have hmem : ∀ row, Held capacity store claim row →
        ⟨row.reservation, row.slot, journal.digest row⟩ ∈ record.engagementAllocations := by
      intro row hrow
      obtain ⟨record', hrecord, hclaimed⟩ := h.claimed_of_held hrow
      cases hload.symm.trans hrecord
      exact hclaimed
    refine .inr ⟨record, hload, ⟨fun reference hreference => ?_, hmem⟩, ?_⟩
    · obtain ⟨hslot, row, hrow, hclaim, hreservation, hplace, hcommitment⟩ :=
        hreferences reference hreference
      have hheld : Held capacity store claim row :=
        ⟨by rwa [hreservation, hplace], by rwa [hreservation, hplace], hclaim⟩
      refine ⟨row, hheld, hreservation, hplace, hcommitment, fun other hother hkey => ?_⟩
      -- Two references to one key are the same, so the two rows lie at the same place.
      have hsame := List.inj_on_of_nodup_map hnodup (hmem other hother) hreference hkey
      have hotherSlot : other.slot = reference.slot := congrArg AllocationRef.slot hsame
      have hload := hother.load
      rw [hkey, hotherSlot, hrow] at hload
      exact (Value.allocation.inj (Option.some.inj hload)).symm
    · rcases validateRecord_spec hvalid with ⟨declarations, hdeclared, hactual⟩ | ⟨hempty, -⟩
      · exact .inl (hactual ▸ hdeclared)
      · exact .inr hempty

/-! ## Rows a provider entry relied on -/

/-- Each row a successful validation relied on was found. -/
theorem found_of_validateEntry {record : Record S} {claim : Digest}
    (h : validateEntry journal record claim
      (store.snapshots (dependencies record.engagementAllocations)) = .ok ()) :
    ∀ reference ∈ record.engagementAllocations, ∃ row, store.load .effectAllocation
      (slotKey reference.reservation.key reference.slot) = some (.allocation row) := by
  intro reference hreference
  obtain ⟨-, -, h⟩ := Except.bind_eq_ok.mp h
  split at h
  · cases h
  · obtain ⟨binding, -, h⟩ := Except.bind_eq_ok.mp h
    have hzip : record.engagementAllocations.zip
        (store.snapshots (dependencies record.engagementAllocations)) =
        record.engagementAllocations.map fun reference => (reference, store.load .effectAllocation
          (slotKey reference.reservation.key reference.slot)) := by
      unfold Store.snapshots dependencies
      rw [List.map_map]
      simpa [Function.comp_def] using @List.zip_map' _ _ _ id
        (fun reference : AllocationRef => store.load .effectAllocation
          (slotKey reference.reservation.key reference.slot)) record.engagementAllocations
    rw [hzip] at h
    have hone := Except.ok_of_forM h _ (List.mem_map.mpr ⟨reference, hreference, rfl⟩)
    cases hload : store.load .effectAllocation
        (slotKey reference.reservation.key reference.slot) with
    | none =>
      rw [hload] at hone
      cases hone
    | some value =>
      rw [hload] at hone
      obtain ⟨row, hrow, -⟩ := Except.bind_eq_ok.mp hone
      obtain ⟨rfl, -⟩ := decodeAllocation_spec hrow
      exact ⟨row, rfl⟩

section Runs

variable [DecidableEq S] [BoundedRecord (Value S)] {ι : Type} [DecidableEq ι]

/-- The gateway's clock goes forward and nothing else changes. -/
def Tick (store store' : Store (Value S)) : Prop :=
  store'.records = store.records ∧ store.clock ≤ store'.clock

/-- Admissions about to start on an empty journal. -/
def admissions (journal : JournalProtocol S) (claims : ι → Claim S) (clock : UInt64) :
    Pool (Request (Value S)) Response (Except GatewayAttemptError (GatewayInsert (Value S)))
      (Store (Value S)) ι :=
  ⟨⟨fun _ _ => none, clock⟩, fun i => (insert journal (claims i)).run, fun _ => False⟩

omit [DecidableEq S] [BoundedRecord (Value S)] in
theorem Ledger.tick (h : Ledger journal capacity store) (htick : Tick store store') :
    Ledger journal capacity store' ∧ store.Extends store' := by
  have hextends : store.Extends store' := ⟨fun hstored => by rw [htick.1]; exact hstored, htick.2⟩
  have hload : ∀ kind key, store'.load kind key = store.load kind key := fun kind key => by
    rw [Store.load, htick.1]
    rfl
  refine ⟨⟨fun {key slot value} hslot hvalue => ?_, fun {key value} hvalue => ?_⟩, hextends⟩
  · rw [hload] at hvalue
    obtain ⟨row, hrow, hkey, hplace, hcharged, hclaimed⟩ := h.rows hslot hvalue
    exact ⟨row, hrow, hkey, hplace, hcharged.later hextends, hclaimed.later hextends⟩
  · rw [hload] at hvalue
    obtain ⟨record, hrecord, hvalid, hnodup, hreferences⟩ := h.attempts hvalue
    exact ⟨record, hrecord, hvalid, hnodup, fun reference hreference =>
      ⟨(hreferences reference hreference).1, (hreferences reference hreference).2.later hextends⟩⟩

end Runs

end Journal

/-! ## Two operations under one ancestor -/

section Sample

local instance sampleCeilingSha256 : Sha256 :=
  ⟨fun bytes => ⟨Sha2.sha256 bytes, Sha2.sha256_length bytes⟩⟩

local instance sampleBounded : BoundedRecord (Value Unit) := ⟨fun _ => true⟩

def sampleDigest (byte : UInt8) : Digest := ⟨List.replicate 32 byte, by rfl⟩

def sampleReservation : EngagementReservation := ⟨sampleDigest 1, .mutationCount, 1, 2⟩

def sampleJournal : JournalProtocol Unit where
  header _ := .ok ⟨sampleDigest 9, [sampleReservation], []⟩
  stage _ := .ok .reserved
  engagementReservations _ := .ok [sampleReservation]
  digest row := Sha256.digest (row.claim.bytes ++ bigEndian64 row.slot)

def sampleRecord : Record Unit :=
  ⟨1, "record", "binding", "authority", "approval", "operator", "operation", "action", "recipe",
    "nonce", 0, none, [], ()⟩

def sampleClaim (second : Bool) : Claim Unit where
  record := sampleRecord
  first := ⟨.attempt, sampleDigest (if second then 3 else 2), .attempt sampleRecord, none⟩
  rest := []
  dependencies := []
  decision := fun now _ _ => .ok now

def sampleCapacity (key : Digest) : Nat := if key = sampleDigest 1 then 2 else 0

theorem sample_distinctSlots : DistinctSlots sampleCapacity := by
  have hne : slotKey (sampleDigest 1) 0 ≠ slotKey (sampleDigest 1) 1 := by decide +kernel
  have hfirst : ∀ {key : Digest} {slot : Nat}, slot < sampleCapacity key →
      key = sampleDigest 1 ∧ (slot = 0 ∨ slot = 1) := by
    intro key slot hslot
    unfold sampleCapacity at hslot
    split at hslot
    · exact ⟨by assumption, by omega⟩
    · omega
  intro key key' slot slot' hslot hslot' hsame
  obtain ⟨rfl, hplace⟩ := hfirst hslot
  obtain ⟨rfl, hplace'⟩ := hfirst hslot'
  rcases hplace with rfl | rfl <;> rcases hplace' with rfl | rfl
  · exact ⟨rfl, rfl⟩
  · exact absurd hsame hne
  · exact absurd hsame.symm hne
  · exact ⟨rfl, rfl⟩

theorem sample_admissible (second : Bool) :
    (sampleClaim second).Admissible sampleJournal sampleCapacity := by
  refine ⟨by simp [sampleClaim], by simp [sampleClaim], fun {declarations} hdeclared => ?_⟩
  obtain rfl := Except.ok.inj hdeclared
  refine ⟨fun declaration hmem bound hbound => ?_, by simp⟩
  obtain rfl := List.mem_singleton.mp hmem
  obtain rfl := Except.ok.inj hbound
  decide

end Sample

end AuthsProof.Gateway.Engagement
