import AuthsProof.Gateway.Admission

/-! Allocations never exceed an ancestor's ceiling, whatever the order of the claims. -/

namespace AuthsProof.Gateway.Engagement

open Interleave

variable {S : Type}

theorem unitLimit_spec {unit : EffectUnit} {count : Bool} {maximum : Nat}
    (h : unitLimit unit = some (count, maximum)) :
    count = isCount unit ∧ (count = true → maximum ≤ 64) := by
  cases unit <;> simp [unitLimit] at h <;> obtain ⟨rfl, rfl⟩ := h <;> simp [isCount]

theorem slots_spec {reservation : EngagementReservation} {bound : Nat}
    (h : slots reservation = .ok bound) : bound ≤ 64 ∧
      (isCount reservation.unit = true → reservation.amount = 1) := by
  unfold slots at h
  split at h
  · cases h
  · next count maximum hlimit =>
    obtain ⟨rfl, hmaximum⟩ := unitLimit_spec hlimit
    split at h
    · cases h
    · next hcheck =>
      obtain rfl := Except.ok.inj h
      simp only [Bool.or_eq_true, Bool.and_eq_true, decide_eq_true_eq, not_or, not_and,
        Nat.not_lt] at hcheck
      refine ⟨?_, fun hcount => not_not.mp (hcheck.1.2 hcount).1⟩
      split
      · next hcount => exact Nat.le_trans hcheck.1.1.2 (hmaximum hcount)
      · exact Nat.le_refl 64

theorem decodeAllocation_spec {value : Value S} {expected : EngagementReservation} {slot : Nat}
    {row : Allocation} (h : decodeAllocation value expected slot = .ok row) :
    value = .allocation row ∧ row.reservation.unit = expected.unit ∧
      row.reservation.ceiling = expected.ceiling := by
  cases value with
  | allocation row' =>
    unfold decodeAllocation at h
    simp only at h
    split at h
    · cases h
    · split at h
      · cases h
      · next hcheck =>
        obtain rfl := Except.ok.inj h
        simp only [Bool.or_eq_true, decide_eq_true_eq, not_or, Bool.and_eq_true] at hcheck
        exact ⟨rfl, not_not.mp hcheck.1.1.1.1.1.2, not_not.mp hcheck.1.1.1.1.2⟩
  | _ => cases h

theorem validateRecord_spec {journal : JournalProtocol S} {record : Record S}
    (h : validateRecord journal record = .ok ()) :
    (∃ declarations, journal.engagementReservations record = .ok declarations ∧
      record.engagementAllocations.map AllocationRef.reservation = declarations) ∨
    (record.engagementAllocations = [] ∧ journal.stage record = .ok .notEntered) := by
  unfold validateRecord at h
  obtain ⟨binding, -, h⟩ := Except.bind_eq_ok.mp h
  obtain ⟨-, -, h⟩ := Except.bind_eq_ok.mp h
  obtain ⟨declarations, hdeclarations, h⟩ := Except.bind_eq_ok.mp h
  obtain ⟨stage, hstage, h⟩ := Except.bind_eq_ok.mp h
  by_cases hactual : record.engagementAllocations.map AllocationRef.reservation = declarations
  · exact .inl ⟨declarations, hdeclarations, hactual⟩
  · simp only at h
    split at h
    · cases h
    · next hcheck =>
      simp only [ne_eq, hactual, not_false_eq_true, decide_true, Bool.true_and, Bool.not_eq_true,
        Bool.not_eq_false', Bool.and_eq_true, List.isEmpty_iff, List.map_eq_nil_iff,
        decide_eq_true_eq] at hcheck
      exact .inr ⟨hcheck.1, hcheck.2 ▸ hstage⟩

section Ledger

variable [Sha256]

/-- A row continues the row before it within its ceiling. -/
structure Charged (store : Store (Value S)) (row : Allocation) : Prop where
  bound : ∃ bound, slots row.reservation = .ok bound ∧ row.slot < bound
  ceiling : row.cumulative ≤ row.reservation.ceiling
  first : row.slot = 0 → row.cumulative = row.reservation.amount
  next : ∀ previous, row.slot = previous + 1 → ∃ before,
    store.load .effectAllocation (slotKey row.reservation.key previous) =
      some (.allocation before) ∧
    before.reservation.unit = row.reservation.unit ∧
    before.reservation.ceiling = row.reservation.ceiling ∧
    row.cumulative = before.cumulative + row.reservation.amount

theorem Charged.later {store store' : Store (Value S)} {row : Allocation}
    (h : Charged store row) (hextends : store.Extends store') : Charged store' row := by
  refine ⟨h.bound, h.ceiling, h.first, fun previous hslot => ?_⟩
  obtain ⟨before, hload, hfacts⟩ := h.next previous hslot
  exact ⟨before, hextends.load hload, hfacts⟩

theorem Charged.slot_lt {store : Store (Value S)} {row : Allocation} (h : Charged store row) :
    row.slot < 64 := by
  obtain ⟨bound, hbound, hlt⟩ := h.bound
  exact Nat.lt_of_lt_of_le hlt (slots_spec hbound).1

/-- An operation's record has a row for each reference, and the row its digest. -/
def Backed (journal : JournalProtocol S) (store : Store (Value S)) (key : Digest)
    (reference : AllocationRef) : Prop :=
  ∃ row, store.load .effectAllocation (slotKey reference.reservation.key reference.slot) =
      some (.allocation row) ∧ row.claim = key ∧ row.reservation = reference.reservation ∧
    row.slot = reference.slot ∧ journal.digest row = reference.commitment

/-- The row belongs to an operation that refers to it. -/
def Claimed (journal : JournalProtocol S) (store : Store (Value S)) (row : Allocation) : Prop :=
  ∃ record, store.load .attempt row.claim = some (.attempt record) ∧
    ⟨row.reservation, row.slot, journal.digest row⟩ ∈ record.engagementAllocations

/-- The rows and operations of a store that only admissions have written to, where a reservation
key has `capacity` slots. -/
structure Ledger (journal : JournalProtocol S) (capacity : Digest → Nat) (store : Store (Value S)) :
    Prop where
  rows : ∀ {key slot value}, slot < capacity key →
    store.load .effectAllocation (slotKey key slot) = some value →
    ∃ row, value = .allocation row ∧ row.reservation.key = key ∧ row.slot = slot ∧
      Charged store row ∧ Claimed journal store row
  attempts : ∀ {key value}, store.load .attempt key = some value →
    ∃ record, value = .attempt record ∧ validateRecord journal record = .ok () ∧
      (record.engagementAllocations.map fun reference => reference.reservation.key).Nodup ∧
      ∀ reference ∈ record.engagementAllocations,
        reference.slot < capacity reference.reservation.key ∧ Backed journal store key reference

variable {journal : JournalProtocol S} {capacity : Digest → Nat} {store store' : Store (Value S)}

omit [Sha256] in
theorem Claimed.later {row : Allocation} (h : Claimed journal store row)
    (hextends : store.Extends store') : Claimed journal store' row := by
  obtain ⟨record, hload, hmem⟩ := h
  exact ⟨record, hextends.load hload, hmem⟩

theorem Backed.later {key : Digest} {reference : AllocationRef}
    (h : Backed journal store key reference) (hextends : store.Extends store') :
    Backed journal store' key reference := by
  obtain ⟨row, hload, hfacts⟩ := h
  exact ⟨row, hextends.load hload, hfacts⟩

/-- The slot keys in use do not collide. -/
def DistinctSlots (capacity : Digest → Nat) : Prop :=
  ∀ {key key' slot slot'}, slot < capacity key → slot' < capacity key' →
    slotKey key slot = slotKey key' slot' → key = key' ∧ slot = slot'

/-- A reservation uses no slot beyond its key's. -/
def Fits (capacity : Digest → Nat) (reservation : EngagementReservation) : Prop :=
  ∀ bound, slots reservation = .ok bound → bound ≤ capacity reservation.key

/-- What the callers of an admission see to: the rest of the batch are slots and other allocations,
and the declared reservations have distinct keys and as many slots as others of their key. -/
structure Claim.Admissible (journal : JournalProtocol S) (capacity : Digest → Nat) (claim : Claim S) :
    Prop where
  rest_kind : ∀ entry ∈ claim.rest, entry.kind ≠ .attempt
  rest_key : ∀ entry ∈ claim.rest, entry.kind = .effectAllocation →
    ∀ {key slot}, slot < capacity key → entry.key ≠ slotKey key slot
  declared : ∀ {declarations}, journal.engagementReservations claim.record = .ok declarations →
    (∀ declaration ∈ declarations, Fits capacity declaration) ∧
      (declarations.map EngagementReservation.key).Nodup

theorem Claim.Admissible.of_declared {claim : Claim S} (h : claim.Admissible journal capacity)
    {declarations : List EngagementReservation}
    (hdeclared : declaredReservations journal claim.record = .ok declarations) :
    (∀ declaration ∈ declarations, Fits capacity declaration) ∧
      (declarations.map EngagementReservation.key).Nodup := by
  obtain ⟨stage, -, hdeclared⟩ := Except.bind_eq_ok.mp hdeclared
  split at hdeclared
  · obtain rfl := Except.ok.inj hdeclared
    exact ⟨by simp, List.nodup_nil⟩
  · exact h.declared hdeclared

/-- A row proposed for a declared reservation. -/
structure Proposed (claim : Claim S) (store : Store (Value S)) (declaration : EngagementReservation)
    (candidate : Candidate S) : Prop where
  reservation : candidate.row.reservation = declaration
  claim : candidate.row.claim = claim.first.key
  charged : Charged store candidate.row

theorem Proposed.later {claim : Claim S} {declaration : EngagementReservation}
    {candidate : Candidate S} (h : Proposed claim store declaration candidate)
    (hextends : store.Extends store') : Proposed claim store' declaration candidate :=
  ⟨h.reservation, h.claim, h.charged.later hextends⟩

theorem Proposed.slot_lt {claim : Claim S} {declaration : EngagementReservation}
    {candidate : Candidate S} (h : Proposed claim store declaration candidate)
    (hfits : Fits capacity declaration) :
    candidate.row.slot < capacity candidate.row.reservation.key := by
  obtain ⟨bound, hbound, hlt⟩ := h.charged.bound
  rw [h.reservation] at hbound ⊢
  exact Nat.lt_of_lt_of_le hlt (hfits bound hbound)

theorem exists_proposed {claim : Claim S} {declarations : List EngagementReservation}
    {candidates : List (Candidate S)} {candidate : Candidate S}
    (h : List.Forall₂ (Proposed claim store) declarations candidates) (hmem : candidate ∈ candidates) :
    ∃ declaration ∈ declarations, Proposed claim store declaration candidate := by
  obtain ⟨i, hi, rfl⟩ := List.mem_iff_getElem.mp hmem
  have hlength := h.length_eq
  exact ⟨declarations[i], List.getElem_mem _, h.get (by omega) hi⟩

theorem keys_proposed {claim : Claim S} {declarations : List EngagementReservation}
    {candidates : List (Candidate S)}
    (h : List.Forall₂ (Proposed claim store) declarations candidates) :
    candidates.map (fun candidate => candidate.row.reservation.key) =
      declarations.map EngagementReservation.key := by
  induction h with
  | nil => rfl
  | cons hpropose _ ih => rw [List.map_cons, List.map_cons, ih, hpropose.reservation]

/-- An admitted batch keeps the ledger: each new row continues its key and belongs to the new
operation, which has a reference to it. -/
theorem Ledger.kept (h : Ledger journal capacity store) (hslots : DistinctSlots capacity) {claim : Claim S}
    (hclaim : claim.Admissible journal capacity) (hfirst : claim.first.kind = .attempt)
    {declarations : List EngagementReservation} {candidates : List (Candidate S)}
    (hfits : ∀ declaration ∈ declarations, Fits capacity declaration)
    (hdistinct : (declarations.map EngagementReservation.key).Nodup)
    (hproposed : List.Forall₂ (Proposed claim store) declarations candidates) {record : Record S}
    (hallocations : record.engagementAllocations = candidates.map (Candidate.reference journal))
    (hvalid : validateRecord journal record = .ok ())
    (hnodup : ((admitted claim candidates (.attempt record)).map GatewayRecordEntry.key).Nodup)
    (hextends : store.Extends (store.insertRows (admitted claim candidates (.attempt record)))) :
    Ledger journal capacity (store.insertRows (admitted claim candidates (.attempt record))) := by
  have hrecord : (store.insertRows (admitted claim candidates (.attempt record))).load .attempt
      claim.first.key = some (.attempt record) := by
    have hload := @Store.load_insertRows_of_mem _ store _ _ hnodup (mem_admitted.mpr (.inl rfl))
    rwa [hfirst] at hload
  refine ⟨fun {key slot value} hslot hload => ?_, fun {key value} hload => ?_⟩
  · rcases Store.load_insertRows hnodup hload with ⟨entry, hentry, hkind, hentryKey, rfl⟩ | hbefore
    · rcases mem_admitted.mp hentry with rfl | hrest | ⟨candidate, hmem, rfl⟩
      · rw [hfirst] at hkind
        cases hkind
      · exact absurd hentryKey (hclaim.rest_key entry hrest hkind hslot)
      · obtain ⟨declaration, hdeclaration, hpropose⟩ := exists_proposed hproposed hmem
        have hown := hpropose.slot_lt (hfits declaration hdeclaration)
        obtain ⟨rfl, rfl⟩ := hslots hown hslot hentryKey
        refine ⟨candidate.row, rfl, rfl, rfl, hpropose.charged.later hextends, record, ?_, ?_⟩
        · rw [hpropose.claim]
          exact hrecord
        · rw [hallocations]
          exact List.mem_map.mpr ⟨candidate, hmem, rfl⟩
    · obtain ⟨row, hvalue, hfacts⟩ := h.rows hslot hbefore
      exact ⟨row, hvalue, hfacts.1, hfacts.2.1, hfacts.2.2.1.later hextends,
        hfacts.2.2.2.later hextends⟩
  · rcases Store.load_insertRows hnodup hload with ⟨entry, hentry, hkind, rfl, rfl⟩ | hbefore
    · rcases mem_admitted.mp hentry with rfl | hrest | ⟨candidate, -, rfl⟩
      · refine ⟨record, rfl, hvalid, ?_, fun reference hreference => ?_⟩
        · rw [hallocations, List.map_map]
          exact keys_proposed hproposed ▸ hdistinct
        · rw [hallocations] at hreference
          obtain ⟨candidate, hmem, rfl⟩ := List.mem_map.mp hreference
          obtain ⟨declaration, hdeclaration, hpropose⟩ := exists_proposed hproposed hmem
          refine ⟨hpropose.slot_lt (hfits declaration hdeclaration), candidate.row, ?_,
            hpropose.claim, rfl, rfl, rfl⟩
          exact @Store.load_insertRows_of_mem _ store _ _ hnodup
            (mem_admitted.mpr (.inr (.inr ⟨candidate, hmem, rfl⟩)))
      · exact absurd hkind (hclaim.rest_kind entry hrest)
      · cases hkind
    · obtain ⟨record', hvalue, hvalid', hnodup', hreferences⟩ := h.attempts hbefore
      exact ⟨record', hvalue, hvalid', hnodup', fun reference hreference =>
        ⟨(hreferences reference hreference).1, (hreferences reference hreference).2.later hextends⟩⟩

/-! ## One admission among others -/

/-- What was read of the row before a slot. -/
def Precedes (reservation : EngagementReservation) (slot previous : Nat)
    (store : Store (Value S)) : Prop :=
  match slot with
  | 0 => previous = 0
  | slot + 1 => ∃ before,
    store.load .effectAllocation (slotKey reservation.key slot) = some (.allocation before) ∧
    before.reservation.unit = reservation.unit ∧
    before.reservation.ceiling = reservation.ceiling ∧ before.cumulative = previous

theorem Precedes.later {reservation : EngagementReservation} {slot previous : Nat}
    (h : Precedes reservation slot previous store) (hextends : store.Extends store') :
    Precedes reservation slot previous store' := by
  cases slot with
  | zero => exact h
  | succ slot =>
    obtain ⟨before, hload, hfacts⟩ := h
    exact ⟨before, hextends.load hload, hfacts⟩

section Safety

variable [DecidableEq S] [BoundedRecord (Value S)]

/-- Admissions as atomic loads and fenced inserts over a ledger that only grows. -/
def discipline (journal : JournalProtocol S) (capacity : Digest → Nat) :
    Discipline (Request (Value S)) Response (Store (Value S)) where
  exec := Request.Executes False
  inv := Ledger journal capacity
  order := Store.Extends
  refl := Store.Extends.refl
  trans := Store.Extends.trans
  touches s t := t ≠ s
  idle _ h := h rfl

theorem faithful (journal : JournalProtocol S) (capacity : Digest → Nat) :
    Faithful False (discipline journal capacity) := fun h => h

theorem safe_loadPredecessor (hstore : Ledger journal capacity store)
    (reservation : EngagementReservation) (slot : Nat) :
    (discipline journal capacity).Safe
      (onOk fun found t => Precedes reservation slot found.2 t)
      (loadPredecessor reservation slot : StoreProg (Value S) _).run store := by
  cases slot with
  | zero => exact safe_pure fun _ _ _ => rfl
  | succ slot =>
    refine safe_bind hstore (safe_load (faithful journal capacity)
      (fun found t => ∀ value, found = some value →
        t.load .effectAllocation (slotKey reservation.key slot) = some value)
      (fun _ _ _ hst _ h value hvalue => hst.load (h value hvalue))
      fun t _ _ value hvalue => hvalue) fun found t _ ht hfound => ?_
    cases found with
    | none => exact safe_throw
    | some value =>
      refine safe_bind ht (@safe_lifted _ _ _ _ _ _ _
        (fun row _ => decodeAllocation value reservation slot = .ok row) _
        fun row _ hrow _ _ => hrow) fun row u htu hu hrow => ?_
      obtain ⟨rfl, hunit, hceiling⟩ := decodeAllocation_spec (hrow u (Store.Extends.refl u) hu)
      exact safe_pure fun v huv hv =>
        ⟨row, hfound v (htu.trans huv) hv _ rfl, hunit, hceiling, rfl⟩

omit [Sha256] [DecidableEq S] [BoundedRecord (Value S)] in
theorem chainSumsAdmit_singleton {previous amount ceiling : Nat}
    (h : chainSumsAdmit [previous] amount [ceiling] = true) : previous + amount ≤ ceiling := by
  by_cases hfits : previous + amount < 2 ^ 64
  · have hadd : checkedAdd previous amount = some (previous + amount) := if_pos hfits
    simpa [chainSumsAdmit, hadd] using h
  · have hadd : checkedAdd previous amount = none := if_neg hfits
    simp [chainSumsAdmit, hadd] at h

omit [DecidableEq S] [BoundedRecord (Value S)] in
theorem charged_of_precedes {reservation : EngagementReservation} {key effect : Digest}
    {slot previous bound : Nat} (hprecedes : Precedes reservation slot previous store)
    (hslots : slots reservation = .ok bound) (hslot : slot < bound)
    (hceiling : previous + reservation.amount ≤ reservation.ceiling) :
    Charged store ⟨allocationSchema, key, effect, reservation, slot,
      previous + reservation.amount⟩ := by
  refine ⟨⟨bound, hslots, hslot⟩, hceiling, fun hzero => ?_, fun before hnext => ?_⟩
  · obtain rfl : slot = 0 := hzero
    obtain rfl : previous = 0 := hprecedes
    exact Nat.zero_add _
  · obtain rfl : slot = before + 1 := hnext
    obtain ⟨row, hload, hunit, hsame, rfl⟩ := hprecedes
    exact ⟨row, hload, hunit, hsame, rfl⟩

/-- A candidate is the next row of its reservation's key. -/
theorem safe_new (hstore : Ledger journal capacity store) (claim : Claim S)
    (reservation : EngagementReservation) (effect : Digest) :
    (discipline journal capacity).Safe
      (onOk fun candidate t => Proposed claim t reservation candidate)
      (Candidate.new reservation claim.first.key effect : StoreProg (Value S) _).run store := by
  refine safe_bind hstore (@safe_lifted _ _ _ _ _ _ _
    (fun bound _ => slots reservation = .ok bound) _ fun bound _ hbound _ _ => hbound)
    fun bound t _ ht hbound => ?_
  have hslots := hbound t (Store.Extends.refl t) ht
  refine safe_bind ht (@safe_frontier _ _ _ _ _ _ _ _ (faithful journal capacity) (fun _ _ => True)
    (fun _ _ _ _ _ _ => trivial) (fun _ _ _ _ => trivial) ht bound) fun slot u _ hu hslot => ?_
  have hle := (hslot u (Store.Extends.refl u) hu).1
  split
  · exact safe_throw
  · next hne =>
    refine safe_bind hu (safe_loadPredecessor hu reservation slot) fun found v _ hv hfound => ?_
    obtain ⟨predecessor, previous⟩ := found
    simp only
    split
    · exact safe_throw
    · next hsums =>
      have hceiling := chainSumsAdmit_singleton (by simpa using hsums)
      split
      · exact safe_throw
      · next cumulative hadd =>
        have hcumulative : cumulative = previous + reservation.amount := by
          unfold checkedAdd at hadd
          split at hadd
          · exact (Option.some.inj hadd).symm
          · cases hadd
        subst hcumulative
        refine safe_pure fun w hvw hw => ⟨rfl, rfl, ?_⟩
        exact charged_of_precedes (hfound w hvw hw) hslots (by omega) hceiling

theorem safe_insert (hslots : DistinctSlots capacity) {claim : Claim S}
    (hclaim : claim.Admissible journal capacity) (hstore : Ledger journal capacity store) :
    (discipline journal capacity).Safe (onOk (Outcome claim fun _ _ => True))
      (insert journal claim).run store := by
  refine safe_insert_of (faithful journal capacity)
    (fun declaration candidate t => Proposed claim t declaration candidate)
    ⟨fun _ _ _ _ _ _ => trivial, fun _ _ _ _ _ _ => trivial⟩ hstore
    (fun declarations _ declaration _ effect t _ ht => safe_new ht claim declaration effect)
    fun hfirst declarations hdeclared t candidates next _ ht hproposed haccepted => ?_
  obtain ⟨record, evaluatedAt, rfl, rfl, -, hvalid⟩ := haccepted.decision
  obtain ⟨hfits, hdistinct⟩ := hclaim.of_declared hdeclared
  have hextends := Store.extends_insertRows haccepted.fresh
  exact ⟨ht.kept hslots hclaim hfirst hfits hdistinct hproposed rfl hvalid haccepted.nodup hextends,
    hextends⟩

theorem quiet_admission (claim : Claim S) :
    Quiet (discipline journal capacity) Wrote (insert journal claim).run :=
  quiet_insert (faithful journal capacity) claim fun _ _ _ => .inl trivial

end Safety

end Ledger

end AuthsProof.Gateway.Engagement
