import AuthsProof.Gateway.Admission
import AuthsProof.Gateway.Capacity

/-! The slots of the windows that have not ended: filled from the first one on, with exact running
sums, whatever the order of the reservations, the sweeps and the grants. -/

namespace AuthsProof.Gateway

open Interleave

variable [Sha256]

/-- One run of the reservation, for an admitted chain with its partition values. -/
structure Reservation where
  key : Digest
  base : Record MutationState
  operatorNamespace : String
  values : List String
  bound : BoundAdmission
  admission : Admission

namespace Reservation

def Admitted (run : Reservation) : Prop :=
  ∃ fact requirement now, listedArguments fact run.bound.links = .ok run.values ∧
    admitPolicyLinks run.bound.links fact run.operatorNamespace requirement now =
      .ok (some run.bound)

theorem Admitted.valid {run : Reservation} (h : run.Admitted) :
    run.bound.Valid run.operatorNamespace run.values := by
  obtain ⟨fact, requirement, now, hvalues, hadmit⟩ := h
  obtain ⟨-, -, values, hlisted, hvalid⟩ := admitPolicyLinks_spec hadmit
  rwa [Except.ok.inj (hvalues.symm.trans hlisted)]

/-- The counter of a link's subject in the run's window. -/
def countKey (run : Reservation) (link : BoundLink) : Digest :=
  countCounterKey run.operatorNamespace link.subject run.bound.windowSeconds run.bound.windowIndex

def sumKey (run : Reservation) (item : SumCharge) : Digest :=
  sumCounterKey run.operatorNamespace item.link.subject item.value run.bound.windowSeconds
    run.bound.windowIndex

def charges (run : Reservation) : List SumCharge := sumCharges run.bound.links run.values

/-- The run's window has not ended. -/
def Live (run : Reservation) (store : Store (Value MutationState)) : Prop :=
  store.clock.toNat < run.bound.windowEnd

/-- A count counter of the run and one of the slots it may take. -/
structure CountPlace (run : Reservation) (counter : CountCounter) (slot : Nat) : Prop where
  mem : counter ∈ run.bound.counts
  slot : slot < counter.capacity

structure SumPlace (run : Reservation) (counter : SumCounter) (slot : Nat) : Prop where
  mem : counter ∈ run.bound.sums
  slot : slot < counter.slots

end Reservation

/-- No two of the counters and slots in use have one key. -/
structure CollisionFree {ι : Type} (runs : ι → Reservation) : Prop where
  countSlot : ∀ {i j counter counter' slot slot'}, (runs i).CountPlace counter slot →
    (runs j).CountPlace counter' slot' →
    countSlotKey counter.key slot = countSlotKey counter'.key slot' →
    counter.key = counter'.key ∧ slot = slot'
  sumSlot : ∀ {i j counter counter' slot slot'}, (runs i).SumPlace counter slot →
    (runs j).SumPlace counter' slot' →
    sumSlotKey counter.key slot = sumSlotKey counter'.key slot' →
    counter.key = counter'.key ∧ slot = slot'
  count : ∀ {i j link link'}, link ∈ (runs i).bound.links → link' ∈ (runs j).bound.links →
    (runs i).countKey link = (runs j).countKey link' →
    (runs i).operatorNamespace = (runs j).operatorNamespace ∧ link.subject = link'.subject ∧
      (runs i).bound.windowSeconds = (runs j).bound.windowSeconds ∧
      (runs i).bound.windowIndex = (runs j).bound.windowIndex
  sum : ∀ {i j item item'}, item ∈ (runs i).charges → item' ∈ (runs j).charges →
    (runs i).sumKey item = (runs j).sumKey item' →
    (runs i).operatorNamespace = (runs j).operatorNamespace ∧
      item.link.subject = item'.link.subject ∧
      (runs i).bound.windowSeconds = (runs j).bound.windowSeconds ∧
      (runs i).bound.windowIndex = (runs j).bound.windowIndex

section Places

variable {ι : Type} {runs : ι → Reservation} {i j : ι}

omit [Sha256] in
theorem mem_links_of_charges {run : Reservation} {item : SumCharge} (h : item ∈ run.charges) :
    item.link ∈ run.bound.links := by
  obtain ⟨⟨link, value⟩, hpair, hitem⟩ := List.mem_filterMap.mp h
  obtain ⟨bound, -, rfl⟩ := Option.map_eq_some_iff.mp hitem
  exact (List.of_mem_zip hpair).1

/-- One window has one end and one expiry. -/
theorem same_window {a b : BoundAdmission} {na nb : String} {va vb : List String}
    (ha : a.Valid na va) (hb : b.Valid nb vb) (hseconds : a.windowSeconds = b.windowSeconds)
    (hindex : a.windowIndex = b.windowIndex) :
    a.windowEnd = b.windowEnd ∧ a.expiresAt = b.expiresAt := by
  have hend : a.windowEnd = b.windowEnd := by rw [ha.windowEnd, hb.windowEnd, hseconds, hindex]
  exact ⟨hend, by rw [BoundAdmission.expiresAt, BoundAdmission.expiresAt, hend, hseconds]⟩

theorem windowEnd_lt_expiresAt {bound : BoundAdmission} {operatorNamespace : String}
    {values : List String} (h : bound.Valid operatorNamespace values) :
    bound.windowEnd < bound.expiresAt.toNat := by
  have hwindow := h.window
  have hexpires := h.expires
  rw [BoundAdmission.expiresAt, UInt64.toNat_ofNat', Nat.mod_eq_of_lt (by omega)]
  omega

/-- Runs that share a count counter share its window. -/
theorem CollisionFree.count_window (hfree : CollisionFree runs) (hruns : ∀ i, (runs i).Admitted)
    {counter counter' : CountCounter} (hi : counter ∈ (runs i).bound.counts)
    (hj : counter' ∈ (runs j).bound.counts) (hkey : counter.key = counter'.key) :
    (runs i).bound.windowEnd = (runs j).bound.windowEnd ∧
      (runs i).bound.expiresAt = (runs j).bound.expiresAt := by
  obtain ⟨link, hlink, hown⟩ := (hruns i).valid.counts.owned counter hi
  obtain ⟨link', hlink', hown'⟩ := (hruns j).valid.counts.owned counter' hj
  obtain ⟨-, -, hseconds, hindex⟩ := hfree.count hlink hlink' (hown.symm.trans (hkey.trans hown'))
  exact same_window (hruns i).valid (hruns j).valid hseconds hindex

/-- Runs that share a sum counter share its window and the counts of its subject. -/
theorem CollisionFree.sum_window (hfree : CollisionFree runs) (hruns : ∀ i, (runs i).Admitted)
    {item item' : SumCharge} (hi : item ∈ (runs i).charges) (hj : item' ∈ (runs j).charges)
    (hkey : (runs i).sumKey item = (runs j).sumKey item') :
    (runs i).bound.windowEnd = (runs j).bound.windowEnd ∧
      (runs i).bound.expiresAt = (runs j).bound.expiresAt ∧
      (runs i).countKey item.link = (runs j).countKey item'.link := by
  obtain ⟨hnamespace, hsubject, hseconds, hindex⟩ := hfree.sum hi hj hkey
  obtain ⟨hend, hexpires⟩ := same_window (hruns i).valid (hruns j).valid hseconds hindex
  refine ⟨hend, hexpires, ?_⟩
  rw [Reservation.countKey, Reservation.countKey, hnamespace, hsubject, hseconds, hindex]

/-- A sum counter's slots are the slots of its subject's count counter. -/
theorem exists_count_of_sum {run : Reservation} (hrun : run.Admitted) {counter : SumCounter}
    (hmem : counter ∈ run.bound.sums) : ∃ item ∈ run.charges, counter.key = run.sumKey item ∧
      ∃ count ∈ run.bound.counts, count.key = run.countKey item.link ∧
        counter.slots = count.capacity := by
  obtain ⟨item, hitem, hkey, hslots⟩ := hrun.valid.sums.owned counter hmem
  obtain ⟨count, hcount, hcountKey, hcapacity⟩ :=
    sumSlots_eq hrun.valid.counts (mem_links_of_charges hitem)
  exact ⟨item, hitem, hkey, count, hcount, hcountKey, hslots.trans hcapacity⟩

end Places

/-! ## The stores the reservations leave -/

/-- Slots of a window stay until they expire. -/
structure Progress (store store' : Store (Value MutationState)) : Prop where
  clock : store.clock ≤ store'.clock
  kept : ∀ {kind key stored expiresAt}, store.records kind key = some stored →
    stored.expiresAt = some expiresAt → store'.clock < expiresAt →
    store'.records kind key = some stored

omit [Sha256] in
theorem Progress.refl (store : Store (Value MutationState)) : Progress store store :=
  ⟨le_refl _, fun h _ _ => h⟩

omit [Sha256] in
theorem Progress.trans {a b c : Store (Value MutationState)} (hab : Progress a b)
    (hbc : Progress b c) : Progress a c :=
  ⟨le_trans hab.clock hbc.clock, fun hstored hexpires hlt =>
    hbc.kept (hab.kept hstored hexpires (lt_of_le_of_lt hbc.clock hlt)) hexpires hlt⟩

omit [Sha256] in
theorem Progress.of_extends {a b : Store (Value MutationState)} (h : a.Extends b) : Progress a b :=
  ⟨h.clock, fun hstored _ _ => h.records hstored⟩

/-- A count slot of the run, stored until its window's slots expire. -/
def CountRow (run : Reservation) (counter : Digest) (slot : Nat)
    (store : Store (Value MutationState)) : Prop :=
  ∃ row, store.records .countSlot (countSlotKey counter slot) =
      some ⟨.countSlot row, some run.bound.expiresAt⟩ ∧ row.counter = counter ∧ row.slot = slot

def SumRow (run : Reservation) (counter : Digest) (slot : Nat) (row : SumSlotRecord)
    (store : Store (Value MutationState)) : Prop :=
  store.records .sumSlot (sumSlotKey counter slot) =
    some ⟨.sumSlot row, some run.bound.expiresAt⟩ ∧ row.counter = counter ∧ row.slot = slot

def Taken (kind : GatewayRecordKind) (key : Digest) (store : Store (Value MutationState)) : Prop :=
  (store.records kind key).isSome = true

/-- The slots of every window that has not ended: each continues the slot before it, and a sum slot
has the count slot of its number. -/
structure Windows {ι : Type} (runs : ι → Reservation) (store : Store (Value MutationState)) :
    Prop where
  counts : ∀ {i counter slot}, (runs i).Live store → (runs i).CountPlace counter slot →
    Taken .countSlot (countSlotKey counter.key slot) store →
    CountRow (runs i) counter.key slot store ∧
      ∀ previous, slot = previous + 1 → Taken .countSlot (countSlotKey counter.key previous) store
  sums : ∀ {i counter slot}, (runs i).Live store → (runs i).SumPlace counter slot →
    Taken .sumSlot (sumSlotKey counter.key slot) store →
    ∃ row, SumRow (runs i) counter.key slot row store ∧ (slot = 0 → row.cumulative = row.amount) ∧
      (∀ previous, slot = previous + 1 → ∃ before, SumRow (runs i) counter.key previous before store ∧
        row.cumulative = before.cumulative + row.amount) ∧
      ∀ item ∈ (runs i).charges, counter.key = (runs i).sumKey item →
        Taken .countSlot (countSlotKey ((runs i).countKey item.link) slot) store

section Invariant

variable {ι : Type} {runs : ι → Reservation} {i : ι} {store store' : Store (Value MutationState)}

omit [Sha256] in
theorem Reservation.Live.earlier {run : Reservation} (h : run.Live store') (hprogress : Progress store store') :
    run.Live store :=
  Nat.lt_of_le_of_lt (UInt64.le_iff_toNat_le.mp hprogress.clock) h

theorem Reservation.Live.lt_expiresAt {run : Reservation} (hrun : run.Admitted) (h : run.Live store) :
    store.clock < run.bound.expiresAt :=
  UInt64.lt_iff_toNat_lt.mpr (Nat.lt_trans h (windowEnd_lt_expiresAt hrun.valid))

theorem CountRow.later {run : Reservation} {counter : Digest} {slot : Nat} (hrun : run.Admitted)
    (h : CountRow run counter slot store) (hprogress : Progress store store')
    (hlive : run.Live store') : CountRow run counter slot store' := by
  obtain ⟨row, hrow, hfacts⟩ := h
  exact ⟨row, hprogress.kept hrow rfl (hlive.lt_expiresAt hrun), hfacts⟩

theorem SumRow.later {run : Reservation} {counter : Digest} {slot : Nat} {row : SumSlotRecord}
    (hrun : run.Admitted) (h : SumRow run counter slot row store)
    (hprogress : Progress store store') (hlive : run.Live store') :
    SumRow run counter slot row store' :=
  ⟨hprogress.kept h.1 rfl (hlive.lt_expiresAt hrun), h.2⟩

theorem CountRow.taken {run : Reservation} {counter : Digest} {slot : Nat}
    (h : CountRow run counter slot store) : Taken .countSlot (countSlotKey counter slot) store := by
  obtain ⟨row, hrow, -⟩ := h
  rw [Taken, hrow]
  rfl

theorem SumRow.taken {run : Reservation} {counter : Digest} {slot : Nat} {row : SumSlotRecord}
    (h : SumRow run counter slot row store) : Taken .sumSlot (sumSlotKey counter slot) store := by
  rw [Taken, h.1]
  rfl

/-- The taken slots of a count counter form an initial segment. -/
theorem Windows.count_taken (h : Windows runs store) (hlive : (runs i).Live store)
    {counter : CountCounter} {slot : Nat} (hplace : (runs i).CountPlace counter slot)
    (htaken : Taken .countSlot (countSlotKey counter.key slot) store) {lower : Nat}
    (hle : lower ≤ slot) : Taken .countSlot (countSlotKey counter.key lower) store := by
  induction slot with
  | zero =>
    obtain rfl : lower = 0 := by omega
    exact htaken
  | succ slot ih =>
    by_cases heq : lower = slot + 1
    · subst heq
      exact htaken
    · have hbefore := (h.counts hlive hplace htaken).2 slot rfl
      exact ih ⟨hplace.mem, by have := hplace.slot; omega⟩ hbefore (by omega)

end Invariant

end AuthsProof.Gateway
