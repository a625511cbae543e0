import AuthsProof.Identifier
import AuthsProof.Lib.Interleave

/-! The gateway's record store: insert-once batches, fenced decisions and compare-and-swap
replacement, each one atomic step. -/

namespace AuthsProof.Gateway

open Interleave

inductive GatewayAttemptError where
  | replay
  | bindingConflict
  | unsafeDirectory
  | corrupt
  | unavailable
  | invalidTransition
  | conflict
  deriving DecidableEq

inductive GatewayRecordKind where
  | attempt
  | countSlot
  | sumSlot
  | connection
  | commissioningBudget
  | effectConfiguration
  | effectAllocation
  deriving DecidableEq

def GatewayRecordKind.expires : GatewayRecordKind → Bool
  | .countSlot | .sumSlot => true
  | _ => false

/-- The values whose serialised form the store takes: neither empty nor above 262144 bytes. -/
class BoundedRecord (V : Type) where
  bounded : V → Bool

structure GatewayRecordEntry (V : Type) where
  kind : GatewayRecordKind
  key : Digest
  record : V
  expiresAt : Option UInt64

inductive GatewayInsert (V : Type) where
  | inserted (first : V)
  | exists (index : Nat)

structure Stored (V : Type) where
  record : V
  expiresAt : Option UInt64

/-- The durable records and the gateway's clock in seconds. -/
structure Store (V : Type) where
  records : GatewayRecordKind → Digest → Option (Stored V)
  clock : UInt64

def maxGatewayBatchEntries : Nat := 64

def maxGatewayFenceRecords : Nat := 64

section Operations

variable {V : Type}

def Store.load (store : Store V) (kind : GatewayRecordKind) (key : Digest) : Option V :=
  (store.records kind key).map Stored.record

def Store.set (store : Store V) (kind : GatewayRecordKind) (key : Digest) (stored : Stored V) :
    Store V :=
  { store with
    records := fun k d => if k = kind ∧ d = key then some stored else store.records k d }

/-- The expiry the database's signed 64-bit column can hold. -/
def GatewayRecordEntry.expiryValid (entry : GatewayRecordEntry V) : Bool :=
  entry.kind.expires == entry.expiresAt.isSome &&
    entry.expiresAt.all fun expiresAt => expiresAt.toNat < 2 ^ 63

variable [BoundedRecord V]

def validateGatewayBatch (entries : List (GatewayRecordEntry V)) : Bool :=
  !entries.isEmpty && entries.length ≤ maxGatewayBatchEntries &&
    (entries.all fun entry => BoundedRecord.bounded entry.record && entry.expiryValid) &&
    (entries.map GatewayRecordEntry.key).Nodup

def validateGatewayFence (keys : List (GatewayRecordKind × Digest)) : Bool :=
  match keys with
  | [] => false
  | target :: _ => keys.length ≤ maxGatewayFenceRecords && !target.1.expires &&
    (keys.map Prod.snd).Nodup

def Store.insertRows (store : Store V) (entries : List (GatewayRecordEntry V)) : Store V :=
  entries.foldl (fun store entry => store.set entry.kind entry.key ⟨entry.record, entry.expiresAt⟩)
    store

/-- The first entry whose key is taken. -/
def Store.firstExisting (store : Store V) (entries : List (GatewayRecordEntry V)) : Option Nat :=
  entries.findIdx? fun entry => (store.records entry.kind entry.key).isSome

/-- The batch with the first record's bytes replaced by what was decided. -/
def withFirst (entries : List (GatewayRecordEntry V)) (next : V) : List (GatewayRecordEntry V) :=
  match entries with
  | [] => []
  | first :: rest => { first with record := next } :: rest

abbrev Decision (V : Type) := UInt64 → List (Option V) → Except GatewayAttemptError V

def fenceKeys (entries : List (GatewayRecordEntry V))
    (dependencies : List (GatewayRecordKind × Digest)) : List (GatewayRecordKind × Digest) :=
  (entries.map fun entry => (entry.kind, entry.key)) ++ dependencies

def Store.snapshots (store : Store V) (keys : List (GatewayRecordKind × Digest)) : List (Option V) :=
  keys.map fun (kind, key) => store.load kind key

def Store.fencedInsertAll (store : Store V) (entries : List (GatewayRecordEntry V))
    (dependencies : List (GatewayRecordKind × Digest)) (decide : Decision V) :
    Except GatewayAttemptError (GatewayInsert V) × Store V :=
  if !(validateGatewayBatch entries && validateGatewayFence (fenceKeys entries dependencies)) then
    (.error .corrupt, store)
  else match store.firstExisting entries with
    | some index => (.ok (.exists index), store)
    | none => match decide store.clock (store.snapshots dependencies) with
      | .error error => (.error error, store)
      | .ok next =>
        if validateGatewayBatch (withFirst entries next) then
          (.ok (.inserted next), store.insertRows (withFirst entries next))
        else (.error .corrupt, store)

def Store.fencedReplace (store : Store V) (keys : List (GatewayRecordKind × Digest))
    (decide : Decision V) : Except GatewayAttemptError V × Store V :=
  match keys with
  | [] => (.error .corrupt, store)
  | target :: _ =>
    if !validateGatewayFence keys then (.error .corrupt, store)
    else if (store.load target.1 target.2).isNone then (.error .conflict, store)
    else match decide store.clock (store.snapshots keys) with
      | .error error => (.error error, store)
      | .ok next =>
        if BoundedRecord.bounded next then (.ok next, store.set target.1 target.2 ⟨next, none⟩)
        else (.error .corrupt, store)

def Store.insertAll (store : Store V) (entries : List (GatewayRecordEntry V)) :
    Except GatewayAttemptError (GatewayInsert V) × Store V :=
  if !validateGatewayBatch entries then (.error .corrupt, store)
  else match store.firstExisting entries, entries with
    | none, first :: _ => (.ok (.inserted first.record), store.insertRows entries)
    | some index, _ => (.ok (.exists index), store)
    | none, [] => (.error .corrupt, store)

def Store.replace [DecidableEq V] (store : Store V) (kind : GatewayRecordKind) (key : Digest)
    (current next : V) : Except GatewayAttemptError Unit × Store V :=
  if kind.expires then (.error .invalidTransition, store)
  else if !BoundedRecord.bounded next then (.error .corrupt, store)
  else if store.load kind key ≠ some current then (.error .conflict, store)
  else (.ok (), store.set kind key ⟨next, none⟩)

end Operations

/-! ## What the operations do -/

section Laws

variable {V : Type} {store store' : Store V} {entries : List (GatewayRecordEntry V)}
  {kind : GatewayRecordKind} {key : Digest}

/-- Every record of a store is still there, and time has not gone back. -/
structure Store.Extends (store store' : Store V) : Prop where
  records : ∀ {kind key stored}, store.records kind key = some stored →
    store'.records kind key = some stored
  clock : store.clock ≤ store'.clock

theorem Store.Extends.refl (store : Store V) : store.Extends store := ⟨id, le_refl _⟩

theorem Store.Extends.trans {a b c : Store V} (hab : a.Extends b) (hbc : b.Extends c) :
    a.Extends c := ⟨fun h => hbc.records (hab.records h), le_trans hab.clock hbc.clock⟩

theorem Store.Extends.load {value : V} (h : store.Extends store')
    (hload : store.load kind key = some value) : store'.load kind key = some value := by
  obtain ⟨stored, hstored, rfl⟩ := Option.map_eq_some_iff.mp hload
  exact Option.map_eq_some_iff.mpr ⟨stored, h.records hstored, rfl⟩

theorem Store.records_set (stored : Stored V) {kind' : GatewayRecordKind} {key' : Digest} :
    (store.set kind key stored).records kind' key' =
      if kind' = kind ∧ key' = key then some stored else store.records kind' key' := rfl

@[simp] theorem Store.clock_insertRows : (store.insertRows entries).clock = store.clock := by
  unfold Store.insertRows
  induction entries generalizing store with
  | nil => rfl
  | cons entry entries ih => exact ih

/-- A location outside the batch keeps its record. -/
theorem Store.records_insertRows_of_notMem
    (h : ∀ entry ∈ entries, ¬(entry.kind = kind ∧ entry.key = key)) :
    (store.insertRows entries).records kind key = store.records kind key := by
  unfold Store.insertRows
  induction entries generalizing store with
  | nil => rfl
  | cons entry entries ih =>
    have hentry := h entry List.mem_cons_self
    refine (ih fun other hother => h other (List.mem_cons_of_mem entry hother)).trans ?_
    rw [Store.records_set, if_neg fun hsame => hentry ⟨hsame.1.symm, hsame.2.symm⟩]

theorem Store.records_insertRows_of_mem {entry : GatewayRecordEntry V}
    (hnodup : (entries.map GatewayRecordEntry.key).Nodup) (hmem : entry ∈ entries) :
    (store.insertRows entries).records entry.kind entry.key =
      some ⟨entry.record, entry.expiresAt⟩ := by
  induction entries generalizing store with
  | nil => simp at hmem
  | cons first entries ih =>
    obtain ⟨hfirst, hrest⟩ := List.nodup_cons.mp (List.map_cons ▸ hnodup)
    rcases List.mem_cons.mp hmem with rfl | hmem
    · have hlater : ∀ other ∈ entries, ¬(other.kind = entry.kind ∧ other.key = entry.key) :=
        fun other hother hsame => hfirst (List.mem_map.mpr ⟨other, hother, hsame.2⟩)
      have hkept := @Store.records_insertRows_of_notMem _
        (store.set entry.kind entry.key ⟨entry.record, entry.expiresAt⟩) _ _ _ hlater
      exact hkept.trans (if_pos ⟨rfl, rfl⟩)
    · exact ih hrest hmem

/-- A record found after an insertion was inserted or was there before. -/
theorem Store.records_insertRows {stored : Stored V}
    (h : (store.insertRows entries).records kind key = some stored) :
    (∃ entry ∈ entries, entry.kind = kind ∧ entry.key = key) ∨
      store.records kind key = some stored := by
  by_cases hmem : ∃ entry ∈ entries, entry.kind = kind ∧ entry.key = key
  · exact .inl hmem
  · refine .inr ?_
    rwa [Store.records_insertRows_of_notMem fun entry hentry hsame =>
      hmem ⟨entry, hentry, hsame⟩] at h

theorem Store.load_insertRows_of_mem {entry : GatewayRecordEntry V}
    (hnodup : (entries.map GatewayRecordEntry.key).Nodup) (hmem : entry ∈ entries) :
    (store.insertRows entries).load entry.kind entry.key = some entry.record := by
  rw [Store.load, Store.records_insertRows_of_mem hnodup hmem]
  rfl

/-- A value found after an insertion is one of the batch or was there before. -/
theorem Store.load_insertRows {value : V} (hnodup : (entries.map GatewayRecordEntry.key).Nodup)
    (h : (store.insertRows entries).load kind key = some value) :
    (∃ entry ∈ entries, entry.kind = kind ∧ entry.key = key ∧ entry.record = value) ∨
      store.load kind key = some value := by
  obtain ⟨stored, hstored, rfl⟩ := Option.map_eq_some_iff.mp h
  rcases Store.records_insertRows hstored with ⟨entry, hentry, rfl, rfl⟩ | hbefore
  · have hload := @Store.load_insertRows_of_mem _ store _ _ hnodup hentry
    exact .inl ⟨entry, hentry, rfl, rfl, Option.some.inj (hload.symm.trans h)⟩
  · exact .inr (Option.map_eq_some_iff.mpr ⟨stored, hbefore, rfl⟩)

theorem Store.extends_insertRows
    (hfresh : ∀ entry ∈ entries, store.records entry.kind entry.key = none) :
    store.Extends (store.insertRows entries) := by
  refine ⟨fun hstored => ?_, by rw [Store.clock_insertRows]⟩
  rw [Store.records_insertRows_of_notMem fun entry hentry hsame => ?_]
  · exact hstored
  · rw [← hsame.1, ← hsame.2, hfresh entry hentry] at hstored
    cases hstored

theorem keys_withFirst (next : V) : (withFirst entries next).map GatewayRecordEntry.key =
    entries.map GatewayRecordEntry.key := by
  cases entries <;> rfl

theorem exists_mem_of_withFirst {next : V} {entry : GatewayRecordEntry V}
    (h : entry ∈ withFirst entries next) :
    ∃ before ∈ entries, before.kind = entry.kind ∧ before.key = entry.key := by
  cases entries with
  | nil => simp [withFirst] at h
  | cons first rest =>
    rcases List.mem_cons.mp h with rfl | hrest
    · exact ⟨first, List.mem_cons_self, rfl, rfl⟩
    · exact ⟨entry, List.mem_cons_of_mem first hrest, rfl, rfl⟩

variable [BoundedRecord V]

/-- A fenced batch fails, meets a key that is taken, or is inserted whole by its decision. -/
theorem Store.fencedInsertAll_cases (store : Store V) (entries : List (GatewayRecordEntry V))
    (dependencies : List (GatewayRecordKind × Digest)) (decide : Decision V) :
    (∃ error, store.fencedInsertAll entries dependencies decide = (.error error, store)) ∨
    (∃ index entry,
      store.fencedInsertAll entries dependencies decide = (.ok (.exists index), store) ∧
      entries[index]? = some entry ∧ (store.records entry.kind entry.key).isSome = true) ∨
    (∃ next, store.fencedInsertAll entries dependencies decide =
        (.ok (.inserted next), store.insertRows (withFirst entries next)) ∧
      ((withFirst entries next).map GatewayRecordEntry.key).Nodup ∧
      (∀ entry ∈ withFirst entries next, store.records entry.kind entry.key = none) ∧
      decide store.clock (store.snapshots dependencies) = .ok next) := by
  unfold Store.fencedInsertAll
  split
  · exact .inl ⟨_, rfl⟩
  · next hvalid =>
    simp only [Bool.not_eq_true, Bool.not_eq_false', Bool.and_eq_true] at hvalid
    split
    · next index hexisting =>
      obtain ⟨hindex, hsome, -⟩ := List.findIdx?_eq_some_iff_getElem.mp hexisting
      exact .inr (.inl ⟨index, entries[index], rfl, List.getElem?_eq_getElem hindex, hsome⟩)
    · next hnone =>
      split
      · exact .inl ⟨_, rfl⟩
      · next next hdecide =>
        split
        · refine .inr (.inr ⟨next, rfl, ?_, ?_, hdecide⟩)
          · simp only [validateGatewayBatch, Bool.and_eq_true, decide_eq_true_eq] at hvalid
            rw [keys_withFirst]
            exact hvalid.1.2
          · intro entry hentry
            obtain ⟨before, hbefore, hkind, hkey⟩ := exists_mem_of_withFirst hentry
            have hfree := List.findIdx?_eq_none_iff.mp hnone before hbefore
            rw [← hkind, ← hkey]
            simpa using hfree
        · exact .inl ⟨_, rfl⟩

end Laws

/-! ## Requests to the store -/

inductive Request (V : Type) where
  | load (kind : GatewayRecordKind) (key : Digest)
  | fencedInsertAll (entries : List (GatewayRecordEntry V))
      (dependencies : List (GatewayRecordKind × Digest)) (decide : Decision V)
  | fencedReplace (keys : List (GatewayRecordKind × Digest)) (decide : Decision V)
  | insertAll (entries : List (GatewayRecordEntry V))
  | replace (kind : GatewayRecordKind) (key : Digest) (current next : V)

def Request.Answer {V : Type} : Request V → Type
  | .load _ _ => Option V
  | .fencedInsertAll _ _ _ | .insertAll _ => GatewayInsert V
  | .fencedReplace _ _ => V
  | .replace _ _ _ _ => Unit

abbrev Response {V : Type} (request : Request V) := Except GatewayAttemptError request.Answer

/-- Programs of the gateway over the store. -/
abbrev StoreProg (V : Type) := ExceptT GatewayAttemptError (Prog (Request V) Response)

def Request.send {V : Type} (request : Request V) : StoreProg V request.Answer :=
  ExceptT.mk (Prog.ask request)

def Request.perform {V : Type} [BoundedRecord V] [DecidableEq V] (store : Store V) :
    (request : Request V) → Response request × Store V
  | .load kind key => (.ok (store.load kind key), store)
  | .fencedInsertAll entries dependencies decide =>
    store.fencedInsertAll entries dependencies decide
  | .fencedReplace keys decide => store.fencedReplace keys decide
  | .insertAll entries => store.insertAll entries
  | .replace kind key current next => store.replace kind key current next

/-- A request is answered, or fails without effect, or, where acknowledgements may be lost, fails
after it has taken effect. -/
def Request.Executes {V : Type} [BoundedRecord V] [DecidableEq V] (lossy : Prop)
    (request : Request V) (store : Store V) (response : Response request) (store' : Store V) : Prop :=
  (response, store') = request.perform store ∨
    (∃ error, response = .error error ∧ store' = store) ∨
    (lossy ∧ ∃ error, response = .error error ∧ store' = (request.perform store).2)

/-- What one fenced insert does when every acknowledgement arrives. -/
theorem executes_fencedInsertAll {V : Type} [BoundedRecord V] [DecidableEq V]
    {entries : List (GatewayRecordEntry V)} {dependencies : List (GatewayRecordKind × Digest)}
    {decide : Decision V} {store store' : Store V}
    {response : Response (.fencedInsertAll entries dependencies decide)}
    (h : Request.Executes False (.fencedInsertAll entries dependencies decide) store response
      store') :
    (store' = store ∧ ∃ error, response = .error error) ∨
    (store' = store ∧ ∃ index entry, response = .ok (.exists index) ∧
      entries[index]? = some entry ∧ (store.records entry.kind entry.key).isSome = true) ∨
    (∃ next, response = .ok (.inserted next) ∧
      store' = store.insertRows (withFirst entries next) ∧
      ((withFirst entries next).map GatewayRecordEntry.key).Nodup ∧
      (∀ entry ∈ withFirst entries next, store.records entry.kind entry.key = none) ∧
      decide store.clock (store.snapshots dependencies) = .ok next) := by
  rcases h with hperform | ⟨error, hresponse, hstore⟩ | ⟨hlossy, -⟩
  · rcases Store.fencedInsertAll_cases store entries dependencies decide with
      ⟨error, hcase⟩ | ⟨index, entry, hcase, hfacts⟩ | ⟨next, hcase, hfacts⟩
    · obtain ⟨hresponse, hstore⟩ := Prod.mk.inj (hperform.trans hcase)
      exact .inl ⟨hstore, error, hresponse⟩
    · obtain ⟨hresponse, hstore⟩ := Prod.mk.inj (hperform.trans hcase)
      exact .inr (.inl ⟨hstore, index, entry, hresponse, hfacts⟩)
    · obtain ⟨hresponse, hstore⟩ := Prod.mk.inj (hperform.trans hcase)
      exact .inr (.inr ⟨next, hresponse, hstore, hfacts⟩)
  · exact .inl ⟨hstore, error, hresponse⟩
  · exact hlossy.elim

section Lossy

variable {V : Type} [BoundedRecord V] [DecidableEq V] {store store' : Store V} {lossy : Prop}
  {kind : GatewayRecordKind} {key : Digest}

omit [BoundedRecord V] [DecidableEq V] in
theorem Store.load_set (stored : Stored V) :
    (store.set kind key stored).load kind key = some stored.record := by
  simp [Store.load, Store.set]

theorem executes_load {response : Response (.load kind key : Request V)}
    (h : Request.Executes lossy (.load kind key) store response store') :
    store' = store ∧ (response = .ok (store.load kind key) ∨ ∃ error, response = .error error) := by
  rcases h with h | ⟨error, hresponse, rfl⟩ | ⟨-, error, hresponse, rfl⟩
  · obtain ⟨hresponse, rfl⟩ := Prod.mk.inj h
    exact ⟨rfl, .inl hresponse⟩
  · exact ⟨rfl, .inr ⟨error, hresponse⟩⟩
  · exact ⟨rfl, .inr ⟨error, hresponse⟩⟩

/-- A single insertion leaves the store as it was, or fills a free location. -/
theorem executes_insertAll {entry : GatewayRecordEntry V} {response : Response (.insertAll [entry])}
    (h : Request.Executes lossy (.insertAll [entry]) store response store') :
    store' = store ∨ (store.records entry.kind entry.key = none ∧
      store' = store.set entry.kind entry.key ⟨entry.record, entry.expiresAt⟩) := by
  have hperform : (store.insertAll [entry]).2 = store ∨
      (store.records entry.kind entry.key = none ∧ (store.insertAll [entry]).2 =
        store.set entry.kind entry.key ⟨entry.record, entry.expiresAt⟩) := by
    unfold Store.insertAll
    split
    · exact .inl rfl
    · split
      · next first rest hfree hentries =>
        obtain ⟨rfl, rfl⟩ := List.cons.inj hentries
        have hnone := List.findIdx?_eq_none_iff.mp hfree _ List.mem_cons_self
        exact .inr ⟨by simpa using hnone, rfl⟩
      · exact .inl rfl
      · exact .inl rfl
  rcases h with hanswered | ⟨error, hresponse, hstore⟩ | ⟨hlossy, error, hresponse, hstore⟩
  · rw [show store' = (store.insertAll [entry]).2 from congrArg Prod.snd hanswered]
    exact hperform
  · exact .inl hstore
  · rw [show store' = (store.insertAll [entry]).2 from hstore]
    exact hperform

/-- A replacement fails without effect, or finds the record it names and puts the next in place. -/
theorem executes_replace {current next : V} {response : Response (.replace kind key current next)}
    (h : Request.Executes lossy (.replace kind key current next) store response store') :
    (store' = store ∧ ∃ error, response = .error error) ∨
    (store.load kind key = some current ∧ store' = store.set kind key ⟨next, none⟩) := by
  have hperform : (∃ error, store.replace kind key current next = (.error error, store)) ∨
      (store.load kind key = some current ∧
        store.replace kind key current next = (.ok (), store.set kind key ⟨next, none⟩)) := by
    unfold Store.replace
    by_cases hexpires : kind.expires = true
    · exact .inl ⟨_, if_pos hexpires⟩
    · rw [if_neg hexpires]
      by_cases hbounded : BoundedRecord.bounded next = true
      · simp only [hbounded, Bool.not_true, Bool.false_eq_true, if_false]
        by_cases hload : store.load kind key = some current
        · exact .inr ⟨hload, if_neg (not_not_intro hload)⟩
        · exact .inl ⟨_, if_pos hload⟩
      · simp only [hbounded, Bool.not_false, if_true]
        exact .inl ⟨_, rfl⟩
  rcases h with hanswered | ⟨error, hresponse, hstore⟩ | ⟨hlossy, error, hresponse, hstore⟩
  · rcases hperform with ⟨error, hfailed⟩ | ⟨hload, hdone⟩
    · obtain ⟨hresponse, hstore⟩ := Prod.mk.inj (hanswered.trans hfailed)
      exact .inl ⟨hstore, error, hresponse⟩
    · exact .inr ⟨hload, (Prod.mk.inj (hanswered.trans hdone)).2⟩
  · exact .inl ⟨hstore, error, hresponse⟩
  · rcases hperform with ⟨_, hfailed⟩ | ⟨hload, hdone⟩
    · exact .inl ⟨hstore.trans (congrArg Prod.snd hfailed), error, hresponse⟩
    · exact .inr ⟨hload, hstore.trans (congrArg Prod.snd hdone)⟩

end Lossy

end AuthsProof.Gateway
