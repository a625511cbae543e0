import AuthsProof.Lifecycle.SideEffects
import Mathlib.Algebra.Order.BigOperators.Group.List
import Mathlib.Data.List.Flatten

/-! What the records of a store hold of each capacity rule, and when it stays within the rule. -/

namespace AuthsProof.Lifecycle

open Sorting

/-! ## What a record holds -/

section Held

variable (scopeDigest : CommitmentDigest) (windowDigest : Option CommitmentDigest) (unit : UnitId)
  (retainAfterCommit : Bool)

/-- The amount a reservation takes of an additive rule while it is live or committed. -/
def heldAmount (held : LifecycleState × ReservationEntry) : Nat :=
  if isCapacityHolding held.1 || held.2.committed then
    ((additiveAmount scopeDigest windowDigest unit held.2.request).map UInt64.toNat).getD 0
  else 0

/-- What a list of records has of an additive rule. -/
def additiveUse (records : List (WorkflowId × LifecycleRecord)) : Nat :=
  ((heldReservations records).map (heldAmount scopeDigest windowDigest unit)).sum

/-- Whether a reservation is live or retained under an exclusive rule. -/
def holdsExclusive (held : LifecycleState × ReservationEntry) : Bool :=
  underExclusive scopeDigest windowDigest held.2.request &&
    (isCapacityHolding held.1 || (retainAfterCommit && held.2.committed))

/-- The owners an exclusive rule has among a list of records. -/
def exclusiveOwners (records : List (WorkflowId × LifecycleRecord)) :
    List (LifecycleState × ReservationEntry) :=
  (heldReservations records).filter (holdsExclusive scopeDigest windowDigest retainAfterCommit)

@[simp] theorem heldReservations_cons (entry : WorkflowId × LifecycleRecord)
    (records : List (WorkflowId × LifecycleRecord)) :
    heldReservations (entry :: records) = heldReservations [entry] ++ heldReservations records := by
  simp [heldReservations]

theorem heldReservations_perm {xs ys : List (WorkflowId × LifecycleRecord)} (h : xs.Perm ys) :
    (heldReservations xs).Perm (heldReservations ys) :=
  h.flatMap_right _

theorem additiveUse_perm {xs ys : List (WorkflowId × LifecycleRecord)} (h : xs.Perm ys) :
    additiveUse scopeDigest windowDigest unit xs = additiveUse scopeDigest windowDigest unit ys :=
  ((heldReservations_perm h).map _).sum_eq

theorem additiveUse_cons (entry : WorkflowId × LifecycleRecord)
    (records : List (WorkflowId × LifecycleRecord)) :
    additiveUse scopeDigest windowDigest unit (entry :: records) =
      additiveUse scopeDigest windowDigest unit [entry] +
        additiveUse scopeDigest windowDigest unit records := by
  rw [additiveUse, heldReservations_cons, List.map_append, List.sum_append]
  rfl

theorem additiveUse_nil : additiveUse scopeDigest windowDigest unit [] = 0 := rfl

theorem exclusiveOwners_perm {xs ys : List (WorkflowId × LifecycleRecord)} (h : xs.Perm ys) :
    (exclusiveOwners scopeDigest windowDigest retainAfterCommit xs).length =
      (exclusiveOwners scopeDigest windowDigest retainAfterCommit ys).length :=
  ((heldReservations_perm h).filter _).length_eq

theorem exclusiveOwners_cons (entry : WorkflowId × LifecycleRecord)
    (records : List (WorkflowId × LifecycleRecord)) :
    exclusiveOwners scopeDigest windowDigest retainAfterCommit (entry :: records) =
      exclusiveOwners scopeDigest windowDigest retainAfterCommit [entry] ++
        exclusiveOwners scopeDigest windowDigest retainAfterCommit records := by
  rw [exclusiveOwners, heldReservations_cons, List.filter_append]
  rfl

/-- The requests of a reservation set under an additive rule, added up. -/
def requestedAmount (requests : List ReservationRequest) : Nat :=
  (requests.map fun request =>
    ((additiveAmount scopeDigest windowDigest unit request).map UInt64.toNat).getD 0).sum

def requestsUnder (requests : List ReservationRequest) : List ReservationRequest :=
  requests.filter (underExclusive scopeDigest windowDigest)

variable {scopeDigest windowDigest unit retainAfterCommit}

/-- What a settled record has of an additive rule: its requests while they are live or committed. -/
theorem additiveUse_settled {w : WorkflowId} {r : LifecycleRecord} (h : EntriesSettled r) :
    additiveUse scopeDigest windowDigest unit [(w, r)] =
      match r.state with
      | .decisionRecorded | .released | .reconciledReleased => 0
      | _ => requestedAmount scopeDigest windowDigest unit r.input.reservations.entries := by
  have hheld : heldReservations [(w, r)] =
      (settledEntries r.state r.input.reservations.entries).map fun entry => (r.state, entry) := by
    rw [← h]
    simp [heldReservations]
  rw [additiveUse, hheld]
  cases hstate : r.state <;>
    simp [settledEntries, heldAmount, isCapacityHolding, requestedAmount, Function.comp_def]

theorem exclusiveOwners_settled {w : WorkflowId} {r : LifecycleRecord} (h : EntriesSettled r) :
    (exclusiveOwners scopeDigest windowDigest retainAfterCommit [(w, r)]).length =
      match r.state with
      | .decisionRecorded | .released | .reconciledReleased => 0
      | .committed | .reconciledCommitted => if retainAfterCommit then
          (requestsUnder scopeDigest windowDigest r.input.reservations.entries).length else 0
      | _ => (requestsUnder scopeDigest windowDigest r.input.reservations.entries).length := by
  have hheld : heldReservations [(w, r)] =
      (settledEntries r.state r.input.reservations.entries).map fun entry => (r.state, entry) := by
    rw [← h]
    simp [heldReservations]
  rw [exclusiveOwners, hheld]
  cases hstate : r.state <;> cases retainAfterCommit <;>
    simp [settledEntries, holdsExclusive, isCapacityHolding, requestsUnder, List.filter_map,
      Function.comp_def]

end Held

/-! ## What the store derives from its records -/

/-- A released reservation is neither live nor committed. -/
def Unreleased (held : LifecycleState × ReservationEntry) : Prop :=
  held.2.released = true → isCapacityHolding held.1 = false ∧ held.2.committed = false

theorem unreleased_of_settled {records : List (WorkflowId × LifecycleRecord)}
    (h : ∀ entry ∈ records, EntriesSettled entry.2) :
    ∀ held ∈ heldReservations records, Unreleased held := by
  intro held hheld
  obtain ⟨⟨w, r⟩, hentry, hheld⟩ := List.mem_flatMap.mp hheld
  obtain ⟨entry, hmem, rfl⟩ := List.mem_map.mp hheld
  have hsettled := h _ hentry
  unfold EntriesSettled at hsettled
  rw [hsettled] at hmem
  unfold Unreleased
  cases hstate : r.state <;> rw [hstate] at hmem <;>
    simp only [settledEntries, List.not_mem_nil, List.mem_map] at hmem <;>
    obtain ⟨request, -, rfl⟩ := hmem <;> simp [isCapacityHolding]

section Derived

variable {scopeDigest : CommitmentDigest} {windowDigest : Option CommitmentDigest} {unit : UnitId}
  {retainAfterCommit : Bool}

theorem countReservation_ok {counts : UInt64 × UInt64} {held : LifecycleState × ReservationEntry}
    (hheld : Unreleased held)
    (hfits : counts.1.toNat + counts.2.toNat + heldAmount scopeDigest windowDigest unit held < 2 ^ 64) :
    ∃ counts', countReservation scopeDigest windowDigest unit counts held = .ok counts' ∧
      counts'.1.toNat + counts'.2.toNat =
        counts.1.toNat + counts.2.toNat + heldAmount scopeDigest windowDigest unit held := by
  unfold countReservation
  unfold heldAmount at hfits ⊢
  cases hamount : additiveAmount scopeDigest windowDigest unit held.2.request with
  | none => exact ⟨counts, rfl, by simp⟩
  | some amount =>
    rw [hamount] at hfits
    simp only [Option.map_some, Option.getD_some] at hfits ⊢
    by_cases hcommitted : held.2.committed = true
    · simp only [hcommitted, Bool.or_true, if_true] at hfits ⊢
      obtain ⟨sum, hsum, hvalue⟩ := Checked.add_isSome (a := counts.1) (b := amount) (by omega)
      rw [hsum]
      exact ⟨(sum, counts.2), rfl, by dsimp only; omega⟩
    · have hcommitted : held.2.committed = false := by simpa using hcommitted
      by_cases hholding : isCapacityHolding held.1 = true
      · have hreleased : held.2.released = false := by
          by_contra hreleased
          have hnot := (hheld (by simpa using hreleased)).1
          rw [hholding] at hnot
          cases hnot
        simp only [hcommitted, hholding, hreleased, Bool.true_or, if_true, Bool.false_eq_true,
          if_false, Bool.not_false, Bool.and_self] at hfits ⊢
        obtain ⟨sum, hsum, hvalue⟩ := Checked.add_isSome (a := counts.2) (b := amount) (by omega)
        rw [hsum]
        exact ⟨(counts.1, sum), rfl, by dsimp only; omega⟩
      · have hholding : isCapacityHolding held.1 = false := by simpa using hholding
        exact ⟨counts, by simp [hcommitted, hholding], by simp [hcommitted, hholding]⟩

/-- The counts of an additive rule add up to its use, as long as that fits. -/
theorem countReservations_ok {held : List (LifecycleState × ReservationEntry)}
    (hheld : ∀ h ∈ held, Unreleased h) {counts : UInt64 × UInt64}
    (hfits : counts.1.toNat + counts.2.toNat +
      (held.map (heldAmount scopeDigest windowDigest unit)).sum < 2 ^ 64) :
    ∃ counts', held.foldlM (countReservation scopeDigest windowDigest unit) counts = .ok counts' ∧
      counts'.1.toNat + counts'.2.toNat = counts.1.toNat + counts.2.toNat +
        (held.map (heldAmount scopeDigest windowDigest unit)).sum := by
  induction held generalizing counts with
  | nil => exact ⟨counts, rfl, by simp⟩
  | cons h held ih =>
    rw [List.map_cons, List.sum_cons] at hfits ⊢
    have hone : counts.1.toNat + counts.2.toNat + heldAmount scopeDigest windowDigest unit h <
        2 ^ 64 := by omega
    obtain ⟨next, hnext, hsum⟩ := countReservation_ok (hheld h List.mem_cons_self) hone
    have hrest : next.1.toNat + next.2.toNat +
        (held.map (heldAmount scopeDigest windowDigest unit)).sum < 2 ^ 64 := by omega
    obtain ⟨final, hfinal, htotal⟩ :=
      ih (fun h' hh' => hheld h' (List.mem_cons_of_mem _ hh')) hrest
    refine ⟨final, ?_, by omega⟩
    rw [List.foldlM_cons, hnext]
    exact hfinal

theorem takeOwner_some {id : ReservationId} {held : List (LifecycleState × ReservationEntry)} :
    held.foldlM (takeOwner scopeDigest windowDigest retainAfterCommit) (some id) =
      if held.filter (ownsExclusive scopeDigest windowDigest retainAfterCommit) = []
        then .ok (some id) else .error .corrupt := by
  induction held with
  | nil => rfl
  | cons h held ih =>
    rw [List.foldlM_cons]
    by_cases howns : ownsExclusive scopeDigest windowDigest retainAfterCommit h = true
    · have htake : takeOwner scopeDigest windowDigest retainAfterCommit (some id) h =
          .error .corrupt := by simp [takeOwner, howns]
      rw [htake, List.filter_cons_of_pos howns, if_neg (by simp)]
      rfl
    · have htake : takeOwner scopeDigest windowDigest retainAfterCommit (some id) h =
          .ok (some id) := by simp [takeOwner, howns]
      rw [htake, List.filter_cons_of_neg howns]
      exact ih

/-- The owner of an exclusive rule, if it has at most one. -/
theorem takeOwner_none {held : List (LifecycleState × ReservationEntry)} :
    held.foldlM (takeOwner scopeDigest windowDigest retainAfterCommit) none =
      match held.filter (ownsExclusive scopeDigest windowDigest retainAfterCommit) with
      | [] => .ok none
      | [owner] => .ok (some owner.2.request.reservationId)
      | _ => .error .corrupt := by
  induction held with
  | nil => rfl
  | cons h held ih =>
    rw [List.foldlM_cons]
    by_cases howns : ownsExclusive scopeDigest windowDigest retainAfterCommit h = true
    · have htake : takeOwner scopeDigest windowDigest retainAfterCommit none h =
          .ok (some h.2.request.reservationId) := by simp [takeOwner, howns]
      rw [htake, List.filter_cons_of_pos howns]
      refine takeOwner_some.trans ?_
      cases held.filter (ownsExclusive scopeDigest windowDigest retainAfterCommit) with
      | nil => rfl
      | cons owner owners => rfl
    · have htake : takeOwner scopeDigest windowDigest retainAfterCommit none h = .ok none := by
        simp [takeOwner, howns]
      rw [htake, List.filter_cons_of_neg howns]
      exact ih

theorem ownsExclusive_eq {held : LifecycleState × ReservationEntry} (h : Unreleased held) :
    ownsExclusive scopeDigest windowDigest retainAfterCommit held =
      holdsExclusive scopeDigest windowDigest retainAfterCommit held := by
  unfold ownsExclusive holdsExclusive
  cases hreleased : held.2.released with
  | false => simp
  | true =>
    obtain ⟨hholding, hcommitted⟩ := h hreleased
    simp [hholding, hcommitted]

theorem filter_ownsExclusive {records : List (WorkflowId × LifecycleRecord)}
    (h : ∀ entry ∈ records, EntriesSettled entry.2) :
    (heldReservations records).filter (ownsExclusive scopeDigest windowDigest retainAfterCommit) =
      exclusiveOwners scopeDigest windowDigest retainAfterCommit records :=
  List.filter_congr fun held hheld => ownsExclusive_eq (unreleased_of_settled h held hheld)

end Derived

/-! ## Snapshots -/

theorem validateRules_ok {keys : List CapacityKey} {rules : List LifecycleCapacityRule}
    (h : validateRules keys rules = .ok ()) :
    (∀ rule ∈ rules, rule.key ∉ keys) ∧ rules.Pairwise (fun a b => a.key ≠ b.key) ∧
      ∀ scope window unit ceiling, LifecycleCapacityRule.additive scope window unit ceiling ∈ rules →
        ceiling ≠ 0 := by
  induction rules generalizing keys with
  | nil => simp
  | cons rule rules ih =>
    have hrest : (∀ scope window unit ceiling, rule = .additive scope window unit ceiling →
        ceiling ≠ 0) ∧ rule.key ∉ keys ∧ validateRules (rule.key :: keys) rules = .ok () := by
      cases rule with
      | additive scope window unit ceiling =>
        by_cases hzero : ceiling = 0
        · simp [validateRules, hzero, bind, Except.bind] at h
        by_cases hkey : (LifecycleCapacityRule.additive scope window unit ceiling).key ∈ keys
        · simp [validateRules, hzero, hkey, bind, Except.bind] at h
        · simp only [validateRules, hzero, if_false, hkey] at h
          refine ⟨fun _ _ _ c hrule => ?_, hkey, h⟩
          injection hrule with _ _ _ hceiling
          exact hceiling ▸ hzero
      | exclusive scope window retain =>
        by_cases hkey : (LifecycleCapacityRule.exclusive scope window retain).key ∈ keys
        · simp [validateRules, hkey, bind, Except.bind] at h
        · simp only [validateRules, hkey, if_false] at h
          exact ⟨fun _ _ _ c hrule => (nomatch hrule), hkey, h⟩
    obtain ⟨hceiling, hkey, hrest⟩ := hrest
    obtain ⟨hfresh, hdistinct, hceilings⟩ := ih hrest
    refine ⟨?_, ?_, ?_⟩
    · intro other hother
      rcases List.mem_cons.mp hother with rfl | hother
      · exact hkey
      · exact fun hmem => hfresh other hother (List.mem_cons_of_mem _ hmem)
    · refine List.pairwise_cons.mpr ⟨fun other hother heq => ?_, hdistinct⟩
      exact hfresh other hother (heq ▸ List.mem_cons_self)
    · intro scope window unit ceiling hmem
      rcases List.mem_cons.mp hmem with hrule | hmem
      · exact hceiling scope window unit ceiling hrule.symm
      · exact hceilings scope window unit ceiling hmem

/-- A list of rules a store can be built with. -/
structure ValidRules (rules : List LifecycleCapacityRule) : Prop where
  distinct : rules.Pairwise fun a b => a.key ≠ b.key
  ceiling : ∀ scope window unit ceiling,
    LifecycleCapacityRule.additive scope window unit ceiling ∈ rules → ceiling ≠ 0

theorem validRules_of_validateConfiguration {rules : List LifecycleCapacityRule}
    {maximumRecords : Nat} (h : validateConfiguration rules maximumRecords = .ok ()) :
    ValidRules rules := by
  unfold validateConfiguration at h
  by_cases hlimit : (maximumRecords = 0 || 1000000 < maximumRecords) = true
  · simp [hlimit, bind, Except.bind] at h
  · simp only [hlimit] at h
    obtain ⟨-, hdistinct, hceiling⟩ := validateRules_ok h
    exact ⟨hdistinct, hceiling⟩

theorem ValidRules.eq_of_key {rules : List LifecycleCapacityRule} (h : ValidRules rules)
    {a b : LifecycleCapacityRule} (ha : a ∈ rules) (hb : b ∈ rules) (hkey : a.key = b.key) :
    a = b := by
  have hnodup : (rules.map LifecycleCapacityRule.key).Nodup := List.pairwise_map.mpr h.distinct
  exact List.inj_on_of_nodup_map hnodup ha hb hkey

/-- No rule is overcommitted by the records, nor has it two owners. -/
structure WithinRules (rules : List LifecycleCapacityRule)
    (records : List (WorkflowId × LifecycleRecord)) : Prop where
  additive : ∀ scope window unit ceiling,
    LifecycleCapacityRule.additive scope window unit ceiling ∈ rules →
    additiveUse scope window unit records ≤ ceiling.toNat
  exclusive : ∀ scope window retain, LifecycleCapacityRule.exclusive scope window retain ∈ rules →
    (exclusiveOwners scope window retain records).length ≤ 1

theorem heldReservations_sublist {xs ys : List (WorkflowId × LifecycleRecord)} (h : xs.Sublist ys) :
    (heldReservations xs).Sublist (heldReservations ys) :=
  h.flatMap _

theorem additiveUse_le_of_sublist {xs ys : List (WorkflowId × LifecycleRecord)} (h : xs.Sublist ys)
    (scope : CommitmentDigest) (window : Option CommitmentDigest) (unit : UnitId) :
    additiveUse scope window unit xs ≤ additiveUse scope window unit ys :=
  ((heldReservations_sublist h).map _).sum_le_sum fun _ _ => Nat.zero_le _

theorem WithinRules.sublist {rules : List LifecycleCapacityRule}
    {xs ys : List (WorkflowId × LifecycleRecord)} (h : WithinRules rules ys) (hs : xs.Sublist ys) :
    WithinRules rules xs where
  additive := fun scope window unit ceiling hrule =>
    (additiveUse_le_of_sublist hs scope window unit).trans (h.additive scope window unit ceiling hrule)
  exclusive := fun scope window retain hrule =>
    (((heldReservations_sublist hs).filter _).length_le).trans (h.exclusive scope window retain hrule)

theorem capacityEntry_key {held : List (LifecycleState × ReservationEntry)}
    {rule : LifecycleCapacityRule} {entry : CapacityEntry} (h : capacityEntry held rule = .ok entry) :
    entry.key = rule.key := by
  cases rule with
  | additive scope window unit ceiling =>
    obtain ⟨counts, -, h⟩ := Except.bind_eq_ok.mp h
    rw [← Except.ok.inj h]
    rfl
  | exclusive scope window retain =>
    obtain ⟨owner, -, h⟩ := Except.bind_eq_ok.mp h
    rw [← Except.ok.inj h]
    rfl

/-- An entry is derived for each rule within its bounds, and fits it. -/
theorem capacityEntry_ok {rules : List LifecycleCapacityRule} (hrules : ValidRules rules)
    {records : List (WorkflowId × LifecycleRecord)} (hwithin : WithinRules rules records)
    (hsettled : ∀ entry ∈ records, EntriesSettled entry.2) {rule : LifecycleCapacityRule}
    (hrule : rule ∈ rules) :
    ∃ entry, capacityEntry (heldReservations records) rule = .ok entry ∧
      entry.overcommitted = false := by
  cases rule with
  | additive scope window unit ceiling =>
    have huse := hwithin.additive scope window unit ceiling hrule
    have hceiling := ceiling.toNat_lt
    unfold additiveUse at huse
    obtain ⟨⟨committed, active⟩, hcounts, hsum⟩ :=
      @countReservations_ok scope window unit _ (unreleased_of_settled hsettled) (0, 0) (by
        simp only [UInt64.toNat_zero]
        omega)
    simp only [UInt64.toNat_zero, Nat.zero_add] at hsum
    refine ⟨.additive scope window unit ceiling committed active, ?_, ?_⟩
    · simp [capacityEntry, hcounts, bind, Except.bind, pure, Except.pure]
    · obtain ⟨used, hused, hvalue⟩ :=
        Checked.add_isSome (a := committed) (b := active) (by omega)
      have hzero := hrules.ceiling scope window unit ceiling hrule
      simp only [CapacityEntry.overcommitted, hused, Option.all_some, Bool.or_eq_false_iff,
        beq_eq_false_iff_ne, ne_eq, hzero, not_false_eq_true, decide_eq_false_iff_not,
        UInt64.lt_iff_toNat_lt, true_and]
      omega
  | exclusive scope window retain =>
    have howners := hwithin.exclusive scope window retain hrule
    rw [← filter_ownsExclusive hsettled] at howners
    have hfold := @takeOwner_none scope window retain (heldReservations records)
    generalize (heldReservations records).filter (ownsExclusive scope window retain) = owners
      at howners hfold
    rcases owners with _ | ⟨owner, _ | ⟨other, owners⟩⟩
    · exact ⟨.exclusive scope window none, by simp [capacityEntry, hfold, bind, Except.bind,
        pure, Except.pure], rfl⟩
    · exact ⟨.exclusive scope window (some owner.2.request.reservationId), by
        simp [capacityEntry, hfold, bind, Except.bind, pure, Except.pure], rfl⟩
    · simp at howners

theorem mapM_ok {ε α β : Type} {f : α → Except ε β} {xs : List α}
    (h : ∀ x ∈ xs, ∃ y, f x = .ok y) : ∃ ys, xs.mapM f = .ok ys := by
  induction xs with
  | nil => exact ⟨[], rfl⟩
  | cons x xs ih =>
    obtain ⟨y, hy⟩ := h x List.mem_cons_self
    obtain ⟨ys, hys⟩ := ih fun x' hx' => h x' (List.mem_cons_of_mem x hx')
    refine ⟨y :: ys, ?_⟩
    rw [List.mapM_cons, hy, hys]
    rfl

theorem map_of_mapM_ok {ε α β γ : Type} {f : α → Except ε β} {g : β → γ} {k : α → γ} {xs : List α}
    {ys : List β} (hg : ∀ x y, f x = .ok y → g y = k x) (h : xs.mapM f = .ok ys) :
    ys.map g = xs.map k := by
  induction xs generalizing ys with
  | nil =>
    obtain rfl : [] = ys := Except.ok.inj h
    rfl
  | cons x xs ih =>
    obtain ⟨y, hy, h⟩ := Except.bind_eq_ok.mp (List.mapM_cons.symm.trans h)
    obtain ⟨ys', hys', h⟩ := Except.bind_eq_ok.mp h
    obtain rfl : y :: ys' = ys := Except.ok.inj h
    rw [List.map_cons, List.map_cons, hg x y hy, ih hys']

theorem mem_of_mapM_ok {ε α β : Type} {f : α → Except ε β} {xs : List α} {ys : List β}
    (h : xs.mapM f = .ok ys) : ∀ y ∈ ys, ∃ x ∈ xs, f x = .ok y := by
  induction xs generalizing ys with
  | nil =>
    obtain rfl : [] = ys := Except.ok.inj h
    simp
  | cons x xs ih =>
    obtain ⟨y, hy, h⟩ := Except.bind_eq_ok.mp (List.mapM_cons.symm.trans h)
    obtain ⟨ys', hys', h⟩ := Except.bind_eq_ok.mp h
    obtain rfl : y :: ys' = ys := Except.ok.inj h
    intro z hz
    rcases List.mem_cons.mp hz with rfl | hz
    · exact ⟨x, List.mem_cons_self, hy⟩
    · obtain ⟨x', hx', hz⟩ := ih hys' z hz
      exact ⟨x', List.mem_cons_of_mem x hx', hz⟩

/-- As many entries as a snapshot holds, each fitting and no two about one thing, make a snapshot. -/
theorem CapacitySnapshot.new_ok {entries : List CapacityEntry}
    (hlength : entries.length ≤ maxReservationIntents)
    (hfits : ∀ entry ∈ entries, entry.overcommitted = false)
    (hdistinct : entries.Pairwise fun a b => a.key ≠ b.key) :
    ∃ capacity, CapacitySnapshot.new entries = .ok capacity := by
  have hperm := sortByKey_perm CapacityEntry.key entries
  have hsorted : (sortByKey CapacityEntry.key entries).Pairwise fun a b => a.key < b.key := by
    have hne := (hperm.pairwise_iff fun h => h.symm).mpr hdistinct
    exact ((sortByKey_pairwise CapacityEntry.key entries).and hne).imp
      fun h => lt_of_le_of_ne h.1 h.2
  have hany : ¬entries.any CapacityEntry.overcommitted = true := by
    rw [List.any_eq_true]
    intro ⟨entry, hentry, hover⟩
    rw [hfits entry hentry] at hover
    cases hover
  unfold CapacitySnapshot.new
  rw [dif_neg (not_lt.mpr hlength), dif_neg hany, dif_pos (adjacentDistinct_of_pairwise_lt hsorted)]
  exact ⟨_, rfl⟩

theorem capacitySnapshot_ok {rules : List LifecycleCapacityRule} (hrules : ValidRules rules)
    (hlength : rules.length ≤ maxReservationIntents) {database : LifecycleDatabase} {w : WorkflowId}
    (hwithin : WithinRules rules (database.others w))
    (hsettled : ∀ entry ∈ database.others w, EntriesSettled entry.2) :
    ∃ capacity, capacitySnapshot database rules w = .ok capacity := by
  obtain ⟨entries, hentries⟩ := mapM_ok fun rule hrule =>
    (capacityEntry_ok hrules hwithin hsettled hrule).imp fun _ h => h.1
  have hkeys := map_of_mapM_ok (fun _ _ => capacityEntry_key) hentries
  have hfits : ∀ entry ∈ entries, entry.overcommitted = false := by
    intro entry hentry
    obtain ⟨rule, hrule, hok⟩ := mem_of_mapM_ok hentries entry hentry
    obtain ⟨entry', hok', hfits⟩ := capacityEntry_ok hrules hwithin hsettled hrule
    obtain rfl : entry' = entry := Except.ok.inj (hok'.symm.trans hok)
    exact hfits
  have hdistinct : entries.Pairwise fun a b => a.key ≠ b.key := by
    have hnodup : (entries.map CapacityEntry.key).Nodup := by
      rw [hkeys]
      exact List.pairwise_map.mpr hrules.distinct
    exact List.pairwise_map.mp hnodup
  have hcount : entries.length ≤ maxReservationIntents := by
    have hsame := congrArg List.length hkeys
    rw [List.length_map, List.length_map] at hsame
    rw [hsame]
    exact hlength
  obtain ⟨capacity, hcapacity⟩ := CapacitySnapshot.new_ok hcount hfits hdistinct
  refine ⟨capacity, ?_⟩
  simp [capacitySnapshot, hentries, hcapacity, bind, Except.bind, Except.mapError]

theorem snapshot_entries {rules : List LifecycleCapacityRule} {database : LifecycleDatabase}
    {w : WorkflowId} {capacity : CapacitySnapshot}
    (h : capacitySnapshot database rules w = .ok capacity) :
    ∀ entry ∈ capacity.entries, ∃ rule ∈ rules,
      capacityEntry (heldReservations (database.others w)) rule = .ok entry := by
  obtain ⟨entries, hentries, h⟩ := Except.bind_eq_ok.mp h
  have hnew : CapacitySnapshot.new entries = .ok capacity := by
    cases hnew : CapacitySnapshot.new entries with
    | error error => simp [hnew, Except.mapError] at h
    | ok capacity' => simpa [hnew, Except.mapError] using h
  intro entry hentry
  refine mem_of_mapM_ok hentries entry ?_
  unfold CapacitySnapshot.new at hnew
  split at hnew
  · cases hnew
  split at hnew
  · cases hnew
  split at hnew
  · rw [← Except.ok.inj hnew] at hentry
    exact mem_sortByKey.mp hentry
  · cases hnew

/-- A request for an exclusive rule is admitted when nobody else owns it, or the owner carries the very
same reservation. -/
theorem admitted_exclusive {rules : List LifecycleCapacityRule} (hrules : ValidRules rules)
    {database : LifecycleDatabase} {w : WorkflowId} {capacity : CapacitySnapshot}
    (hcapacity : capacitySnapshot database rules w = .ok capacity)
    (hsettled : ∀ entry ∈ database.others w, EntriesSettled entry.2)
    {scope : CommitmentDigest} {window : Option CommitmentDigest} {retain : Bool}
    (hrule : LifecycleCapacityRule.exclusive scope window retain ∈ rules)
    {request : ReservationRequest} (hunder : underExclusive scope window request = true)
    (hadmits : capacity.entries.any (entryAdmits request) = true) :
    ∀ held ∈ exclusiveOwners scope window retain (database.others w),
      held.2.request.reservationId = request.reservationId := by
  obtain ⟨entry, hentry, hadmit⟩ := List.any_eq_true.mp hadmits
  obtain ⟨rule, hmem, hok⟩ := snapshot_entries hcapacity entry hentry
  simp only [underExclusive, Bool.and_eq_true, decide_eq_true_eq] at hunder
  obtain ⟨⟨hscope, hwindow⟩, hmode⟩ := hunder
  cases rule with
  | additive scope' window' unit ceiling =>
    obtain ⟨counts, -, hok⟩ := Except.bind_eq_ok.mp hok
    rw [← Except.ok.inj hok] at hadmit
    simp [entryAdmits, hmode] at hadmit
  | exclusive scope' window' retain' =>
    obtain ⟨owner, hfold, hok⟩ := Except.bind_eq_ok.mp hok
    rw [← Except.ok.inj hok] at hadmit
    simp only [entryAdmits, hmode, Bool.and_eq_true, decide_eq_true_eq] at hadmit
    obtain ⟨⟨hscope', hwindow'⟩, havailable⟩ := hadmit
    have hsame := hrules.eq_of_key hmem hrule (by
      rw [LifecycleCapacityRule.key, LifecycleCapacityRule.key, ← hscope', ← hwindow', hscope,
        hwindow])
    obtain ⟨rfl, rfl, rfl⟩ := LifecycleCapacityRule.exclusive.inj hsame
    rw [takeOwner_none, filter_ownsExclusive hsettled] at hfold
    match howners : exclusiveOwners scope' window' retain' (database.others w), hfold with
    | [], _ => simp
    | [only], hfold =>
      obtain rfl : some only.2.request.reservationId = owner := Except.ok.inj hfold
      intro held hheld
      rw [List.mem_singleton.mp hheld]
      simpa [exclusiveCapacityAvailable] using havailable
    | _ :: _ :: _, hfold => cases hfold

/-! ## Runs -/

/-- A record that holds no more of any rule than another one. -/
def NoMore (r p : LifecycleRecord) : Prop :=
  (∀ w scope window unit,
    additiveUse scope window unit [(w, p)] ≤ additiveUse scope window unit [(w, r)]) ∧
  ∀ w scope window retain, (exclusiveOwners scope window retain [(w, p)]).length ≤
    (exclusiveOwners scope window retain [(w, r)]).length

/-- Only a reservation takes more of a rule. -/
theorem Edge.noMore {r p : LifecycleRecord} {context : TransitionContext}
    {command : TransitionCommand} (hr : EntriesSettled r) (h : Edge r context command p)
    (hcommand : command ≠ .reserve) : NoMore r p := by
  have hp := h.entriesSettled hr
  have hinput := h.sameHistory.input
  refine ⟨fun w scope window unit => ?_, fun w scope window retain => ?_⟩
  · rw [additiveUse_settled hr, additiveUse_settled hp, hinput]
    cases h with
    | reserve _ _ => exact absurd rfl hcommand
    | recordExecutionIntent intent hstate => simp [hstate]
    | authorizeCredential hstate _ _ => simp [hstate]
    | startAttempt intent ordinal hstate _ _ _ => simp [hstate]
    | markProviderCallEntered earlier attempt hstate _ _ => simp [hstate]
    | commit _ _ earlier attempt hstate _ _ => simp [hstate]
    | release _ _ conclusion _ => simp
    | markOutcomeUnknown _ hstate _ => simp [hstate]
    | reconcileEffect _ _ hstate _ _ => simp [hstate]
    | reconcileNonEffect _ _ _ _ _ => simp
    | reconcileInconclusive _ _ hstate _ _ => simp [hstate]
  · rw [exclusiveOwners_settled hr, exclusiveOwners_settled hp, hinput]
    cases h with
    | reserve _ _ => exact absurd rfl hcommand
    | recordExecutionIntent intent hstate => simp [hstate]
    | authorizeCredential hstate _ _ => simp [hstate]
    | startAttempt intent ordinal hstate _ _ _ => simp [hstate]
    | markProviderCallEntered earlier attempt hstate _ _ => simp [hstate]
    | commit _ _ earlier attempt hstate _ _ => cases retain <;> simp [hstate]
    | release _ _ conclusion _ => simp
    | markOutcomeUnknown _ hstate _ => simp [hstate]
    | reconcileEffect _ _ hstate _ _ => cases retain <;> simp [hstate]
    | reconcileNonEffect _ _ _ _ _ => simp
    | reconcileInconclusive _ _ hstate _ _ => simp [hstate]

section Fitting

variable [Sha256]

omit [Sha256] in
/-- The requests of one workflow fit its rules together with what the other workflows hold, and no
other workflow owns an exclusive rule under the very same reservation. -/
structure FitsTogether (rules : List LifecycleCapacityRule)
    (others : List (WorkflowId × LifecycleRecord)) (requests : List ReservationRequest) : Prop where
  additive : ∀ scope window unit ceiling,
    LifecycleCapacityRule.additive scope window unit ceiling ∈ rules →
    requestedAmount scope window unit requests + additiveUse scope window unit others ≤ ceiling.toNat
  exclusive : ∀ scope window retain, LifecycleCapacityRule.exclusive scope window retain ∈ rules →
    (requestsUnder scope window requests).length ≤ 1 ∧
    ∀ request ∈ requestsUnder scope window requests,
      ∀ held ∈ exclusiveOwners scope window retain others,
        held.2.request.reservationId ≠ request.reservationId

omit [Sha256] in
/-- A transaction that reserves nothing, or reserves what fits together. -/
def Fits (rules : List LifecycleCapacityRule) (database : LifecycleDatabase)
    (transaction : StoreTransaction) : Prop :=
  ∀ record, transaction.command = .reserve → database.get transaction.workflowId = some record →
    record.state = .decisionRecorded →
    FitsTogether rules (database.others transaction.workflowId) record.input.reservations.entries

theorem StoreRun.settled {rules : List LifecycleCapacityRule} {maximumRecords : Nat}
    {entries : List Entry} {database : LifecycleDatabase}
    (h : StoreRun rules maximumRecords .empty entries database) :
    ∀ entry ∈ database.entries, EntriesSettled entry.2 := by
  intro ⟨w, record⟩ hmem
  have hagrees := h.agrees w
  rw [Agrees, SortedMap.get_eq_some.mpr hmem] at hagrees
  exact hagrees.entriesSettled

omit [Sha256] in
/-- The records stay within the rules when the entry of one workflow is exchanged for one that takes
no more than is left. -/
theorem withinRules_insert {rules : List LifecycleCapacityRule} {database : LifecycleDatabase}
    {w : WorkflowId} {record : LifecycleRecord}
    (hadditive : ∀ scope window unit ceiling,
      LifecycleCapacityRule.additive scope window unit ceiling ∈ rules →
      additiveUse scope window unit [(w, record)] +
        additiveUse scope window unit (database.others w) ≤ ceiling.toNat)
    (hexclusive : ∀ scope window retain,
      LifecycleCapacityRule.exclusive scope window retain ∈ rules →
      (exclusiveOwners scope window retain [(w, record)]).length +
        (exclusiveOwners scope window retain (database.others w)).length ≤ 1) :
    WithinRules rules (database.insert w record).entries where
  additive := fun scope window unit ceiling hrule => by
    rw [additiveUse_perm _ _ _ (database.entries_insert_perm w record), additiveUse_cons]
    exact hadditive scope window unit ceiling hrule
  exclusive := fun scope window retain hrule => by
    rw [exclusiveOwners_perm _ _ _ (database.entries_insert_perm w record), exclusiveOwners_cons,
      List.length_append]
    exact hexclusive scope window retain hrule

omit [Sha256] in
theorem WithinRules.split {rules : List LifecycleCapacityRule} {database : LifecycleDatabase}
    {w : WorkflowId} {r : LifecycleRecord} (h : WithinRules rules database.entries)
    (hget : database.get w = some r) :
    (∀ scope window unit ceiling, LifecycleCapacityRule.additive scope window unit ceiling ∈ rules →
      additiveUse scope window unit [(w, r)] +
        additiveUse scope window unit (database.others w) ≤ ceiling.toNat) ∧
    ∀ scope window retain, LifecycleCapacityRule.exclusive scope window retain ∈ rules →
      (exclusiveOwners scope window retain [(w, r)]).length +
        (exclusiveOwners scope window retain (database.others w)).length ≤ 1 := by
  have hperm := SortedMap.entries_perm_of_get hget
  refine ⟨fun scope window unit ceiling hrule => ?_, fun scope window retain hrule => ?_⟩
  · rw [← additiveUse_cons, ← additiveUse_perm _ _ _ hperm]
    exact h.additive scope window unit ceiling hrule
  · rw [← List.length_append, ← exclusiveOwners_cons, ← exclusiveOwners_perm _ _ _ hperm]
    exact h.exclusive scope window retain hrule

omit [Sha256] in
/-- What fits together is reserved without overcommitting a rule. -/
theorem withinRules_reserve {rules : List LifecycleCapacityRule} (hrules : ValidRules rules)
    {database : LifecycleDatabase} {w : WorkflowId} {r record : LifecycleRecord}
    {context : TransitionContext} {capacity : CapacitySnapshot}
    (hsettled : ∀ entry ∈ database.entries, EntriesSettled entry.2)
    (hwithin : WithinRules rules database.entries)
    (hcapacity : capacitySnapshot database rules w = .ok capacity)
    (havailable : capacityAvailable r { context with capacity } = true)
    (hfits : FitsTogether rules (database.others w) r.input.reservations.entries)
    (hrecord : EntriesSettled record) (hstate : record.state = .reserved)
    (hinput : record.input = r.input) : WithinRules rules (database.insert w record).entries := by
  have hothers : WithinRules rules (database.others w) := hwithin.sublist List.filter_sublist
  refine withinRules_insert (fun scope window unit ceiling hrule => ?_)
    (fun scope window retain hrule => ?_)
  · rw [additiveUse_settled hrecord, hstate, hinput]
    exact hfits.additive scope window unit ceiling hrule
  · obtain ⟨hone, hdifferent⟩ := hfits.exclusive scope window retain hrule
    rw [exclusiveOwners_settled hrecord, hstate, hinput]
    dsimp only
    cases hunder : requestsUnder scope window r.input.reservations.entries with
    | nil => simpa using hothers.exclusive scope window retain hrule
    | cons request rest =>
      have hmem : request ∈ requestsUnder scope window r.input.reservations.entries := by
        rw [hunder]
        exact List.mem_cons_self
      obtain ⟨hentry, hexclusive⟩ := List.mem_filter.mp hmem
      have hadmitted := admitted_exclusive hrules hcapacity
        (fun entry hentry => hsettled entry (List.mem_of_mem_filter hentry)) hrule hexclusive
        (List.all_eq_true.mp havailable request hentry)
      have hnone : exclusiveOwners scope window retain (database.others w) = [] := by
        rw [List.eq_nil_iff_forall_not_mem]
        exact fun held hheld => hdifferent request hmem held hheld (hadmitted held hheld)
      rw [hunder] at hone
      rw [hnone]
      exact hone

/-- One transaction that fits keeps the store within its rules. -/
theorem Transacted.withinRules {rules : List LifecycleCapacityRule} {maximumRecords : Nat}
    {database : LifecycleDatabase} {transaction : StoreTransaction}
    {answer : Except StoreError StoredTransition × LifecycleDatabase} (hrules : ValidRules rules)
    (h : Transacted rules maximumRecords database transaction answer)
    (hsettled : ∀ entry ∈ database.entries, EntriesSettled entry.2)
    (hwithin : WithinRules rules database.entries) (hfits : Fits rules database transaction) :
    WithinRules rules answer.2.entries := by
  cases h with
  | failed error => exact hwithin
  | replayed _ _ _ => exact hwithin
  | @applied capacity record _ _ hcapacity hadvances =>
    generalize hcommand : transaction.command = command at hadvances
    generalize hcurrent : database.get transaction.workflowId = current at hadvances
    cases hadvances with
    | decision input context _ =>
      have hothers := SortedMap.others_of_get_eq_none hcurrent
      refine withinRules_insert (fun scope window unit ceiling hrule => ?_)
        (fun scope window retain hrule => ?_)
      · rw [hothers]
        simpa [additiveUse, heldReservations, decisionRecord] using
          hwithin.additive scope window unit ceiling hrule
      · rw [hothers]
        simpa [exclusiveOwners, heldReservations, decisionRecord] using
          hwithin.exclusive scope window retain hrule
    | @edge r p _ _ revision hedge _ =>
      have hr := hsettled _ (SortedMap.get_eq_some.mp hcurrent)
      have hp := hedge.entriesSettled hr
      by_cases hreserve : command = .reserve
      · subst hreserve
        cases hedge with
        | reserve hstate havailable =>
          exact withinRules_reserve hrules hsettled hwithin hcapacity havailable
            (hfits r hcommand hcurrent hstate) hp rfl rfl
      · obtain ⟨hadditive, hexclusive⟩ := hwithin.split hcurrent
        obtain ⟨huse, howners⟩ := hedge.noMore hr hreserve
        refine withinRules_insert (fun scope window unit ceiling hrule => ?_)
          (fun scope window retain hrule => ?_)
        · have hle := huse transaction.workflowId scope window unit
          have hsum := hadditive scope window unit ceiling hrule
          exact (Nat.add_le_add_right hle _).trans hsum
        · have hle := howners transaction.workflowId scope window retain
          have hsum := hexclusive scope window retain hrule
          exact (Nat.add_le_add_right hle _).trans hsum

/-- A run every transaction of which fits. -/
def FittingRun (rules : List LifecycleCapacityRule) (maximumRecords : Nat)
    (entries : List Entry) : Prop :=
  ∀ before entry after database, entries = before ++ entry :: after →
    StoreRun rules maximumRecords .empty before database → Fits rules database entry.transaction

theorem StoreRun.withinRules {rules : List LifecycleCapacityRule} {maximumRecords : Nat}
    {entries : List Entry} {database : LifecycleDatabase} (hrules : ValidRules rules)
    (h : StoreRun rules maximumRecords .empty entries database)
    (hfits : FittingRun rules maximumRecords entries) : WithinRules rules database.entries := by
  induction h with
  | start => exact ⟨fun _ _ _ _ _ => Nat.zero_le _, fun _ _ _ _ => Nat.zero_le _⟩
  | @transact entries database h transaction persist ih =>
    have hwithin := ih fun before entry after database' hsplit =>
      hfits before entry (after ++ _) database' (by rw [hsplit, List.append_assoc]; rfl)
    have hfit := hfits entries _ [] database rfl h
    exact (transacted database rules maximumRecords transaction persist).withinRules hrules h.settled
      hwithin hfit

theorem transactAll_transactions (rules : List LifecycleCapacityRule) (maximumRecords : Nat)
    (transactions : List StoreTransaction) :
    (transactAll rules maximumRecords transactions).1.map (·.transaction) = transactions := by
  suffices hfrom : ∀ run : List Entry × LifecycleDatabase,
      (transactions.foldl (transactNext rules maximumRecords) run).1.map (·.transaction) =
        run.1.map (·.transaction) ++ transactions from hfrom ([], .empty)
  induction transactions with
  | nil => simp
  | cons transaction transactions ih =>
    intro run
    rw [List.foldl_cons, ih]
    simp [transactNext]

end Fitting

section Sample

local instance sampleCapacitySha256 : Sha256 :=
  ⟨fun bytes => ⟨Sha2.sha256 bytes, Sha2.sha256_length bytes⟩⟩

/-- A decision with two intents of six each, under one ceiling of ten. -/
def sampleDouble : DecisionInput :=
  (sampleDecision "workflow-1" sampleWorkflow_valid
    ⟨[sampleReservation "capacity" sampleIntent_valid 6,
      sampleReservation "second" (by decide +kernel) 6], [], .filled 5, .filled 6,
      by decide +kernel⟩ ⟨[], .zero⟩).withReservations

def sampleOvercommit : List StoreTransaction :=
  [⟨sampleWorkflow, none, .recordDecision sampleDouble, sampleContext 10⟩,
    ⟨sampleWorkflow, some 1, .reserve, sampleContext 11⟩]

theorem sampleTransactions_own {transaction : StoreTransaction} (h : transaction ∈ sampleTransactions) :
    transaction.workflowId = sampleWorkflow ∧
      ∀ input, transaction.command = .recordDecision input → sampleInput = input := by
  simp only [sampleTransactions, List.mem_cons, List.not_mem_nil, or_false] at h
  rcases h with rfl | rfl | rfl | rfl | rfl | rfl | rfl
  · exact ⟨rfl, fun input hinput => TransitionCommand.recordDecision.inj hinput⟩
  all_goals exact ⟨rfl, fun input hinput => (nomatch hinput)⟩

/-- The one intent of the sample decision fits the empty store. -/
theorem sampleTransactions_fit :
    FittingRun sampleRules 8 (transactAll sampleRules 8 sampleTransactions).1 := by
  intro before entry after database hsplit hrun record _ hget _
  have hsample : ∀ e ∈ before ++ entry :: after, e.transaction ∈ sampleTransactions := by
    intro e he
    rw [← hsplit] at he
    have hmem := List.mem_map_of_mem (f := Entry.transaction) he
    rwa [transactAll_transactions] at hmem
  -- every decision of the run is the sample's, under the one workflow it has
  have hdecided : ∀ w r, database.get w = some r → w = sampleWorkflow ∧ sampleInput = r.input := by
    intro w r hw
    have hagrees := hrun.agrees w
    rw [Agrees, hw] at hagrees
    obtain ⟨a, ha, hcommand⟩ := hagrees.explained.decision
    obtain ⟨e, he, hkey, happlied⟩ := mem_appliedOn ha
    obtain ⟨hworkflow, hinput⟩ := sampleTransactions_own (hsample e (List.mem_append_left _ he))
    refine ⟨hkey.symm.trans hworkflow, hinput r.input ?_⟩
    rw [← hcommand]
    exact (Entry.command_of_applied happlied).symm
  have hothers : database.others entry.transaction.workflowId = [] := by
    refine List.filter_eq_nil_iff.mpr ?_
    rintro ⟨w, r⟩ hmem
    have hkey := (hdecided w r (SortedMap.get_eq_some.mpr hmem)).1
    have hentry := (hdecided _ record hget).1
    simp [hkey, hentry]
  rw [hothers, ← (hdecided _ record hget).2]
  refine ⟨fun scope window unit ceiling hrule => ?_, fun scope window retain hrule => ?_⟩
  · obtain ⟨rfl, rfl, rfl, rfl⟩ := LifecycleCapacityRule.additive.inj (List.mem_singleton.mp hrule)
    have hamount : requestedAmount (.filled 30) none ⟨"requests", by decide +kernel⟩
        sampleInput.reservations.entries = 6 := by decide +kernel
    rw [additiveUse_nil, Nat.add_zero]
    exact hamount.trans_le (by decide)
  · cases List.mem_singleton.mp hrule

end Sample

end AuthsProof.Lifecycle
