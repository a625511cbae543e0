import AuthsProof.Gateway.Record
import AuthsProof.Lib.Run
import AuthsProof.Lib.Sorting
import AuthsProof.Observation

/-! Bounded policies of a grant chain, and the window counters their admission charges. -/

namespace AuthsProof.Gateway

def argumentCeilingEvaluator : String := "auths.gateway.argument-ceiling-window-count/2"
def maxWindowSeconds : Nat := 31 * 86400
def maxWindowCount : Nat := 2 ^ 32
def maxSumLimit : Nat := 2 ^ 53 - 1
def maxListedValues : Nat := 16
def maxListedValueBytes : Nat := 64
def maxBoundedLinks : Nat := 16

def validListedValue (value : String) : Bool :=
  1 ≤ value.utf8ByteSize && value.utf8ByteSize ≤ maxListedValueBytes &&
    value.toList.all fun c => '!' ≤ c && c ≤ '~'

/-- The values a policy lists for one named text argument. -/
structure ListedValues where
  argument : FactName
  values : List String
  count : 1 ≤ values.length ∧ values.length ≤ maxListedValues
  valid : values.all validListedValue = true
  sorted : values.Pairwise (· < ·)

def ListedValues.lists (listed : ListedValues) (value : String) : Bool :=
  listed.values.any (· == value)

structure SumBound where
  limit : Nat
  «partition» : Option ListedValues

/-- A ceiling on one argument, a largest count in each window, and optionally a sum limit, per listed
partition value, and a scope. -/
structure ArgumentCeilingPolicy where
  argument : FactName
  ceiling : Nat
  windowSeconds : Nat
  maxCount : Nat
  sum : Option SumBound
  scope : Option ListedValues
  window_valid : 1 ≤ windowSeconds ∧ windowSeconds ≤ maxWindowSeconds
  count_valid : 1 ≤ maxCount ∧ maxCount ≤ maxWindowCount
  sum_valid : ∀ bound ∈ sum, 1 ≤ bound.limit ∧ bound.limit ≤ maxSumLimit ∧
    ∀ listed ∈ bound.partition, listed.argument ≠ argument
  scope_valid : ∀ listed ∈ scope, listed.argument ≠ argument

/-! ## Tightening -/

def valuesNarrow (child parent : ListedValues) : Bool :=
  child.argument = parent.argument && child.values.all fun value => parent.values.contains value

def partitionNarrows (child parent : Option ListedValues) : Bool :=
  match parent, child with
  | none, none => true
  | none, some _ | some _, none => false
  | some parent, some child => valuesNarrow child parent

def sumTightens (child parent : Option SumBound) : Bool :=
  match parent, child with
  | none, _ => true
  | some _, none => false
  | some parent, some child =>
    child.limit ≤ parent.limit && partitionNarrows child.partition parent.partition

def scopeTightens (child parent : Option ListedValues) : Bool :=
  match parent, child with
  | none, _ => true
  | some _, none => false
  | some parent, some child => valuesNarrow child parent

def ceilingCountTightens (childCeiling childMaxCount childWindow parentCeiling parentMaxCount
    parentWindow : Nat) : Bool :=
  if childWindow ≠ parentWindow then false
  else if parentCeiling < childCeiling then false
  else childMaxCount ≤ parentMaxCount

def argumentPolicyTightens (child parent : ArgumentCeilingPolicy) : Bool :=
  if child.argument ≠ parent.argument then false
  else if !ceilingCountTightens child.ceiling child.maxCount child.windowSeconds parent.ceiling
      parent.maxCount parent.windowSeconds then false
  else if !sumTightens child.sum parent.sum then false
  else scopeTightens child.scope parent.scope

/-! ## Counters -/

/-- One bounded grant's subject and its policy. -/
structure BoundLink where
  subject : PrincipalId
  policy : ArgumentCeilingPolicy

structure CountCounter where
  key : Digest
  capacity : Nat

structure SumCounter where
  key : Digest
  capacity : Nat
  slots : Nat

/-- What admission reserves with the claim. -/
structure BoundAdmission where
  links : List BoundLink
  argument : Nat
  windowSeconds : Nat
  windowIndex : Nat
  windowEnd : Nat
  counts : List CountCounter
  sums : List SumCounter

/-- One full window after the window ends, within 64 bits. -/
def BoundAdmission.expiresAt (bound : BoundAdmission) : UInt64 :=
  UInt64.ofNat (min (bound.windowEnd + bound.windowSeconds) (2 ^ 64 - 1))

structure SumRequirement where
  argument : String
  «partition» : Option String

section Keys

variable [Sha256]

def counterKey (domain : String) (components : List String) (windowSeconds index : Nat) : Digest :=
  Sha256.digest (utf8 domain ++
    (components.flatMap fun component => bigEndian64 component.utf8ByteSize ++ utf8 component) ++
    bigEndian64 windowSeconds ++ bigEndian64 index)

def countCounterKey (operatorNamespace : String) (subject : PrincipalId)
    (windowSeconds index : Nat) : Digest :=
  counterKey "auths.gateway-bounded-count/2\x00"
    [operatorNamespace, subject.str, argumentCeilingEvaluator] windowSeconds index

/-- The counter of a subject's sum for one partition value, empty where there is no partition. -/
def sumCounterKey (operatorNamespace : String) (subject : PrincipalId) (value : String)
    (windowSeconds index : Nat) : Digest :=
  counterKey "auths.gateway-bounded-sum/1\x00"
    [operatorNamespace, subject.str, argumentCeilingEvaluator, value] windowSeconds index

def boundedSlotKey (domain : String) (counter : Digest) (slot : Nat) : Digest :=
  Sha256.digest (utf8 domain ++ counter.bytes ++ bigEndian64 slot)

def countSlotKey : Digest → Nat → Digest := boundedSlotKey "auths.gateway-bounded-count-slot/2\x00"

def sumSlotKey : Digest → Nat → Digest := boundedSlotKey "auths.gateway-bounded-sum-slot/1\x00"

/-- Lowers the first counter that is hit, or adds a fresh one. -/
def charge {C : Type} (hit : C → Bool) (lower : C → C) (fresh : C) : List C → List C
  | [] => [fresh]
  | counter :: counters =>
    if hit counter then lower counter :: counters
    else counter :: charge hit lower fresh counters

def chainCounts (links : List BoundLink) (operatorNamespace : String) (windowSeconds index : Nat) :
    List CountCounter :=
  links.foldl (fun counts link =>
    let key := countCounterKey operatorNamespace link.subject windowSeconds index
    charge (fun counter => counter.key == key)
      (fun counter => { counter with capacity := min counter.capacity link.policy.maxCount })
      ⟨key, link.policy.maxCount⟩ counts) []

def chainSums (links : List BoundLink) (values : List String) (counts : List CountCounter)
    (operatorNamespace : String) (windowSeconds index : Nat) : List SumCounter :=
  (links.zip values).foldl (fun sums (link, value) =>
    match link.policy.sum with
    | none => sums
    | some bound =>
      let count := countCounterKey operatorNamespace link.subject windowSeconds index
      let slots := ((counts.find? fun counter => counter.key == count).map
        CountCounter.capacity).getD 0
      let key := sumCounterKey operatorNamespace link.subject value windowSeconds index
      charge (fun counter => counter.key == key)
        (fun counter => { counter with capacity := min counter.capacity bound.limit })
        ⟨key, bound.limit, slots⟩ sums) []

/-- The chain's distinct counters in one window, each with the smallest capacity of the links that
share it, in key order. -/
def chainCounters (links : List BoundLink) (values : List String) (operatorNamespace : String)
    (windowSeconds index : Nat) : List CountCounter × List SumCounter :=
  let counts := chainCounts links operatorNamespace windowSeconds index
  let sums := chainSums links values counts operatorNamespace windowSeconds index
  (Sorting.sortByKey CountCounter.key counts, Sorting.sortByKey SumCounter.key sums)

/-! ## Admission -/

def textArgument (fact : FactName → Option FactValue) (argument : FactName) :
    Except String String :=
  match fact argument with
  | some (.text text) => .ok text.str
  | _ => .error "gateway.policy.argument-unavailable"

inductive CeilingCountCode where
  | eligible
  | aboveCeiling
  | windowExhausted
  deriving DecidableEq

def ceilingCountCode (value ceiling count maxCount : Nat) : CeilingCountCode :=
  if ceiling < value then .aboveCeiling
  else if maxCount ≤ count then .windowExhausted
  else .eligible

def boundedArgumentFrom (fact : FactName → Option FactValue) :
    Option Nat → List BoundLink → Except String Nat
  | none, [] => .error "gateway.policy.argument-unavailable"
  | some argument, [] => .ok argument
  | argument, link :: links => match fact link.policy.argument with
    | some (.uint value) =>
      if argument.any (· ≠ value.toNat) then .error "gateway.policy.argument-unavailable"
      else if ceilingCountCode value.toNat link.policy.ceiling 0 link.policy.maxCount =
          .aboveCeiling then .error "gateway.policy.above-ceiling"
      else boundedArgumentFrom fact (some value.toNat) links
    | _ => .error "gateway.policy.argument-unavailable"

def boundedArgument (fact : FactName → Option FactValue) (links : List BoundLink) :
    Except String Nat := boundedArgumentFrom fact none links

def listedScope (fact : FactName → Option FactValue) (scope : Option ListedValues) :
    Except String Unit :=
  match scope with
  | none => .ok ()
  | some scope => do
    let value ← textArgument fact scope.argument
    if scope.lists value then .ok () else .error "gateway.policy.scope-denied"

def listedPartition (fact : FactName → Option FactValue) (listed : Option ListedValues) :
    Except String String :=
  match listed with
  | none => .ok ""
  | some listed => do
    let value ← textArgument fact listed.argument
    if listed.lists value then .ok value else .error "gateway.policy.partition-denied"

def listedArgument (fact : FactName → Option FactValue) (link : BoundLink) :
    Except String String := do
  listedScope fact link.policy.scope
  listedPartition fact (link.policy.sum.bind SumBound.partition)

def listedArguments (fact : FactName → Option FactValue) (links : List BoundLink) :
    Except String (List String) := links.mapM (listedArgument fact)

def SumRequirement.satisfied (requirement : SumRequirement) (link : BoundLink) : Bool :=
  match link.policy.sum with
  | none => false
  | some bound => link.policy.argument.str = requirement.argument &&
    bound.partition.map (fun listed => listed.argument.str) = requirement.partition

/-- The end of a window, when its slots can expire within 64 bits. -/
def windowEndOf (index windowSeconds : Nat) : Option Nat :=
  let windowEnd := (index + 1) * windowSeconds
  if index + 1 < 2 ^ 64 ∧ windowEnd + windowSeconds < 2 ^ 64 then some windowEnd else none

def admitPolicyLinks (links : List BoundLink) (fact : FactName → Option FactValue)
    (operatorNamespace : String) (requirement : Option SumRequirement) (now : UInt64) :
    Except String (Option BoundAdmission) :=
  if maxBoundedLinks < links.length then .error "gateway.policy.too-many-bounds"
  else match links with
  | [] => if requirement.isSome then .error "gateway.policy.sum-required" else .ok none
  | first :: _ =>
    let windowSeconds := first.policy.windowSeconds
    if !(links.zip links.tail).all (fun (parent, child) =>
        argumentPolicyTightens child.policy parent.policy) then .error "gateway.policy.expanded"
    else do
      let argument ← boundedArgument fact links
      let values ← listedArguments fact links
      if links.any (fun link => link.policy.sum.any fun bound => bound.limit < argument) then
        throw "gateway.policy.above-sum-limit"
      else if !requirement.all (fun requirement => links.all requirement.satisfied) then
        throw "gateway.policy.sum-required"
      else
        let index := now.toNat / windowSeconds
        match windowEndOf index windowSeconds with
        | none => throw "gateway.verify.clock-unavailable"
        | some windowEnd =>
          let (counts, sums) := chainCounters links values operatorNamespace windowSeconds index
          pure (some ⟨links, argument, windowSeconds, index, windowEnd, counts, sums⟩)

end Keys

/-! ## What a chain charges -/

section Charge

variable {C ι : Type} {key : C → Digest} {lower : C → C} {fresh : C} {counters : List C} {k : Digest}

theorem mem_charge {hit : C → Bool} {counter : C} (h : counter ∈ charge hit lower fresh counters) :
    counter = fresh ∨ (∃ before ∈ counters, hit before = true ∧ counter = lower before) ∨
      counter ∈ counters := by
  induction counters with
  | nil => exact .inl (List.mem_singleton.mp h)
  | cons first rest ih =>
    unfold charge at h
    split at h
    · next hhit =>
      rcases List.mem_cons.mp h with rfl | hrest
      · exact .inr (.inl ⟨first, List.mem_cons_self, hhit, rfl⟩)
      · exact .inr (.inr (List.mem_cons_of_mem first hrest))
    · rcases List.mem_cons.mp h with rfl | hrest
      · exact .inr (.inr List.mem_cons_self)
      · rcases ih hrest with rfl | ⟨before, hbefore, hfacts⟩ | hkept
        · exact .inl rfl
        · exact .inr (.inl ⟨before, List.mem_cons_of_mem first hbefore, hfacts⟩)
        · exact .inr (.inr (List.mem_cons_of_mem first hkept))

/-- Every counter is kept or lowered. -/
theorem exists_mem_charge {hit : C → Bool} {counter : C} (h : counter ∈ counters) :
    counter ∈ charge hit lower fresh counters ∨ lower counter ∈ charge hit lower fresh counters := by
  induction counters with
  | nil => cases h
  | cons first rest ih =>
    unfold charge
    split
    · rcases List.mem_cons.mp h with rfl | hrest
      · exact .inr List.mem_cons_self
      · exact .inl (List.mem_cons_of_mem _ hrest)
    · rcases List.mem_cons.mp h with rfl | hrest
      · exact .inl List.mem_cons_self
      · exact (ih hrest).imp (List.mem_cons_of_mem _) (List.mem_cons_of_mem _)

/-- The counter that is charged is fresh or lowered. -/
theorem exists_charged (hit : C → Bool) : fresh ∈ charge hit lower fresh counters ∨
    ∃ before ∈ counters, hit before = true ∧ lower before ∈ charge hit lower fresh counters := by
  induction counters with
  | nil => exact .inl List.mem_cons_self
  | cons first rest ih =>
    unfold charge
    split
    · next hhit => exact .inr ⟨first, List.mem_cons_self, hhit, List.mem_cons_self⟩
    · rcases ih with hfresh | ⟨before, hbefore, hhit, hmem⟩
      · exact .inl (List.mem_cons_of_mem _ hfresh)
      · exact .inr ⟨before, List.mem_cons_of_mem _ hbefore, hhit, List.mem_cons_of_mem _ hmem⟩

theorem keys_charge (hfresh : key fresh = k) (hlower : ∀ counter, key (lower counter) = key counter) :
    (charge (fun counter => key counter == k) lower fresh counters).map key =
      if k ∈ counters.map key then counters.map key else counters.map key ++ [k] := by
  induction counters with
  | nil => simp [charge, hfresh]
  | cons first rest ih =>
    unfold charge
    by_cases hhit : key first = k
    · simp [hhit, hlower]
    · have hne : ¬k = key first := fun h => hhit h.symm
      rw [if_neg (by simpa using hhit), List.map_cons, ih]
      simp only [List.map_cons, List.mem_cons, hne, false_or, List.cons_append]
      split <;> rfl

theorem nodup_charge (hfresh : key fresh = k) (hlower : ∀ counter, key (lower counter) = key counter)
    (h : (counters.map key).Nodup) :
    ((charge (fun counter => key counter == k) lower fresh counters).map key).Nodup := by
  rw [keys_charge hfresh hlower]
  split
  · exact h
  · next hnot => exact List.nodup_append.mpr ⟨h, List.nodup_singleton k, by
      intro a ha b hb
      obtain rfl := List.mem_singleton.mp hb
      exact fun heq => hnot (heq ▸ ha)⟩

/-- Counters charged by `items`: each item has its counter, each counter comes from an item. -/
structure Charges (key : C → Digest) (own covers : ι → C → Prop) (items : List ι)
    (counters : List C) : Prop where
  nodup : (counters.map key).Nodup
  covered : ∀ item ∈ items, ∃ counter ∈ counters, covers item counter
  owned : ∀ counter ∈ counters, ∃ item ∈ items, own item counter

theorem Charges.charge {own covers : ι → C → Prop} {items : List ι} {item : ι}
    (h : Charges key own covers items counters) (hfresh : key fresh = k)
    (hlower : ∀ counter, key (lower counter) = key counter) (hown : own item fresh)
    (hcovers : covers item fresh) (hkept : ∀ other counter, covers other counter →
      covers other (lower counter)) (hownKept : ∀ other counter, own other counter →
      own other (lower counter)) (hhit : ∀ counter, key counter = k → covers item (lower counter)) :
    Charges key own covers (items ++ [item])
      (Gateway.charge (fun counter => key counter == k) lower fresh counters) := by
  refine ⟨nodup_charge hfresh hlower h.nodup, fun other hother => ?_, fun counter hcounter => ?_⟩
  · rcases List.mem_append.mp hother with hbefore | hitem
    · obtain ⟨counter, hmem, hcovered⟩ := h.covered other hbefore
      rcases @exists_mem_charge _ lower fresh counters (fun counter => key counter == k) counter hmem
        with hsame | hlowered
      · exact ⟨counter, hsame, hcovered⟩
      · exact ⟨lower counter, hlowered, hkept other counter hcovered⟩
    · obtain rfl := List.mem_singleton.mp hitem
      rcases @exists_charged _ lower fresh counters (fun counter => key counter == k) with
        hmem | ⟨before, -, hbefore, hmem⟩
      · exact ⟨fresh, hmem, hcovers⟩
      · exact ⟨lower before, hmem, hhit before (by simpa using hbefore)⟩
  · rcases mem_charge hcounter with rfl | ⟨before, hbefore, -, rfl⟩ | hbefore
    · exact ⟨item, by simp, hown⟩
    · obtain ⟨other, hother, howned⟩ := h.owned before hbefore
      exact ⟨other, List.mem_append_left _ hother, hownKept other before howned⟩
    · obtain ⟨other, hother, howned⟩ := h.owned counter hbefore
      exact ⟨other, List.mem_append_left _ hother, howned⟩

theorem Charges.perm {own covers : ι → C → Prop} {items : List ι} {counters' : List C}
    (h : Charges key own covers items counters) (hperm : counters'.Perm counters) :
    Charges key own covers items counters' :=
  ⟨(hperm.map key).nodup_iff.mpr h.nodup, fun item hitem => by
    obtain ⟨counter, hmem, hcovered⟩ := h.covered item hitem
    exact ⟨counter, hperm.mem_iff.mpr hmem, hcovered⟩,
    fun counter hmem => h.owned counter (hperm.mem_iff.mp hmem)⟩

end Charge

section Chain

variable [Sha256] {links : List BoundLink} {operatorNamespace : String} {windowSeconds index : Nat}

/-- The count counters of a chain: the counter of each link's subject holds at most its count. -/
abbrev CountsOf (operatorNamespace : String) (windowSeconds index : Nat) (links : List BoundLink)
    (counts : List CountCounter) : Prop :=
  Charges CountCounter.key
    (fun link counter => counter.key = countCounterKey operatorNamespace link.subject windowSeconds
      index)
    (fun link counter => counter.key = countCounterKey operatorNamespace link.subject windowSeconds
      index ∧ counter.capacity ≤ link.policy.maxCount) links counts

theorem chainCounts_spec : CountsOf operatorNamespace windowSeconds index links
    (chainCounts links operatorNamespace windowSeconds index) := by
  unfold chainCounts
  suffices h : ∀ (before : List BoundLink) (counts : List CountCounter),
      CountsOf operatorNamespace windowSeconds index before counts →
      CountsOf operatorNamespace windowSeconds index (before ++ links)
        (links.foldl (fun counts link =>
          let key := countCounterKey operatorNamespace link.subject windowSeconds index
          charge (fun counter => counter.key == key)
            (fun counter => { counter with capacity := min counter.capacity link.policy.maxCount })
            ⟨key, link.policy.maxCount⟩ counts) counts) from
    h [] [] ⟨List.nodup_nil, by simp, by simp⟩
  induction links with
  | nil => exact fun before counts h => by simpa using h
  | cons link links ih =>
    intro before counts h
    have hstep := @Charges.charge _ _ CountCounter.key
      (fun counter => { counter with capacity := min counter.capacity link.policy.maxCount })
      ⟨countCounterKey operatorNamespace link.subject windowSeconds index, link.policy.maxCount⟩
      counts _ _ _ _ link h rfl (fun _ => rfl) rfl ⟨rfl, Nat.le_refl _⟩
      (fun other counter hcovers => ⟨hcovers.1, Nat.le_trans (Nat.min_le_left _ _) hcovers.2⟩)
      (fun other counter hown => hown) (fun counter hkey => ⟨hkey, Nat.min_le_right _ _⟩)
    have hrest := ih (before ++ [link]) _ hstep
    rwa [List.append_assoc, List.singleton_append] at hrest

/-- What one link charges of a sum: its subject's counter for a partition value, and its limit. -/
structure SumCharge where
  link : BoundLink
  value : String
  bound : SumBound

def sumCharges (links : List BoundLink) (values : List String) : List SumCharge :=
  (links.zip values).filterMap fun (link, value) =>
    link.policy.sum.map fun bound => ⟨link, value, bound⟩

/-- The slots a subject's sum may have: the capacity of the subject's count counter. -/
def sumSlots (counts : List CountCounter) (count : Digest) : Nat :=
  ((counts.find? fun counter => counter.key == count).map CountCounter.capacity).getD 0

/-- The sum counters of a chain, each with its subject's slots and within its links' limits. -/
abbrev SumsOf (operatorNamespace : String) (windowSeconds index : Nat) (counts : List CountCounter)
    (items : List SumCharge) (sums : List SumCounter) : Prop :=
  Charges SumCounter.key
    (fun item counter => counter.key = sumCounterKey operatorNamespace item.link.subject item.value
      windowSeconds index ∧ counter.slots =
        sumSlots counts (countCounterKey operatorNamespace item.link.subject windowSeconds index))
    (fun item counter => counter.key = sumCounterKey operatorNamespace item.link.subject item.value
      windowSeconds index ∧ counter.capacity ≤ item.bound.limit) items sums

theorem SumsOf.charge {counts : List CountCounter} {items : List SumCharge} {sums : List SumCounter}
    (h : SumsOf operatorNamespace windowSeconds index counts items sums) (item : SumCharge) :
    SumsOf operatorNamespace windowSeconds index counts (items ++ [item])
      (Gateway.charge
        (fun counter => counter.key == sumCounterKey operatorNamespace item.link.subject item.value
          windowSeconds index)
        (fun counter => { counter with capacity := min counter.capacity item.bound.limit })
        ⟨sumCounterKey operatorNamespace item.link.subject item.value windowSeconds index,
          item.bound.limit,
          sumSlots counts (countCounterKey operatorNamespace item.link.subject windowSeconds index)⟩
        sums) :=
  Charges.charge h rfl (fun _ => rfl) ⟨rfl, rfl⟩ ⟨rfl, Nat.le_refl _⟩
    (fun _ _ hcovers => ⟨hcovers.1, Nat.le_trans (Nat.min_le_left _ _) hcovers.2⟩)
    (fun _ _ hown => hown) fun _ hkey => ⟨hkey, Nat.min_le_right _ _⟩

theorem chainSums_spec (values : List String) (counts : List CountCounter) :
    SumsOf operatorNamespace windowSeconds index counts (sumCharges links values)
      (chainSums links values counts operatorNamespace windowSeconds index) := by
  unfold chainSums sumCharges
  generalize links.zip values = pairs
  suffices h : ∀ (before : List SumCharge) (sums : List SumCounter),
      SumsOf operatorNamespace windowSeconds index counts before sums →
      SumsOf operatorNamespace windowSeconds index counts
        (before ++ pairs.filterMap fun (link, value) =>
          link.policy.sum.map fun bound => (⟨link, value, bound⟩ : SumCharge))
        (pairs.foldl (fun sums (link, value) =>
          match link.policy.sum with
          | none => sums
          | some bound =>
            let count := countCounterKey operatorNamespace link.subject windowSeconds index
            let slots := ((counts.find? fun counter => counter.key == count).map
              CountCounter.capacity).getD 0
            let key := sumCounterKey operatorNamespace link.subject value windowSeconds index
            charge (fun counter => counter.key == key)
              (fun counter => { counter with capacity := min counter.capacity bound.limit })
              ⟨key, bound.limit, slots⟩ sums) sums) from
    h [] [] ⟨List.nodup_nil, by simp, by simp⟩
  induction pairs with
  | nil => exact fun before sums h => by simpa using h
  | cons pair pairs ih =>
    obtain ⟨link, value⟩ := pair
    intro before sums h
    cases hsum : link.policy.sum with
    | none =>
      simp only [List.filterMap_cons, hsum, Option.map_none, List.foldl_cons]
      exact ih before sums h
    | some bound =>
      have hrest := ih (before ++ [⟨link, value, bound⟩]) _ (h.charge ⟨link, value, bound⟩)
      rw [List.append_assoc, List.singleton_append] at hrest
      simp only [List.filterMap_cons, hsum, Option.map_some, List.foldl_cons]
      exact hrest

omit [Sha256] in
/-- The order of the counters does not matter to the slots of a sum. -/
theorem sumSlots_perm {counts counts' : List CountCounter} (hperm : counts.Perm counts')
    (hnodup : (counts.map CountCounter.key).Nodup) (count : Digest) :
    sumSlots counts count = sumSlots counts' count := by
  have hfind : counts.find? (fun counter => counter.key == count) =
      counts'.find? (fun counter => counter.key == count) := by
    cases hleft : counts.find? fun counter => counter.key == count with
    | none =>
      refine (List.find?_eq_none.mpr fun counter hmem => ?_).symm
      exact List.find?_eq_none.mp hleft counter (hperm.mem_iff.mpr hmem)
    | some found =>
      have hfound : found.key = count := by simpa using List.find?_some hleft
      have hmem := List.mem_of_find?_eq_some hleft
      cases hright : counts'.find? fun counter => counter.key == count with
      | none => simpa [hfound] using List.find?_eq_none.mp hright found (hperm.mem_iff.mp hmem)
      | some other =>
        have hother : other.key = count := by simpa using List.find?_some hright
        have hmem' := hperm.mem_iff.mpr (List.mem_of_find?_eq_some hright)
        rw [List.inj_on_of_nodup_map hnodup hmem hmem' (hfound.trans hother.symm)]
  rw [sumSlots, sumSlots, hfind]

theorem sumSlots_eq {counts : List CountCounter}
    (h : CountsOf operatorNamespace windowSeconds index links counts) {link : BoundLink}
    (hlink : link ∈ links) : ∃ counter ∈ counts,
      counter.key = countCounterKey operatorNamespace link.subject windowSeconds index ∧
      sumSlots counts (countCounterKey operatorNamespace link.subject windowSeconds index) =
        counter.capacity := by
  obtain ⟨counter, hmem, hkey, -⟩ := h.covered link hlink
  unfold sumSlots
  cases hfind : counts.find? fun counter =>
      counter.key == countCounterKey operatorNamespace link.subject windowSeconds index with
  | none =>
    have hnone := List.find?_eq_none.mp hfind counter hmem
    simp [hkey] at hnone
  | some found =>
    have hfound := List.find?_some hfind
    exact ⟨found, List.mem_of_find?_eq_some hfind, by simpa using hfound, rfl⟩

/-- What an admission says of its window and its counters. -/
structure BoundAdmission.Valid (operatorNamespace : String) (values : List String)
    (bound : BoundAdmission) : Prop where
  links : bound.links.length ≤ maxBoundedLinks
  window : 0 < bound.windowSeconds
  windowEnd : bound.windowEnd = (bound.windowIndex + 1) * bound.windowSeconds
  expires : bound.windowEnd + bound.windowSeconds < 2 ^ 64
  counts : CountsOf operatorNamespace bound.windowSeconds bound.windowIndex bound.links bound.counts
  listed : values.length = bound.links.length
  sums : SumsOf operatorNamespace bound.windowSeconds bound.windowIndex bound.counts
    (sumCharges bound.links values) bound.sums

omit [Sha256] in
theorem length_listedArguments {fact : FactName → Option FactValue} {values : List String}
    (h : listedArguments fact links = .ok values) : values.length = links.length := by
  unfold listedArguments at h
  induction links generalizing values with
  | nil =>
    obtain rfl := Except.ok.inj h
    rfl
  | cons link links ih =>
    rw [List.mapM_cons] at h
    obtain ⟨value, -, h⟩ := Except.bind_eq_ok.mp h
    obtain ⟨rest, hrest, h⟩ := Except.bind_eq_ok.mp h
    obtain rfl := Except.ok.inj h
    rw [List.length_cons, List.length_cons, ih hrest]

omit [Sha256] in
/-- Each value is the one its own link lists. -/
theorem listedArgument_of_mem_zip {fact : FactName → Option FactValue} {values : List String}
    (h : listedArguments fact links = .ok values) {link : BoundLink} {value : String}
    (hmem : (link, value) ∈ links.zip values) : listedArgument fact link = .ok value := by
  unfold listedArguments at h
  induction links generalizing values with
  | nil => cases hmem
  | cons first links ih =>
    rw [List.mapM_cons] at h
    obtain ⟨found, hfound, h⟩ := Except.bind_eq_ok.mp h
    obtain ⟨rest, hrest, h⟩ := Except.bind_eq_ok.mp h
    obtain rfl := Except.ok.inj h
    rcases List.mem_cons.mp hmem with hhead | htail
    · obtain ⟨rfl, rfl⟩ := Prod.mk.inj hhead
      exact hfound
    · exact ih hrest htail

omit [Sha256] in
theorem listedPartition_of_listedArgument {fact : FactName → Option FactValue} {link : BoundLink}
    {value : String} (h : listedArgument fact link = .ok value) :
    listedPartition fact (link.policy.sum.bind SumBound.partition) = .ok value := by
  obtain ⟨⟨⟩, -, hpartition⟩ := Except.bind_eq_ok.mp h
  exact hpartition

omit [Sha256] in
/-- A partition value is empty, where there is no partition, or one of the listed ones. -/
theorem utf8ByteSize_of_listedPartition {fact : FactName → Option FactValue}
    {listed : Option ListedValues} {value : String} (h : listedPartition fact listed = .ok value) :
    value.utf8ByteSize ≤ maxListedValueBytes := by
  cases listed with
  | none =>
    obtain rfl := Except.ok.inj h
    decide
  | some listed =>
    obtain ⟨found, -, h⟩ := Except.bind_eq_ok.mp h
    split at h
    · next hlists =>
      obtain rfl := Except.ok.inj h
      obtain ⟨other, hmem, hsame⟩ := List.any_eq_true.mp hlists
      have hvalid := List.all_eq_true.mp listed.valid other hmem
      simp only [validListedValue, Bool.and_eq_true, decide_eq_true_eq] at hvalid
      rw [← eq_of_beq hsame]
      exact hvalid.1.2
    · cases h

theorem admitPolicyLinks_spec {fact : FactName → Option FactValue}
    {requirement : Option SumRequirement} {now : UInt64} {bound : BoundAdmission}
    (h : admitPolicyLinks links fact operatorNamespace requirement now = .ok (some bound)) :
    bound.links = links ∧ bound.windowIndex = now.toNat / bound.windowSeconds ∧
      ∃ values, listedArguments fact links = .ok values ∧ bound.Valid operatorNamespace values := by
  unfold admitPolicyLinks at h
  split at h
  · cases h
  · next hlength =>
    split at h
    · split at h <;> cases h
    · next first rest =>
      split at h
      · cases h
      · obtain ⟨argument, -, h⟩ := Except.bind_eq_ok.mp h
        obtain ⟨values, hvalues, h⟩ := Except.bind_eq_ok.mp h
        split at h
        · cases h
        · split at h
          · cases h
          · dsimp only at h
            split at h
            · cases h
            · next windowEnd hend =>
              obtain rfl := Option.some.inj (Except.ok.inj h)
              simp only [windowEndOf, Option.ite_none_right_eq_some, Option.some.injEq] at hend
              obtain ⟨hfits, rfl⟩ := hend
              have hcounts := chainCounts_spec.perm (Sorting.sortByKey_perm CountCounter.key
                (chainCounts (first :: rest) operatorNamespace first.policy.windowSeconds
                  (now.toNat / first.policy.windowSeconds)))
              have hsums := (chainSums_spec values _).perm (Sorting.sortByKey_perm SumCounter.key
                (chainSums (first :: rest) values
                  (chainCounts (first :: rest) operatorNamespace first.policy.windowSeconds
                    (now.toNat / first.policy.windowSeconds)) operatorNamespace
                  first.policy.windowSeconds (now.toNat / first.policy.windowSeconds)))
              refine ⟨rfl, rfl, values, hvalues, by simpa using hlength,
                first.policy.window_valid.1, rfl, hfits.2, hcounts, length_listedArguments hvalues,
                hsums.nodup, hsums.covered, fun counter hmem => ?_⟩
              obtain ⟨item, hitem, hkey, hslots⟩ := hsums.owned counter hmem
              refine ⟨item, hitem, hkey, hslots.trans ?_⟩
              exact sumSlots_perm (Sorting.sortByKey_perm _ _).symm chainCounts_spec.nodup _

end Chain

end AuthsProof.Gateway
