import AuthsProof.Gateway.Bounds
import AuthsProof.Signing

/-! Tightening of bounded policies is sound: what a child admits in any window its parent admits, and an
action admitted under a chain is within every link. -/

namespace AuthsProof.BoundedPolicy

open Gateway (CeilingCountCode ceilingCountCode ceilingCountTightens chainSumsAdmit)

/-! ## The decider over bytes -/

/-- The values a policy admits for one argument. -/
structure ValueList where
  argument : Bytes
  values : List Bytes

structure SumBound where
  limit : Nat
  «partition» : Option ValueList

structure PolicyMembers where
  argument : Bytes
  ceiling : Nat
  window : Nat
  maxCount : Nat
  sum : Option SumBound
  scope : Option ValueList

def bytesEqualFrom : Bytes → Bytes → Bool
  | a :: left, b :: right => if a ≠ b then false else bytesEqualFrom left right
  | _, _ => true

def bytesEqual (left right : Bytes) : Bool :=
  if left.length ≠ right.length then false else bytesEqualFrom left right

def valuesContain : List Bytes → Bytes → Bool
  | [], _ => false
  | held :: values, value => if bytesEqual held value then true else valuesContain values value

def valuesSubset : List Bytes → List Bytes → Bool
  | [], _ => true
  | value :: child, parent =>
    if !valuesContain parent value then false else valuesSubset child parent

def valuesNarrow (child parent : ValueList) : Bool :=
  bytesEqual child.argument parent.argument && valuesSubset child.values parent.values

def partitionNarrows (child parent : Option ValueList) : Bool :=
  match parent with
  | none => match child with
    | none => true
    | some _ => false
  | some parent => match child with
    | none => false
    | some child => valuesNarrow child parent

def sumTightens (child parent : Option SumBound) : Bool :=
  match parent with
  | none => true
  | some parent => match child with
    | none => false
    | some child =>
      child.limit ≤ parent.limit && partitionNarrows child.partition parent.partition

def scopeTightens (child parent : Option ValueList) : Bool :=
  match parent with
  | none => true
  | some parent => match child with
    | none => false
    | some child => valuesNarrow child parent

def argumentPolicyTightens (child parent : PolicyMembers) : Bool :=
  if !bytesEqual child.argument parent.argument then false
  else if !ceilingCountTightens child.ceiling child.maxCount child.window parent.ceiling
      parent.maxCount parent.window then false
  else if !sumTightens child.sum parent.sum then false
  else scopeTightens child.scope parent.scope

/-! ## What the loops decide -/

theorem bytesEqualFrom_iff {left right : Bytes} (h : left.length = right.length) :
    bytesEqualFrom left right = true ↔ left = right := by
  induction left generalizing right with
  | nil =>
    obtain rfl := List.length_eq_zero_iff.mp h.symm
    simp [bytesEqualFrom]
  | cons a left ih =>
    cases right with
    | nil => cases h
    | cons b right =>
      unfold bytesEqualFrom
      by_cases hfirst : a = b
      · rw [if_neg (not_not.mpr hfirst), ih (Nat.succ.inj h), hfirst, List.cons.injEq]
        simp
      · rw [if_pos hfirst]
        simp [hfirst]

theorem bytesEqual_iff {left right : Bytes} : bytesEqual left right = true ↔ left = right := by
  unfold bytesEqual
  by_cases hlength : left.length = right.length
  · rw [if_neg (not_not.mpr hlength), bytesEqualFrom_iff hlength]
  · rw [if_pos hlength]
    constructor
    · exact nofun
    · intro h
      exact absurd (congrArg List.length h) hlength

theorem valuesContain_iff {values : List Bytes} {value : Bytes} :
    valuesContain values value = true ↔ value ∈ values := by
  induction values with
  | nil => simp [valuesContain]
  | cons held values ih =>
    unfold valuesContain
    by_cases hheld : bytesEqual held value = true
    · rw [if_pos hheld, bytesEqual_iff.mp hheld]
      simp
    · have hne : value ≠ held := fun h => hheld (bytesEqual_iff.mpr h.symm)
      rw [if_neg hheld, ih, List.mem_cons]
      simp [hne]

theorem valuesSubset_iff {child parent : List Bytes} :
    valuesSubset child parent = true ↔ child ⊆ parent := by
  induction child with
  | nil => simp [valuesSubset]
  | cons value child ih =>
    unfold valuesSubset
    rw [List.cons_subset, ← valuesContain_iff, ← ih]
    by_cases hheld : valuesContain parent value = true <;> simp [hheld]

/-- The same argument with some of the values. -/
def ValueList.Narrows (child parent : ValueList) : Prop :=
  child.argument = parent.argument ∧ child.values ⊆ parent.values

theorem valuesNarrow_iff {child parent : ValueList} :
    valuesNarrow child parent = true ↔ child.Narrows parent := by
  rw [valuesNarrow, Bool.and_eq_true, bytesEqual_iff, valuesSubset_iff, ValueList.Narrows]

theorem partitionNarrows_iff {child parent : Option ValueList} :
    partitionNarrows child parent = true ↔ Option.Rel ValueList.Narrows child parent := by
  cases parent <;> cases child <;> simp [partitionNarrows, valuesNarrow_iff]

/-- What a parent limits its child limits no less. -/
def Limits {α : Type} (tighter : α → α → Prop) (child parent : Option α) : Prop :=
  ∀ limit ∈ parent, ∃ own ∈ child, tighter own limit

theorem scopeTightens_iff {child parent : Option ValueList} :
    scopeTightens child parent = true ↔ Limits ValueList.Narrows child parent := by
  cases parent <;> cases child <;> simp [scopeTightens, Limits, valuesNarrow_iff]

/-- A sum no larger, in the same partition with some of its values. -/
def SumBound.Narrows (child parent : SumBound) : Prop :=
  child.limit ≤ parent.limit ∧ Option.Rel ValueList.Narrows child.partition parent.partition

theorem sumTightens_iff {child parent : Option SumBound} :
    sumTightens child parent = true ↔ Limits SumBound.Narrows child parent := by
  cases parent <;> cases child <;>
    simp [sumTightens, Limits, SumBound.Narrows, partitionNarrows_iff]

/-- What tightening means, member by member. -/
structure PolicyMembers.Tightens (child parent : PolicyMembers) : Prop where
  argument : child.argument = parent.argument
  window : child.window = parent.window
  ceiling : child.ceiling ≤ parent.ceiling
  maxCount : child.maxCount ≤ parent.maxCount
  sum : Limits SumBound.Narrows child.sum parent.sum
  scope : Limits ValueList.Narrows child.scope parent.scope

theorem ceilingCountTightens_iff {ceiling maxCount window ceiling' maxCount' window' : Nat} :
    ceilingCountTightens ceiling maxCount window ceiling' maxCount' window' = true ↔
      window = window' ∧ ceiling ≤ ceiling' ∧ maxCount ≤ maxCount' := by
  unfold ceilingCountTightens
  by_cases hwindow : window = window'
  · by_cases hceiling : ceiling' < ceiling
    · simp [hwindow, hceiling]
    · simp [hwindow, hceiling, Nat.le_of_not_lt hceiling]
  · simp [hwindow]

theorem argumentPolicyTightens_iff {child parent : PolicyMembers} :
    argumentPolicyTightens child parent = true ↔ child.Tightens parent := by
  have hsplit : argumentPolicyTightens child parent = true ↔
      bytesEqual child.argument parent.argument = true ∧
        ceilingCountTightens child.ceiling child.maxCount child.window parent.ceiling
          parent.maxCount parent.window = true ∧
        sumTightens child.sum parent.sum = true ∧ scopeTightens child.scope parent.scope = true := by
    unfold argumentPolicyTightens
    split
    · simp_all
    · split
      · simp_all
      · split <;> simp_all
  rw [hsplit, bytesEqual_iff, ceilingCountTightens_iff, sumTightens_iff, scopeTightens_iff]
  constructor
  · rintro ⟨hargument, ⟨hwindow, hceiling, hcount⟩, hsum, hscope⟩
    exact ⟨hargument, hwindow, hceiling, hcount, hsum, hscope⟩
  · rintro ⟨hargument, hwindow, hceiling, hcount, hsum, hscope⟩
    exact ⟨hargument, ⟨hwindow, hceiling, hcount⟩, hsum, hscope⟩

/-! ## Tightening is a preorder -/

theorem ValueList.Narrows.refl (list : ValueList) : list.Narrows list := ⟨rfl, List.Subset.refl _⟩

theorem ValueList.Narrows.trans {a b c : ValueList} (h : a.Narrows b) (h' : b.Narrows c) :
    a.Narrows c :=
  ⟨h.1.trans h'.1, List.Subset.trans h.2 h'.2⟩

theorem partitions_trans {a b c : Option ValueList} (h : Option.Rel ValueList.Narrows a b)
    (h' : Option.Rel ValueList.Narrows b c) : Option.Rel ValueList.Narrows a c := by
  cases h with
  | none => exact h'
  | some hab =>
    cases h' with
    | some hbc => exact .some (hab.trans hbc)

theorem SumBound.Narrows.refl (bound : SumBound) : bound.Narrows bound := by
  refine ⟨Nat.le_refl _, ?_⟩
  cases bound.partition with
  | none => exact .none
  | some list => exact .some (ValueList.Narrows.refl list)

theorem SumBound.Narrows.trans {a b c : SumBound} (h : a.Narrows b) (h' : b.Narrows c) :
    a.Narrows c :=
  ⟨h.1.trans h'.1, partitions_trans h.2 h'.2⟩

theorem Limits.refl {α : Type} {tighter : α → α → Prop} (h : ∀ a, tighter a a) (limits : Option α) :
    Limits tighter limits limits :=
  fun limit hlimit => ⟨limit, hlimit, h limit⟩

theorem Limits.trans {α : Type} {tighter : α → α → Prop}
    (htrans : ∀ a b c, tighter a b → tighter b c → tighter a c) {a b c : Option α}
    (h : Limits tighter a b) (h' : Limits tighter b c) : Limits tighter a c := by
  intro limit hlimit
  obtain ⟨middle, hmiddle, htighter⟩ := h' limit hlimit
  obtain ⟨own, hown, htighter'⟩ := h middle hmiddle
  exact ⟨own, hown, htrans own middle limit htighter' htighter⟩

theorem PolicyMembers.Tightens.refl (policy : PolicyMembers) : policy.Tightens policy :=
  ⟨rfl, rfl, Nat.le_refl _, Nat.le_refl _, .refl SumBound.Narrows.refl _,
    .refl ValueList.Narrows.refl _⟩

theorem PolicyMembers.Tightens.trans {a b c : PolicyMembers} (h : a.Tightens b)
    (h' : b.Tightens c) : a.Tightens c :=
  ⟨h.argument.trans h'.argument, h.window.trans h'.window, h.ceiling.trans h'.ceiling,
    h.maxCount.trans h'.maxCount,
    h.sum.trans (fun _ _ _ hab hbc => hab.trans hbc) h'.sum,
    h.scope.trans (fun _ _ _ hab hbc => hab.trans hbc) h'.scope⟩

/-! ## What a policy admits -/

/-- The verified arguments of an action. -/
structure Action where
  uint : Bytes → Option Nat
  text : Bytes → Option Bytes

/-- What a window has charged so far: its actions, and the bounded argument summed up in whole or for
one value of an argument. -/
structure Window where
  count : Nat
  sum : Option (Bytes × Bytes) → Nat

/-- The running sum a partition selects for the action: the whole one without a partition, else that of
the action's value, which must be listed. -/
def Selects (action : Action) (listed : Option ValueList) (selected : Option (Bytes × Bytes)) : Prop :=
  match listed with
  | none => selected = none
  | some list => ∃ text, action.text list.argument = some text ∧
      valuesContain list.values text = true ∧ selected = some (list.argument, text)

/-- A policy admits an action after what its window has charged, for windows of any length. -/
structure Admits (policy : PolicyMembers) (history : Nat → Window) (action : Action) (value : Nat) :
    Prop where
  argument : action.uint policy.argument = some value
  eligible : ceilingCountCode value policy.ceiling (history policy.window).count policy.maxCount =
    .eligible
  scope : ∀ list ∈ policy.scope, ∃ text, action.text list.argument = some text ∧
    valuesContain list.values text = true
  sum : ∀ bound ∈ policy.sum, ∃ selected, Selects action bound.partition selected ∧
    chainSumsAdmit [(history policy.window).sum selected] value [bound.limit] = true

theorem eligible_iff {value ceiling count maxCount : Nat} :
    ceilingCountCode value ceiling count maxCount = .eligible ↔ value ≤ ceiling ∧ count < maxCount := by
  unfold ceilingCountCode
  by_cases hceiling : ceiling < value
  · rw [if_pos hceiling]
    refine ⟨nofun, ?_⟩
    omega
  · by_cases hcount : maxCount ≤ count
    · rw [if_neg hceiling, if_pos hcount]
      refine ⟨nofun, ?_⟩
      omega
    · rw [if_neg hceiling, if_neg hcount]
      refine ⟨fun _ => ⟨by omega, by omega⟩, fun _ => rfl⟩

theorem ValueList.Narrows.lists {child parent : ValueList} (h : child.Narrows parent) {action : Action}
    {text : Bytes} (htext : action.text child.argument = some text)
    (hlisted : valuesContain child.values text = true) :
    action.text parent.argument = some text ∧ valuesContain parent.values text = true :=
  ⟨h.1 ▸ htext, valuesContain_iff.mpr (h.2 (valuesContain_iff.mp hlisted))⟩

theorem Selects.of_narrows {action : Action} {child parent : Option ValueList}
    {selected : Option (Bytes × Bytes)} (h : Selects action child selected)
    (hnarrows : Option.Rel ValueList.Narrows child parent) : Selects action parent selected := by
  cases hnarrows with
  | none => exact h
  | some hlists =>
    obtain ⟨text, htext, hlisted, hselected⟩ := h
    obtain ⟨htext', hlisted'⟩ := hlists.lists htext hlisted
    exact ⟨text, htext', hlisted', by rw [hselected, hlists.1]⟩

theorem chainSumsAdmit_iff {sum value limit : Nat} :
    chainSumsAdmit [sum] value [limit] = true ↔ sum + value < 2 ^ 64 ∧ sum + value ≤ limit := by
  by_cases hfits : sum + value < 2 ^ 64
  · have hadd : Gateway.checkedAdd sum value = some (sum + value) := if_pos hfits
    rw [and_iff_right hfits]
    simp [chainSumsAdmit, hadd]
  · have hadd : Gateway.checkedAdd sum value = none := if_neg hfits
    simp only [hfits, false_and, iff_false, Bool.not_eq_true]
    simp [chainSumsAdmit, hadd]

/-- What a child admits its parent admits, after any history. -/
theorem PolicyMembers.Tightens.admits {child parent : PolicyMembers} (h : child.Tightens parent)
    {history : Nat → Window} {action : Action} {value : Nat}
    (hadmits : Admits child history action value) : Admits parent history action value := by
  obtain ⟨hceiling, hcount⟩ := eligible_iff.mp hadmits.eligible
  refine ⟨h.argument ▸ hadmits.argument, ?_, fun list hlist => ?_, fun bound hbound => ?_⟩
  · rw [h.window] at hcount
    exact eligible_iff.mpr ⟨hceiling.trans h.ceiling, hcount.trans_le h.maxCount⟩
  · obtain ⟨own, hown, hnarrows⟩ := h.scope list hlist
    obtain ⟨text, htext, hlisted⟩ := hadmits.scope own hown
    exact ⟨text, hnarrows.lists htext hlisted⟩
  · obtain ⟨own, hown, hlimit, hpartition⟩ := h.sum bound hbound
    obtain ⟨selected, hselects, hsum⟩ := hadmits.sum own hown
    obtain ⟨hfits, hwithin⟩ := chainSumsAdmit_iff.mp hsum
    rw [h.window] at hfits hwithin
    exact ⟨selected, hselects.of_narrows hpartition,
      chainSumsAdmit_iff.mpr ⟨hfits, hwithin.trans hlimit⟩⟩

end AuthsProof.BoundedPolicy

/-! ## Chains of policies -/

namespace AuthsProof.Gateway

def ListedValues.members (listed : ListedValues) : BoundedPolicy.ValueList :=
  ⟨utf8 listed.argument.str, listed.values.map utf8⟩

def SumBound.members (bound : SumBound) : BoundedPolicy.SumBound :=
  ⟨bound.limit, bound.partition.map ListedValues.members⟩

def ArgumentCeilingPolicy.members (policy : ArgumentCeilingPolicy) : BoundedPolicy.PolicyMembers where
  argument := utf8 policy.argument.str
  ceiling := policy.ceiling
  window := policy.windowSeconds
  maxCount := policy.maxCount
  sum := policy.sum.map SumBound.members
  scope := policy.scope.map ListedValues.members

theorem utf8_eq_iff {a b : FactName} : utf8 a.str = utf8 b.str ↔ a = b := by
  constructor
  · intro h
    obtain ⟨a, _⟩ := a
    obtain ⟨b, _⟩ := b
    obtain rfl : a = b := utf8_injective h
    rfl
  · rintro rfl
    rfl

theorem members_valuesNarrow (child parent : ListedValues) :
    BoundedPolicy.valuesNarrow child.members parent.members = valuesNarrow child parent := by
  rw [Bool.eq_iff_iff, BoundedPolicy.valuesNarrow_iff, BoundedPolicy.ValueList.Narrows, valuesNarrow,
    Bool.and_eq_true, decide_eq_true_eq, List.all_eq_true]
  refine and_congr utf8_eq_iff ?_
  constructor
  · intro h value hvalue
    obtain ⟨held, hheld, hsame⟩ := List.mem_map.mp (h (List.mem_map_of_mem hvalue))
    rw [← utf8_injective hsame]
    simpa using hheld
  · intro h bytes hbytes
    obtain ⟨value, hvalue, rfl⟩ := List.mem_map.mp hbytes
    exact List.mem_map_of_mem (by simpa using h value hvalue)

/-- The decider over names and the one over their bytes agree. -/
theorem members_tightens (child parent : ArgumentCeilingPolicy) :
    BoundedPolicy.argumentPolicyTightens child.members parent.members =
      argumentPolicyTightens child parent := by
  have hargument : BoundedPolicy.bytesEqual (utf8 child.argument.str) (utf8 parent.argument.str) =
      decide (child.argument = parent.argument) := by
    rw [Bool.eq_iff_iff, BoundedPolicy.bytesEqual_iff, decide_eq_true_eq, utf8_eq_iff]
  have hpartition (a b : Option ListedValues) : BoundedPolicy.partitionNarrows
      (a.map ListedValues.members) (b.map ListedValues.members) = partitionNarrows a b := by
    cases a <;> cases b <;>
      simp [BoundedPolicy.partitionNarrows, partitionNarrows, members_valuesNarrow]
  have hsum : BoundedPolicy.sumTightens (child.sum.map SumBound.members)
      (parent.sum.map SumBound.members) = sumTightens child.sum parent.sum := by
    cases child.sum <;> cases parent.sum <;>
      simp [BoundedPolicy.sumTightens, sumTightens, SumBound.members, hpartition]
  have hscope : BoundedPolicy.scopeTightens (child.scope.map ListedValues.members)
      (parent.scope.map ListedValues.members) = scopeTightens child.scope parent.scope := by
    cases child.scope <;> cases parent.scope <;>
      simp [BoundedPolicy.scopeTightens, scopeTightens, members_valuesNarrow]
  simp only [BoundedPolicy.argumentPolicyTightens, argumentPolicyTightens,
    ArgumentCeilingPolicy.members, hargument, hsum, hscope, Bool.not_eq_true', decide_eq_false_iff_not]

theorem argumentPolicyTightens_iff {child parent : ArgumentCeilingPolicy} :
    argumentPolicyTightens child parent = true ↔ child.members.Tightens parent.members := by
  rw [← members_tightens, BoundedPolicy.argumentPolicyTightens_iff]

section Links

variable {links : List BoundLink}

/-- Where each link tightens the one before it, every link tightens all the ones before it. -/
theorem pairwise_of_adjacent (h : (links.zip links.tail).all (fun (parent, child) =>
    argumentPolicyTightens child.policy parent.policy) = true) :
    links.Pairwise fun parent child => child.policy.members.Tightens parent.policy.members := by
  have htrans : Trans (fun parent child : BoundLink => child.policy.members.Tightens parent.policy.members)
      (fun parent child : BoundLink => child.policy.members.Tightens parent.policy.members)
      (fun parent child : BoundLink => child.policy.members.Tightens parent.policy.members) :=
    ⟨fun hab hbc => hbc.trans hab⟩
  refine List.isChain_iff_pairwise.mp ?_
  induction links with
  | nil => exact .nil
  | cons first rest ih =>
    cases rest with
    | nil => exact .singleton first
    | cons second rest =>
      simp only [List.tail_cons, List.zip_cons_cons, List.all_cons, Bool.and_eq_true] at h
      exact .cons_cons (argumentPolicyTightens_iff.mp h.1) (ih h.2)

variable {fact : FactName → Option FactValue}

/-- The bounded argument is one value for all links, within each ceiling. -/
theorem boundedArgumentFrom_ok {prior : Option Nat} {value : Nat}
    (h : boundedArgumentFrom fact prior links = .ok value) :
    (∀ before ∈ prior, before = value) ∧ ∀ link ∈ links,
      (∃ uint, fact link.policy.argument = some (.uint uint) ∧ uint.toNat = value) ∧
        value ≤ link.policy.ceiling := by
  induction links generalizing prior with
  | nil =>
    cases prior with
    | none => cases h
    | some before =>
      refine ⟨?_, nofun⟩
      rintro _ ⟨⟩
      exact Except.ok.inj h
  | cons link links ih =>
    rw [boundedArgumentFrom] at h
    split at h
    · next uint hfact =>
      split at h
      · cases h
      · next hprior =>
        split at h
        · cases h
        · next hceiling =>
          obtain ⟨hsame, hrest⟩ := ih h
          have hvalue : uint.toNat = value := hsame _ rfl
          have hwithin : value ≤ link.policy.ceiling := by
            unfold ceilingCountCode at hceiling
            by_contra hnot
            rw [if_pos (by omega)] at hceiling
            exact hceiling rfl
          refine ⟨fun before hbefore => ?_, fun other hother => ?_⟩
          · cases hbefore
            simpa [hvalue] using hprior
          · rcases List.mem_cons.mp hother with rfl | hother
            · exact ⟨⟨uint, hfact, hvalue⟩, hwithin⟩
            · exact hrest other hother
    · cases h

theorem exists_listedArgument {values : List String} (h : listedArguments fact links = .ok values)
    {link : BoundLink} (hlink : link ∈ links) :
    ∃ value, (link, value) ∈ links.zip values ∧ listedArgument fact link = .ok value := by
  have hlength := length_listedArguments h
  obtain ⟨i, hi, rfl⟩ := List.mem_iff_getElem.mp hlink
  have hzip : i < (links.zip values).length := by
    rw [List.length_zip]
    omega
  have hmem := List.getElem_mem hzip
  rw [List.getElem_zip] at hmem
  exact ⟨_, hmem, listedArgument_of_mem_zip h hmem⟩

/-- The action's value of an argument is a listed one. -/
def Listed (fact : FactName → Option FactValue) (listed : ListedValues) : Prop :=
  ∃ text, fact listed.argument = some (.text text) ∧ text.str ∈ listed.values

theorem listed_of_textArgument {listed : ListedValues} {value : String}
    (h : textArgument fact listed.argument = .ok value) (hlists : listed.lists value = true) :
    Listed fact listed := by
  unfold textArgument at h
  split at h
  · next text hfact =>
    obtain rfl := Except.ok.inj h
    exact ⟨text, hfact, by simpa [ListedValues.lists] using hlists⟩
  · cases h

theorem listed_of_listedArgument {link : BoundLink} {value : String}
    (h : listedArgument fact link = .ok value) :
    (∀ listed ∈ link.policy.scope, Listed fact listed) ∧
      ∀ listed ∈ link.policy.sum.bind SumBound.partition, Listed fact listed := by
  obtain ⟨⟨⟩, hscope, hpartition⟩ := Except.bind_eq_ok.mp h
  constructor
  · rintro listed hlisted
    rw [Option.mem_def.mp hlisted] at hscope
    obtain ⟨text, htext, hscope⟩ := Except.bind_eq_ok.mp hscope
    split at hscope
    · next hlists => exact listed_of_textArgument htext hlists
    · cases hscope
  · rintro listed hlisted
    rw [Option.mem_def.mp hlisted] at hpartition
    obtain ⟨text, htext, hpartition⟩ := Except.bind_eq_ok.mp hpartition
    split at hpartition
    · next hlists => exact listed_of_textArgument htext hlists
    · cases hpartition

end Links

/-! ## Capacities -/

section Capacity

variable {C ι : Type} {own : ι → C → Prop} {items : List ι} {item : ι} {hit : C → Bool}
  {lower : C → C} {fresh : C} {counters : List C}

/-- Each counter is exactly what one item sets it to; charging one more item keeps that. -/
theorem attained_charge (h : ∀ counter ∈ counters, ∃ other ∈ items, own other counter)
    (hfresh : own item fresh) (hlower : ∀ before ∈ counters, hit before = true →
      own item (lower before) ∨ lower before = before) :
    ∀ counter ∈ charge hit lower fresh counters, ∃ other ∈ items ++ [item], own other counter := by
  intro counter hcounter
  have hkept {before : C} (hbefore : before ∈ counters) : ∃ other ∈ items ++ [item],
      own other before := by
    obtain ⟨other, hother, howned⟩ := h before hbefore
    exact ⟨other, List.mem_append_left _ hother, howned⟩
  rcases mem_charge hcounter with rfl | ⟨before, hbefore, hhit, rfl⟩ | hbefore
  · exact ⟨item, by simp, hfresh⟩
  · rcases hlower before hbefore hhit with howned | hsame
    · exact ⟨item, by simp, howned⟩
    · rw [hsame]
      exact hkept hbefore
  · exact hkept hbefore

end Capacity

section Chain

variable [Sha256] {links : List BoundLink} {operatorNamespace : String} {windowSeconds index : Nat}

/-- The link charges the counter. -/
abbrev ChargesCount (operatorNamespace : String) (windowSeconds index : Nat) (counter : CountCounter)
    (link : BoundLink) : Prop :=
  counter.key = countCounterKey operatorNamespace link.subject windowSeconds index

/-- The link charges the sum counter, for its value of the partition. -/
abbrev ChargesSum (operatorNamespace : String) (windowSeconds index : Nat) (counter : SumCounter)
    (item : SumCharge) : Prop :=
  counter.key = sumCounterKey operatorNamespace item.link.subject item.value windowSeconds index

theorem chainCounts_attained : ∀ counter ∈ chainCounts links operatorNamespace windowSeconds index,
    ∃ link ∈ links, ChargesCount operatorNamespace windowSeconds index counter link ∧
      counter.capacity = link.policy.maxCount := by
  unfold chainCounts
  suffices h : ∀ (before : List BoundLink) (counts : List CountCounter),
      (∀ counter ∈ counts, ∃ link ∈ before,
        ChargesCount operatorNamespace windowSeconds index counter link ∧
          counter.capacity = link.policy.maxCount) →
      ∀ counter ∈ links.foldl (fun counts link =>
        let key := countCounterKey operatorNamespace link.subject windowSeconds index
        charge (fun counter => counter.key == key)
          (fun counter => { counter with capacity := min counter.capacity link.policy.maxCount })
          ⟨key, link.policy.maxCount⟩ counts) counts, ∃ link ∈ before ++ links,
        ChargesCount operatorNamespace windowSeconds index counter link ∧
          counter.capacity = link.policy.maxCount from
    h [] [] (by simp)
  induction links with
  | nil => exact fun before counts h => by simpa using h
  | cons link links ih =>
    intro before counts h
    have hrest := ih (before ++ [link]) _ <| @attained_charge _ _ _ _ link
      (fun counter => counter.key ==
        countCounterKey operatorNamespace link.subject windowSeconds index)
      (fun counter => { counter with capacity := min counter.capacity link.policy.maxCount })
      ⟨countCounterKey operatorNamespace link.subject windowSeconds index, link.policy.maxCount⟩
      _ h ⟨rfl, rfl⟩ fun counter _ hhit => by
        rcases Nat.le_total counter.capacity link.policy.maxCount with hkeeps | hlowers
        · refine .inr ?_
          rw [Nat.min_eq_left hkeeps]
        · exact .inl ⟨by simpa using hhit, Nat.min_eq_right hlowers⟩
    rwa [List.append_assoc, List.singleton_append] at hrest

/-- The sum counters are folded over the charges of the links that have a sum bound. -/
theorem chainSums_eq (values : List String) (counts : List CountCounter) :
    chainSums links values counts operatorNamespace windowSeconds index =
      (sumCharges links values).foldl (fun sums item =>
        charge (fun counter => counter.key ==
            sumCounterKey operatorNamespace item.link.subject item.value windowSeconds index)
          (fun counter => { counter with capacity := min counter.capacity item.bound.limit })
          ⟨sumCounterKey operatorNamespace item.link.subject item.value windowSeconds index,
            item.bound.limit,
            sumSlots counts (countCounterKey operatorNamespace item.link.subject windowSeconds index)⟩
          sums) [] := by
  unfold chainSums sumCharges
  rw [List.foldl_filterMap]
  refine congrArg (fun step => (links.zip values).foldl step []) (funext fun sums => funext ?_)
  rintro ⟨link, value⟩
  cases hsum : link.policy.sum with
  | none => simp only [hsum, Option.map_none]
  | some bound => simp only [hsum, Option.map_some, sumSlots]

theorem chainSums_attained (values : List String) (counts : List CountCounter) :
    ∀ counter ∈ chainSums links values counts operatorNamespace windowSeconds index,
      ∃ item ∈ sumCharges links values, ChargesSum operatorNamespace windowSeconds index counter item ∧
        counter.capacity = item.bound.limit := by
  rw [chainSums_eq]
  generalize sumCharges links values = items
  suffices h : ∀ (before : List SumCharge) (sums : List SumCounter),
      (∀ counter ∈ sums, ∃ item ∈ before,
        ChargesSum operatorNamespace windowSeconds index counter item ∧
          counter.capacity = item.bound.limit) →
      ∀ counter ∈ items.foldl (fun sums item =>
        charge (fun counter => counter.key ==
            sumCounterKey operatorNamespace item.link.subject item.value windowSeconds index)
          (fun counter => { counter with capacity := min counter.capacity item.bound.limit })
          ⟨sumCounterKey operatorNamespace item.link.subject item.value windowSeconds index,
            item.bound.limit,
            sumSlots counts (countCounterKey operatorNamespace item.link.subject windowSeconds index)⟩
          sums) sums, ∃ item ∈ before ++ items,
        ChargesSum operatorNamespace windowSeconds index counter item ∧
          counter.capacity = item.bound.limit from
    h [] [] (by simp)
  induction items with
  | nil => exact fun before sums h => by simpa using h
  | cons item items ih =>
    intro before sums h
    have hrest := ih (before ++ [item]) _ <| @attained_charge _ _ _ _ item
      (fun counter => counter.key ==
        sumCounterKey operatorNamespace item.link.subject item.value windowSeconds index)
      (fun counter => { counter with capacity := min counter.capacity item.bound.limit })
      ⟨sumCounterKey operatorNamespace item.link.subject item.value windowSeconds index,
        item.bound.limit,
        sumSlots counts (countCounterKey operatorNamespace item.link.subject windowSeconds index)⟩
      _ h ⟨rfl, rfl⟩ fun counter _ hhit => by
        rcases Nat.le_total counter.capacity item.bound.limit with hkeeps | hlowers
        · refine .inr ?_
          rw [Nat.min_eq_left hkeeps]
        · exact .inl ⟨by simpa using hhit, Nat.min_eq_right hlowers⟩
    rwa [List.append_assoc, List.singleton_append] at hrest

/-- The steps of an accepted chain. -/
structure Steps (operatorNamespace : String) (fact : FactName → Option FactValue) (now : UInt64)
    (bound : BoundAdmission) (values : List String) (first : BoundLink) : Prop where
  head : ∃ rest, links = first :: rest
  tightens : (links.zip links.tail).all (fun (parent, child) =>
    argumentPolicyTightens child.policy parent.policy) = true
  argument : boundedArgument fact links = .ok bound.argument
  listed : listedArguments fact links = .ok values
  limits : links.any (fun link => link.policy.sum.any fun sum => sum.limit < bound.argument) = false
  windowSeconds : bound.windowSeconds = first.policy.windowSeconds
  windowIndex : bound.windowIndex = now.toNat / bound.windowSeconds
  windowEnd : windowEndOf bound.windowIndex bound.windowSeconds = some bound.windowEnd
  counters : (bound.counts, bound.sums) =
    chainCounters links values operatorNamespace bound.windowSeconds bound.windowIndex

theorem admitPolicyLinks_steps {fact : FactName → Option FactValue}
    {requirement : Option SumRequirement} {now : UInt64} {bound : BoundAdmission}
    (h : admitPolicyLinks links fact operatorNamespace requirement now = .ok (some bound)) :
    ∃ values first, @Steps _ links operatorNamespace fact now bound values first := by
  unfold admitPolicyLinks at h
  split at h
  · cases h
  · next hlength =>
    split at h
    · split at h <;> cases h
    · next first rest =>
      split at h
      · cases h
      · next htight =>
        obtain ⟨argument, hargument, h⟩ := Except.bind_eq_ok.mp h
        obtain ⟨values, hvalues, h⟩ := Except.bind_eq_ok.mp h
        split at h
        · cases h
        · next hlimits =>
          split at h
          · cases h
          · dsimp only at h
            split at h
            · cases h
            · next windowEnd hend =>
              obtain rfl := Option.some.inj (Except.ok.inj h)
              exact ⟨values, first, ⟨rest, rfl⟩, by simpa using htight, hargument, hvalues,
                by simpa using hlimits, rfl, rfl, hend, rfl⟩

/-- What the admission of an action under a chain says of the action, the links and the counters. -/
structure WithinChain (links : List BoundLink) (operatorNamespace : String)
    (fact : FactName → Option FactValue) (now : UInt64) (bound : BoundAdmission) : Prop where
  argument : ∀ link ∈ links, ∃ uint, fact link.policy.argument = some (.uint uint) ∧
    uint.toNat = bound.argument
  ceiling : ∀ link ∈ links, bound.argument ≤ link.policy.ceiling
  limit : ∀ link ∈ links, ∀ sum ∈ link.policy.sum, bound.argument ≤ sum.limit
  scope : ∀ link ∈ links, ∀ listed ∈ link.policy.scope, Listed fact listed
  «partition» : ∀ link ∈ links, ∀ sum ∈ link.policy.sum, ∀ listed ∈ sum.partition,
    Listed fact listed
  tightens : links.Pairwise fun parent child =>
    child.policy.members.Tightens parent.policy.members
  window : ∀ link ∈ links, link.policy.windowSeconds = bound.windowSeconds
  counts : ∀ counter ∈ bound.counts, IsLeast { capacity | ∃ link ∈ links,
    ChargesCount operatorNamespace bound.windowSeconds bound.windowIndex counter link ∧
      capacity = link.policy.maxCount } counter.capacity
  sums : ∃ values, listedArguments fact links = .ok values ∧
    ∀ counter ∈ bound.sums, IsLeast { capacity | ∃ item ∈ sumCharges links values,
      ChargesSum operatorNamespace bound.windowSeconds bound.windowIndex counter item ∧
        capacity = item.bound.limit } counter.capacity
  opens : bound.windowIndex * bound.windowSeconds ≤ now.toNat
  closes : now.toNat < bound.windowEnd
  windowEnd : bound.windowEnd = (bound.windowIndex + 1) * bound.windowSeconds
  fits : bound.windowEnd + bound.windowSeconds < 2 ^ 64

omit [Sha256] in
/-- A counter is the least of what its items allow, where each key has one counter. -/
theorem isLeast_capacity {C ι : Type} {key : C → Digest} {capacity : C → Nat} {limit : ι → Nat}
    {own : ι → C → Prop} {target : ι → Digest} {items : List ι} {counters : List C}
    (h : Charges key own (fun item counter => key counter = target item ∧ capacity counter ≤ limit item)
      items counters)
    {counter : C} (hmem : counter ∈ counters)
    (hattained : ∃ item ∈ items, key counter = target item ∧ capacity counter = limit item) :
    IsLeast { n | ∃ item ∈ items, key counter = target item ∧ n = limit item } (capacity counter) := by
  refine ⟨hattained, ?_⟩
  rintro _ ⟨item, hitem, hkey, rfl⟩
  obtain ⟨other, hother, hsame, hlimit⟩ := h.covered item hitem
  rw [List.inj_on_of_nodup_map h.nodup hmem hother (hkey.trans hsame.symm)]
  exact hlimit

theorem admitPolicyLinks_within {fact : FactName → Option FactValue}
    {requirement : Option SumRequirement} {now : UInt64} {bound : BoundAdmission}
    (h : admitPolicyLinks links fact operatorNamespace requirement now = .ok (some bound)) :
    WithinChain links operatorNamespace fact now bound := by
  obtain ⟨values, first, hsteps⟩ := admitPolicyLinks_steps h
  obtain ⟨hlinks, -, values', hvalues', hvalid⟩ := admitPolicyLinks_spec h
  obtain rfl := Except.ok.inj (hsteps.listed.symm.trans hvalues')
  obtain ⟨-, hargument⟩ := boundedArgumentFrom_ok hsteps.argument
  have hpairwise := pairwise_of_adjacent hsteps.tightens
  have hcounts : bound.counts = Sorting.sortByKey CountCounter.key _ :=
    congrArg Prod.fst hsteps.counters
  have hsums : bound.sums = Sorting.sortByKey SumCounter.key _ :=
    congrArg Prod.snd hsteps.counters
  have hlisted : ∀ link ∈ links, (∀ listed ∈ link.policy.scope, Listed fact listed) ∧
      ∀ listed ∈ link.policy.sum.bind SumBound.partition, Listed fact listed := by
    intro link hlink
    obtain ⟨value, -, hvalue⟩ := exists_listedArgument hsteps.listed hlink
    exact listed_of_listedArgument hvalue
  have hsame : ∀ link ∈ links, link.policy.windowSeconds = bound.windowSeconds := by
    intro link hlink
    obtain ⟨rest, hhead⟩ := hsteps.head
    rw [hhead] at hlink hpairwise
    rw [hsteps.windowSeconds]
    rcases List.mem_cons.mp hlink with rfl | hrest
    · rfl
    · exact ((List.pairwise_cons.mp hpairwise).1 link hrest).window
  have hlimits : ∀ link ∈ links, ∀ sum ∈ link.policy.sum, bound.argument ≤ sum.limit := by
    intro link hlink sum hsum
    have hnone := List.any_eq_false.mp hsteps.limits link hlink
    rw [Option.mem_def.mp hsum] at hnone
    simpa using hnone
  have hopens := Nat.div_mul_le_self now.toNat bound.windowSeconds
  have hcloses := Nat.lt_mul_div_succ now.toNat hvalid.window
  rw [← hsteps.windowIndex] at hopens hcloses
  have hcountsOf := hvalid.counts
  have hsumsOf := hvalid.sums
  rw [hlinks] at hcountsOf hsumsOf
  exact
    { argument := fun link hlink => (hargument link hlink).1
      ceiling := fun link hlink => (hargument link hlink).2
      limit := hlimits
      scope := fun link hlink => (hlisted link hlink).1
      «partition» := fun link hlink sum hsum listed hpartition =>
        (hlisted link hlink).2 listed (Option.mem_bind_iff.mpr ⟨sum, hsum, hpartition⟩)
      tightens := hpairwise
      window := hsame
      counts := fun counter hmem => isLeast_capacity hcountsOf hmem (chainCounts_attained counter
        ((Sorting.sortByKey_perm CountCounter.key _).mem_iff.mp (hcounts ▸ hmem)))
      sums := ⟨values, hsteps.listed, fun counter hmem => isLeast_capacity hsumsOf hmem
        (chainSums_attained values _ counter
          ((Sorting.sortByKey_perm SumCounter.key _).mem_iff.mp (hsums ▸ hmem)))⟩
      opens := hopens
      closes := by
        rw [hvalid.windowEnd, Nat.mul_comm]
        exact hcloses
      windowEnd := hvalid.windowEnd
      fits := hvalid.expires }

/-- Tightening is reflexive and transitive, and sound: whatever a child admits after any history its
parent admits; the gateway's decider is this one; and an action admitted under a chain is within every
link, with each counter's capacity the least of the links that charge it and one window that holds the
time. -/
theorem tightening_sound :
    (∀ policy, BoundedPolicy.argumentPolicyTightens policy policy = true) ∧
    (∀ a b c, BoundedPolicy.argumentPolicyTightens a b = true →
      BoundedPolicy.argumentPolicyTightens b c = true →
      BoundedPolicy.argumentPolicyTightens a c = true) ∧
    (∀ child parent, BoundedPolicy.argumentPolicyTightens child parent = true →
      ∀ history action value, BoundedPolicy.Admits child history action value →
        BoundedPolicy.Admits parent history action value) ∧
    (∀ child parent : ArgumentCeilingPolicy, argumentPolicyTightens child parent =
      BoundedPolicy.argumentPolicyTightens child.members parent.members) ∧
    ∀ (links : List BoundLink) (operatorNamespace : String) (fact : FactName → Option FactValue)
      (requirement : Option SumRequirement) (now : UInt64) (bound : BoundAdmission),
      admitPolicyLinks links fact operatorNamespace requirement now = .ok (some bound) →
      WithinChain links operatorNamespace fact now bound := by
  refine ⟨fun policy => ?_, fun a b c hab hbc => ?_, fun child parent h history action value hadmits => ?_,
    fun child parent => (members_tightens child parent).symm,
    fun links operatorNamespace fact requirement now bound h => admitPolicyLinks_within h⟩
  · exact BoundedPolicy.argumentPolicyTightens_iff.mpr (.refl policy)
  · exact BoundedPolicy.argumentPolicyTightens_iff.mpr
      ((BoundedPolicy.argumentPolicyTightens_iff.mp hab).trans
        (BoundedPolicy.argumentPolicyTightens_iff.mp hbc))
  · exact (BoundedPolicy.argumentPolicyTightens_iff.mp h).admits hadmits

end Chain

section Sample

local instance sampleTighteningSha256 : Sha256 := ⟨fun _ => .zero⟩

def sampleParent : BoundedPolicy.PolicyMembers := ⟨[1], 100, 60, 5, none, none⟩

def sampleChild : BoundedPolicy.PolicyMembers := ⟨[1], 50, 60, 3, some ⟨70, none⟩, none⟩

def sampleAction : BoundedPolicy.Action := ⟨fun name => if name = [1] then some 40 else none, fun _ => none⟩

/-- A purchase of 40 after one of 30 is admitted by the child, so by its parent. -/
theorem tightening_sound_sample :
    BoundedPolicy.Admits sampleParent (fun _ => ⟨1, fun _ => 30⟩) sampleAction 40 := by
  refine tightening_sound.2.2.1 sampleChild sampleParent (by decide) _ _ _ ⟨by decide, by decide, nofun, ?_⟩
  rintro _ ⟨⟩
  exact ⟨none, rfl, by decide⟩

end Sample

end AuthsProof.Gateway
