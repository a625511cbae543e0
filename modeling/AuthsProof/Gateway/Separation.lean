import AuthsProof.Gateway.Bounds
import AuthsProof.Gateway.Engagement
import AuthsProof.Injectivity
import AuthsProof.Lib.Sha2
import AuthsProof.Signing

/-! Budgets are kept apart: the key of a counter determines the budget it counts, and the key of a
stored slot the kind of record, the counter and the slot. -/

namespace AuthsProof.Gateway

open Sorting

/-! ## Read and disclosure budgets -/

inductive InformationBudget where
  | acquisition
  | disclosure
  deriving DecidableEq

namespace InformationBudget

def argument : InformationBudget → String
  | acquisition => "maximum_response_bytes"
  | disclosure => "maximum_disclosure_bytes"

def countDomain : InformationBudget → String
  | acquisition => "auths.gateway-read-policy-count/1\x00"
  | disclosure => "auths.gateway-disclosure-policy-count/1\x00"

def bytesDomain : InformationBudget → String
  | acquisition => "auths.gateway-read-policy-bytes/1\x00"
  | disclosure => "auths.gateway-disclosure-policy-bytes/1\x00"

def refusal : InformationBudget → String
  | acquisition => "gateway.acquisition.unsupported-bounds"
  | disclosure => "gateway.disclosure.unsupported-bounds"

end InformationBudget

section Admission

variable [Sha256]

def rekey (domain : String) (key : Digest) : Digest := Sha256.digest (utf8 domain ++ key.bytes)

/-- The admission with its counters in the domains of a read or disclosure budget. -/
def BoundAdmission.rekeyed (bound : BoundAdmission) (budget : InformationBudget) : BoundAdmission :=
  { bound with
    counts := sortByKey CountCounter.key <| bound.counts.map fun counter =>
      { counter with key := rekey budget.countDomain counter.key }
    sums := sortByKey SumCounter.key <| bound.sums.map fun counter =>
      { counter with key := rekey budget.bytesDomain counter.key } }

def admitInformationBounds (links : List BoundLink) (fact : FactName → Option FactValue)
    (operatorNamespace : String) (now : UInt64) (budget : InformationBudget) :
    Except String (Option BoundAdmission) :=
  if links.any fun link => link.policy.argument.str ≠ budget.argument then .error budget.refusal
  else do
    let bound ← admitPolicyLinks links fact operatorNamespace none now
    return bound.map fun bound => bound.rekeyed budget

end Admission

/-! ## Domains -/

/-- The domains under which counters and slots are hashed. -/
def budgetDomains : List String :=
  ["auths.gateway-bounded-count/2\x00", "auths.gateway-bounded-sum/1\x00",
    InformationBudget.acquisition.countDomain, InformationBudget.acquisition.bytesDomain,
    InformationBudget.disclosure.countDomain, InformationBudget.disclosure.bytesDomain,
    "auths.gateway-bounded-count-slot/2\x00", "auths.gateway-bounded-sum-slot/1\x00",
    "auths.engagement-allocation-key/1\x00"]

/-- No domain starts another. -/
theorem budgetDomains_separate : ∀ a ∈ budgetDomains, ∀ b ∈ budgetDomains,
    (utf8 a).isPrefixOf (utf8 b) = true → a = b := by
  decide +kernel

theorem domain_cancel {a b : String} (ha : a ∈ budgetDomains) (hb : b ∈ budgetDomains)
    {xs ys : Bytes} (h : utf8 a ++ xs = utf8 b ++ ys) : a = b ∧ xs = ys := by
  have hsame : a = b := by
    rcases List.prefix_or_prefix_of_prefix (List.prefix_append (utf8 a) xs)
        (h ▸ List.prefix_append (utf8 b) ys) with hprefix | hprefix
    · exact budgetDomains_separate a ha b hb (List.isPrefixOf_iff_prefix.mpr hprefix)
    · exact (budgetDomains_separate b hb a ha (List.isPrefixOf_iff_prefix.mpr hprefix)).symm
  subst hsame
  exact ⟨rfl, List.append_cancel_left h⟩

/-! ## Counters -/

/-- What a counter counts: actions, or the bounded argument for one partition value. -/
inductive BudgetKind where
  | count
  | sum (value : String)
  deriving DecidableEq

namespace BudgetKind

def domain : BudgetKind → String
  | count => "auths.gateway-bounded-count/2\x00"
  | sum _ => "auths.gateway-bounded-sum/1\x00"

/-- The domain a read or disclosure budget hashes its counter under again. -/
def innerDomain (protocol : InformationBudget) : BudgetKind → String
  | count => protocol.countDomain
  | sum _ => protocol.bytesDomain

def components : BudgetKind → List String
  | count => []
  | sum value => [value]

def counterKey [Sha256] (operatorNamespace : String) (subject : PrincipalId)
    (windowSeconds index : Nat) : BudgetKind → Digest
  | count => countCounterKey operatorNamespace subject windowSeconds index
  | sum value => sumCounterKey operatorNamespace subject value windowSeconds index

theorem domain_mem (kind : BudgetKind) : kind.domain ∈ budgetDomains := by
  cases kind <;> simp [domain, budgetDomains]

theorem innerDomain_mem (kind : BudgetKind) (protocol : InformationBudget) :
    kind.innerDomain protocol ∈ budgetDomains := by
  cases kind <;> cases protocol <;> simp [innerDomain, budgetDomains]

/-- A budget of one protocol is never hashed as that of a mutation. -/
theorem innerDomain_ne_domain (kind other : BudgetKind) (protocol : InformationBudget) :
    kind.innerDomain protocol ≠ other.domain := by
  cases kind <;> cases other <;> cases protocol <;>
    simp [innerDomain, domain, InformationBudget.countDomain, InformationBudget.bytesDomain]

theorem protocol_of_innerDomain {kind other : BudgetKind} {p q : InformationBudget}
    (h : kind.innerDomain p = other.innerDomain q) : p = q := by
  cases kind <;> cases other <;> cases p <;> cases q <;>
    simp [innerDomain, InformationBudget.countDomain, InformationBudget.bytesDomain] at h ⊢

end BudgetKind

/-- The key of a counter under a protocol, from the one a mutation has. -/
def protocolKey [Sha256] (protocol : Option InformationBudget) (kind : BudgetKind) (key : Digest) :
    Digest :=
  match protocol with
  | none => key
  | some protocol => rekey (kind.innerDomain protocol) key

/-- One budget: whose it is, in which window, and under which protocol, none for a mutation. A string
is shorter than memory is long. -/
structure Budget where
  protocol : Option InformationBudget
  kind : BudgetKind
  operatorNamespace : String
  subject : PrincipalId
  windowSeconds : UInt64
  index : UInt64
  namespace_fits : operatorNamespace.utf8ByteSize < 2 ^ 64
  value_fits : ∀ value, kind = .sum value → value.utf8ByteSize < 2 ^ 64

namespace Budget

def components (budget : Budget) : List String :=
  [budget.operatorNamespace, budget.subject.str, argumentCeilingEvaluator] ++ budget.kind.components

def preimage (budget : Budget) : Bytes :=
  utf8 budget.kind.domain ++
    (budget.components.flatMap fun component =>
      bigEndian64 component.utf8ByteSize ++ utf8 component) ++
    bigEndian64 budget.windowSeconds.toNat ++ bigEndian64 budget.index.toNat

section Key

variable [Sha256]

/-- The key of the budget's counter as a mutation has it. -/
def mutationKey (budget : Budget) : Digest :=
  budget.kind.counterKey budget.operatorNamespace budget.subject budget.windowSeconds.toNat
    budget.index.toNat

/-- The key of the budget's counter. -/
def key (budget : Budget) : Digest :=
  protocolKey budget.protocol budget.kind budget.mutationKey

/-- What is hashed for the key of the budget's counter. -/
def preimages (budget : Budget) : List Bytes :=
  budget.preimage :: match budget.protocol with
    | none => []
    | some protocol => [utf8 (budget.kind.innerDomain protocol) ++ budget.mutationKey.bytes]

theorem mutationKey_eq (budget : Budget) : budget.mutationKey = Sha256.digest budget.preimage := by
  unfold mutationKey BudgetKind.counterKey preimage components
  cases budget.kind <;> rfl

end Key

/-- The bytes hashed for a counter determine everything about its budget but the protocol. -/
theorem preimage_injective {a b : Budget} (h : a.preimage = b.preimage) :
    a = { b with protocol := a.protocol } := by
  obtain ⟨protocol, kind, ns, subject, seconds, index, hns, hvalue⟩ := a
  obtain ⟨protocol', kind', ns', subject', seconds', index', hns', hvalue'⟩ := b
  have hsubject (principal : PrincipalId) : principal.str.utf8ByteSize < 2 ^ 64 := by
    have hbounded := principal.bounded
    simp only [boundedText, Bool.not_eq_true', Bool.or_eq_false_iff, decide_eq_false_iff_not] at hbounded
    omega
  simp only [preimage, components, List.append_assoc] at h
  obtain ⟨hdomain, hparts⟩ := domain_cancel kind.domain_mem kind'.domain_mem h
  simp only [List.flatMap_append, List.flatMap_cons, List.flatMap_nil, List.append_nil,
    List.append_assoc, ← length_utf8] at hparts
  obtain ⟨hnamespace, hparts⟩ := append_cancel_of_counted hns hns' hparts
  obtain ⟨hsame, hparts⟩ := append_cancel_of_counted (hsubject subject) (hsubject subject') hparts
  have htail := List.append_cancel_left (List.append_cancel_left hparts)
  have hwindow {xs ys : Bytes} (h : xs ++ (bigEndian64 seconds.toNat ++ bigEndian64 index.toNat) =
      ys ++ (bigEndian64 seconds'.toNat ++ bigEndian64 index'.toNat)) :
      xs = ys ∧ seconds = seconds' ∧ index = index' := by
    obtain ⟨hfirst, h⟩ := List.append_inj' h (by simp [bigEndian64])
    obtain ⟨hseconds, hindex⟩ := append_cancel_of_length h (by simp [bigEndian64])
    exact ⟨hfirst, UInt64.toNat_inj.mp (bigEndian64_inj seconds.toNat_lt seconds'.toNat_lt hseconds),
      UInt64.toNat_inj.mp (bigEndian64_inj index.toNat_lt index'.toNat_lt hindex)⟩
  obtain rfl := utf8_injective hnamespace
  obtain rfl := PrincipalId.str_injective (utf8_injective hsame)
  cases kind with
  | count =>
    cases kind' with
    | count =>
      obtain ⟨-, rfl, rfl⟩ := hwindow htail
      rfl
    | sum value' => simp [BudgetKind.domain] at hdomain
  | sum value =>
    cases kind' with
    | count => simp [BudgetKind.domain] at hdomain
    | sum value' =>
      obtain ⟨hlisted, rfl, rfl⟩ := hwindow htail
      simp only [BudgetKind.components, List.flatMap_cons, List.flatMap_nil, List.append_nil]
        at hlisted
      have hlisted' : bigEndian64 (utf8 value).length ++ (utf8 value ++ []) =
          bigEndian64 (utf8 value').length ++ (utf8 value' ++ []) := by
        rw [List.append_nil, List.append_nil, hlisted]
      obtain ⟨hvalues, -⟩ := append_cancel_of_counted (hvalue value rfl) (hvalue' value' rfl) hlisted'
      obtain rfl := utf8_injective hvalues
      rfl

variable [Sha256]

/-- Two budgets with one counter are one budget. -/
theorem key_injective {a b : Budget} (hfree : AuthsProof.CollisionFree (a.preimages ++ b.preimages))
    (h : a.key = b.key) : a = b := by
  have hmutation (hkey : a.mutationKey = b.mutationKey) (hprotocol : a.protocol = b.protocol) :
      a = b := by
    rw [mutationKey_eq, mutationKey_eq] at hkey
    have hpreimage := hfree _ (List.mem_append_left _ List.mem_cons_self) _
      (List.mem_append_right _ List.mem_cons_self) hkey
    rw [preimage_injective hpreimage, hprotocol]
  unfold key protocolKey at h
  cases hp : a.protocol with
  | none =>
    cases hq : b.protocol with
    | none =>
      rw [hp, hq] at h
      exact hmutation h (hp.trans hq.symm)
    | some protocol =>
      rw [hp, hq] at h
      have houter := hfree a.preimage (List.mem_append_left _ List.mem_cons_self)
        (utf8 (b.kind.innerDomain protocol) ++ b.mutationKey.bytes)
        (List.mem_append_right _ (by simp [preimages, hq])) (by rw [← mutationKey_eq]; exact h)
      rw [preimage, List.append_assoc, List.append_assoc] at houter
      exact absurd (domain_cancel a.kind.domain_mem (b.kind.innerDomain_mem protocol) houter).1.symm
        (b.kind.innerDomain_ne_domain a.kind protocol)
  | some protocol =>
    have hmem : utf8 (a.kind.innerDomain protocol) ++ a.mutationKey.bytes ∈ a.preimages := by
      simp [preimages, hp]
    cases hq : b.protocol with
    | none =>
      rw [hp, hq] at h
      have houter := hfree _ (List.mem_append_left _ hmem) b.preimage
        (List.mem_append_right _ List.mem_cons_self) (by rw [← mutationKey_eq]; exact h)
      rw [preimage, List.append_assoc, List.append_assoc] at houter
      exact absurd (domain_cancel (a.kind.innerDomain_mem protocol) b.kind.domain_mem houter).1
        (a.kind.innerDomain_ne_domain b.kind protocol)
    | some protocol' =>
      rw [hp, hq] at h
      have houter := hfree _ (List.mem_append_left _ hmem)
        (utf8 (b.kind.innerDomain protocol') ++ b.mutationKey.bytes)
        (List.mem_append_right _ (by simp [preimages, hq])) h
      obtain ⟨hdomain, hkey⟩ := domain_cancel (a.kind.innerDomain_mem protocol)
        (b.kind.innerDomain_mem protocol') houter
      have hprotocol := BudgetKind.protocol_of_innerDomain hdomain
      exact hmutation (Digest.bytes_injective hkey) (by rw [hp, hq, hprotocol])

end Budget

/-! ## Slots -/

inductive SlotKind where
  | count
  | sum
  | allocation
  deriving DecidableEq

/-- A slot of a counter, as one kind of stored record. -/
structure StoredSlot where
  kind : SlotKind
  counter : Digest
  slot : UInt64

namespace StoredSlot

def domain : SlotKind → String
  | .count => "auths.gateway-bounded-count-slot/2\x00"
  | .sum => "auths.gateway-bounded-sum-slot/1\x00"
  | .allocation => "auths.engagement-allocation-key/1\x00"

def preimage (stored : StoredSlot) : Bytes :=
  utf8 (domain stored.kind) ++ stored.counter.bytes ++ bigEndian64 stored.slot.toNat

section Key

variable [Sha256]

/-- The store key of the slot. -/
def key (stored : StoredSlot) : Digest :=
  match stored.kind with
  | .count => countSlotKey stored.counter stored.slot.toNat
  | .sum => sumSlotKey stored.counter stored.slot.toNat
  | .allocation => Engagement.slotKey stored.counter stored.slot.toNat

theorem key_eq (stored : StoredSlot) : stored.key = Sha256.digest stored.preimage := by
  unfold key preimage domain
  cases stored.kind <;> rfl

/-- Two slots with one store key are one slot of one counter, as records of one kind. -/
theorem key_injective {a b : StoredSlot} (hfree : AuthsProof.CollisionFree [a.preimage, b.preimage])
    (h : a.key = b.key) : a = b := by
  rw [key_eq, key_eq] at h
  have hpreimage := hfree _ List.mem_cons_self _ (List.mem_cons_of_mem _ List.mem_cons_self) h
  obtain ⟨kind, counter, slot⟩ := a
  obtain ⟨kind', counter', slot'⟩ := b
  have hmem (kind : SlotKind) : domain kind ∈ budgetDomains := by
    cases kind <;> simp [domain, budgetDomains]
  simp only [preimage, List.append_assoc] at hpreimage
  obtain ⟨hdomain, hpreimage⟩ := domain_cancel (hmem kind) (hmem kind') hpreimage
  obtain ⟨hcounter, hslot⟩ := append_cancel_of_length hpreimage
    (counter.length_eq.trans counter'.length_eq.symm)
  have hkind : kind = kind' := by
    cases kind <;> cases kind' <;> simp [domain] at hdomain ⊢
  rw [hkind, Digest.bytes_injective hcounter,
    UInt64.toNat_inj.mp (bigEndian64_inj slot.toNat_lt slot'.toNat_lt hslot)]

end Key

end StoredSlot

/-! ## What an action charges -/

section Actions

variable [Sha256]

/-- The slot of a budget's counter. -/
def Budget.slot (budget : Budget) (slot : UInt64) : StoredSlot :=
  ⟨match budget.kind with | .count => .count | .sum _ => .sum, budget.key, slot⟩

/-- One admitted action: of a mutation, or under a read or disclosure budget. -/
structure BoundedAction where
  protocol : Option InformationBudget
  links : List BoundLink
  fact : FactName → Option FactValue
  operatorNamespace : String
  now : UInt64
  bound : BoundAdmission
  namespace_fits : operatorNamespace.utf8ByteSize < 2 ^ 64
  admitted : match protocol with
    | none => ∃ requirement,
        admitPolicyLinks links fact operatorNamespace requirement now = .ok (some bound)
    | some budget =>
        admitInformationBounds links fact operatorNamespace now budget = .ok (some bound)

namespace BoundedAction

/-- The budgets an action charges: those of its protocol, namespace and window, for the subject of one
of its links and, for a sum, the action's value of the partition of that link's sum. -/
structure Charges (action : BoundedAction) (budget : Budget) : Prop where
  protocol : budget.protocol = action.protocol
  operatorNamespace : budget.operatorNamespace = action.operatorNamespace
  windowSeconds : budget.windowSeconds.toNat = action.bound.windowSeconds
  index : budget.index.toNat = action.now.toNat / action.bound.windowSeconds
  link : ∃ link ∈ action.links, budget.subject = link.subject ∧ ∀ value, budget.kind = .sum value →
    ∃ bound, link.policy.sum = some bound ∧ listedPartition action.fact bound.partition = .ok value

variable {action : BoundedAction}

/-- The admission before its counters are hashed again. -/
theorem exists_admitted (action : BoundedAction) : ∃ requirement before,
    admitPolicyLinks action.links action.fact action.operatorNamespace requirement action.now =
      .ok (some before) ∧
    action.bound = match action.protocol with
      | none => before
      | some protocol => before.rekeyed protocol := by
  have hadmitted := action.admitted
  cases hprotocol : action.protocol with
  | none =>
    rw [hprotocol] at hadmitted
    obtain ⟨requirement, hadmit⟩ := hadmitted
    exact ⟨requirement, action.bound, hadmit, rfl⟩
  | some protocol =>
    rw [hprotocol] at hadmitted
    simp only [admitInformationBounds] at hadmitted
    split at hadmitted
    · cases hadmitted
    · obtain ⟨found, hadmit, hbound⟩ := Except.bind_eq_ok.mp hadmitted
      cases found with
      | none => cases hbound
      | some before =>
        exact ⟨none, before, hadmit, (Option.some.inj (Except.ok.inj hbound)).symm⟩

/-- A link of the action charges the budget of its subject in the action's window. -/
theorem exists_charged {link : BoundLink} (hlink : link ∈ action.links) {kind : BudgetKind}
    (hvalue : ∀ value, kind = .sum value → ∃ bound, link.policy.sum = some bound ∧
      listedPartition action.fact bound.partition = .ok value) :
    ∃ budget, action.Charges budget ∧ budget.kind = kind ∧
      budget.key = protocolKey action.protocol kind
        (kind.counterKey action.operatorNamespace link.subject action.bound.windowSeconds
          action.bound.windowIndex) := by
  obtain ⟨requirement, before, hadmit, hbound⟩ := action.exists_admitted
  obtain ⟨-, hindex, values, -, hvalid⟩ := admitPolicyLinks_spec hadmit
  have hseconds : action.bound.windowSeconds = before.windowSeconds := by
    rw [hbound]
    cases action.protocol <;> rfl
  have hsame : action.bound.windowIndex = before.windowIndex := by
    rw [hbound]
    cases action.protocol <;> rfl
  have hwindow : before.windowSeconds < 2 ^ 64 := by
    have hexpires := hvalid.expires
    omega
  have hfits : before.windowIndex < 2 ^ 64 := by
    rw [hindex]
    exact Nat.lt_of_le_of_lt (Nat.div_le_self _ _) action.now.toNat_lt
  have hsecondsNat : (UInt64.ofNat before.windowSeconds).toNat = before.windowSeconds :=
    UInt64.toNat_ofNat_of_lt' hwindow
  have hindexNat : (UInt64.ofNat before.windowIndex).toNat = before.windowIndex :=
    UInt64.toNat_ofNat_of_lt' hfits
  let budget : Budget :=
    { protocol := action.protocol
      kind
      operatorNamespace := action.operatorNamespace
      subject := link.subject
      windowSeconds := UInt64.ofNat before.windowSeconds
      index := UInt64.ofNat before.windowIndex
      namespace_fits := action.namespace_fits
      value_fits := fun value hkind => by
        obtain ⟨bound, -, hlisted⟩ := hvalue value hkind
        exact Nat.lt_of_le_of_lt (utf8ByteSize_of_listedPartition hlisted) (by decide) }
  refine ⟨budget, ⟨rfl, rfl, ?_, ?_, link, hlink, rfl, hvalue⟩, rfl, ?_⟩
  · rw [hseconds]
    exact hsecondsNat
  · rw [hseconds, ← hindex]
    exact hindexNat
  · rw [Budget.key, Budget.mutationKey, hseconds, hsame, ← hsecondsNat, ← hindexNat]

/-- Each count counter of an action is that of a budget it charges. -/
theorem charges_counts {counter : CountCounter} (hmem : counter ∈ action.bound.counts) :
    ∃ budget, action.Charges budget ∧ budget.kind = .count ∧ counter.key = budget.key := by
  obtain ⟨requirement, before, hadmit, hbound⟩ := action.exists_admitted
  obtain ⟨hlinks, -, values, -, hvalid⟩ := admitPolicyLinks_spec hadmit
  have hbefore : ∃ earlier ∈ before.counts,
      counter.key = protocolKey action.protocol .count earlier.key := by
    rw [hbound] at hmem
    cases hprotocol : action.protocol with
    | none =>
      rw [hprotocol] at hmem
      exact ⟨counter, hmem, rfl⟩
    | some protocol =>
      rw [hprotocol] at hmem
      obtain ⟨earlier, hearlier, rfl⟩ :=
        List.mem_map.mp ((sortByKey_perm CountCounter.key _).mem_iff.mp hmem)
      exact ⟨earlier, hearlier, rfl⟩
  obtain ⟨earlier, hearlier, hkey⟩ := hbefore
  obtain ⟨link, hlink, hown⟩ := hvalid.counts.owned earlier hearlier
  obtain ⟨budget, hcharges, hkind, hbudget⟩ :=
    @exists_charged _ action link (hlinks ▸ hlink) .count nofun
  refine ⟨budget, hcharges, hkind, ?_⟩
  rw [hkey, hown, hbudget, hbound]
  cases action.protocol <;> rfl

/-- Each sum counter of an action is that of a budget it charges. -/
theorem charges_sums {counter : SumCounter} (hmem : counter ∈ action.bound.sums) :
    ∃ budget value, action.Charges budget ∧ budget.kind = .sum value ∧
      counter.key = budget.key := by
  obtain ⟨requirement, before, hadmit, hbound⟩ := action.exists_admitted
  obtain ⟨hlinks, -, values, hlisted, hvalid⟩ := admitPolicyLinks_spec hadmit
  have hbefore : ∃ earlier ∈ before.sums, ∀ value,
      counter.key = protocolKey action.protocol (.sum value) earlier.key := by
    rw [hbound] at hmem
    cases hprotocol : action.protocol with
    | none =>
      rw [hprotocol] at hmem
      exact ⟨counter, hmem, fun value => rfl⟩
    | some protocol =>
      rw [hprotocol] at hmem
      obtain ⟨earlier, hearlier, rfl⟩ :=
        List.mem_map.mp ((sortByKey_perm SumCounter.key _).mem_iff.mp hmem)
      exact ⟨earlier, hearlier, fun value => rfl⟩
  obtain ⟨earlier, hearlier, hkey⟩ := hbefore
  obtain ⟨item, hitem, hown, -⟩ := hvalid.sums.owned earlier hearlier
  rw [sumCharges, hlinks] at hitem
  obtain ⟨⟨link, value⟩, hzip, hsome⟩ := List.mem_filterMap.mp hitem
  obtain ⟨bound, hsum, rfl⟩ := Option.map_eq_some_iff.mp hsome
  have hpartition := listedPartition_of_listedArgument (listedArgument_of_mem_zip hlisted hzip)
  rw [hsum] at hpartition
  obtain ⟨budget, hcharges, hkind, hbudget⟩ :=
    @exists_charged _ action link (List.of_mem_zip hzip).1 (.sum value) fun other hother => by
      cases hother
      exact ⟨bound, hsum, hpartition⟩
  refine ⟨budget, value, hcharges, hkind, ?_⟩
  rw [hkey value, hown, hbudget, hbound]
  cases action.protocol <;> rfl

/-- A slot the action reads or charges: one of a counter of its own. -/
def Touches (action : BoundedAction) (stored : StoredSlot) : Prop :=
  match stored.kind with
  | .count => ∃ counter ∈ action.bound.counts, stored.counter = counter.key
  | .sum => ∃ counter ∈ action.bound.sums, stored.counter = counter.key
  | .allocation => False

/-- A slot an action touches is a slot of a budget it charges. -/
theorem Touches.budget {stored : StoredSlot} (h : action.Touches stored) :
    ∃ budget, action.Charges budget ∧ stored = budget.slot stored.slot := by
  obtain ⟨kind, counter, slot⟩ := stored
  cases kind with
  | count =>
    obtain ⟨_, hmem, rfl⟩ := h
    obtain ⟨budget, hcharges, hkind, hkey⟩ := charges_counts hmem
    exact ⟨budget, hcharges, by rw [Budget.slot, hkind, ← hkey]⟩
  | sum =>
    obtain ⟨_, hmem, rfl⟩ := h
    obtain ⟨budget, value, hcharges, hkind, hkey⟩ := charges_sums hmem
    exact ⟨budget, hcharges, by rw [Budget.slot, hkind, ← hkey]⟩
  | allocation => cases h

/-- What two actions have in common that charge one budget. -/
structure Shares (first second : BoundedAction) (budget : Budget) : Prop where
  protocol : first.protocol = second.protocol
  operatorNamespace : first.operatorNamespace = second.operatorNamespace
  windowSeconds : first.bound.windowSeconds = second.bound.windowSeconds
  index : first.now.toNat / first.bound.windowSeconds = second.now.toNat / second.bound.windowSeconds
  subject : (∃ link ∈ first.links, link.subject = budget.subject) ∧
    ∃ link ∈ second.links, link.subject = budget.subject
  listed : ∀ value, budget.kind = .sum value →
    (∃ link ∈ first.links, ∃ bound, link.policy.sum = some bound ∧
      listedPartition first.fact bound.partition = .ok value) ∧
    ∃ link ∈ second.links, ∃ bound, link.policy.sum = some bound ∧
      listedPartition second.fact bound.partition = .ok value

theorem Charges.shares {first second : BoundedAction} {budget : Budget}
    (hfirst : first.Charges budget) (hsecond : second.Charges budget) :
    Shares first second budget := by
  obtain ⟨link, hlink, hsubject, hvalue⟩ := hfirst.link
  obtain ⟨link', hlink', hsubject', hvalue'⟩ := hsecond.link
  exact
    { protocol := hfirst.protocol.symm.trans hsecond.protocol
      operatorNamespace := hfirst.operatorNamespace.symm.trans hsecond.operatorNamespace
      windowSeconds := hfirst.windowSeconds.symm.trans hsecond.windowSeconds
      index := hfirst.index.symm.trans hsecond.index
      subject := ⟨⟨link, hlink, hsubject.symm⟩, link', hlink', hsubject'.symm⟩
      listed := fun value hkind => ⟨⟨link, hlink, hvalue value hkind⟩, link', hlink',
        hvalue' value hkind⟩ }

end BoundedAction

/-- Budgets are isolated: no two have one counter, no two slots one store key, and two actions that
touch one store key charge there a budget that is theirs both. -/
theorem budgets_isolated :
    (∀ a b : Budget, AuthsProof.CollisionFree (a.preimages ++ b.preimages) → a.key = b.key → a = b) ∧
    (∀ a b : StoredSlot, AuthsProof.CollisionFree [a.preimage, b.preimage] → a.key = b.key → a = b) ∧
    ∀ (first second : BoundedAction) (stored stored' : StoredSlot), first.Touches stored →
      second.Touches stored' →
      ∃ a b, first.Charges a ∧ second.Charges b ∧ stored = a.slot stored.slot ∧
        stored' = b.slot stored'.slot ∧
        (AuthsProof.CollisionFree
            (a.preimages ++ b.preimages ++ [stored.preimage, stored'.preimage]) →
          stored.key = stored'.key →
          stored = stored' ∧ a = b ∧ BoundedAction.Shares first second a) := by
  refine ⟨fun a b hfree h => Budget.key_injective hfree h,
    fun a b hfree h => StoredSlot.key_injective hfree h, ?_⟩
  intro first second stored stored' hstored hstored'
  obtain ⟨a, hfirst, hslot⟩ := hstored.budget
  obtain ⟨b, hsecond, hslot'⟩ := hstored'.budget
  refine ⟨a, b, hfirst, hsecond, hslot, hslot', fun hfree h => ?_⟩
  have hsame := StoredSlot.key_injective (hfree.mono fun x hx => List.mem_append_right _ hx) h
  have hcounter : a.key = b.key := by
    have hcounters := congrArg StoredSlot.counter hsame
    rw [hslot, hslot'] at hcounters
    exact hcounters
  have hbudget := Budget.key_injective (hfree.mono fun x hx => List.mem_append_left _ hx) hcounter
  exact ⟨hsame, hbudget, hfirst.shares (hbudget ▸ hsecond)⟩

end Actions

section Sample

local instance sampleBudgetsSha256 : Sha256 :=
  ⟨fun bytes => ⟨Sha2.sha256 bytes, Sha2.sha256_length bytes⟩⟩

def sampleMutationBudget : Budget where
  protocol := none
  kind := .count
  operatorNamespace := "op"
  subject := ⟨"did:key:agent", by decide, by decide⟩
  windowSeconds := 60
  index := 7
  namespace_fits := by decide
  value_fits := nofun

def sampleReadBudget : Budget := { sampleMutationBudget with protocol := some .acquisition }

/-- An agent's reads do not count against its mutations. -/
theorem budgets_isolated_sample : sampleMutationBudget.key ≠ sampleReadBudget.key := by
  let mutated := sampleMutationBudget.preimage
  let read := utf8 (sampleReadBudget.kind.innerDomain .acquisition) ++
    sampleReadBudget.mutationKey.bytes
  have hdistinct : Sha256.digest mutated ≠ Sha256.digest read := by decide +kernel
  have hfree : AuthsProof.CollisionFree
      (sampleMutationBudget.preimages ++ sampleReadBudget.preimages) := by
    refine (collisionFree_pair hdistinct).mono fun x hx => ?_
    change x ∈ [mutated, mutated, read] at hx
    simpa only [List.mem_cons, or_self_left] using hx
  exact fun h => nomatch congrArg Budget.protocol (budgets_isolated.1 _ _ hfree h)

end Sample

end AuthsProof.Gateway
