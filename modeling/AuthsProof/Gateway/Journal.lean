import AuthsProof.Gateway.Transition
import Mathlib.Data.List.Chain

/-! The histories of an attempt record: sequences of views each of which may replace the one before. -/

namespace AuthsProof.Gateway

/-- Views of which the first is consistent and each next one is a valid transition. -/
def History (views : List AttemptView) : Prop :=
  (∀ first ∈ views.head?, consistent first = true) ∧
    views.IsChain fun old new => validTransition old new = true

/-- A later view of one record. -/
structure Later (old new : AttemptView) : Prop where
  protocol : old.protocol = new.protocol
  fixed : old.fixed = new.fixed
  observation : old.observation = new.observation
  link : old.link = new.link
  entry : Kept old.entry new.entry
  preEntry : Kept old.preEntry new.preEntry
  response : Kept old.response new.response
  locator : Kept old.locator new.locator
  acknowledgement : Kept old.acknowledgement new.acknowledgement
  rank : old.rank < new.rank

theorem Step.later {old new : AttemptView} (h : Step old new) : Later old new :=
  ⟨h.protocol, h.fixed, h.observation, h.link, h.entry, h.preEntry, h.response, h.locator,
    h.acknowledgement, h.rank_lt⟩

theorem Later.trans {a b c : AttemptView} (hab : Later a b) (hbc : Later b c) : Later a c where
  protocol := hab.protocol.trans hbc.protocol
  fixed := hab.fixed.trans hbc.fixed
  observation := hab.observation.trans hbc.observation
  link := hab.link.trans hbc.link
  entry := hab.entry.trans hbc.entry
  preEntry := hab.preEntry.trans hbc.preEntry
  response := hab.response.trans hbc.response
  locator := hab.locator.trans hbc.locator
  acknowledgement := hab.acknowledgement.trans hbc.acknowledgement
  rank := hab.rank.trans hbc.rank

instance : Trans Later Later Later := ⟨Later.trans⟩

theorem History.steps {views : List AttemptView} (h : History views) : views.IsChain Step :=
  h.2.imp fun _ _ => validTransition_spec

theorem History.pairwise {views : List AttemptView} (h : History views) : views.Pairwise Later :=
  List.isChain_iff_pairwise.mp (h.steps.imp fun _ _ => Step.later)

theorem History.consistent {views : List AttemptView} (h : History views) :
    ∀ view ∈ views, Consistent view := by
  obtain ⟨hfirst, hchain⟩ := h
  induction views with
  | nil => simp
  | cons view views ih =>
    intro other hother
    rcases List.mem_cons.mp hother with rfl | hother
    · exact consistent_spec (hfirst _ rfl)
    · cases views with
      | nil => simp at hother
      | cons next views =>
        obtain ⟨hstep, hrest⟩ := List.isChain_cons_cons.mp hchain
        refine ih (fun first hnext => ?_) hrest other hother
        obtain rfl : next = first := by simpa using hnext
        simp only [validTransition, Bool.and_eq_true] at hstep
        exact hstep.2

/-- The step at which an entry is granted. -/
def GrantedAt (views : List AttemptView) (i : Nat) : Prop :=
  ∃ old new, views[i]? = some old ∧ views[i + 1]? = some new ∧ old.stage = .reserved ∧
    new.stage = .entryGranted

/-- What only an entered attempt can come to. -/
def AttemptView.hasOutcome (view : AttemptView) : Prop :=
  view.response ≠ [] ∨ view.locator ≠ [] ∨ view.reading ≠ .none ∨ view.evidence = true ∨
    view.acknowledgement ≠ []

theorem Consistent.requiresEntry {view : AttemptView} (h : Consistent view)
    (houtcome : view.hasOutcome) : Gateway.requiresEntry view.stage = true := by
  rcases houtcome with hresponse | hlocator | hreading | hevidence | hacknowledgement
  · have hstage := h.response hresponse
    cases hs : view.stage <;> simp_all [permitsResponse, Gateway.requiresEntry]
  · have hstage := h.response (h.locator hlocator)
    cases hs : view.stage <;> simp_all [permitsResponse, Gateway.requiresEntry]
  · rw [h.reading.mpr hreading]
    rfl
  · rw [h.evidence.mpr hevidence]
    rfl
  · rw [h.acknowledgement.mpr hacknowledgement]
    rfl

theorem Step.requiresEntry {old new : AttemptView} (h : Step old new)
    (hnew : Gateway.requiresEntry new.stage = true) :
    (old.stage = .reserved ∧ new.stage = .entryGranted) ∨ Gateway.requiresEntry old.stage = true := by
  have hallowed := h.allowed
  cases hold : old.stage <;> cases hstage : new.stage <;> rw [hold, hstage] at hallowed <;>
    simp_all [stageTransitionAllowed, Gateway.requiresEntry]

/-- A record that was reserved first has its entry from a grant. -/
theorem exists_grantedAt {views : List AttemptView} (hsteps : views.IsChain Step)
    (hfirst : ∀ first, views[0]? = some first → first.stage = .reserved) {i : Nat}
    {view : AttemptView} (hview : views[i]? = some view)
    (hentry : Gateway.requiresEntry view.stage = true) : ∃ j < i, GrantedAt views j := by
  induction i generalizing view with
  | zero =>
    rw [hfirst view hview] at hentry
    cases hentry
  | succ i ih =>
    obtain ⟨hlt, rfl⟩ := List.getElem?_eq_some_iff.mp hview
    have hold : views[i]? = some (views[i]) := List.getElem?_eq_getElem (by omega)
    have hstep := List.isChain_iff_getElem.mp hsteps i hlt
    rcases hstep.requiresEntry hentry with ⟨hreserved, hgranted⟩ | hbefore
    · exact ⟨i, by omega, views[i], views[i + 1], hold, hview, hreserved, hgranted⟩
    · obtain ⟨j, hj, hgrant⟩ := ih hold hbefore
      exact ⟨j, by omega, hgrant⟩

/-- Only mutations take part in observations. -/
theorem Consistent.observation_of_ne_mutation {view : AttemptView} (h : Consistent view)
    (hprotocol : view.protocol ≠ .mutation) :
    view.preEntry = [] ∧ view.locator = [] ∧ view.reading = .none ∧ view.evidence = false := by
  have hconsistent := h.protocol
  cases hp : view.protocol <;>
    simp_all [protocolConsistent, withoutObservation, absent_iff]

theorem Consistent.response_of_disclosure {view : AttemptView} (h : Consistent view)
    (hprotocol : view.protocol = .disclosure) : view.response = [] := by
  have hconsistent := h.protocol
  simp only [protocolConsistent, hprotocol, Bool.and_eq_true, absent_iff] at hconsistent
  exact hconsistent.1.2

theorem Consistent.acknowledgement_of_ne_disclosure {view : AttemptView} (h : Consistent view)
    (hprotocol : view.protocol ≠ .disclosure) : view.acknowledgement = [] := by
  have hconsistent := h.protocol
  cases hp : view.protocol <;> simp_all [protocolConsistent, absent_iff]

/-- A refused attempt was only ever reserved before. -/
theorem Later.entry_eq_nil {old new : AttemptView} (h : Later old new) (hnew : Consistent new)
    (hstage : new.stage = .notEntered) : old.entry = [] := by
  by_contra hne
  have hkept : new.entry ≠ [] := by
    rw [h.entry hne]
    exact hne
  have hrequires := hnew.entry.mpr hkept
  rw [hstage] at hrequires
  cases hrequires

theorem History.later {views : List AttemptView} (h : History views) {i j : Nat}
    {old new : AttemptView} (hij : i < j) (hold : views[i]? = some old)
    (hnew : views[j]? = some new) : Later old new := by
  obtain ⟨hi, rfl⟩ := List.getElem?_eq_some_iff.mp hold
  obtain ⟨hj, rfl⟩ := List.getElem?_eq_some_iff.mp hnew
  exact List.pairwise_iff_getElem.mp h.pairwise i j hi hj hij

/-- After a grant the record is never a reservation again. -/
theorem GrantedAt.le {views : List AttemptView} (h : History views) {i j : Nat}
    (hi : GrantedAt views i) (hj : GrantedAt views j) : j ≤ i := by
  obtain ⟨-, granted, -, hgranted, -, hstage⟩ := hi
  obtain ⟨reserved, -, hreserved, -, hstage', -⟩ := hj
  by_contra hlt
  have hrank : reserved.rank < 2 := rank_lt_two_iff.mpr hstage'
  have hgrantedRank : granted.rank = 2 := by simp [AttemptView.rank, hstage]
  rcases Nat.lt_or_ge (i + 1) j with hbefore | hafter
  · have hlater := (h.later hbefore hgranted hreserved).rank
    omega
  · obtain rfl : j = i + 1 := by omega
    obtain rfl : granted = reserved := by simpa [hgranted] using hreserved
    omega

/-- Numbers that grow and stay below a bound are few. -/
theorem length_le_of_rank {views : List AttemptView} (h : views.Pairwise Later) :
    views.length ≤ 6 := by
  have hranks : (views.map AttemptView.rank).Nodup :=
    List.pairwise_map.mpr (h.imp fun hlater => Nat.ne_of_lt hlater.rank)
  have hsubset : views.map AttemptView.rank ⊆ List.range 6 := by
    intro rank hrank
    obtain ⟨view, -, rfl⟩ := List.mem_map.mp hrank
    have hle := rank_le_five view
    exact List.mem_range.mpr (by omega)
  have hlength := (List.subperm_of_subset hranks hsubset).length_le
  simpa using hlength

/-- The laws of a whole history of one attempt record. -/
structure HistoryLaws (views : List AttemptView) : Prop where
  unchanged : views.Pairwise fun old new => old.protocol = new.protocol ∧ old.fixed = new.fixed ∧
    old.observation = new.observation ∧ old.link = new.link
  revision : views.IsChain fun old new => new.revision.toNat = old.revision.toNat + 1
  revision_le : ∀ view ∈ views, view.revision.toNat ≤ 2 ^ 53 - 1
  kept : views.Pairwise fun old new => Kept old.entry new.entry ∧ Kept old.preEntry new.preEntry ∧
    Kept old.response new.response ∧ Kept old.locator new.locator ∧
    Kept old.acknowledgement new.acknowledgement
  granted_once : ∀ i j, GrantedAt views i → GrantedAt views j → i = j
  refused : views.Pairwise fun old new => new.stage = .notEntered → old.entry = []
  refused_entry : ∀ view ∈ views, view.stage = .notEntered → view.entry = []
  entered : ∀ view ∈ views, view.hasOutcome → view.entry ≠ []
  outcome : ∀ first ∈ views.head?, first.stage = .reserved →
    ∀ i view, views[i]? = some view → view.hasOutcome → ∃ j < i, GrantedAt views j
  terminal : ∀ i view, views[i]? = some view → terminalStage view.stage = true →
    views[i + 1]? = none
  mutation_only : ∀ view ∈ views, view.protocol ≠ .mutation →
    view.preEntry = [] ∧ view.locator = [] ∧ view.reading = .none ∧ view.evidence = false
  no_response : ∀ view ∈ views, view.protocol = .disclosure → view.response = []
  no_acknowledgement : ∀ view ∈ views, view.protocol ≠ .disclosure → view.acknowledgement = []
  length_le : views.length ≤ 6

theorem history_laws {views : List AttemptView} (h : History views) : HistoryLaws views where
  unchanged := h.pairwise.imp fun hlater =>
    ⟨hlater.protocol, hlater.fixed, hlater.observation, hlater.link⟩
  revision := h.steps.imp fun _ _ hstep => hstep.revision
  revision_le := by
    intro view hview
    have hle := (h.consistent view hview).revision
    have hnat : view.revision.toNat ≤ 9007199254740991 := UInt64.le_iff_toNat_le.mp hle
    omega
  kept := h.pairwise.imp fun hlater =>
    ⟨hlater.entry, hlater.preEntry, hlater.response, hlater.locator, hlater.acknowledgement⟩
  granted_once := fun i j hi hj => Nat.le_antisymm (hj.le h hi) (hi.le h hj)
  refused := by
    refine h.pairwise.imp_of_mem fun _ hnew hlater hstage => ?_
    exact hlater.entry_eq_nil (h.consistent _ hnew) hstage
  refused_entry := by
    intro view hview hstage
    by_contra hne
    have hrequires := (h.consistent view hview).entry.mpr hne
    rw [hstage] at hrequires
    cases hrequires
  entered := fun view hview houtcome =>
    (h.consistent view hview).entry.mp ((h.consistent view hview).requiresEntry houtcome)
  outcome := by
    intro first hfirst hreserved i view hview houtcome
    have hentry := (h.consistent view (List.mem_of_getElem? hview)).requiresEntry houtcome
    refine exists_grantedAt h.steps (fun other hother => ?_) hview hentry
    rw [← List.head?_eq_getElem?] at hother
    obtain rfl : first = other := Option.some.inj (hfirst.symm.trans hother)
    exact hreserved
  terminal := by
    intro i view hview hterminal
    by_contra hsome
    obtain ⟨next, hnext⟩ := Option.ne_none_iff_exists'.mp hsome
    have hrank := (h.later (Nat.lt_succ_self i) hview hnext).rank
    rw [rank_eq_five_iff.mpr hterminal] at hrank
    have hle := rank_le_five next
    omega
  mutation_only := fun view hview => (h.consistent view hview).observation_of_ne_mutation
  no_response := fun view hview => (h.consistent view hview).response_of_disclosure
  no_acknowledgement := fun view hview => (h.consistent view hview).acknowledgement_of_ne_disclosure
  length_le := length_le_of_rank h.pairwise

section Sample

/-- A fresh mutation with an observation plan. -/
def sampleReserved : AttemptView where
  protocol := .mutation
  revision := 1
  fixed := [1]
  entry := []
  stage := .reserved
  refusal := false
  preEntry := []
  response := []
  acknowledgement := []
  locator := []
  reading := .none
  evidence := false
  observation := true
  link := .verified

def sampleCheckpointed : AttemptView := { sampleReserved with revision := 2, preEntry := [2] }

def sampleGranted : AttemptView :=
  { sampleCheckpointed with revision := 3, stage := .entryGranted, entry := [3] }

def sampleUnknown : AttemptView := { sampleGranted with revision := 4, stage := .unknown }

def sampleResponded : AttemptView :=
  { sampleUnknown with revision := 5, stage := .responseRecorded, response := [4], locator := [5] }

def sampleObserved : AttemptView :=
  { sampleResponded with revision := 6, stage := .observed, reading := .match }

def sampleHistory : List AttemptView :=
  [sampleReserved, sampleCheckpointed, sampleGranted, sampleUnknown, sampleResponded,
    sampleObserved]

theorem sample_history_laws : History sampleHistory ∧ HistoryLaws sampleHistory := by
  have hhistory : History sampleHistory := by
    refine ⟨by simp [sampleHistory]; decide, ?_⟩
    decide
  exact ⟨hhistory, history_laws hhistory⟩

/-- A history may begin after the grant, and then holds a response with no grant in it. -/
theorem response_without_grant : History [sampleUnknown, sampleResponded] ∧
    sampleResponded.hasOutcome ∧ ∀ j, ¬GrantedAt [sampleUnknown, sampleResponded] j := by
  refine ⟨⟨by simp; decide, by decide⟩, .inl (by decide), fun j hgranted => ?_⟩
  obtain ⟨old, new, hold, -, hstage, -⟩ := hgranted
  have hmem := List.mem_of_getElem? hold
  simp only [List.mem_cons, List.not_mem_nil, or_false] at hmem
  rcases hmem with rfl | rfl <;> cases hstage

end Sample

end AuthsProof.Gateway
