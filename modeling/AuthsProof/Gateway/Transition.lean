import AuthsProof.Identifier

/-! The closed stage-transition rule of the gateway attempt record. -/

namespace AuthsProof.Gateway

inductive Protocol where
  | mutation
  | acquisition
  | disclosure
  deriving DecidableEq

inductive Stage where
  | reserved
  | entryGranted
  | notEntered
  | unknown
  | responseRecorded
  | observed
  | observedByProvider
  | acknowledged
  deriving DecidableEq

inductive Reading where
  | none
  | match
  | mismatch
  | echoMismatch
  deriving DecidableEq

inductive Link where
  | none
  | verified
  | afterResponse
  deriving DecidableEq

/-- The fields of a stored attempt record the transition rule inspects. -/
structure AttemptView where
  protocol : Protocol
  revision : UInt64
  fixed : Bytes
  entry : Bytes
  stage : Stage
  refusal : Bool
  preEntry : Bytes
  response : Bytes
  acknowledgement : Bytes
  locator : Bytes
  reading : Reading
  evidence : Bool
  observation : Bool
  link : Link
  deriving DecidableEq

def absent (bytes : Bytes) : Bool := bytes.length == 0

def sameBytesFrom : Bytes → Bytes → Bool
  | a :: left, b :: right => if a ≠ b then false else sameBytesFrom left right
  | _, _ => true

def sameBytes (left right : Bytes) : Bool :=
  if left.length = right.length then sameBytesFrom left right else false

def resolvesUnknown : Link → Bool
  | .verified => true
  | .none | .afterResponse => false

def hasLink : Link → Bool
  | .none => false
  | .verified | .afterResponse => true

def refusalStage : Stage → Bool
  | .notEntered => true
  | _ => false

def requiresResponse : Stage → Bool
  | .responseRecorded | .observed => true
  | _ => false

def permitsResponse : Stage → Bool
  | .responseRecorded | .observed | .observedByProvider => true
  | _ => false

def observedStage : Stage → Bool
  | .observed => true
  | _ => false

def providerStage : Stage → Bool
  | .observedByProvider => true
  | _ => false

def terminalStage : Stage → Bool
  | .notEntered | .observed | .observedByProvider | .acknowledged => true
  | _ => false

def hasReading : Reading → Bool
  | .none => false
  | .match | .mismatch | .echoMismatch => true

def acknowledgementStage : Stage → Bool
  | .acknowledged => true
  | _ => false

def requiresEntry : Stage → Bool
  | .reserved | .notEntered => false
  | _ => true

/-- What acquisition and disclosure never carry: they take no part in mutation observations. -/
def withoutObservation (view : AttemptView) : Bool :=
  absent view.preEntry && absent view.locator && !view.observation && !view.evidence &&
    view.reading = .none && view.link = .none

def protocolConsistent (view : AttemptView) : Bool :=
  match view.protocol with
  | .mutation => !acknowledgementStage view.stage && absent view.acknowledgement
  | .acquisition =>
    (match view.stage with
      | .reserved | .entryGranted | .notEntered | .unknown | .responseRecorded => true
      | _ => false) && absent view.acknowledgement && withoutObservation view
  | .disclosure =>
    (match view.stage with
      | .reserved | .entryGranted | .notEntered | .unknown | .acknowledged => true
      | _ => false) && absent view.response && withoutObservation view

/-- The largest integer every JSON reader keeps exact. -/
def maxRevision : UInt64 := 9007199254740991

def consistent (view : AttemptView) : Bool :=
  let hasResponse := !absent view.response
  protocolConsistent view && 0 < view.revision && view.revision ≤ maxRevision &&
    requiresEntry view.stage != absent view.entry &&
    acknowledgementStage view.stage != absent view.acknowledgement &&
    refusalStage view.stage == view.refusal &&
    (!requiresResponse view.stage || hasResponse) &&
    (!hasResponse || permitsResponse view.stage) &&
    (absent view.locator || hasResponse) &&
    observedStage view.stage == hasReading view.reading &&
    (!hasReading view.reading || view.observation) &&
    providerStage view.stage == view.evidence &&
    (!view.evidence || hasLink view.link) &&
    (!view.evidence || hasResponse || resolvesUnknown view.link)

def sameProtocol : Protocol → Protocol → Bool
  | .mutation, .mutation | .acquisition, .acquisition | .disclosure, .disclosure => true
  | _, _ => false

/-- The one transition table. -/
def stageTransitionAllowed (old new : Stage) (link : Link) : Bool :=
  match old with
  | .reserved => match new with
    | .reserved | .notEntered | .entryGranted => true
    | _ => false
  | .entryGranted => match new with
    | .unknown | .responseRecorded | .acknowledged => true
    | .observedByProvider => resolvesUnknown link
    | _ => false
  | .unknown => match new with
    | .responseRecorded | .acknowledged => true
    | .observedByProvider => resolvesUnknown link
    | _ => false
  | .responseRecorded => match new with
    | .observed | .observedByProvider => true
    | _ => false
  | .notEntered | .observed | .observedByProvider | .acknowledged => false

def addsPreEntry : Stage → Stage → Bool
  | .reserved, .reserved | .reserved, .notEntered => true
  | _, _ => false

def addsResponse : Stage → Stage → Bool
  | .entryGranted, .responseRecorded | .unknown, .responseRecorded => true
  | _, _ => false

def checkpointValid (old new : AttemptView) : Bool :=
  if old.stage = .reserved && new.stage = .reserved then
    absent old.preEntry && !absent new.preEntry
  else true

def entryKept (old new : AttemptView) : Bool :=
  if old.stage = .reserved && new.stage = .entryGranted then absent old.entry && !absent new.entry
  else sameBytes old.entry new.entry

def preEntryKept (old new : AttemptView) : Bool :=
  if absent old.preEntry then absent new.preEntry || addsPreEntry old.stage new.stage
  else sameBytes old.preEntry new.preEntry

def responseKept (old new : AttemptView) : Bool :=
  addsResponse old.stage new.stage ||
    (sameBytes old.response new.response && sameBytes old.locator new.locator)

def acknowledgementKept (old new : AttemptView) : Bool :=
  if (old.stage = .entryGranted || old.stage = .unknown) && acknowledgementStage new.stage then
    absent old.acknowledgement && !absent new.acknowledgement
  else sameBytes old.acknowledgement new.acknowledgement

def exactAcknowledgementReplay (view : AttemptView) (acknowledgement : Bytes) : Bool :=
  view.protocol = .disclosure && acknowledgementStage view.stage && consistent view &&
    sameBytes view.acknowledgement acknowledgement

def linkEqual : Link → Link → Bool
  | .none, .none | .verified, .verified | .afterResponse, .afterResponse => true
  | _, _ => false

def planKept (old new : AttemptView) : Bool :=
  old.observation == new.observation && linkEqual old.link new.link

def validTransition (old new : AttemptView) : Bool :=
  sameProtocol old.protocol new.protocol && old.revision < maxRevision &&
    new.revision == old.revision + 1 && consistent old && entryKept old new &&
    sameBytes old.fixed new.fixed && planKept old new &&
    stageTransitionAllowed old.stage new.stage old.link && checkpointValid old new &&
    preEntryKept old new && responseKept old new && acknowledgementKept old new && consistent new

/-! ## What the checks mean -/

@[simp] theorem absent_iff {bytes : Bytes} : absent bytes = true ↔ bytes = [] := by
  simp [absent, List.length_eq_zero_iff]

@[simp] theorem absent_eq_false {bytes : Bytes} : absent bytes = false ↔ bytes ≠ [] := by
  rw [← Bool.not_eq_true, absent_iff]

theorem sameBytesFrom_iff {left right : Bytes} (h : left.length = right.length) :
    sameBytesFrom left right = true ↔ left = right := by
  induction left generalizing right with
  | nil =>
    obtain rfl := List.length_eq_zero_iff.mp h.symm
    simp [sameBytesFrom]
  | cons a left ih =>
    obtain ⟨b, right, rfl⟩ := List.exists_cons_of_length_eq_add_one h.symm
    have hrest := ih (by simpa using h)
    by_cases hab : a = b <;> simp [sameBytesFrom, hab, hrest]

@[simp] theorem sameBytes_iff {left right : Bytes} : sameBytes left right = true ↔ left = right := by
  by_cases h : left.length = right.length
  · rw [sameBytes, if_pos h, sameBytesFrom_iff h]
  · rw [sameBytes, if_neg h]
    exact ⟨fun hf => (nomatch hf), fun heq => absurd (congrArg List.length heq) h⟩

@[simp] theorem sameProtocol_iff {left right : Protocol} :
    sameProtocol left right = true ↔ left = right := by
  cases left <;> cases right <;> simp [sameProtocol]

@[simp] theorem linkEqual_iff {left right : Link} : linkEqual left right = true ↔ left = right := by
  cases left <;> cases right <;> simp [linkEqual]

/-- What a consistent view says of its own fields. -/
structure Consistent (view : AttemptView) : Prop where
  protocol : protocolConsistent view = true
  revision : view.revision ≤ maxRevision
  entry : requiresEntry view.stage = true ↔ view.entry ≠ []
  acknowledgement : view.stage = .acknowledged ↔ view.acknowledgement ≠ []
  response : view.response ≠ [] → permitsResponse view.stage = true
  locator : view.locator ≠ [] → view.response ≠ []
  reading : view.stage = .observed ↔ view.reading ≠ .none
  evidence : view.stage = .observedByProvider ↔ view.evidence = true

theorem consistent_spec {view : AttemptView} (h : consistent view = true) : Consistent view := by
  simp only [consistent, Bool.and_eq_true, decide_eq_true_eq, bne_iff_ne, beq_iff_eq,
    Bool.or_eq_true, Bool.not_eq_true', absent_eq_false, absent_iff] at h
  obtain ⟨⟨⟨⟨⟨⟨⟨⟨⟨⟨⟨⟨⟨hprotocol, -⟩, hrevision⟩, hentry⟩, hacknowledgement⟩, -⟩, -⟩, hresponse⟩,
    hlocator⟩, hreading⟩, -⟩, hevidence⟩, -⟩, -⟩ := h
  refine ⟨hprotocol, hrevision, ?_, ?_, ?_, ?_, ?_, ?_⟩
  · cases hstage : requiresEntry view.stage <;> simp_all
  · cases hstage : view.stage <;> simp_all [acknowledgementStage]
  · exact fun hne => hresponse.resolve_left (by simpa using hne)
  · exact fun hne => hlocator.resolve_left hne
  · cases hstage : view.stage <;> cases hr : view.reading <;> simp_all [observedStage, hasReading]
  · cases hstage : view.stage <;> simp_all [providerStage]

/-- A field that may be set and never changes once it is. -/
def Kept (old new : Bytes) : Prop := old ≠ [] → new = old

theorem Kept.of_eq {old new : Bytes} (h : old = new) : Kept old new := fun _ => h.symm

theorem Kept.trans {a b c : Bytes} (hab : Kept a b) (hbc : Kept b c) : Kept a c := by
  intro ha
  have hb := hab ha
  rw [hbc (hb ▸ ha), hb]

/-- Everything a valid transition keeps and checks. -/
structure Step (old new : AttemptView) : Prop where
  old_consistent : Consistent old
  new_consistent : Consistent new
  protocol : old.protocol = new.protocol
  revision : new.revision.toNat = old.revision.toNat + 1
  fixed : old.fixed = new.fixed
  observation : old.observation = new.observation
  link : old.link = new.link
  allowed : stageTransitionAllowed old.stage new.stage old.link = true
  checkpoint : old.stage = .reserved → new.stage = .reserved →
    old.preEntry = [] ∧ new.preEntry ≠ []
  entry : Kept old.entry new.entry
  preEntry : Kept old.preEntry new.preEntry
  response : Kept old.response new.response
  locator : Kept old.locator new.locator
  acknowledgement : Kept old.acknowledgement new.acknowledgement

/-- Nothing that may still get a response has one. -/
theorem Consistent.response_eq_nil {view : AttemptView} (h : Consistent view)
    (hstage : permitsResponse view.stage = false) : view.response = [] ∧ view.locator = [] := by
  have hresponse : view.response = [] := by
    by_contra hne
    rw [h.response hne] at hstage
    cases hstage
  refine ⟨hresponse, ?_⟩
  by_contra hne
  exact h.locator hne hresponse

theorem validTransition_spec {old new : AttemptView} (h : validTransition old new = true) :
    Step old new := by
  simp only [validTransition, Bool.and_eq_true, decide_eq_true_eq, beq_iff_eq, sameProtocol_iff,
    sameBytes_iff] at h
  obtain ⟨⟨⟨⟨⟨⟨⟨⟨⟨⟨⟨⟨hprotocol, hbound⟩, hrevision⟩, hold⟩, hentry⟩, hfixed⟩, hplan⟩, hallowed⟩,
    hcheckpoint⟩, hpre⟩, hresponse⟩, hacknowledgement⟩, hnew⟩ := h
  have hold := consistent_spec hold
  have hnew := consistent_spec hnew
  simp only [planKept, Bool.and_eq_true, beq_iff_eq, linkEqual_iff] at hplan
  refine ⟨hold, hnew, hprotocol, ?_, hfixed, hplan.1, hplan.2, hallowed, ?_, ?_, ?_, ?_, ?_, ?_⟩
  · have hlt : old.revision.toNat < 9007199254740991 := UInt64.lt_iff_toNat_lt.mp hbound
    rw [hrevision, UInt64.toNat_add, UInt64.toNat_one, Nat.mod_eq_of_lt (by omega)]
  · intro hold' hnew'
    simpa [checkpointValid, hold', hnew'] using hcheckpoint
  · unfold entryKept at hentry
    split at hentry
    · simp only [Bool.and_eq_true, absent_iff] at hentry
      exact fun hne => absurd hentry.1 hne
    · exact .of_eq (sameBytes_iff.mp hentry)
  · unfold preEntryKept at hpre
    split at hpre
    · next hnone => exact fun hne => absurd (absent_iff.mp hnone) hne
    · exact .of_eq (sameBytes_iff.mp hpre)
  · simp only [responseKept, Bool.or_eq_true, Bool.and_eq_true, sameBytes_iff] at hresponse
    rcases hresponse with hadds | ⟨hsame, -⟩
    · have hnone : permitsResponse old.stage = false := by
        cases hstage : old.stage <;> simp_all [addsResponse, permitsResponse]
      exact fun hne => absurd (hold.response_eq_nil hnone).1 hne
    · exact .of_eq hsame
  · simp only [responseKept, Bool.or_eq_true, Bool.and_eq_true, sameBytes_iff] at hresponse
    rcases hresponse with hadds | ⟨-, hsame⟩
    · have hnone : permitsResponse old.stage = false := by
        cases hstage : old.stage <;> simp_all [addsResponse, permitsResponse]
      exact fun hne => absurd (hold.response_eq_nil hnone).2 hne
    · exact .of_eq hsame
  · unfold acknowledgementKept at hacknowledgement
    split at hacknowledgement
    · simp only [Bool.and_eq_true, absent_iff] at hacknowledgement
      exact fun hne => absurd hacknowledgement.1 hne
    · exact .of_eq (sameBytes_iff.mp hacknowledgement)

/-- How far a record has come. A checkpoint counts, since it may be made once. -/
def AttemptView.rank (view : AttemptView) : Nat :=
  match view.stage with
  | .reserved => if view.preEntry = [] then 0 else 1
  | .entryGranted => 2
  | .unknown => 3
  | .responseRecorded => 4
  | .notEntered | .observed | .observedByProvider | .acknowledged => 5

theorem rank_le_five (view : AttemptView) : view.rank ≤ 5 := by
  unfold AttemptView.rank
  split <;> (try split) <;> omega

theorem rank_eq_five_iff {view : AttemptView} : view.rank = 5 ↔ terminalStage view.stage = true := by
  unfold AttemptView.rank terminalStage
  cases view.stage <;> simp
  split <;> simp

theorem rank_lt_two_iff {view : AttemptView} : view.rank < 2 ↔ view.stage = .reserved := by
  unfold AttemptView.rank
  cases view.stage <;> simp
  split <;> simp

/-- Every transition moves a record on. -/
theorem Step.rank_lt {old new : AttemptView} (h : Step old new) : old.rank < new.rank := by
  have hallowed := h.allowed
  have hcheckpoint := h.checkpoint
  unfold AttemptView.rank
  cases hold : old.stage <;> cases hnew : new.stage <;> rw [hold, hnew] at hallowed <;>
    simp only [stageTransitionAllowed, Bool.false_eq_true] at hallowed <;> simp
  case reserved.reserved =>
    obtain ⟨hnone, hsome⟩ := hcheckpoint hold hnew
    simp [hnone, hsome]
  all_goals split <;> omega

/-- Only a reservation is granted an entry. -/
theorem Step.entryGranted {old new : AttemptView} (h : Step old new)
    (hnew : new.stage = .entryGranted) : old.stage = .reserved := by
  have hallowed := h.allowed
  rw [hnew] at hallowed
  cases hold : old.stage <;> rw [hold] at hallowed <;>
    simp [stageTransitionAllowed] at hallowed ⊢

/-- A record leaves its reservation by a grant or by a refusal. -/
theorem Step.of_reserved {old new : AttemptView} (h : Step old new) (hold : old.stage = .reserved) :
    new.stage = .reserved ∨ new.stage = .notEntered ∨ new.stage = .entryGranted := by
  have hallowed := h.allowed
  rw [hold] at hallowed
  cases hnew : new.stage <;> rw [hnew] at hallowed <;> simp [stageTransitionAllowed] at hallowed ⊢

end AuthsProof.Gateway
