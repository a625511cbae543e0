import AuthsProof.Encode

/-! The messages of the proof exchange, each built only by a constructor that checks it. -/

namespace AuthsProof.Exchange

open Sorting

def exchangeVersionV1 : UInt16 := 1
def authsProtocolV1 : UInt16 := 1
def maxAudienceBytes : Nat := 512
def maxProfileIdBytes : Nat := 128
def maxNegotiatedVersions : Nat := 16
def maxNegotiatedProfiles : Nat := 64
def maxBodyBytes : UInt32 := 1024 * 1024
def maxProofBytes : UInt32 := 16 * 1024 * 1024
def maxResultBytes : Nat := 1024 * 1024
def maxReasonCount : Nat := 32
def maxReasonBytes : Nat := 128
def maxMessageBytes : Nat := 1024

inductive ModelError where
  | invalidAudience
  | invalidLimit
  | invalidBodyLength
  | invalidProofLength
  | invalidVerdict
  | invalidResultLength
  | invalidMessage
  | invalidProfileBinding
  | submissionMismatch
  | invalidCapabilities
  | duplicateCapability
  | noCompatibleProtocol
  deriving DecidableEq

abbrev ChallengeNonce := Digest

def isAsciiControl (byte : UInt8) : Bool := byte ≤ 0x1F || byte == 0x7F

def isAsciiWhitespace (byte : UInt8) : Bool :=
  byte == 0x20 || byte == 0x09 || byte == 0x0A || byte == 0x0C || byte == 0x0D

/-- Text without ASCII control bytes, of one to `maximum` bytes. -/
def displayText (maximum : Nat) (value : String) : Bool :=
  !(value.isEmpty || maximum < value.utf8ByteSize || (utf8 value).any isAsciiControl)

/-- Such text without ASCII whitespace. -/
def exchangeText (maximum : Nat) (value : String) : Bool :=
  !(value.isEmpty || maximum < value.utf8ByteSize ||
    (utf8 value).any fun byte => isAsciiControl byte || isAsciiWhitespace byte)

/-- A string that passes a check. -/
structure CheckedText (check : String → Bool) where
  str : String
  checked : check str = true
  deriving DecidableEq

theorem CheckedText.str_injective {check : String → Bool} :
    Function.Injective (@CheckedText.str check) := by
  rintro ⟨a, ha⟩ ⟨b, hb⟩ (rfl : a = b)
  rfl

instance {check : String → Bool} : LinearOrder (CheckedText check) :=
  orderByKey CheckedText.str CheckedText.str_injective

def parseChecked (check : String → Bool) (error : ModelError) (value : String) :
    Except ModelError (CheckedText check) :=
  if h : check value = true then .ok ⟨value, h⟩ else .error error

@[simp] theorem parseChecked_str {check : String → Bool} (error : ModelError)
    (x : CheckedText check) : parseChecked check error x.str = .ok x := by
  simp [parseChecked, x.checked]

abbrev ExchangeAudience := CheckedText (exchangeText maxAudienceBytes)
abbrev ExchangeProfileId := CheckedText (exchangeText maxProfileIdBytes)

def ExchangeAudience.parse (value : String) : Except ModelError ExchangeAudience :=
  parseChecked _ .invalidAudience value

def ExchangeProfileId.parse (value : String) : Except ModelError ExchangeProfileId :=
  parseChecked _ .invalidProfileBinding value

theorem displayText_size {maximum : Nat} {value : String} (h : displayText maximum value = true) :
    value.utf8ByteSize ≤ maximum := by
  simp only [displayText, Bool.not_eq_true', Bool.or_eq_false_iff, decide_eq_false_iff_not] at h
  omega

theorem exchangeText_size {maximum : Nat} {value : String} (h : exchangeText maximum value = true) :
    value.utf8ByteSize ≤ maximum := by
  simp only [exchangeText, Bool.not_eq_true', Bool.or_eq_false_iff, decide_eq_false_iff_not] at h
  omega

/-- The exact Auths protocol and application profile of an exchange. -/
@[ext] structure ProfileBinding where
  authsProtocol : UInt16
  profileId : ExchangeProfileId
  profileVersion : UInt16
  supported : authsProtocol = authsProtocolV1
  versioned : profileVersion ≠ 0

instance : DecidableEq ProfileBinding := fun _ _ => decidable_of_iff' _ ProfileBinding.ext_iff

namespace ProfileBinding

def new (authsProtocol : UInt16) (profileId : ExchangeProfileId) (profileVersion : UInt16) :
    Except ModelError ProfileBinding :=
  if h : authsProtocol ≠ authsProtocolV1 ∨ profileVersion = 0 then .error .invalidProfileBinding
  else
    have hvalid := not_or.mp h
    .ok ⟨authsProtocol, profileId, profileVersion, not_not.mp hvalid.1, hvalid.2⟩

@[simp] theorem new_self (p : ProfileBinding) :
    new p.authsProtocol p.profileId p.profileVersion = .ok p := by
  rw [new, dif_neg (not_or.mpr ⟨not_not.mpr p.supported, p.versioned⟩)]

def key (p : ProfileBinding) : UInt16 ×ₗ (ExchangeProfileId ×ₗ UInt16) :=
  toLex (p.authsProtocol, toLex (p.profileId, p.profileVersion))

theorem key_injective : Function.Injective key := by
  rintro ⟨a, i, v, ha, hv⟩ ⟨b, j, w, hb, hw⟩ h
  simp only [key, EmbeddingLike.apply_eq_iff_eq, Prod.mk.injEq] at h
  obtain ⟨rfl, rfl, rfl⟩ := h
  rfl

instance : LinearOrder ProfileBinding := orderByKey key key_injective

end ProfileBinding

theorem sortByKey_ne_nil {α : Type} [LinearOrder α] {xs : List α} (h : xs ≠ []) :
    sortByKey id xs ≠ [] := by
  intro hnil
  have hperm := sortByKey_perm id xs
  rw [hnil] at hperm
  exact h hperm.nil_eq.symm

structure ExchangeCapabilities where
  exchangeVersions : List UInt16
  profiles : List ProfileBinding
  maxBodyBytes : UInt32
  maxProofBytes : UInt32
  versionsNonempty : exchangeVersions ≠ []
  versionsBounded : exchangeVersions.length ≤ maxNegotiatedVersions
  profilesNonempty : profiles ≠ []
  profilesBounded : profiles.length ≤ maxNegotiatedProfiles
  versionsNonzero : 0 ∉ exchangeVersions
  bodyLimit : maxBodyBytes ≠ 0 ∧ maxBodyBytes ≤ Exchange.maxBodyBytes
  proofLimit : maxProofBytes ≠ 0 ∧ maxProofBytes ≤ Exchange.maxProofBytes
  versionsSorted : exchangeVersions.Pairwise (· < ·)
  profilesSorted : profiles.Pairwise (· < ·)
  deriving DecidableEq

namespace ExchangeCapabilities

def new (exchangeVersions : List UInt16) (profiles : List ProfileBinding)
    (maxBodyBytes maxProofBytes : UInt32) : Except ModelError ExchangeCapabilities :=
  if hlimits : exchangeVersions ≠ [] ∧ exchangeVersions.length ≤ maxNegotiatedVersions ∧
      profiles ≠ [] ∧ profiles.length ≤ maxNegotiatedProfiles ∧ 0 ∉ exchangeVersions ∧
      (maxBodyBytes ≠ 0 ∧ maxBodyBytes ≤ Exchange.maxBodyBytes) ∧
      (maxProofBytes ≠ 0 ∧ maxProofBytes ≤ Exchange.maxProofBytes) then
    let versions := sortByKey id exchangeVersions
    let bindings := sortByKey id profiles
    if hdistinct : adjacentDistinct (versions.map id) = true ∧
        adjacentDistinct (bindings.map id) = true then
      .ok {
        exchangeVersions := versions
        profiles := bindings
        maxBodyBytes, maxProofBytes
        versionsNonempty := sortByKey_ne_nil hlimits.1
        versionsBounded := by
          rw [(sortByKey_perm id exchangeVersions).length_eq]
          exact hlimits.2.1
        profilesNonempty := sortByKey_ne_nil hlimits.2.2.1
        profilesBounded := by
          rw [(sortByKey_perm id profiles).length_eq]
          exact hlimits.2.2.2.1
        versionsNonzero := fun h =>
          hlimits.2.2.2.2.1 ((sortByKey_perm id exchangeVersions).mem_iff.mp h)
        bodyLimit := hlimits.2.2.2.2.2.1
        proofLimit := hlimits.2.2.2.2.2.2
        versionsSorted :=
          pairwise_lt_of_adjacentDistinct (sortByKey_pairwise id exchangeVersions) hdistinct.1
        profilesSorted :=
          pairwise_lt_of_adjacentDistinct (sortByKey_pairwise id profiles) hdistinct.2 }
    else .error .duplicateCapability
  else .error .invalidCapabilities

@[simp] theorem new_self (c : ExchangeCapabilities) :
    new c.exchangeVersions c.profiles c.maxBodyBytes c.maxProofBytes = .ok c := by
  have hversions : sortByKey id c.exchangeVersions = c.exchangeVersions :=
    sortByKey_of_pairwise (c.versionsSorted.imp fun h => le_of_lt h)
  have hprofiles : sortByKey id c.profiles = c.profiles :=
    sortByKey_of_pairwise (c.profilesSorted.imp fun h => le_of_lt h)
  have hdistinct : adjacentDistinct ((sortByKey id c.exchangeVersions).map id) = true ∧
      adjacentDistinct ((sortByKey id c.profiles).map id) = true := by
    rw [hversions, hprofiles]
    exact ⟨adjacentDistinct_of_pairwise_lt c.versionsSorted,
      adjacentDistinct_of_pairwise_lt c.profilesSorted⟩
  have hlimits := And.intro c.versionsNonempty <| And.intro c.versionsBounded <|
    And.intro c.profilesNonempty <| And.intro c.profilesBounded <| And.intro c.versionsNonzero <|
    And.intro c.bodyLimit c.proofLimit
  rw [new, dif_pos hlimits]
  dsimp only
  rw [dif_pos hdistinct]
  cases c
  simp only at hversions hprofiles
  simp only [hversions, hprofiles]

end ExchangeCapabilities

structure ActionChallenge where
  challenge : ChallengeNonce
  audience : ExchangeAudience
  expiresAt : UInt64
  maxBodyBytes : UInt32
  maxProofBytes : UInt32
  profile : ProfileBinding
  bodyLimit : maxBodyBytes ≠ 0 ∧ maxBodyBytes ≤ Exchange.maxBodyBytes
  proofLimit : maxProofBytes ≠ 0 ∧ maxProofBytes ≤ Exchange.maxProofBytes
  deriving DecidableEq

namespace ActionChallenge

def new (challenge : ChallengeNonce) (audience : ExchangeAudience) (expiresAt : UInt64)
    (maxBodyBytes maxProofBytes : UInt32) (profile : ProfileBinding) :
    Except ModelError ActionChallenge :=
  if h : (maxBodyBytes ≠ 0 ∧ maxBodyBytes ≤ Exchange.maxBodyBytes) ∧
      maxProofBytes ≠ 0 ∧ maxProofBytes ≤ Exchange.maxProofBytes then
    .ok ⟨challenge, audience, expiresAt, maxBodyBytes, maxProofBytes, profile, h.1, h.2⟩
  else .error .invalidLimit

@[simp] theorem new_self (c : ActionChallenge) :
    new c.challenge c.audience c.expiresAt c.maxBodyBytes c.maxProofBytes c.profile = .ok c := by
  rw [new, dif_pos ⟨c.bodyLimit, c.proofLimit⟩]

end ActionChallenge

/-- A body and a proof under the binding of one challenge; the limits a challenge may set bound both. -/
@[ext] structure ActionSubmission where
  challenge : ChallengeNonce
  profile : ProfileBinding
  body : Bytes
  proof : Bytes
  bodyNonempty : body ≠ []
  bodyBounded : body.length ≤ maxBodyBytes.toNat
  proofNonempty : proof ≠ []
  proofBounded : proof.length ≤ maxProofBytes.toNat

instance : DecidableEq ActionSubmission := fun _ _ => decidable_of_iff' _ ActionSubmission.ext_iff

namespace ActionSubmission

def new (body proof : Bytes) (challenge : ActionChallenge) : Except ModelError ActionSubmission :=
  if hbody : body = [] ∨ challenge.maxBodyBytes.toNat < body.length then .error .invalidBodyLength
  else if hproof : proof = [] ∨ challenge.maxProofBytes.toNat < proof.length then
    .error .invalidProofLength
  else
    have hbody := not_or.mp hbody
    have hproof := not_or.mp hproof
    .ok {
      challenge := challenge.challenge
      profile := challenge.profile
      body, proof
      bodyNonempty := hbody.1
      bodyBounded := (not_lt.mp hbody.2).trans (UInt32.le_iff_toNat_le.mp challenge.bodyLimit.2)
      proofNonempty := hproof.1
      proofBounded := (not_lt.mp hproof.2).trans (UInt32.le_iff_toNat_le.mp challenge.proofLimit.2) }

/-- Every repeated binding is that of the challenge. -/
def matchesChallenge (submission : ActionSubmission) (challenge : ActionChallenge) : Bool :=
  submission.challenge = challenge.challenge && submission.profile = challenge.profile &&
    submission.body.length ≤ challenge.maxBodyBytes.toNat &&
    submission.proof.length ≤ challenge.maxProofBytes.toNat

theorem new_of_matches {submission : ActionSubmission} {challenge : ActionChallenge}
    (h : submission.matchesChallenge challenge = true) :
    new submission.body submission.proof challenge = .ok submission := by
  simp only [matchesChallenge, Bool.and_eq_true, decide_eq_true_eq] at h
  obtain ⟨⟨⟨hchallenge, hprofile⟩, hbody⟩, hproof⟩ := h
  rw [new, dif_neg (not_or.mpr ⟨submission.bodyNonempty, not_lt.mpr hbody⟩),
    dif_neg (not_or.mpr ⟨submission.proofNonempty, not_lt.mpr hproof⟩)]
  cases submission
  simp only [← hchallenge, ← hprofile]

theorem matches_of_new {body proof : Bytes} {challenge : ActionChallenge}
    {submission : ActionSubmission} (h : new body proof challenge = .ok submission) :
    submission.matchesChallenge challenge = true := by
  unfold new at h
  split at h
  · cases h
  · split at h
    · cases h
    · rename_i hbody hproof
      obtain rfl := Except.ok.inj h
      simp only [matchesChallenge, decide_true, Bool.true_and, Bool.and_eq_true, decide_eq_true_eq]
      exact ⟨not_lt.mp (not_or.mp hbody).2, not_lt.mp (not_or.mp hproof).2⟩

end ActionSubmission

inductive VerdictDecision where
  | authorized
  | denied
  | indeterminate
  deriving DecidableEq

/-- A bounded, display-safe projection of a verdict. -/
structure VerdictSummary where
  decision : VerdictDecision
  reasons : List String
  nonempty : reasons ≠ []
  bounded : reasons.length ≤ maxReasonCount
  displayable : ∀ reason ∈ reasons, displayText maxReasonBytes reason = true
  deriving DecidableEq

def VerdictSummary.new (decision : VerdictDecision) (reasons : List String) :
    Except ModelError VerdictSummary :=
  if h : reasons ≠ [] ∧ reasons.length ≤ maxReasonCount ∧
      ∀ reason ∈ reasons, displayText maxReasonBytes reason = true then
    .ok ⟨decision, reasons, h.1, h.2.1, h.2.2⟩
  else .error .invalidVerdict

@[simp] theorem VerdictSummary.new_self (v : VerdictSummary) :
    VerdictSummary.new v.decision v.reasons = .ok v := by
  rw [VerdictSummary.new, dif_pos ⟨v.nonempty, v.bounded, v.displayable⟩]

inductive RefusalKind where
  | applicationPolicy
  | transportPolicy
  | authsVerdict
  | malformedInput
  | oversizedInput
  | unknownChallenge
  | expiredChallenge
  | consumedChallenge
  deriving DecidableEq

abbrev OutcomeMessage := CheckedText (displayText maxMessageBytes)

/-- What the responder asserts about the effect: applied, not applied, or neither. -/
inductive ExchangeOutcome where
  | completed (result : Bytes) (bounded : result.length ≤ maxResultBytes)
  | refused (kind : RefusalKind) (verdict : Option VerdictSummary) (message : OutcomeMessage)
  | indeterminate (verdict : Option VerdictSummary) (message : OutcomeMessage)
  deriving DecidableEq

namespace ExchangeOutcome

def newCompleted (result : Bytes) : Except ModelError ExchangeOutcome :=
  if h : result.length ≤ maxResultBytes then .ok (.completed result h) else .error .invalidResultLength

def newRefused (kind : RefusalKind) (verdict : Option VerdictSummary) (message : String) :
    Except ModelError ExchangeOutcome :=
  (parseChecked _ .invalidMessage message).map (.refused kind verdict)

def newIndeterminate (verdict : Option VerdictSummary) (message : String) :
    Except ModelError ExchangeOutcome :=
  (parseChecked _ .invalidMessage message).map (.indeterminate verdict)

end ExchangeOutcome

structure ExchangeMetrics where
  verificationMicros : UInt64
  executionMicros : UInt64
  deriving DecidableEq

structure ActionResponse where
  requestId : Option Digest
  outcome : ExchangeOutcome
  metrics : ExchangeMetrics
  deriving DecidableEq

end AuthsProof.Exchange
