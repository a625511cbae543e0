import AuthsProof.Receipts.AuditRoundTrip

/-! A decision and the executions that travel with it, at the three places where they meet: portable
containers, audit exports and inspections. -/

namespace AuthsProof.Receipts

open Wire Read

theorem Except.mapError_eq_ok {ε δ α : Type} {x : Except ε α} {f : ε → δ} {a : α} :
    x.mapError f = .ok a ↔ x = .ok a := by
  cases x with
  | error e => simp [Except.mapError]
  | ok b => simp [Except.mapError]

/-! ## Signatures -/

section Signatures

def decisionSignatureDomain : Bytes := utf8 "AUTHS-DECISION-RECEIPT" ++ [0, 1]

def executionSignatureDomain : Bytes := utf8 "AUTHS-EXECUTION-RECEIPT" ++ [0, 1]

def signingComponent (bytes : Bytes) : Bytes := bigEndian64 bytes.length ++ bytes

def signingPreimage (domain : Bytes) (signer : ReceiptSigner) (canonicalReceipt : Bytes) : Bytes :=
  domain ++ signingComponent (utf8 signer.verifier.str) ++
    signingComponent (utf8 signer.verificationMethod.str) ++
    signingComponent (utf8 signer.suite.str) ++ signingComponent canonicalReceipt

/-- Verifier-local keys: the signer, the exact preimage and the signature. -/
abbrev ReceiptSignatureVerifier := ReceiptSigner → Bytes → SignatureBytes → Except ReceiptError Unit

variable [Cbor] [ClaimsJson]

def decisionSigningPreimage (receipt : DecisionReceipt) (signer : ReceiptSigner) : Bytes :=
  signingPreimage decisionSignatureDomain signer (encodeDecision receipt)

def executionSigningPreimage (receipt : ExecutionReceipt) (signer : ReceiptSigner) : Bytes :=
  signingPreimage executionSignatureDomain signer (encodeExecution receipt)

variable [Sha256]

def verifyDecisionAttestation (input : Bytes) (expected : ReceiptId) (expectedVerifier : PrincipalId)
    (verifier : ReceiptSignatureVerifier) : Except ReceiptError AttestedDecisionReceipt := do
  let attested ← verifyAttestedDecisionBytes input expected
  require (attested.signer.verifier = expectedVerifier) .unexpectedSigner
  verifier attested.signer (decisionSigningPreimage attested.receipt attested.signer) attested.signature
  pure attested

def verifyExecutionAttestation (input : Bytes) (expected : ReceiptId) (expectedVerifier : PrincipalId)
    (verifier : ReceiptSignatureVerifier) : Except ReceiptError AttestedExecutionReceipt := do
  let attested ← verifyAttestedExecutionBytes input expected
  require (attested.signer.verifier = expectedVerifier) .unexpectedSigner
  verifier attested.signer (executionSigningPreimage attested.receipt attested.signer) attested.signature
  pure attested

end Signatures

/-! ## Inspection -/

def ReceiptInspectionError.fromReceipt : ReceiptError → ReceiptInspectionError
  | .malformed | .invalidReason => .receiptMalformed
  | .nonCanonical => .receiptNonCanonical
  | .unsupportedProtocol => .receiptUnsupported
  | .limitExceeded => .receiptLimitExceeded
  | .digestMismatch => .receiptIdMismatch
  | .linkageMismatch | .duplicate => .receiptLinkageMismatch
  | .unexpectedSigner => .unexpectedSigner
  | .invalidSignature | .signingUnavailable => .invalidSignature

inductive ReceiptViewMode where
  | opaqueView
  | summary
  | full
  deriving DecidableEq

/-- What a verified pair of receipts says. -/
structure VerifiedReceiptMetadata where
  decisionId : ReceiptId
  executionId : ReceiptId
  profile : ProfileRef
  decision : DecisionClass
  reasons : List String
  outcome : ExecutionOutcome
  decidedAt : Timestamp
  completedAt : Timestamp
  decisionSigner : ReceiptSigner
  executionSigner : ReceiptSigner
  proofDigest : Digest
  actionDigest : Digest
  contextDigest : ContextDigest
  principalStatus : StatusSnapshotId
  grantStatus : StatusSnapshotId
  executionLease : Digest
  commandDigest : Digest
  resultDigest : Option Digest
  deriving DecidableEq

/-- A title and labelled fields. -/
structure ReceiptProjection where
  title : String
  fields : List (String × String)
  deriving DecidableEq

/-- A profile's view of the command and the result. -/
abbrev ReceiptProfileInspector :=
  ProfileRef → Bytes → Option Bytes → Except ReceiptInspectionError ReceiptProjection

inductive ReceiptInspection where
  | verifiedOpaque (metadata : VerifiedReceiptMetadata)
  | verifiedDisclosed (metadata : VerifiedReceiptMetadata) (mode : ReceiptViewMode)
      (projection : ReceiptProjection) (disclosure : Option ReceiptDisclosure)
  deriving DecidableEq

section Inspection

variable [Cbor] [Sha256] [ClaimsJson]

omit [Cbor] [Sha256] in
def verifiedMetadata (decisionId executionId : ReceiptId) (decision : AttestedDecisionReceipt)
    (execution : AttestedExecutionReceipt) : VerifiedReceiptMetadata where
  decisionId := decisionId
  executionId := executionId
  profile := decision.receipt.profile
  decision := decision.receipt.decision
  reasons := decision.receipt.reasons
  outcome := execution.receipt.outcome
  decidedAt := decision.receipt.decidedAt
  completedAt := execution.receipt.completedAt
  decisionSigner := decision.signer
  executionSigner := execution.signer
  proofDigest := decision.receipt.proofDigest
  actionDigest := decision.receipt.actionDigest
  contextDigest := decision.receipt.contextDigest
  principalStatus := decision.receipt.principalStatus
  grantStatus := decision.receipt.grantStatus
  executionLease := execution.receipt.executionLease
  commandDigest := execution.receipt.commandDigest
  resultDigest := execution.receipt.resultDigest

omit [ClaimsJson] in
/-- A value that has to be there. -/
def orRefuse {α : Type} (error : ReceiptInspectionError) : Option α → Except ReceiptInspectionError α
  | some value => .ok value
  | none => .error error

/-- The disclosed part of an inspection. -/
def inspectDisclosure (decision : DecisionReceipt) (execution : ExecutionReceipt)
    (executionId : ReceiptId) (mode : ReceiptViewMode) (metadata : VerifiedReceiptMetadata)
    (disclosureBytes : Option Bytes) (profileInspector : Option ReceiptProfileInspector) :
    Except ReceiptInspectionError ReceiptInspection := do
  let bytes ← orRefuse .disclosureRequired disclosureBytes
  let disclosure ← decodeReceiptDisclosure bytes
  require (disclosure.receiptId = executionId) .disclosureReceiptMismatch
  require (disclosure.profile = decision.profile) .disclosureProfileMismatch
  require (Sha256.digest disclosure.command = execution.commandDigest) .disclosureCommandMismatch
  require (disclosure.result.map Sha256.digest = execution.resultDigest) .disclosureResultMismatch
  let inspector ← orRefuse .unsupportedProfile profileInspector
  let projection ← inspector decision.profile disclosure.command disclosure.result
  pure (.verifiedDisclosed metadata mode projection (if mode = .full then some disclosure else none))

def inspectAttestedExecutionReceipt (decisionBytes : Bytes) (decisionId : ReceiptId)
    (decisionVerifier : PrincipalId) (decisionPolicy : ReceiptSignatureVerifier)
    (executionBytes : Bytes) (executionId : ReceiptId) (executionVerifier : PrincipalId)
    (executionPolicy : ReceiptSignatureVerifier) (mode : ReceiptViewMode)
    (disclosureBytes : Option Bytes) (profileInspector : Option ReceiptProfileInspector) :
    Except ReceiptInspectionError ReceiptInspection := do
  let decision ← (verifyDecisionAttestation decisionBytes decisionId decisionVerifier
    decisionPolicy).mapError .fromReceipt
  let execution ← (verifyExecutionAttestation executionBytes executionId executionVerifier
    executionPolicy).mapError .fromReceipt
  require (execution.receipt.decisionReceipt = decisionId ∧
    decisionReceiptId decision.receipt = decisionId) .receiptLinkageMismatch
  let metadata := verifiedMetadata decisionId executionId decision execution
  if mode = .opaqueView then
    pure (.verifiedOpaque metadata)
  else
    inspectDisclosure decision.receipt execution.receipt executionId mode metadata disclosureBytes
      profileInspector

end Inspection

/-! ## One story -/

section Story

variable [Cbor] [Sha256] [ClaimsJson]

/-- The execution names the decision, and its claims are those of the decision's profile. -/
structure OneStory (decision : DecisionReceipt) (execution : ExecutionReceipt) : Prop where
  named : execution.decisionReceipt = decisionReceiptId decision
  sameProfile : ∃ claims, decodeProfileReceiptClaims execution.profileClaims = .ok claims ∧
    claims.profile = decision.profile

/-- A command and a result hash to the digests of the execution. -/
def Discloses (execution : ExecutionReceipt) (command : Bytes) (result : Option Bytes) : Prop :=
  Sha256.digest command = execution.commandDigest ∧
    result.map Sha256.digest = execution.resultDigest

/-- The check that a decision makes of its own claims, made of the execution's claims. -/
def SameProfile (decisionBytes executionBytes : Bytes) : Prop :=
  ∀ decision execution, decodeAttestedDecision decisionBytes = .ok decision →
    decodeAttestedExecution executionBytes = .ok execution →
    validateProfileClaims execution.receipt.profileClaims (some decision.receipt.profile) .execution =
      .ok ()

def PortableStory (attestedDecision attestedExecution : Bytes) : Prop :=
  ∃ decision execution, decodeAttestedDecision attestedDecision = .ok decision ∧
    decodeAttestedExecution attestedExecution = .ok execution ∧
    OneStory decision.receipt execution.receipt

/-- What an export discloses as the command or the result of the execution. -/
def AuditBundle.Discloses (b : AuditBundle) (execution : ExecutionReceipt) : Prop :=
  ∀ artifact ∈ b.artifacts, ∀ bytes ∈ artifact.bytes,
    (artifact.digest = execution.commandDigest → Sha256.digest bytes = execution.commandDigest) ∧
    (some artifact.digest = execution.resultDigest →
      some (Sha256.digest bytes) = execution.resultDigest)

def AuditBundle.Story (b : AuditBundle) : Prop :=
  ∃ decision, decodeAttestedDecision b.decision = .ok decision ∧
    decisionReceiptId decision.receipt = b.decisionId ∧
    ∀ entry ∈ b.executions, ∃ execution, decodeAttestedExecution entry.2 = .ok execution ∧
      executionReceiptId execution.receipt = entry.1 ∧
      OneStory decision.receipt execution.receipt ∧ b.Discloses execution.receipt

def ReceiptInspection.metadata : ReceiptInspection → VerifiedReceiptMetadata
  | .verifiedOpaque metadata => metadata
  | .verifiedDisclosed metadata _ _ _ => metadata

def ReceiptInspection.disclosure : ReceiptInspection → Option ReceiptDisclosure
  | .verifiedOpaque _ => none
  | .verifiedDisclosed _ _ _ disclosure => disclosure

/-- The story of an inspection, and the material that it was shown. -/
def ReceiptInspection.Story (inspection : ReceiptInspection) (decisionBytes executionBytes : Bytes)
    (decisionId executionId : ReceiptId) (mode : ReceiptViewMode) (disclosureBytes : Option Bytes) :
    Prop :=
  ∃ decision execution, decodeAttestedDecision decisionBytes = .ok decision ∧
    decodeAttestedExecution executionBytes = .ok execution ∧
    inspection.metadata = verifiedMetadata decisionId executionId decision execution ∧
    decisionReceiptId decision.receipt = decisionId ∧
    executionReceiptId execution.receipt = executionId ∧
    OneStory decision.receipt execution.receipt ∧
    (mode ≠ .opaqueView → ∃ bytes disclosure, disclosureBytes = some bytes ∧
      decodeReceiptDisclosure bytes = .ok disclosure ∧ disclosure.profile = decision.receipt.profile ∧
      Discloses execution.receipt disclosure.command disclosure.result) ∧
    ∀ disclosure ∈ inspection.disclosure,
      Discloses execution.receipt disclosure.command disclosure.result

omit [Cbor] [Sha256] in
theorem validateProfileClaims_iff {claims : Bytes} {profile : Option ProfileRef}
    {phase : ProfileReceiptClaimPhase} : validateProfileClaims claims profile phase = .ok () ↔
      ∃ decoded, decodeProfileReceiptClaims claims = .ok decoded ∧ decoded.phase = phase ∧
        ∀ p ∈ profile, decoded.profile = p := by
  simp only [validateProfileClaims, Except.bind_eq_ok, require_eq_ok]

/-- Of linked records, the missing check is what makes them one story. -/
theorem oneStory_iff {decision : DecisionReceipt} {execution : ExecutionReceipt}
    (hnamed : execution.decisionReceipt = decisionReceiptId decision) :
    OneStory decision execution ↔
      validateProfileClaims execution.profileClaims (some decision.profile) .execution = .ok () := by
  rw [validateProfileClaims_iff]
  constructor
  · intro h
    obtain ⟨claims, hclaims, hprofile⟩ := h.sameProfile
    obtain ⟨decoded, hdecoded, hphase, -⟩ := validateProfileClaims_iff.mp execution.claimsValid
    have hsame : decoded = claims := Except.ok.inj (hdecoded.symm.trans hclaims)
    refine ⟨claims, hclaims, hsame ▸ hphase, ?_⟩
    intro p hp
    rw [hprofile]
    exact Option.some.inj hp
  · intro h
    obtain ⟨claims, hclaims, -, hprofile⟩ := h
    exact ⟨hnamed, claims, hclaims, hprofile _ rfl⟩

theorem sameProfile_iff {decisionBytes executionBytes : Bytes} {decision : AttestedDecisionReceipt}
    {execution : AttestedExecutionReceipt} (hdecision : decodeAttestedDecision decisionBytes = .ok decision)
    (hexecution : decodeAttestedExecution executionBytes = .ok execution)
    (hnamed : execution.receipt.decisionReceipt = decisionReceiptId decision.receipt) :
    SameProfile decisionBytes executionBytes ↔ OneStory decision.receipt execution.receipt := by
  rw [oneStory_iff hnamed]
  constructor
  · intro h
    exact h decision execution hdecision hexecution
  · intro h other otherExecution hother hotherExecution
    cases hdecision.symm.trans hother
    cases hexecution.symm.trans hotherExecution
    exact h

/-! ### Portable containers -/

theorem portableStory_iff {input attestedDecision attestedExecution : Bytes}
    (h : decodePortableReceipt input = .ok (.execution attestedDecision attestedExecution)) :
    PortableStory attestedDecision attestedExecution ↔
      SameProfile attestedDecision attestedExecution := by
  obtain ⟨hlinked, -, -⟩ := encodePortable_eq_ok.mp (encodePortable_of_decode h)
  obtain ⟨decision, execution, hdecision, hexecution, hnamed⟩ := hlinked
  rw [sameProfile_iff hdecision hexecution hnamed]
  constructor
  · intro hstory
    obtain ⟨other, otherExecution, hother, hotherExecution, hone⟩ := hstory
    cases hdecision.symm.trans hother
    cases hexecution.symm.trans hotherExecution
    exact hone
  · intro hone
    exact ⟨decision, execution, hdecision, hexecution, hone⟩

/-! ### Audit exports -/

theorem verifyAttestedDecisionBytes_eq_ok {input : Bytes} {expected : ReceiptId}
    {attested : AttestedDecisionReceipt} :
    verifyAttestedDecisionBytes input expected = .ok attested ↔
      decodeAttestedDecision input = .ok attested ∧ decisionReceiptId attested.receipt = expected := by
  simp only [verifyAttestedDecisionBytes, Except.bind_eq_ok, require_eq_ok]
  constructor
  · intro h
    obtain ⟨found, hfound, ⟨⟩, hexpected, hreturn⟩ := h
    cases hreturn
    exact ⟨hfound, hexpected⟩
  · intro h
    exact ⟨attested, h.1, (), h.2, rfl⟩

theorem verifyAttestedExecutionBytes_eq_ok {input : Bytes} {expected : ReceiptId}
    {attested : AttestedExecutionReceipt} :
    verifyAttestedExecutionBytes input expected = .ok attested ↔
      decodeAttestedExecution input = .ok attested ∧
        executionReceiptId attested.receipt = expected := by
  simp only [verifyAttestedExecutionBytes, Except.bind_eq_ok, require_eq_ok]
  constructor
  · intro h
    obtain ⟨found, hfound, ⟨⟩, hexpected, hreturn⟩ := h
    cases hreturn
    exact ⟨hfound, hexpected⟩
  · intro h
    exact ⟨attested, h.1, (), h.2, rfl⟩

theorem checkExecution_eq_ok {decisionId : ReceiptId} {entry : ReceiptId × Bytes} :
    checkExecution decisionId entry = .ok () ↔ ∃ execution,
      decodeAttestedExecution entry.2 = .ok execution ∧
        executionReceiptId execution.receipt = entry.1 ∧
        execution.receipt.decisionReceipt = decisionId := by
  simp only [checkExecution, Except.bind_eq_ok, require_eq_ok, verifyAttestedExecutionBytes_eq_ok,
    and_assoc]

/-- The checks of a bundle that concern what its parts say of each other. -/
theorem AuditBundle.linked (b : AuditBundle) :
    ∃ decision, decodeAttestedDecision b.decision = .ok decision ∧
      decisionReceiptId decision.receipt = b.decisionId ∧
      (∀ entry ∈ b.executions, ∃ execution, decodeAttestedExecution entry.2 = .ok execution ∧
        executionReceiptId execution.receipt = entry.1 ∧
        execution.receipt.decisionReceipt = b.decisionId) ∧
      ∀ artifact ∈ b.artifacts, artifact.digestMatches = true := by
  have hchecked := b.checked
  simp only [checkBundle, Except.bind_eq_ok, require_eq_ok, verifyAttestedDecisionBytes_eq_ok] at hchecked
  obtain ⟨decision, ⟨hdecision, hid⟩, _, -, _, -, _, hexecutions, _, -, _, hartifacts, -⟩ := hchecked
  refine ⟨decision, hdecision, hid, ?_, List.all_eq_true.mp hartifacts⟩
  intro entry hentry
  exact checkExecution_eq_ok.mp (Except.ok_of_forM hexecutions entry hentry)

theorem AuditBundle.discloses (b : AuditBundle) (execution : ExecutionReceipt) :
    b.Discloses execution := by
  obtain ⟨-, -, -, -, hartifacts⟩ := b.linked
  intro artifact hartifact bytes hbytes
  have hmatches := hartifacts artifact hartifact
  have hdigest : Sha256.digest bytes = artifact.digest := by
    rw [Option.mem_def] at hbytes
    rw [AuditArtifact.digestMatches, hbytes] at hmatches
    exact eq_of_beq hmatches
  rw [hdigest]
  exact ⟨id, id⟩

theorem auditStory_iff (b : AuditBundle) :
    b.Story ↔ ∀ entry ∈ b.executions, SameProfile b.decision entry.2 := by
  obtain ⟨decision, hdecision, hid, hexecutions, -⟩ := b.linked
  constructor
  · intro h entry hentry
    obtain ⟨other, hother, -, hstory⟩ := h
    cases hdecision.symm.trans hother
    obtain ⟨execution, hexecution, -, hone, -⟩ := hstory entry hentry
    exact (sameProfile_iff hdecision hexecution hone.named).mpr hone
  · intro h
    refine ⟨decision, hdecision, hid, fun entry hentry => ?_⟩
    obtain ⟨execution, hexecution, hentryId, hnamed⟩ := hexecutions entry hentry
    have hone := (sameProfile_iff hdecision hexecution (hnamed.trans hid.symm)).mp (h entry hentry)
    exact ⟨execution, hexecution, hentryId, hone, b.discloses execution.receipt⟩

/-! ### Inspections -/

theorem decision_of_verifyDecisionAttestation {input : Bytes} {expected : ReceiptId}
    {expectedVerifier : PrincipalId} {verifier : ReceiptSignatureVerifier}
    {attested : AttestedDecisionReceipt}
    (h : verifyDecisionAttestation input expected expectedVerifier verifier = .ok attested) :
    decodeAttestedDecision input = .ok attested ∧ decisionReceiptId attested.receipt = expected := by
  simp only [verifyDecisionAttestation, Except.bind_eq_ok] at h
  obtain ⟨found, hfound, _, -, _, -, hreturn⟩ := h
  cases hreturn
  exact verifyAttestedDecisionBytes_eq_ok.mp hfound

theorem execution_of_verifyExecutionAttestation {input : Bytes} {expected : ReceiptId}
    {expectedVerifier : PrincipalId} {verifier : ReceiptSignatureVerifier}
    {attested : AttestedExecutionReceipt}
    (h : verifyExecutionAttestation input expected expectedVerifier verifier = .ok attested) :
    decodeAttestedExecution input = .ok attested ∧ executionReceiptId attested.receipt = expected := by
  simp only [verifyExecutionAttestation, Except.bind_eq_ok] at h
  obtain ⟨found, hfound, _, -, _, -, hreturn⟩ := h
  cases hreturn
  exact verifyAttestedExecutionBytes_eq_ok.mp hfound

omit [Cbor] [Sha256] [ClaimsJson] in
theorem orRefuse_eq_ok {α : Type} {error : ReceiptInspectionError} {value : Option α} {a : α} :
    orRefuse error value = .ok a ↔ value = some a := by
  cases value with
  | none => simp [orRefuse]
  | some b => simp [orRefuse]

/-- What a disclosed inspection was shown hashes to the digests of the execution. -/
theorem inspectDisclosure_discloses {decision : DecisionReceipt} {execution : ExecutionReceipt}
    {executionId : ReceiptId} {mode : ReceiptViewMode} {metadata : VerifiedReceiptMetadata}
    {disclosureBytes : Option Bytes} {profileInspector : Option ReceiptProfileInspector}
    {inspection : ReceiptInspection}
    (h : inspectDisclosure decision execution executionId mode metadata disclosureBytes
      profileInspector = .ok inspection) :
    inspection.metadata = metadata ∧
    ∃ bytes disclosure, disclosureBytes = some bytes ∧
      decodeReceiptDisclosure bytes = .ok disclosure ∧ disclosure.profile = decision.profile ∧
      Discloses execution disclosure.command disclosure.result ∧
      ∀ shown ∈ inspection.disclosure, shown = disclosure := by
  simp only [inspectDisclosure, Except.bind_eq_ok, require_eq_ok, orRefuse_eq_ok] at h
  obtain ⟨bytes, hbytes, disclosure, hdisclosure, _, -, _, hprofile, _, hcommand, _, hresult,
    inspector, -, projection, -, hreturn⟩ := h
  cases hreturn
  refine ⟨rfl, bytes, disclosure, hbytes, hdisclosure, hprofile, ⟨hcommand, hresult⟩, ?_⟩
  intro shown hshown
  by_cases hmode : mode = .full
  · simpa [ReceiptInspection.disclosure, hmode, eq_comm] using hshown
  · simp [ReceiptInspection.disclosure, hmode] at hshown

/-- What an accepted pair has passed, in every mode. -/
theorem inspection_linked {decisionBytes executionBytes : Bytes} {decisionId executionId : ReceiptId}
    {decisionVerifier executionVerifier : PrincipalId}
    {decisionPolicy executionPolicy : ReceiptSignatureVerifier} {mode : ReceiptViewMode}
    {disclosureBytes : Option Bytes} {profileInspector : Option ReceiptProfileInspector}
    {inspection : ReceiptInspection}
    (h : inspectAttestedExecutionReceipt decisionBytes decisionId decisionVerifier decisionPolicy
      executionBytes executionId executionVerifier executionPolicy mode disclosureBytes
      profileInspector = .ok inspection) :
    ∃ decision execution, decodeAttestedDecision decisionBytes = .ok decision ∧
      decodeAttestedExecution executionBytes = .ok execution ∧
      decisionReceiptId decision.receipt = decisionId ∧
      executionReceiptId execution.receipt = executionId ∧
      execution.receipt.decisionReceipt = decisionId ∧
      (if mode = .opaqueView then
        pure (.verifiedOpaque (verifiedMetadata decisionId executionId decision execution))
      else
        inspectDisclosure decision.receipt execution.receipt executionId mode
          (verifiedMetadata decisionId executionId decision execution) disclosureBytes
          profileInspector) = .ok inspection := by
  simp only [inspectAttestedExecutionReceipt, Except.bind_eq_ok, require_eq_ok,
    Except.mapError_eq_ok] at h
  obtain ⟨decision, hdecision, execution, hexecution, _, ⟨hnamed, -⟩, hview⟩ := h
  obtain ⟨hdecoded, hid⟩ := decision_of_verifyDecisionAttestation hdecision
  obtain ⟨hexecutionDecoded, hexecutionId⟩ := execution_of_verifyExecutionAttestation hexecution
  exact ⟨decision, execution, hdecoded, hexecutionDecoded, hid, hexecutionId, hnamed, hview⟩

theorem inspectionStory_iff {decisionBytes executionBytes : Bytes} {decisionId executionId : ReceiptId}
    {decisionVerifier executionVerifier : PrincipalId}
    {decisionPolicy executionPolicy : ReceiptSignatureVerifier} {mode : ReceiptViewMode}
    {disclosureBytes : Option Bytes} {profileInspector : Option ReceiptProfileInspector}
    {inspection : ReceiptInspection}
    (h : inspectAttestedExecutionReceipt decisionBytes decisionId decisionVerifier decisionPolicy
      executionBytes executionId executionVerifier executionPolicy mode disclosureBytes
      profileInspector = .ok inspection) :
    inspection.Story decisionBytes executionBytes decisionId executionId mode disclosureBytes ↔
      SameProfile decisionBytes executionBytes := by
  obtain ⟨decision, execution, hdecision, hexecution, hid, hexecutionId, hnamed, hview⟩ :=
    inspection_linked h
  have hone := sameProfile_iff hdecision hexecution (hnamed.trans hid.symm)
  constructor
  · intro hstory
    obtain ⟨other, otherExecution, hother, hotherExecution, -, -, -, hstory, -⟩ := hstory
    exact (sameProfile_iff hother hotherExecution hstory.named).mpr hstory
  · intro hsame
    by_cases hmode : mode = .opaqueView
    · rw [if_pos hmode] at hview
      cases hview
      exact ⟨decision, execution, hdecision, hexecution, rfl, hid, hexecutionId, hone.mp hsame,
        fun hne => absurd hmode hne, nofun⟩
    · rw [if_neg hmode] at hview
      obtain ⟨hmetadata, bytes, disclosure, hbytes, hdisclosure, hprofile, hdiscloses, hshown⟩ :=
        inspectDisclosure_discloses hview
      refine ⟨decision, execution, hdecision, hexecution, hmetadata, hid, hexecutionId,
        hone.mp hsame, fun _ => ⟨bytes, disclosure, hbytes, hdisclosure, hprofile, hdiscloses⟩, ?_⟩
      intro shown hmem
      rw [hshown shown hmem]
      exact hdiscloses

/-- What is accepted where a decision and an execution meet tells one story exactly when the claims of
the execution pass, for the decision's profile, the check that a decision makes of its own. -/
theorem linkedReceipts_iff :
    (∀ input attestedDecision attestedExecution,
      decodePortableReceipt input = .ok (.execution attestedDecision attestedExecution) →
      (PortableStory attestedDecision attestedExecution ↔
        SameProfile attestedDecision attestedExecution)) ∧
    (∀ b : AuditBundle, b.Story ↔ ∀ entry ∈ b.executions, SameProfile b.decision entry.2) ∧
    ∀ decisionBytes decisionId decisionVerifier decisionPolicy executionBytes executionId
      executionVerifier executionPolicy mode disclosureBytes profileInspector inspection,
      inspectAttestedExecutionReceipt decisionBytes decisionId decisionVerifier decisionPolicy
        executionBytes executionId executionVerifier executionPolicy mode disclosureBytes
        profileInspector = .ok inspection →
      (inspection.Story decisionBytes executionBytes decisionId executionId mode disclosureBytes ↔
        SameProfile decisionBytes executionBytes) :=
  ⟨fun _ _ _ => portableStory_iff, auditStory_iff,
    fun _ _ _ _ _ _ _ _ _ _ _ _ => inspectionStory_iff⟩

end Story

/-! ### Every linked pair is accepted -/

section Accepted

variable [Cbor] [Sha256] [ClaimsJson] [LawfulCbor] [CompactCbor]

omit [Sha256] [LawfulCbor] in
theorem length_attested (decision : AttestedDecisionReceipt) (execution : AttestedExecutionReceipt) :
    (encodeAttestedDecision decision).length ≤ 106000 ∧
      (encodeAttestedExecution execution).length ≤ 106000 := by
  have hdecision := length_encodeAttested 0 (encodeDecision decision.receipt) decision.signer
    decision.signature
  have hexecution := length_encodeAttested 1 (encodeExecution execution.receipt) execution.signer
    execution.signature
  have hdecisionSize := length_encodeDecision decision.receipt
  have hexecutionSize := length_encodeExecution execution.receipt
  rw [encodeAttestedDecision, encodeAttestedExecution]
  omega

omit [Sha256] [LawfulCbor] in
theorem length_portableExecution (decision : AttestedDecisionReceipt)
    (execution : AttestedExecutionReceipt) :
    (portableExecutionBytes (encodeAttestedDecision decision)
      (encodeAttestedExecution execution)).length ≤ maxPortableReceiptBytes := by
  obtain ⟨hdecision, hexecution⟩ := length_attested decision execution
  have hdecisionBytes := CompactCbor.length_bytes (encodeAttestedDecision decision)
  have hexecutionBytes := CompactCbor.length_bytes (encodeAttestedExecution execution)
  have hmap := CompactCbor.length_map 4
  have hkind := CompactCbor.length_text "execution"
  have hkindSize : "execution".utf8ByteSize = 9 := by decide
  have hone := length_encodeU8 1
  have htwo := length_encodeU8 2
  have hthree := length_encodeU8 3
  have hfour := length_encodeU8 4
  have hmaximum : maxPortableReceiptBytes = 1048576 := rfl
  simp only [portableExecutionBytes, List.flatten_cons, List.flatten_nil, List.length_append,
    List.length_nil]
  omega

/-- A container of a linked pair is read back, whatever profiles the two records name. -/
theorem portable_of_linked {decision : AttestedDecisionReceipt} {execution : AttestedExecutionReceipt}
    (hnamed : execution.receipt.decisionReceipt = decisionReceiptId decision.receipt) :
    decodePortableReceipt (portableExecutionBytes (encodeAttestedDecision decision)
      (encodeAttestedExecution execution)) =
        .ok (.execution (encodeAttestedDecision decision) (encodeAttestedExecution execution)) := by
  have hlinked : (PortableReceipt.execution (encodeAttestedDecision decision)
      (encodeAttestedExecution execution)).Linked :=
    ⟨decision, execution, decodeAttestedDecision_encode decision,
      decodeAttestedExecution_encode execution, hnamed⟩
  exact (portable_roundTrip hlinked (length_portableExecution decision execution)).2

theorem audit_of_linked {decision : AttestedDecisionReceipt} {execution : AttestedExecutionReceipt}
    (hnamed : execution.receipt.decisionReceipt = decisionReceiptId decision.receipt) :
    checkBundle (decisionReceiptId decision.receipt) (encodeAttestedDecision decision)
      [(executionReceiptId execution.receipt, encodeAttestedExecution execution)] [] = .ok () := by
  obtain ⟨hdecision, hexecution⟩ := length_attested decision execution
  have hverified := verifyAttestedDecisionBytes_eq_ok.mpr
    ⟨decodeAttestedDecision_encode decision, rfl⟩
  have hchecked : checkExecution (decisionReceiptId decision.receipt)
      (executionReceiptId execution.receipt, encodeAttestedExecution execution) = .ok () :=
    checkExecution_eq_ok.mpr ⟨execution, decodeAttestedExecution_encode execution, rfl, hnamed⟩
  have htotal : payloadTotal (encodeAttestedDecision decision)
      [(executionReceiptId execution.receipt, encodeAttestedExecution execution)] [] ≤
        maxAuditBytes := by
    have hmaximum : maxAuditBytes = 16777216 := rfl
    simp only [payloadTotal, List.map_cons, List.map_nil, List.sum_cons, List.sum_nil]
    omega
  simp only [checkBundle, Except.bind_eq_ok, require_eq_ok]
  refine ⟨decision, hverified, (), ⟨Nat.le_of_ble_eq_true rfl, Nat.zero_le _⟩, (), rfl, (), ?_, (), rfl, (), rfl, htotal⟩
  exact Except.bind_eq_ok.mpr ⟨(), hchecked, rfl⟩

/-- Under verifiers that accept the signatures, a linked pair is inspected. -/
theorem inspection_of_linked {decision : AttestedDecisionReceipt} {execution : AttestedExecutionReceipt}
    (hnamed : execution.receipt.decisionReceipt = decisionReceiptId decision.receipt)
    {decisionPolicy executionPolicy : ReceiptSignatureVerifier}
    (hdecisionPolicy : decisionPolicy decision.signer
      (decisionSigningPreimage decision.receipt decision.signer) decision.signature = .ok ())
    (hexecutionPolicy : executionPolicy execution.signer
      (executionSigningPreimage execution.receipt execution.signer) execution.signature = .ok ()) :
    inspectAttestedExecutionReceipt (encodeAttestedDecision decision)
      (decisionReceiptId decision.receipt) decision.signer.verifier decisionPolicy
      (encodeAttestedExecution execution) (executionReceiptId execution.receipt)
      execution.signer.verifier executionPolicy .opaqueView none none =
        .ok (.verifiedOpaque (verifiedMetadata (decisionReceiptId decision.receipt)
          (executionReceiptId execution.receipt) decision execution)) := by
  have hdecision : verifyDecisionAttestation (encodeAttestedDecision decision)
      (decisionReceiptId decision.receipt) decision.signer.verifier decisionPolicy = .ok decision := by
    simp only [verifyDecisionAttestation, Except.bind_eq_ok, require_eq_ok]
    exact ⟨decision, verifyAttestedDecisionBytes_eq_ok.mpr
      ⟨decodeAttestedDecision_encode decision, rfl⟩, (), rfl, (), hdecisionPolicy, rfl⟩
  have hexecution : verifyExecutionAttestation (encodeAttestedExecution execution)
      (executionReceiptId execution.receipt) execution.signer.verifier executionPolicy =
        .ok execution := by
    simp only [verifyExecutionAttestation, Except.bind_eq_ok, require_eq_ok]
    exact ⟨execution, verifyAttestedExecutionBytes_eq_ok.mpr
      ⟨decodeAttestedExecution_encode execution, rfl⟩, (), rfl, (), hexecutionPolicy, rfl⟩
  simp only [inspectAttestedExecutionReceipt, Except.bind_eq_ok, require_eq_ok, Except.mapError_eq_ok]
  exact ⟨decision, hdecision, execution, hexecution, (), ⟨hnamed, rfl⟩, rfl⟩

end Accepted

section Sample

local instance linkageCbor : Cbor := rfc8949

local instance linkageSha256 : Sha256 := ⟨fun bytes => ⟨Sha2.sha256 bytes, Sha2.sha256_length bytes⟩⟩

noncomputable local instance linkageJson : ClaimsJson := rfc8785

theorem receiptVersion_ne : (1 : UInt16) ≠ 0 := by decide

theorem receiptMethod_bounded : boundedText 512 "key-1" = true := by decide

theorem receiptSignature_nonempty : ([7] : Bytes) ≠ [] := by decide

theorem receiptSignature_bounded : ([7] : Bytes).length ≤ hardMaxSignatureBytes := by decide

def releaseProfile : ProfileRef := ⟨⟨"release", by decide⟩, 1, receiptVersion_ne⟩

def paymentProfile : ProfileRef := ⟨⟨"payment", by decide⟩, 1, receiptVersion_ne⟩

def commandClaims (profile : ProfileRef) (phase : ProfileReceiptClaimPhase) : ProfileReceiptClaims :=
  ⟨profile, phase, [⟨"command", .zero, by decide⟩], rfl⟩

def commandClaimsBytes (profile : ProfileRef) (phase : ProfileReceiptClaimPhase) : Bytes :=
  canonicalBytes (claimsFields profile phase (commandClaims profile phase).claims)

theorem commandClaims_decoded (profile : ProfileRef) (phase : ProfileReceiptClaimPhase) :
    decodeProfileReceiptClaims (commandClaimsBytes profile phase) = .ok (commandClaims profile phase) := by
  have : FaithfulClaimsJson := rfc8785_faithful
  obtain ⟨bytes, hencode, hdecode⟩ := claims_roundTrip (commandClaims profile phase)
  have hbytes : bytes = commandClaimsBytes profile phase := by
    obtain ⟨_, -, hfits⟩ := Except.bind_eq_ok.mp hencode
    obtain ⟨_, -, hreturn⟩ := Except.bind_eq_ok.mp hfits
    exact (Except.ok.inj hreturn).symm
  rw [← hbytes]
  exact hdecode

def receiptSigner : ReceiptSigner := ⟨⟨"did:key:auditor", by decide, by decide⟩, ⟨"key-1", receiptMethod_bounded⟩,
  ⟨"ed25519", by decide⟩⟩

noncomputable def releaseDecision : AttestedDecisionReceipt where
  receipt := {
    proofDigest := .zero
    actionDigest := .zero
    contextDigest := .zero
    principalStatus := .zero
    grantStatus := .zero
    profile := releaseProfile
    decision := .authorized
    reasons := ["authorized"]
    decidedAt := 10
    profileClaims := commandClaimsBytes releaseProfile .decision
    reasonsValid := rfl
    claimsValid := validateProfileClaims_iff.mpr
      ⟨_, commandClaims_decoded releaseProfile .decision, rfl, fun _ hp => Option.some.inj hp⟩ }
  signer := receiptSigner
  signature := ⟨[7], receiptSignature_nonempty, receiptSignature_bounded⟩

/-- An execution of the release decision whose claims are of some profile. -/
noncomputable def executionUnder (profile : ProfileRef) : AttestedExecutionReceipt where
  receipt := {
    decisionReceipt := decisionReceiptId releaseDecision.receipt
    executionLease := .zero
    commandDigest := .zero
    outcome := .succeeded
    resultDigest := none
    completedAt := 20
    profileClaims := commandClaimsBytes profile .execution
    claimsValid := validateProfileClaims_iff.mpr
      ⟨_, commandClaims_decoded profile .execution, rfl, nofun⟩ }
  signer := receiptSigner
  signature := ⟨[7], receiptSignature_nonempty, receiptSignature_bounded⟩

noncomputable def auditUnder (profile : ProfileRef) : AuditBundle where
  decisionId := decisionReceiptId releaseDecision.receipt
  decision := encodeAttestedDecision releaseDecision
  executions := [(executionReceiptId (executionUnder profile).receipt,
    encodeAttestedExecution (executionUnder profile))]
  artifacts := []
  executionsSorted := List.pairwise_singleton ..
  artifactsSorted := List.Pairwise.nil
  checked := by
    have : LawfulCbor := rfc8949_lawful
    have : CompactCbor := rfc8949_compact
    exact audit_of_linked rfl

theorem sameProfile_executionUnder (profile : ProfileRef) :
    SameProfile (encodeAttestedDecision releaseDecision)
      (encodeAttestedExecution (executionUnder profile)) ↔ profile = releaseProfile := by
  have : LawfulCbor := rfc8949_lawful
  have : CompactCbor := rfc8949_compact
  have hdecision := decodeAttestedDecision_encode releaseDecision
  have hexecution := decodeAttestedExecution_encode (executionUnder profile)
  have hclaims := commandClaims_decoded profile .execution
  rw [sameProfile_iff hdecision hexecution rfl]
  constructor
  · intro h
    obtain ⟨claims, hfound, hsame⟩ := h.sameProfile
    have hclaim : commandClaims profile .execution = claims := Except.ok.inj (hclaims.symm.trans hfound)
    rw [← hclaim] at hsame
    exact hsame
  · intro h
    exact ⟨rfl, _, hclaims, h⟩

/-- An execution under the profile of its decision is accepted everywhere, and tells one story. -/
theorem linkedReceipts_release :
    PortableStory (encodeAttestedDecision releaseDecision)
      (encodeAttestedExecution (executionUnder releaseProfile)) ∧
    (auditUnder releaseProfile).Story ∧
    ∃ inspection : ReceiptInspection, inspection.Story (encodeAttestedDecision releaseDecision)
      (encodeAttestedExecution (executionUnder releaseProfile))
      (decisionReceiptId releaseDecision.receipt)
      (executionReceiptId (executionUnder releaseProfile).receipt) .opaqueView none := by
  have : LawfulCbor := rfc8949_lawful
  have : CompactCbor := rfc8949_compact
  have hsame := (sameProfile_executionUnder releaseProfile).mpr rfl
  obtain ⟨hportable, haudit, hinspection⟩ := linkedReceipts_iff
  have hinspected := @inspection_of_linked _ _ _ _ _ releaseDecision
    (executionUnder releaseProfile) rfl (fun _ _ _ => .ok ()) (fun _ _ _ => .ok ()) rfl rfl
  refine ⟨(hportable _ _ _ (portable_of_linked rfl)).mpr hsame, (haudit _).mpr ?_, _,
    (hinspection _ _ _ _ _ _ _ _ _ _ _ _ hinspected).mpr hsame⟩
  intro entry hentry
  rw [List.mem_singleton.mp hentry]
  exact hsame

/-- An execution whose claims are of another profile is accepted under the release decision. -/
theorem linkedReceipts_otherProfile :
    (decodePortableReceipt (portableExecutionBytes (encodeAttestedDecision releaseDecision)
        (encodeAttestedExecution (executionUnder paymentProfile))) =
      .ok (.execution (encodeAttestedDecision releaseDecision)
        (encodeAttestedExecution (executionUnder paymentProfile))) ∧
      ¬PortableStory (encodeAttestedDecision releaseDecision)
        (encodeAttestedExecution (executionUnder paymentProfile))) ∧
    ¬(auditUnder paymentProfile).Story ∧
    ∃ inspection, inspectAttestedExecutionReceipt (encodeAttestedDecision releaseDecision)
        (decisionReceiptId releaseDecision.receipt) receiptSigner.verifier (fun _ _ _ => .ok ())
        (encodeAttestedExecution (executionUnder paymentProfile))
        (executionReceiptId (executionUnder paymentProfile).receipt) receiptSigner.verifier
        (fun _ _ _ => .ok ()) .opaqueView none none = .ok inspection ∧
      inspection.metadata.profile = releaseProfile ∧
      ¬inspection.Story (encodeAttestedDecision releaseDecision)
        (encodeAttestedExecution (executionUnder paymentProfile))
        (decisionReceiptId releaseDecision.receipt)
        (executionReceiptId (executionUnder paymentProfile).receipt) .opaqueView none := by
  have : LawfulCbor := rfc8949_lawful
  have : CompactCbor := rfc8949_compact
  have hother : ¬SameProfile (encodeAttestedDecision releaseDecision)
      (encodeAttestedExecution (executionUnder paymentProfile)) := by
    rw [sameProfile_executionUnder]
    decide
  have hportable := @portable_of_linked _ _ _ _ _ releaseDecision
    (executionUnder paymentProfile) rfl
  have hinspection := @inspection_of_linked _ _ _ _ _ releaseDecision
    (executionUnder paymentProfile) rfl (fun _ _ _ => .ok ()) (fun _ _ _ => .ok ()) rfl rfl
  refine ⟨⟨hportable, (portableStory_iff hportable).not.mpr hother⟩, ?_, _, hinspection, rfl,
    (inspectionStory_iff hinspection).not.mpr hother⟩
  rw [auditStory_iff]
  intro h
  have hentry := h (executionReceiptId (executionUnder paymentProfile).receipt,
    encodeAttestedExecution (executionUnder paymentProfile)) (List.mem_singleton_self _)
  exact hother hentry

end Sample

end AuthsProof.Receipts
