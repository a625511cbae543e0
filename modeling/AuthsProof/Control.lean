import AuthsProof.Lib.Run
import AuthsProof.Registries
import AuthsProof.Result

/-! The first stages of verification: decoding a proof, resolving its references and establishing
principal control over every signed statement. -/

namespace AuthsProof

open Sorting

/-- The work charged so far, and the most that may be charged. -/
structure WorkMeter where
  used : UInt64
  limit : UInt64
  deriving DecidableEq

def WorkMeter.new (limit : UInt64) : WorkMeter := ⟨0, limit⟩

def WorkMeter.fromUsed (limit used : UInt64) : WorkMeter := ⟨used, limit⟩

abbrev Metered (α : Type) := Run VerificationFailure WorkMeter α

/-- The failure of every exhausted limit. -/
def exhausted : VerificationFailure := .denied .resourceLimitExceeded

/-- Charges `maximum` before the work it bounds; a refused reservation charges nothing. -/
def reserve (maximum : UInt64) : Metered Unit := fun meter =>
  if 2 ^ 64 ≤ meter.used.toNat + maximum.toNat then (.error exhausted, meter)
  else if meter.limit < meter.used + maximum then (.error exhausted, meter)
  else (.ok (), { meter with used := meter.used + maximum })

def codecFailure : CodecError → VerificationFailure
  | .limitExceeded => exhausted
  | .model .unsupportedProtocol => .indeterminate .unsupportedProtocol
  | .malformed => .denied .malformedProof
  | .model _ => .denied .malformedProof
  | .nonCanonical => .denied .nonCanonicalProof
  | .digestMismatch => .denied .digestMismatch
  | .duplicateObject => .denied .duplicateObject

def controlFailure : PrincipalControlError → VerificationFailure
  | .principalMethodMismatch => .denied .principalMethodMismatch
  | .invalidEvidence => .denied .principalMethodMismatch
  | .verificationMethodMismatch => .denied .verificationMethodMismatch
  | .signatureSuiteMismatch => .denied .signatureSuiteMismatch
  | .missingEvidence => .indeterminate .missingPrincipalEvidence
  | .resourceLimitExceeded => exhausted
  | .externalFactUnavailable => .indeterminate .externalFactUnavailable
  | .historicalStateUnavailable => .indeterminate .historicalStateUnavailable
  | .principalRevoked => .denied .principalRevoked

def signatureFailure (_ : SignatureError) : VerificationFailure := .denied .invalidSignature

def registryOperationFailure : RegistryOperationError → VerificationFailure
  | .resourceLimitExceeded => exhausted
  | .invalidInput => .denied .localPolicyDenied

structure DecodedProof where
  bundle : ProofBundle
  proofDigest : Digest

/-- A signed object of the bundle under its identifier. -/
structure GrantRecord where
  id : GrantId
  grant : SignedGrant

structure ActionRecord where
  id : ActionId
  action : SignedAction

structure ResolvedProof where
  decoded : DecodedProof
  planId : PlanId
  grants : List GrantRecord
  actions : List ActionRecord

/-- The `Except` guard: `failure` unless `p`. -/
def require (p : Prop) [Decidable p] (failure : VerificationFailure) : Except VerificationFailure Unit :=
  if p then .ok () else .error failure

@[simp] theorem require_eq_ok {p : Prop} [Decidable p] {failure : VerificationFailure} {u : Unit} :
    require p failure = .ok u ↔ p := by
  by_cases hp : p <;> simp [require, hp]

section Resolve

variable [Cbor] [Sha256]

def decodeProof (proofBytes : Bytes) (context : ContextParts) :
    Except VerificationFailure DecodedProof := do
  let bundle ← (decodeBundle proofBytes context.limits).mapError codecFailure
  return ⟨bundle, proofDigest bundle⟩

theorem decodeBundle_of_decodeProof {proofBytes : Bytes} {context : ContextParts}
    {decoded : DecodedProof} (h : decodeProof proofBytes context = .ok decoded) :
    decodeBundle proofBytes context.limits = .ok decoded.bundle := by
  simp only [decodeProof, Except.bind_eq_ok] at h
  obtain ⟨bundle, hbundle, hreturn⟩ := h
  rw [← Except.ok.inj hreturn]
  cases hdecode : decodeBundle proofBytes context.limits with
  | error error => rw [hdecode] at hbundle; cases hbundle
  | ok found => rw [hdecode] at hbundle; exact congrArg Except.ok (Except.ok.inj hbundle)

omit [Cbor] [Sha256] in
def requireExpectedPlan (context : ContextParts) (actual : PlanId) : Except VerificationFailure Unit :=
  require (∀ expected ∈ context.composition.expectedPlan, expected = actual)
    (.denied .compositionRequirementNotMet)

def grantRecords (grants : List SignedGrant) : List GrantRecord :=
  sortByKey GrantRecord.id (grants.map fun grant => ⟨grantId grant.statement, grant⟩)

/-- The actions of the plan, each under a proof reference of its own; `seen` are the references of the
actions before. -/
def checkActions (plan : PlanId) : List ProofRef → List SignedAction → Except VerificationFailure Unit
  | _, [] => .ok ()
  | seen, action :: actions => do
    require (action.envelope.authorizationPlan = plan) (.denied .planActionMismatch)
    require (action.envelope.proofRef ∉ seen) (.denied .duplicateObject)
    checkActions plan (action.envelope.proofRef :: seen) actions

def actionRecords (actions : List SignedAction) : List ActionRecord :=
  sortByKey ActionRecord.id (actions.map fun action => ⟨actionId action.envelope, action⟩)

/-- The identifiers of the statements of a snapshot, in order, which must be distinct. -/
def statusRecords {σ : Type} (identifier : StatusStatement σ → Digest)
    (statements : List (SignedStatus σ)) : Except VerificationFailure (List Digest) := do
  let values := sortByKey id (statements.map fun status => identifier status.statement)
  require (adjacentDistinct values = true) (.denied .duplicateObject)
  return values

def principalStatusRecords (context : ContextParts) :
    Except VerificationFailure (List PrincipalStatusId) :=
  statusRecords principalStatusId context.principalStatusSnapshot.statements

def grantStatusRecords (context : ContextParts) : Except VerificationFailure (List GrantStatusId) :=
  statusRecords grantStatusId context.grantStatusSnapshot.statements

omit [Cbor] [Sha256] in
def statementExists (grants : List GrantRecord) (actions : List ActionRecord)
    (principalStatus : List PrincipalStatusId) (grantStatus : List GrantStatusId) :
    StatementRef → Bool
  | .grant id => grants.any fun record => record.id = id
  | .action id => actions.any fun record => record.id = id
  | .principalStatus id => id ∈ principalStatus
  | .grantStatus id => id ∈ grantStatus

omit [Cbor] [Sha256] in
/-- Each binding names a statement that exists, none twice, and evidence the bundle holds. -/
def checkBindings (known : StatementRef → Bool) (evidence : List EvidenceId) :
    List StatementRef → List ControlBinding → Except VerificationFailure Unit
  | _, [] => .ok ()
  | seen, binding :: bindings => do
    require (binding.statement ∉ seen) (.denied .duplicateObject)
    require (known binding.statement = true ∧ ∀ id ∈ binding.evidence, id ∈ evidence)
      (.denied .missingReference)
    checkBindings known evidence (binding.statement :: seen) bindings

omit [Cbor] [Sha256] in
def findGrant (grants : List GrantRecord) (id : GrantId) : Except VerificationFailure SignedGrant :=
  match grants.find? fun record => record.id = id with
  | some record => .ok record.grant
  | none => .error (.denied .missingReference)

omit [Cbor] [Sha256] in
/-- Follows the parent links from `cursor` and returns the identifiers met; `branch` are those already
met. A link that meets one of them again is a cycle, so the walk ends within one step more than there
are grants. -/
def resolveChain (grants : List GrantRecord) :
    Nat → List GrantId → Option GrantId → Except VerificationFailure (List GrantId)
  | _, _, none => .ok []
  | 0, _, some _ => .error (.denied .referenceCycle)
  | steps + 1, branch, some id => do
    require (id ∉ branch) (.denied .referenceCycle)
    let grant ← findGrant grants id
    let rest ← resolveChain grants steps (id :: branch) grant.statement.parent
    return id :: rest

omit [Cbor] [Sha256] in
/-- The grants on the chains of the actions. -/
def usedGrants (grants : List GrantRecord) :
    List SignedAction → Except VerificationFailure (List GrantId)
  | [] => .ok []
  | action :: actions => do
    let chain ← resolveChain grants (grants.length + 1) [] action.envelope.terminalGrant
    let rest ← usedGrants grants actions
    return chain ++ rest

omit [Cbor] [Sha256] in
def rejectDuplicateAttachments (bundle : ProofBundle) : Except VerificationFailure Unit :=
  require (adjacentDistinct (bundle.attachments.map AttachmentDescriptor.digest) = true)
    (.denied .duplicateAttachment)

omit [Cbor] [Sha256] in
/-- A newer statement about the same subject, under the same method and by the same issuer. -/
def superseded {σ : Type} [DecidableEq σ] (statements : List (SignedStatus σ))
    (carried : SignedStatus σ) : Bool :=
  statements.any fun current =>
    current.statement.subject = carried.statement.subject ∧
      current.statement.method = carried.statement.method ∧
      current.statement.issuer = carried.statement.issuer ∧
      carried.statement.sequence < current.statement.sequence

omit [Cbor] [Sha256] in
/-- Every rollback check comes before any check that the snapshot holds what the proof carries. -/
def validateCarriedStatus (bundle : ProofBundle) (context : ContextParts) :
    Except VerificationFailure Unit := do
  require (¬((bundle.principalStatus.any (superseded context.principalStatusSnapshot.statements) ||
      bundle.grantStatus.any (superseded context.grantStatusSnapshot.statements)) = true))
    (.denied .statusSequenceRollback)
  require ((∀ carried ∈ bundle.principalStatus,
      carried ∈ context.principalStatusSnapshot.statements) ∧
      ∀ carried ∈ bundle.grantStatus, carried ∈ context.grantStatusSnapshot.statements)
    (.denied .digestMismatch)

def resolveProof (decoded : DecodedProof) (context : ContextParts) :
    Except VerificationFailure ResolvedProof := do
  let bundle := decoded.bundle
  let computedPlanId := planId bundle.plan.plan
  requireExpectedPlan context computedPlanId
  let grants := grantRecords bundle.grants
  require (adjacentDistinct (grants.map GrantRecord.id) = true) (.denied .duplicateObject)
  checkActions computedPlanId [] bundle.actions
  let actions := actionRecords bundle.actions
  require (adjacentDistinct (actions.map ActionRecord.id) = true) (.denied .duplicateObject)
  let shape ← (bundle.plan.plan.validate context.limits).mapError
    fun _ => .denied .authorizationPlanInvalid
  require (shape.leaves.length = bundle.actions.length ∧
      ∀ reference ∈ shape.leaves, ∃ action ∈ bundle.actions, action.envelope.proofRef = reference)
    (.denied .missingReference)
  let evidenceIds := bundle.evidence.map EvidenceObject.id
  require evidenceIds.Nodup (.denied .duplicateObject)
  let principalStatus ← principalStatusRecords context
  let grantStatus ← grantStatusRecords context
  checkBindings (statementExists grants actions principalStatus grantStatus) evidenceIds []
    bundle.bindings
  let used ← usedGrants grants bundle.actions
  require (used.dedup.length = grants.length) (.denied .unusedCriticalEvidence)
  rejectDuplicateAttachments bundle
  validateCarriedStatus bundle context
  return ⟨decoded, computedPlanId, grants, actions⟩

/-- What a resolved proof holds, and what was checked of it. -/
structure Resolves (decoded : DecodedProof) (context : ContextParts) (resolved : ResolvedProof) :
    Prop where
  eq : resolved = ⟨decoded, planId decoded.bundle.plan.plan, grantRecords decoded.bundle.grants,
    actionRecords decoded.bundle.actions⟩
  grantsDistinct :
    adjacentDistinct ((grantRecords decoded.bundle.grants).map GrantRecord.id) = true
  actionsDistinct :
    adjacentDistinct ((actionRecords decoded.bundle.actions).map ActionRecord.id) = true
  plan : ∃ shape, decoded.bundle.plan.plan.validate context.limits = .ok shape
  principalStatus : ∃ ids, principalStatusRecords context = .ok ids
  grantStatus : ∃ ids, grantStatusRecords context = .ok ids

theorem resolves_of_resolveProof {decoded : DecodedProof} {context : ContextParts}
    {resolved : ResolvedProof} (h : resolveProof decoded context = .ok resolved) :
    Resolves decoded context resolved := by
  simp only [resolveProof, Except.bind_eq_ok, require_eq_ok] at h
  obtain ⟨_, _, _, hgrants, _, _, _, hactions, shape, hshape, _, _, _, _, principalStatus, hprincipal,
    grantStatus, hgrant, _, _, _, _, _, _, _, _, _, _, hreturn⟩ := h
  refine ⟨(Except.ok.inj hreturn).symm, hgrants, hactions, ⟨shape, ?_⟩, ⟨_, hprincipal⟩, ⟨_, hgrant⟩⟩
  cases hvalidate : decoded.bundle.plan.plan.validate context.limits with
  | error error => rw [hvalidate] at hshape; cases hshape
  | ok found => rw [hvalidate] at hshape; exact congrArg Except.ok (Except.ok.inj hshape)

end Resolve

/-- The outcome of the control check of one signed statement. -/
structure VerifiedControl where
  statement : StatementRef
  principal : PrincipalId
  result : Except VerificationFailure ControlEvidence

structure ControlVerifiedProof where
  resolved : ResolvedProof
  controls : List VerifiedControl
  workUnits : UInt64

section Control

variable (context : ContextParts) (registries : ImmutableRegistries)

/-- Establishes principal control over one signature, with its work reserved before the method and
the suite run. Every failure is returned, resource exhaustion included. -/
def evaluateSignature (principal : PrincipalId) (signature : SignatureEnvelope)
    (signingPreimage : Bytes) (purpose : ControlPurpose) (assertedSigningTime : Timestamp)
    (evidence : Except VerificationFailure (List EvidenceObject)) : Metered ControlEvidence := do
  let descriptor := signature.descriptor
  let method ← Run.ofOption
    (registries.principalMethod context.acceptedRegistries descriptor.principalMethod)
    (.indeterminate .unsupportedPrincipalMethod)
  let suite ← Run.ofOption
    (registries.signatureSuite context.acceptedRegistries descriptor.suite)
    (.indeterminate .unsupportedSignatureSuite)
  let evidence ← Run.ofExcept evidence
  Run.ensure (evidence.all (fun object =>
      context.acceptedRegistries.acceptsEvidenceType object.evidenceType) = true)
    (.indeterminate .unsupportedEvidenceType)
  reserve method.maximumWorkUnits
  reserve suite.workUnits
  let control ← Run.ofExcept <| (method.evaluateControl {
    principal
    verificationMethod := descriptor.verificationMethod
    signatureSuite := descriptor.suite
    purpose
    signingPreimage
    signature := signature.signature.bytes
    assertedSigningTime
    evidence
    evaluationTime := context.evaluationTime }).mapError controlFailure
  Run.ensure (control.workUnits ≤ method.maximumWorkUnits) exhausted
  Run.ofExcept <| (suite.verify {
    verificationKey := control.verificationKey
    signingPreimage := control.signatureMessage.getD signingPreimage
    signature := signature.signature.bytes }).mapError signatureFailure
  pure control

def findEvidence (bundle : ProofBundle) (id : EvidenceId) :
    Except VerificationFailure EvidenceObject :=
  match bundle.evidence.find? fun object => object.id = id with
  | some object => .ok object
  | none => .error (.denied .missingReference)

def boundEvidence (bundle : ProofBundle) (statement : StatementRef) :
    Except VerificationFailure (List EvidenceObject) :=
  match bundle.bindings.find? fun binding => binding.statement = statement with
  | some binding => binding.evidence.mapM (findEvidence bundle)
  | none => .error (.indeterminate .missingPrincipalEvidence)

/-- Only resource exhaustion stops the stage; any other failure is the statement's own. -/
def verifySigned (bundle : ProofBundle) (statement : StatementRef) (principal : PrincipalId)
    (signature : SignatureEnvelope) (signingPreimage : Bytes) (purpose : ControlPurpose)
    (assertedSigningTime : Timestamp) : Metered VerifiedControl := do
  let result ← Run.attempt (evaluateSignature context registries principal signature signingPreimage
    purpose assertedSigningTime (boundEvidence bundle statement))
  match result with
  | .error failure =>
    if failure = exhausted then Run.fail exhausted
    else pure ⟨statement, principal, .error failure⟩
  | .ok control => pure ⟨statement, principal, .ok control⟩

variable [Cbor] [Sha256]

def verifyGrant (bundle : ProofBundle) (record : GrantRecord) : Metered VerifiedControl :=
  verifySigned context registries bundle (.grant record.id) record.grant.statement.issuer
    record.grant.signature
    (grantSigningPreimage record.grant.statement record.grant.signature.descriptor)
    .capabilityDelegation record.grant.statement.validity.notBefore

def verifyAction (bundle : ProofBundle) (record : ActionRecord) : Metered VerifiedControl :=
  verifySigned context registries bundle (.action record.id) record.action.envelope.actor
    record.action.signature
    (actionSigningPreimage record.action.envelope record.action.signature.descriptor)
    .capabilityInvocation record.action.envelope.validity.notBefore

def verifyPrincipalStatus (bundle : ProofBundle) (status : SignedPrincipalStatus) :
    Metered VerifiedControl :=
  verifySigned context registries bundle (.principalStatus (principalStatusId status.statement))
    status.statement.issuer status.signature
    (principalStatusSigningPreimage status.statement status.signature.descriptor)
    .assertion status.statement.observedAt

def verifyGrantStatus (bundle : ProofBundle) (status : SignedGrantStatus) : Metered VerifiedControl :=
  verifySigned context registries bundle (.grantStatus (grantStatusId status.statement))
    status.statement.issuer status.signature
    (grantStatusSigningPreimage status.statement status.signature.descriptor)
    .assertion status.statement.observedAt

def verifyStatusControls (bundle : ProofBundle) : Metered (List VerifiedControl) := do
  let principalControls ← Run.traverse context.principalStatusSnapshot.statements
    (verifyPrincipalStatus context registries bundle)
  let grantControls ← Run.traverse context.grantStatusSnapshot.statements
    (verifyGrantStatus context registries bundle)
  pure (principalControls ++ grantControls)

def verifyControls (resolved : ResolvedProof) : Metered (List VerifiedControl) := do
  let bundle := resolved.decoded.bundle
  let grantControls ← Run.traverse resolved.grants (verifyGrant context registries bundle)
  let actionControls ← Run.traverse resolved.actions (verifyAction context registries bundle)
  let statusControls ← verifyStatusControls context registries bundle
  pure (grantControls ++ actionControls ++ statusControls)

omit [Cbor] [Sha256] in
/-- Whether a statement under control consumed exactly the evidence bound to it. -/
def evidenceConsumed (bundle : ProofBundle) (control : VerifiedControl) : Bool :=
  match control.result with
  | .error _ => true
  | .ok evidence =>
    let bound := match bundle.bindings.find? fun binding => binding.statement = control.statement with
      | some binding => binding.evidence
      | none => []
    bound ⊆ evidence.consumedEvidence ∧ evidence.consumedEvidence ⊆ bound

omit [Cbor] [Sha256] in
/-- The evidence some binding or checkpoint names. -/
def consumedEvidence (bundle : ProofBundle) : List EvidenceId :=
  bundle.bindings.flatMap ControlBinding.evidence ++
    (context.principalStatusSnapshot.checkpoints.items ++
      context.grantStatusSnapshot.checkpoints.items)

def verifyPrincipalControl (resolved : ResolvedProof) :
    Except VerificationFailure ControlVerifiedProof := do
  require (context.acceptedRegistries.manifestId = registries.manifestId)
    (.denied .registryManifestMismatch)
  require (context.configuration = registries.configurationId)
    (.denied .verifierConfigurationMismatch)
  let bundle := resolved.decoded.bundle
  let run := verifyControls context registries resolved (WorkMeter.new context.limits.maxWorkUnits)
  let controls ← run.1
  require (controls.all (evidenceConsumed bundle) = true) (.denied .unusedCriticalEvidence)
  require (bundle.evidence.all (fun evidence => evidence.id ∈ consumedEvidence context bundle) = true)
    (.denied .unusedCriticalEvidence)
  return ⟨resolved, controls, run.2.used⟩

theorem verifyPrincipalControl_resolved {resolved : ResolvedProof} {controlled : ControlVerifiedProof}
    (h : verifyPrincipalControl context registries resolved = .ok controlled) :
    controlled.resolved = resolved := by
  simp only [verifyPrincipalControl, Except.bind_eq_ok, require_eq_ok] at h
  obtain ⟨_, _, _, _, controls, _, _, _, _, _, hreturn⟩ := h
  rw [← Except.ok.inj hreturn]

end Control

def controlFor (controls : List VerifiedControl) (statement : StatementRef) :
    Except VerificationFailure (PrincipalId × ControlEvidence) :=
  match controls.find? fun control => control.statement = statement with
  | some control => control.result.map fun evidence => (control.principal, evidence)
  | none => .error (.indeterminate .missingPrincipalEvidence)

end AuthsProof
