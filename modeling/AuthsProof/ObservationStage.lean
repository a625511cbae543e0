import AuthsProof.Control

/-! The observation stage of one branch: every observation requirement of the chain must be met by an
attached observation that is authentic, anchored, fresh and satisfies its conditions. -/

namespace AuthsProof

open Sorting

def limitOrMalformed (error : CodecError) : VerificationFailure :=
  if error = .limitExceeded then exhausted else .denied .malformedProof

/-- Bounds the signed observation attachments of an action, counting them as it goes. -/
def checkObservationAttachments : Nat → List AttachmentDescriptor → Except VerificationFailure Unit
  | _, [] => .ok ()
  | count, descriptor :: descriptors =>
    if descriptor.mediaType.str ≠ observationMediaType then
      checkObservationAttachments count descriptors
    else if maxObservationAttachments < count + 1 ∨ maxObservationBytes < descriptor.byteLength.toNat
    then .error exhausted
    else checkObservationAttachments (count + 1) descriptors

def validateObservationAttachments (action : SignedAction) : Except VerificationFailure Unit :=
  checkObservationAttachments 0 action.envelope.attachments

section Requirements

variable [Cbor]

/-- Adds the requirements of one extension that are not yet known. -/
def addRequirements (known : List ObservationRequirement) (extension : CriticalExtension) :
    Except VerificationFailure (List ObservationRequirement) :=
  if extension.id ≠ observationRequirementExtensionV1 then .ok known
  else do
    let decoded ← (decodeObservationRequirements extension.bytes).mapError limitOrMalformed
    return decoded.items.foldl
      (fun known requirement => if requirement ∈ known then known else known ++ [requirement]) known

/-- The distinct requirements of every grant in the chain, in order of first appearance. -/
def chainObservationRequirements (chain : List SignedGrant) :
    Except VerificationFailure (List ObservationRequirement) := do
  let requirements ←
    (chain.flatMap fun grant => grant.statement.extensions.entries).foldlM addRequirements []
  require (requirements.length ≤ maxObservationRequirementsPerChain) exhausted
  return requirements

/-- A child may not drop a requirement of its parent: some requirement of the child has its schema
and subject. -/
def requireParentRequirements (parent child : SignedGrant) : Except VerificationFailure Unit := do
  let parentRequirements ← chainObservationRequirements [parent]
  let childRequirements :=
    match chainObservationRequirements [child] with
    | .ok requirements => requirements
    | .error _ => []
  require (parentRequirements.isEmpty = true ∨
      parentRequirements.all (fun parent => childRequirements.any fun child =>
        observationSchemaEqual child.schema parent.schema &&
          requirementSubjectEqual child.subject parent.subject) = true)
    (.denied .observationRequirementDropped)

end Requirements

/-- One decoded observation attachment and its authenticity, once established. -/
structure Candidate where
  digest : AttachmentDigest
  observation : SignedObservation
  authentic : Option Bool

/-- What one branch's observation stage reads. -/
structure ObservationStage where
  chain : List SignedGrant
  root : PrincipalId
  action : SignedAction
  canonical : CanonicalAction
  context : ContextParts
  registries : ImmutableRegistries

namespace ObservationStage

variable (stage : ObservationStage)

def inAuthorityChain (principal : PrincipalId) : Bool :=
  principalIdEqual principal stage.root ||
    principalIdEqual principal stage.action.envelope.actor ||
    stage.chain.any fun grant =>
      principalIdEqual principal grant.statement.issuer ||
        principalIdEqual principal grant.statement.subject

section Authenticity

variable [Cbor]

/-- Any failure but resource exhaustion makes the observation ignored. -/
def authentic (observation : SignedObservation) : Metered Bool :=
  let descriptor := observation.signature.descriptor
  let accepted := stage.context.acceptedRegistries
  match stage.registries.principalMethod accepted descriptor.principalMethod,
    stage.registries.signatureSuite accepted descriptor.suite with
  | some method, some suite =>
    if !observation.evidence.all fun object => accepted.acceptsEvidenceType object.evidenceType then
      pure false
    else do
      reserve method.maximumWorkUnits
      reserve suite.workUnits
      let statement := observation.statement
      let preimage := observationSigningPreimage statement descriptor
      match method.evaluateControl {
        principal := statement.observer
        verificationMethod := descriptor.verificationMethod
        signatureSuite := descriptor.suite
        purpose := .assertion
        signingPreimage := preimage
        signature := observation.signature.signature.bytes
        assertedSigningTime := statement.observedAt
        evidence := observation.evidence
        evaluationTime := stage.context.evaluationTime } with
      | .error _ => pure false
      | .ok control => do
        Run.ensure (control.workUnits ≤ method.maximumWorkUnits) exhausted
        if control.consumedEvidence ≠ observation.evidence.map EvidenceObject.id then pure false
        else
          match suite.verify {
            verificationKey := control.verificationKey
            signingPreimage := control.signatureMessage.getD preimage
            signature := observation.signature.signature.bytes } with
          | .ok _ => pure true
          | .error _ => pure false
  | _, _ => pure false

end Authenticity

section Eligibility

variable [Sha256]

def namespacesMatch (matcher : ResourceMatcher) (subject : ResourceId) :
    List ResourceId → Metered Bool
  | [] => pure false
  | namespaceId :: namespaces => do
    reserve (matcher.maximumWorkUnits namespaceId subject)
    let matched ← Run.ofExcept ((matcher.isMatch namespaceId subject).mapError registryOperationFailure)
    if matched then pure true else namespacesMatch matcher subject namespaces

def subjectInNamespaces (anchor : ObserverAnchor) (subject : ResourceId) : Metered Bool := do
  let matcher ← Run.ofOption
    (stage.registries.resourceMatcher stage.context.acceptedRegistries stage.context.resourceMatcher)
    (.indeterminate .unsupportedResourceMatcher)
  namespacesMatch matcher subject anchor.subjectNamespaces.items

variable [Cbor]

/-- Whether the observation counts for a requirement, with the candidate as the check leaves it. -/
def eligible (requirement : ObservationRequirement) (anchor : ObserverAnchor) (subject : ResourceId)
    (candidate : Candidate) : Metered (Bool × Candidate) :=
  let statement := candidate.observation.statement
  if !principalIdEqual statement.observer anchor.principal ||
      statement.schema ≠ requirement.schema ||
      requirement.schema ∉ anchor.schemas.items ||
      !observationSubjectEqual subject statement.subject ||
      !observationFresh statement.observedAt stage.context.evaluationTime
        requirement.maxAgeSeconds.toUInt64 anchor.validity.notBefore anchor.validity.expiresAt ||
      candidate.observation.signature.descriptor.principalMethod ∉ anchor.acceptedMethods.items then
    pure (false, candidate)
  else do
    let inside ← stage.subjectInNamespaces anchor statement.subject
    if !inside then pure (false, candidate)
    else
      match candidate.authentic with
      | some authentic => pure (authentic, candidate)
      | none => do
        let authentic ← stage.authentic candidate.observation
        pure (authentic, { candidate with authentic := some authentic })

/-- Whether some candidate is eligible, and the first eligible one that satisfies the conditions. -/
def scan (requirement : ObservationRequirement) (anchor : ObserverAnchor) (subject : ResourceId)
    (actionValues : List (Option FactValue)) :
    List Candidate → Metered (Bool × Option AttachmentDigest × List Candidate)
  | [] => pure (false, none, [])
  | candidate :: candidates => do
    let (counts, candidate) ← stage.eligible requirement anchor subject candidate
    if counts && observationConditionsHold requirement.conditions actionValues
        candidate.observation.statement.facts then
      pure (true, some candidate.digest, candidate :: candidates)
    else do
      let (anyEligible, satisfying, candidates) ←
        scan requirement anchor subject actionValues candidates
      pure (counts || anyEligible, satisfying, candidate :: candidates)

end Eligibility

section Facts

def resolveFact (policy : ProfilePolicy) (name : FactName) : Metered (Option FactValue) := do
  reserve (policy.maximumWorkUnits stage.canonical)
  Run.ofExcept ((policy.actionFact stage.canonical name).mapError registryOperationFailure)

/-- The action value of each condition, absent where the profile cannot supply one. -/
def conditionValues (policy : ProfilePolicy) :
    List ObservationCondition → Metered (Option (List (Option FactValue)))
  | [] => pure (some [])
  | condition :: conditions =>
    match condition.actionFact with
    | none => do
      let values ← conditionValues policy conditions
      pure (values.map (none :: ·))
    | some name => do
      match ← stage.resolveFact policy name with
      | none => pure none
      | some value => do
        let values ← conditionValues policy conditions
        pure (values.map (some value :: ·))

def subjectResource (policy : ProfilePolicy) : ObservationSubject → Metered (Option ResourceId)
  | .resource resource => pure (some resource)
  | .actionFact name => do
    match ← stage.resolveFact policy name with
    | some (.text text) => pure (ResourceId.parse text.str).toOption
    | _ => pure none

def actionFacts (requirement : ObservationRequirement) (policy : ProfilePolicy) :
    Metered (Option (ResourceId × List (Option FactValue))) := do
  match ← stage.subjectResource policy requirement.subject with
  | none => pure none
  | some subject => do
    let values ← stage.conditionValues policy requirement.conditions
    pure (values.map fun values => (subject, values))

end Facts

section Evaluate

variable [Cbor] [Sha256]

def candidatesFrom : List AttachmentDescriptor → Except VerificationFailure (List Candidate)
  | [] => .ok []
  | descriptor :: descriptors =>
    if descriptor.mediaType.str ≠ observationMediaType then candidatesFrom descriptors
    else
      match stage.canonical.detachedAttachments.find? fun attachment =>
          attachment.digest = descriptor.digest with
      | none => candidatesFrom descriptors
      | some detached => do
        let observation ← (decodeSignedObservation detached.bytes stage.context.limits).mapError
          limitOrMalformed
        let rest ← candidatesFrom descriptors
        return ⟨descriptor.digest, observation, none⟩ :: rest

def candidates : Except VerificationFailure (List Candidate) := do
  let candidates ← stage.candidatesFrom stage.action.envelope.attachments
  return sortByKey Candidate.digest candidates

/-- The verdict of one requirement; a failure of the run stops the whole stage. -/
def requirement (requirement : ObservationRequirement) (anchor : Option ObserverAnchor)
    (candidates : List Candidate) :
    Metered (Except VerificationFailure ObservationSatisfaction × List Candidate) :=
  match anchor with
  | none => pure (.error (.indeterminate .observationMissing), candidates)
  | some anchor => do
    let policy ← Run.ofOption
      (stage.registries.profilePolicy stage.context.acceptedRegistries stage.context.profilePolicy)
      (.indeterminate .unsupportedProfilePolicy)
    match ← stage.actionFacts requirement policy with
    | none => pure (.error (.indeterminate .observationActionFactUnavailable), candidates)
    | some (subject, actionValues) => do
      reserve (saturatingU64 (requirement.conditions.length * candidates.length + 1))
      let (anyEligible, satisfying, candidates) ←
        stage.scan requirement anchor subject actionValues candidates
      match requirementVerdict anyEligible satisfying.isSome, satisfying with
      | .satisfied, some digest =>
        pure (.ok ⟨observationRequirementId requirement, digest⟩, candidates)
      | .conditionFalse, _ => pure (.error (.denied .observationConditionFalse), candidates)
      | _, _ => pure (.error (.indeterminate .observationMissing), candidates)

/-- The observer anchor of each requirement; an observer may not take part in the authority it
conditions. -/
def anchorsFor : List ObservationRequirement → Except VerificationFailure (List (Option ObserverAnchor))
  | [] => .ok []
  | requirement :: requirements => do
    let anchor := stage.context.observerAnchors.find? fun anchor =>
      anchor.id = requirement.observerAnchor
    require (∀ found ∈ anchor, stage.inAuthorityChain found.principal = false)
      (.denied .observerInAuthorityChain)
    let anchors ← anchorsFor requirements
    return anchor :: anchors

/-- The satisfactions of the requirements in order. A denial stops the stage at once, and the first
missing fact fails it at the end. -/
def evaluateEach : List (ObservationRequirement × Option ObserverAnchor) → List Candidate →
    List ObservationSatisfaction → Option VerificationFailure → Metered (List ObservationSatisfaction)
  | [], _, satisfactions, unavailable =>
    match unavailable with
    | some failure => Run.fail failure
    | none => pure satisfactions
  | (requirement, anchor) :: rest, candidates, satisfactions, unavailable => do
    let (verdict, candidates) ← stage.requirement requirement anchor candidates
    match verdict with
    | .ok satisfaction =>
      evaluateEach rest candidates (satisfactions ++ [satisfaction]) unavailable
    | .error (.denied reason) => Run.fail (.denied reason)
    | .error failure =>
      evaluateEach rest candidates satisfactions (some (unavailable.getD failure))

def evaluate : Metered (List ObservationSatisfaction) := do
  let requirements ← Run.ofExcept (chainObservationRequirements stage.chain)
  if requirements.isEmpty then pure []
  else do
    let anchors ← Run.ofExcept (stage.anchorsFor requirements)
    let candidates ← Run.ofExcept stage.candidates
    stage.evaluateEach (requirements.zip anchors) candidates [] none

end Evaluate

end ObservationStage

end AuthsProof
