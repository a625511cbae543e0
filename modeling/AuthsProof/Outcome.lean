import AuthsProof.Identifier

/-! Stable denial and requirement codes, the vocabulary of every verification outcome. -/

namespace AuthsProof

inductive DenialReason where
  | malformedProof
  | nonCanonicalProof
  | resourceLimitExceeded
  | digestMismatch
  | duplicateObject
  | missingReference
  | referenceCycle
  | ambiguousTerminalGrant
  | unusedCriticalEvidence
  | invalidSignature
  | principalMethodMismatch
  | verificationMethodMismatch
  | signatureSuiteMismatch
  | untrustedRoot
  | brokenGrantChain
  | delegationExpanded
  | permissionNotGranted
  | actionConstraintMismatch
  | budgetCeilingExceeded
  | authorizationPlanInvalid
  | compositionRequirementNotMet
  | planActionMismatch
  | actionBodyMismatch
  | audienceMismatch
  | challengeMismatch
  | actionOutsideValidity
  | principalRevoked
  | grantRevoked
  | statusSequenceRollback
  | statusMethodMismatch
  | statusIssuerUntrusted
  | registryManifestMismatch
  | verifierConfigurationMismatch
  | resourceNamespaceMismatch
  | criticalExtensionUnknown
  | attachmentMissing
  | attachmentDigestMismatch
  | attachmentLengthMismatch
  | duplicateAttachment
  | unusedCriticalAttachment
  | opaqueAttachmentNotAllowed
  | localPolicyDenied
  | observationConditionFalse
  | observerInAuthorityChain
  | observationRequirementDropped
  | approvalThresholdNotMet
  deriving DecidableEq

def DenialReason.code : DenialReason → String
  | .malformedProof => "malformed-proof"
  | .nonCanonicalProof => "non-canonical-proof"
  | .resourceLimitExceeded => "resource-limit-exceeded"
  | .digestMismatch => "digest-mismatch"
  | .duplicateObject => "duplicate-object"
  | .missingReference => "missing-reference"
  | .referenceCycle => "reference-cycle"
  | .ambiguousTerminalGrant => "ambiguous-terminal-grant"
  | .unusedCriticalEvidence => "unused-critical-evidence"
  | .invalidSignature => "invalid-signature"
  | .principalMethodMismatch => "principal-method-mismatch"
  | .verificationMethodMismatch => "verification-method-mismatch"
  | .signatureSuiteMismatch => "signature-suite-mismatch"
  | .untrustedRoot => "untrusted-root"
  | .brokenGrantChain => "broken-grant-chain"
  | .delegationExpanded => "delegation-expanded"
  | .permissionNotGranted => "permission-not-granted"
  | .actionConstraintMismatch => "action-constraint-mismatch"
  | .budgetCeilingExceeded => "budget-ceiling-exceeded"
  | .authorizationPlanInvalid => "authorization-plan-invalid"
  | .compositionRequirementNotMet => "composition-requirement-not-met"
  | .planActionMismatch => "plan-action-mismatch"
  | .actionBodyMismatch => "action-body-mismatch"
  | .audienceMismatch => "audience-mismatch"
  | .challengeMismatch => "challenge-mismatch"
  | .actionOutsideValidity => "action-outside-validity"
  | .principalRevoked => "principal-revoked"
  | .grantRevoked => "grant-revoked"
  | .statusSequenceRollback => "status-sequence-rollback"
  | .statusMethodMismatch => "status-method-mismatch"
  | .statusIssuerUntrusted => "status-issuer-untrusted"
  | .registryManifestMismatch => "registry-manifest-mismatch"
  | .verifierConfigurationMismatch => "verifier-configuration-mismatch"
  | .resourceNamespaceMismatch => "resource-namespace-mismatch"
  | .criticalExtensionUnknown => "critical-extension-unknown"
  | .attachmentMissing => "attachment-missing"
  | .attachmentDigestMismatch => "attachment-digest-mismatch"
  | .attachmentLengthMismatch => "attachment-length-mismatch"
  | .duplicateAttachment => "duplicate-attachment"
  | .unusedCriticalAttachment => "unused-critical-attachment"
  | .opaqueAttachmentNotAllowed => "opaque-attachment-not-allowed"
  | .localPolicyDenied => "local-policy-denied"
  | .observationConditionFalse => "observation-condition-false"
  | .observerInAuthorityChain => "observer-in-authority-chain"
  | .observationRequirementDropped => "observation-requirement-dropped"
  | .approvalThresholdNotMet => "approval-threshold-not-met"

def DenialReason.all : List DenialReason :=
  [.malformedProof, .nonCanonicalProof, .resourceLimitExceeded, .digestMismatch, .duplicateObject,
    .missingReference, .referenceCycle, .ambiguousTerminalGrant, .unusedCriticalEvidence,
    .invalidSignature, .principalMethodMismatch, .verificationMethodMismatch,
    .signatureSuiteMismatch, .untrustedRoot, .brokenGrantChain, .delegationExpanded,
    .permissionNotGranted, .actionConstraintMismatch, .budgetCeilingExceeded,
    .authorizationPlanInvalid, .compositionRequirementNotMet, .planActionMismatch,
    .actionBodyMismatch, .audienceMismatch, .challengeMismatch, .actionOutsideValidity,
    .principalRevoked, .grantRevoked, .statusSequenceRollback, .statusMethodMismatch,
    .statusIssuerUntrusted, .registryManifestMismatch, .verifierConfigurationMismatch,
    .resourceNamespaceMismatch, .criticalExtensionUnknown, .attachmentMissing,
    .attachmentDigestMismatch, .attachmentLengthMismatch, .duplicateAttachment,
    .unusedCriticalAttachment, .opaqueAttachmentNotAllowed, .localPolicyDenied,
    .observationConditionFalse, .observerInAuthorityChain, .observationRequirementDropped,
    .approvalThresholdNotMet]

def DenialReason.fromCode (code : String) : Option DenialReason :=
  DenialReason.all.find? fun reason => reason.code == code

theorem DenialReason.mem_all (reason : DenialReason) : reason ∈ DenialReason.all := by
  cases reason <;> decide

@[simp] theorem DenialReason.fromCode_code (reason : DenialReason) :
    DenialReason.fromCode reason.code = some reason := by
  have hall : ∀ reason ∈ DenialReason.all, DenialReason.fromCode reason.code = some reason := by decide +kernel
  exact hall reason reason.mem_all

theorem DenialReason.code_injective : Function.Injective DenialReason.code := by
  intro a b h
  have hcode := DenialReason.fromCode_code a
  rw [h, DenialReason.fromCode_code] at hcode
  exact (Option.some.inj hcode).symm

inductive Requirement where
  | unsupportedProtocol
  | unsupportedPrincipalMethod
  | unsupportedSignatureSuite
  | unsupportedEvidenceType
  | unsupportedStatusMethod
  | unsupportedProfile
  | unsupportedProfilePolicy
  | unsupportedResourceMatcher
  | unsupportedBudgetAlgebra
  | unsupportedCriticalExtension
  | unsupportedAssuranceClaim
  | missingPrincipalEvidence
  | missingPrincipalStatus
  | missingGrantStatus
  | staleStatus
  | historicalStateUnavailable
  | assuranceRequirementNotMet
  | externalFactUnavailable
  | observationMissing
  | observationActionFactUnavailable
  | approvalUnavailable
  deriving DecidableEq

def Requirement.code : Requirement → String
  | .unsupportedProtocol => "unsupported-protocol"
  | .unsupportedPrincipalMethod => "unsupported-principal-method"
  | .unsupportedSignatureSuite => "unsupported-signature-suite"
  | .unsupportedEvidenceType => "unsupported-evidence-type"
  | .unsupportedStatusMethod => "unsupported-status-method"
  | .unsupportedProfile => "unsupported-profile"
  | .unsupportedProfilePolicy => "unsupported-profile-policy"
  | .unsupportedResourceMatcher => "unsupported-resource-matcher"
  | .unsupportedBudgetAlgebra => "unsupported-budget-algebra"
  | .unsupportedCriticalExtension => "unsupported-critical-extension"
  | .unsupportedAssuranceClaim => "unsupported-assurance-claim"
  | .missingPrincipalEvidence => "missing-principal-evidence"
  | .missingPrincipalStatus => "missing-principal-status"
  | .missingGrantStatus => "missing-grant-status"
  | .staleStatus => "stale-status"
  | .historicalStateUnavailable => "historical-state-unavailable"
  | .assuranceRequirementNotMet => "assurance-requirement-not-met"
  | .externalFactUnavailable => "external-fact-unavailable"
  | .observationMissing => "observation-missing"
  | .observationActionFactUnavailable => "observation-action-fact-unavailable"
  | .approvalUnavailable => "approval-unavailable"

def Requirement.all : List Requirement :=
  [.unsupportedProtocol, .unsupportedPrincipalMethod, .unsupportedSignatureSuite,
    .unsupportedEvidenceType, .unsupportedStatusMethod, .unsupportedProfile,
    .unsupportedProfilePolicy, .unsupportedResourceMatcher, .unsupportedBudgetAlgebra,
    .unsupportedCriticalExtension, .unsupportedAssuranceClaim, .missingPrincipalEvidence,
    .missingPrincipalStatus, .missingGrantStatus, .staleStatus, .historicalStateUnavailable,
    .assuranceRequirementNotMet, .externalFactUnavailable, .observationMissing,
    .observationActionFactUnavailable, .approvalUnavailable]

def Requirement.fromCode (code : String) : Option Requirement :=
  Requirement.all.find? fun requirement => requirement.code == code

theorem Requirement.mem_all (requirement : Requirement) : requirement ∈ Requirement.all := by
  cases requirement <;> decide

@[simp] theorem Requirement.fromCode_code (requirement : Requirement) :
    Requirement.fromCode requirement.code = some requirement := by
  have hall : ∀ requirement ∈ Requirement.all, Requirement.fromCode requirement.code = some requirement := by decide +kernel
  exact hall requirement requirement.mem_all

theorem Requirement.code_injective : Function.Injective Requirement.code := by
  intro a b h
  have hcode := Requirement.fromCode_code a
  rw [h, Requirement.fromCode_code] at hcode
  exact (Option.some.inj hcode).symm

/-- Why verification stopped short of an authorization. -/
inductive VerificationFailure where
  | denied (reason : DenialReason)
  | indeterminate (requirement : Requirement)
  deriving DecidableEq

end AuthsProof
