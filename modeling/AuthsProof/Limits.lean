import AuthsProof.Scope

/-! The configurable limits of a verifier and the protocol hard maxima no deployment exceeds. -/

namespace AuthsProof

inductive LimitKind where
  | bundleBytes
  | actionBytes
  | contextBytes
  | grants
  | actions
  | planLeaves
  | planDepth
  | planBranching
  | evidenceObjects
  | evidenceBytes
  | controlBindings
  | principalStatusStatements
  | grantStatusStatements
  | attachments
  | attachmentBytes
  | signatures
  | signatureBytes
  | permissions
  | audiences
  | criticalExtensions
  | criticalExtensionBytes
  | allowedBodyDigests
  | bindingEvidence
  | canonicalBodyBytes
  | registryEntries
  | trustAnchors
  | approvals
  | approverAnchors
  | approvalRequirements
  deriving DecidableEq

def hardLimit : LimitKind → Nat
  | .bundleBytes => 8 * 1024 * 1024
  | .actionBytes => 16 * 1024 * 1024
  | .contextBytes => 16 * 1024 * 1024
  | .grants => 256
  | .actions => 128
  | .planLeaves => 128
  | .planDepth => 16
  | .planBranching => 128
  | .evidenceObjects => 512
  | .evidenceBytes => 2 * 1024 * 1024
  | .controlBindings => 512
  | .principalStatusStatements => 512
  | .grantStatusStatements => 512
  | .attachments => 512
  | .attachmentBytes => 8 * 1024 * 1024
  | .signatures => 1024
  | .signatureBytes => 4096
  | .permissions => 1024
  | .audiences => 256
  | .criticalExtensions => 32
  | .criticalExtensionBytes => 65536
  | .allowedBodyDigests => 256
  | .bindingEvidence => 32
  | .canonicalBodyBytes => 8 * 1024 * 1024
  | .registryEntries => 1024
  | .trustAnchors => 1024
  | .approvals => 128
  | .approverAnchors => 32
  | .approvalRequirements => 4

def defaultLimit : LimitKind → Nat
  | .bundleBytes => 256 * 1024
  | .actionBytes => 2 * 1024 * 1024
  | .contextBytes => 2 * 1024 * 1024
  | .grants => 16
  | .actions => 16
  | .planLeaves => 16
  | .planDepth => 8
  | .planBranching => 16
  | .evidenceObjects => 32
  | .evidenceBytes => 64 * 1024
  | .controlBindings => 32
  | .principalStatusStatements => 32
  | .grantStatusStatements => 32
  | .attachments => 32
  | .attachmentBytes => 1024 * 1024
  | .signatures => 64
  | .signatureBytes => 512
  | .permissions => 64
  | .audiences => 32
  | .criticalExtensions => 8
  | .criticalExtensionBytes => 16384
  | .allowedBodyDigests => 32
  | .bindingEvidence => 8
  | .canonicalBodyBytes => 1024 * 1024
  | .registryEntries => 64
  | .trustAnchors => 32
  | .approvals => 128
  | .approverAnchors => 32
  | .approvalRequirements => 4

def hardMaxWorkUnits : UInt64 := 1000000
def defaultMaxWorkUnits : UInt64 := 50000

/-- Limits within the protocol hard maxima; no constructor of the source yields any other. -/
@[ext] structure VerifierLimits where
  get : LimitKind → Nat
  maxWorkUnits : UInt64
  get_le : ∀ kind, get kind ≤ hardLimit kind
  maxWorkUnits_le : maxWorkUnits ≤ hardMaxWorkUnits

theorem VerifierLimits.get_lt (limits : VerifierLimits) (kind : LimitKind) :
    limits.get kind < 2 ^ 64 := by
  have hhard : hardLimit kind < 2 ^ 64 := by cases kind <;> decide
  exact lt_of_le_of_lt (limits.get_le kind) hhard

def VerifierLimits.hard : VerifierLimits where
  get := hardLimit
  maxWorkUnits := hardMaxWorkUnits
  get_le _ := le_rfl
  maxWorkUnits_le := le_rfl

def VerifierLimits.defaultDeployment : VerifierLimits where
  get := defaultLimit
  maxWorkUnits := defaultMaxWorkUnits
  get_le kind := by cases kind <;> decide
  maxWorkUnits_le := by decide

def VerifierLimits.withLimit (limits : VerifierLimits) (kind : LimitKind) (value : Nat) :
    Except ModelError VerifierLimits :=
  if h : value ≤ hardLimit kind then
    .ok {
      get := Function.update limits.get kind value
      maxWorkUnits := limits.maxWorkUnits
      get_le := by
        intro other
        by_cases ho : other = kind
        · subst ho
          simpa using h
        · simpa [Function.update_of_ne ho] using limits.get_le other
      maxWorkUnits_le := limits.maxWorkUnits_le }
  else .error .collectionLimitExceeded

def VerifierLimits.withWorkUnits (limits : VerifierLimits) (workUnits : UInt64) :
    Except ModelError VerifierLimits :=
  if h : workUnits ≤ hardMaxWorkUnits then
    .ok { limits with maxWorkUnits := workUnits, maxWorkUnits_le := h }
  else .error .collectionLimitExceeded

end AuthsProof
