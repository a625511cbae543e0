import AuthsProof.Control

/-! The status checks of a branch: which statements of a snapshot must be under control and free of
unknown extensions before the status method decides. -/

namespace AuthsProof

/-- No registered extension has a meaning for status, so the first one decides. -/
def checkStatusExtensions (extensions : CriticalExtensions) (context : ContextParts) :
    Except VerificationFailure Unit :=
  match extensions.entries.head? with
  | none => .ok ()
  | some extension =>
    if context.acceptedRegistries.acceptsCriticalExtension extension.id then
      .error (.indeterminate .unsupportedCriticalExtension)
    else .error (.denied .criticalExtensionUnknown)

/-- What an absent principal-status statement means: the trust anchor must be listed, and for every
other principal the snapshot is a list of revocations. -/
inductive StatusListing where
  | required
  | revocationList
  deriving DecidableEq

def statusDecision (decision : StatusDecision) (principal : Bool) : Except VerificationFailure Unit :=
  match decision with
  | .active => .ok ()
  | .revoked => .error (.denied (if principal then .principalRevoked else .grantRevoked))
  | .missing =>
    .error (.indeterminate (if principal then .missingPrincipalStatus else .missingGrantStatus))
  | .stale => .error (.indeterminate .staleStatus)
  | .rollback => .error (.denied .statusSequenceRollback)
  | .untrustedIssuer => .error (.denied .statusIssuerUntrusted)
  | .wrongMethod => .error (.denied .statusMethodMismatch)

section Statements

variable {σ : Type} [LinearOrder σ]

/-- The statements of a snapshot about a subject that a view sees, in stored order. -/
def visibleStatements (snapshot : StatusSnapshot σ) (subject : σ) (view : StatusView) :
    List (SignedStatus σ) :=
  snapshot.statements.filter fun status =>
    status.statement.subject = subject ∧
      statusIssuerVisible snapshot.trust status.statement.issuer view

/-- Control of one statement, then its extensions. -/
def checkStatement (controls : List VerifiedControl) (reference : StatusStatement σ → StatementRef)
    (context : ContextParts) (status : SignedStatus σ) : Except VerificationFailure Unit := do
  let _ ← controlFor controls (reference status.statement)
  checkStatusExtensions status.statement.extensions context

/-- The first failure among the statements. -/
def checkStatements (controls : List VerifiedControl) (reference : StatusStatement σ → StatementRef)
    (context : ContextParts) (statements : List (SignedStatus σ)) : Except VerificationFailure Unit :=
  statements.forM (checkStatement controls reference context)

end Statements

section Checks

variable [Cbor] [Sha256]

def principalStatusRef (statement : PrincipalStatusStatement) : StatementRef :=
  .principalStatus (principalStatusId statement)

def grantStatusRef (statement : GrantStatusStatement) : StatementRef :=
  .grantStatus (grantStatusId statement)

variable (controls : List VerifiedControl) (context : ContextParts) (registries : ImmutableRegistries)

/-- Out-of-scope statements take no part, though work is reserved for every statement. -/
def checkPrincipalStatus (policy : StatusPolicy) (principal : PrincipalId) (listing : StatusListing)
    (anchor : TrustAnchor) : Metered Unit :=
  match policy with
  | .expiryOnly => pure ()
  | .snapshotRequired method _ => do
    let implementation ← Run.ofOption
      (registries.statusMethod context.acceptedRegistries method true)
      (.indeterminate .unsupportedStatusMethod)
    let snapshot := context.principalStatusSnapshot
    Run.ofExcept (checkStatements controls principalStatusRef context
      (visibleStatements snapshot principal (.anchor anchor)))
    reserve (implementation.maximumWorkUnits snapshot.statements.length)
    let decision ← Run.ofExcept <|
      (implementation.principal policy snapshot principal (.anchor anchor)
        context.evaluationTime).mapError registryOperationFailure
    if listing = .revocationList ∧ decision = .missing then pure ()
    else Run.ofExcept (statusDecision decision true)

def checkGrantStatus (policy : StatusPolicy) (grant : GrantId) (anchor : TrustAnchor) : Metered Unit :=
  match policy with
  | .expiryOnly => pure ()
  | .snapshotRequired method _ => do
    let implementation ← Run.ofOption
      (registries.statusMethod context.acceptedRegistries method false)
      (.indeterminate .unsupportedStatusMethod)
    let snapshot := context.grantStatusSnapshot
    Run.ofExcept (checkStatements controls grantStatusRef context
      (visibleStatements snapshot grant (.anchor anchor)))
    reserve (implementation.maximumWorkUnits snapshot.statements.length)
    let decision ← Run.ofExcept <|
      (implementation.grant policy snapshot grant (.anchor anchor)
        context.evaluationTime).mapError registryOperationFailure
    Run.ofExcept (statusDecision decision false)

/-- What a failed check makes of an approval: exhaustion stops the verification, a denial ignores the
approval and an unavailable fact leaves it pending. -/
def classify (failure : VerificationFailure) : Except VerificationFailure ApprovalVerdict :=
  match failure with
  | .denied .resourceLimitExceeded => .error failure
  | .denied _ => .ok .ignored
  | .indeterminate _ => .ok .pending

def approverDecision : StatusDecision → ApprovalVerdict
  | .active => .counted
  | .missing => .pending
  | .stale => .pending
  | .revoked => .ignored
  | .rollback => .ignored
  | .untrustedIssuer => .ignored
  | .wrongMethod => .ignored

/-- The approver's status, checked as a trust anchor's is but with the issuers an approver sees. -/
def statusVerdict (anchor : ApproverAnchor) : Metered ApprovalVerdict :=
  match anchor.statusPolicy with
  | .expiryOnly => pure .counted
  | .snapshotRequired method _ =>
    match registries.statusMethod context.acceptedRegistries method true with
    | none => pure .pending
    | some implementation =>
      let snapshot := context.principalStatusSnapshot
      match checkStatements controls principalStatusRef context
          (visibleStatements snapshot anchor.principal .approver) with
      | .error failure => Run.ofExcept (classify failure)
      | .ok _ => do
        reserve (implementation.maximumWorkUnits snapshot.statements.length)
        match implementation.principal anchor.statusPolicy snapshot anchor.principal .approver
            context.evaluationTime with
        | .error error => Run.ofExcept (classify (registryOperationFailure error))
        | .ok decision => pure (approverDecision decision)

end Checks

end AuthsProof
