import AuthsProof.Ports

/-! The exact status method of the core registry: which statements of a snapshot take part in a
decision and what they decide. -/

namespace AuthsProof

/-- The `u64` a length converts to, saturating. -/
def saturatingU64 (n : Nat) : UInt64 := if n < 2 ^ 64 then UInt64.ofNat n else 0xFFFFFFFFFFFFFFFF

namespace ExactStatusMethod

def freshness (policy : StatusPolicy) (observedAt validUntil evaluationTime : Timestamp) :
    StatusDecision :=
  match policy with
  | .expiryOnly => .active
  | .snapshotRequired _ maxAge =>
    if evaluationTime < observedAt ∨ validUntil < evaluationTime ∨
        maxAge.seconds < evaluationTime - observedAt then .stale
    else .active

variable {σ : Type}

/-- The statements that a rule of the method trusts, or the rollback of the first one below the
sequence floor of its rule. -/
def trusted (method : StatusMethodId) (trust : List StatusTrustRule) :
    List (StatusStatement σ) → Except StatusDecision (List (StatusStatement σ))
  | [] => .ok []
  | statement :: statements =>
    match trust.find? fun rule => rule.method = method ∧ rule.issuer = statement.issuer with
    | none => trusted method trust statements
    | some rule =>
      if statement.sequence < rule.sequenceFloor then .error .rollback
      else (trusted method trust statements).map (statement :: ·)

/-- What the trusted statements with the largest sequence decide. -/
def latestDecision (policy : StatusPolicy) (statements : List (StatusStatement σ))
    (evaluationTime : Timestamp) : Except RegistryOperationError StatusDecision :=
  match statements with
  | [] => .ok .untrustedIssuer
  | first :: rest =>
    let maximum := rest.foldl (fun maximum statement => max maximum statement.sequence) first.sequence
    let latest := statements.filter fun statement => statement.sequence = maximum
    if latest.any fun statement =>
        freshness policy statement.observedAt statement.validUntil evaluationTime = .stale then
      .ok .stale
    else if latest.any fun statement => statement.state ≠ .active then .ok .revoked
    else .ok .active

/-- `select_principal` and `select_grant`, which differ in nothing but the type of the subject. -/
def selectStatus (policy : StatusPolicy) (trust : List StatusTrustRule)
    (candidates : List (StatusStatement σ)) (evaluationTime : Timestamp) :
    Except RegistryOperationError StatusDecision :=
  match policy with
  | .expiryOnly => .ok .active
  | .snapshotRequired method _ =>
    if candidates.isEmpty then .ok .missing
    else if candidates.all fun statement => statement.method ≠ method then .ok .wrongMethod
    else
      match trusted method trust (candidates.filter fun statement => statement.method = method) with
      | .error decision => .ok decision
      | .ok statements => latestDecision policy statements evaluationTime

variable [LinearOrder σ]

/-- The statements about a subject that a view sees. -/
def candidates (snapshot : StatusSnapshot σ) (subject : σ) (view : StatusView) :
    List (StatusStatement σ) :=
  (snapshot.statements.map SignedStatus.statement).filter fun statement =>
    statement.subject = subject ∧ statusIssuerVisible snapshot.trust statement.issuer view

/-- `principal` and `grant` of the exact status method `id`. -/
def decide (id : StatusMethodId) (policy : StatusPolicy) (snapshot : StatusSnapshot σ) (subject : σ)
    (view : StatusView) (evaluationTime : Timestamp) : Except RegistryOperationError StatusDecision :=
  match policy with
  | .expiryOnly => .ok .active
  | .snapshotRequired method _ =>
    if method ≠ id then .ok .wrongMethod
    else if evaluationTime < snapshot.observedAt ∨ snapshot.validUntil < evaluationTime then .ok .stale
    else selectStatus policy snapshot.trust (candidates snapshot subject view) evaluationTime

end ExactStatusMethod

def exactStatusMethod [Sha256] (id : StatusMethodId) : StatusMethod where
  id
  configurationId := configurationId (utf8 id.str) []
  maximumWorkUnits statementCount := saturatingU64 (statementCount + 1)
  principal := ExactStatusMethod.decide id
  grant := ExactStatusMethod.decide id

end AuthsProof
