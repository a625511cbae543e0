import AuthsProof.EntryPoints

/-! Status scope non-interference: the status of a subject under a view is decided by the statements
that view sees, and by no others. -/

namespace AuthsProof

open Sorting

section Restrict

variable {σ : Type} [LinearOrder σ]

def SignedStatus.visible (trust : List StatusTrustRule) (view : StatusView) (status : SignedStatus σ) :
    Bool :=
  statusIssuerVisible trust status.statement.issuer view

omit [LinearOrder σ] in
theorem SignedStatus.visible_of_key_eq (trust : List StatusTrustRule) (view : StatusView)
    (a b : SignedStatus σ) (h : a.key = b.key) : a.visible trust view = b.visible trust view := by
  simp only [SignedStatus.key, EmbeddingLike.apply_eq_iff_eq, Prod.mk.injEq] at h
  simp only [SignedStatus.visible, h.2.2.2]

/-- The snapshot without the statements of every issuer that some rule names and does not let the
view see. -/
def StatusSnapshot.restrict (snapshot : StatusSnapshot σ) (view : StatusView) : StatusSnapshot σ where
  id := snapshot.id
  observedAt := snapshot.observedAt
  validUntil := snapshot.validUntil
  statements := snapshot.statements.filter (SignedStatus.visible snapshot.trust view)
  checkpoints := snapshot.checkpoints
  trust := snapshot.trust
  ordered := snapshot.ordered
  statementsBounded := (List.length_filter_le _ _).trans snapshot.statementsBounded
  statementsSorted := snapshot.statementsSorted.sublist List.filter_sublist
  statementsDistinct := adjacentDistinct_filter snapshot.statementsSorted
    (SignedStatus.visible_of_key_eq snapshot.trust view)
    (fun a b h => by simp only [SignedStatus.key, h]) snapshot.statementsDistinct
  statementsCover status hstatus := snapshot.statementsCover status (List.mem_of_mem_filter hstatus)
  trustBounded := snapshot.trustBounded
  trustSorted := snapshot.trustSorted

/-- An issuer is out of sight exactly when some rule names it and does not cover the view. -/
theorem statusIssuerVisible_eq_false {trust : List StatusTrustRule} {issuer : PrincipalId}
    {view : StatusView} :
    statusIssuerVisible trust issuer view = false ↔
      ∃ rule ∈ trust, rule.issuer = issuer ∧
        match view with
        | .anchor anchor => rule.scope.covers issuer anchor = false
        | .approver => rule.scope ≠ .anyAnchor := by
  cases view <;> simp [statusIssuerVisible, statusIssuerInScope]

variable (snapshot : StatusSnapshot σ) (subject : σ) (view : StatusView)

theorem visibleStatements_restrict :
    visibleStatements (snapshot.restrict view) subject view =
      visibleStatements snapshot subject view := by
  change (snapshot.statements.filter (SignedStatus.visible snapshot.trust view)).filter (fun status =>
    status.statement.subject = subject ∧
      statusIssuerVisible snapshot.trust status.statement.issuer view) = _
  rw [List.filter_filter]
  refine List.filter_congr fun status _ => ?_
  rw [Bool.eq_iff_iff, Bool.and_eq_true, decide_eq_true_iff]
  exact and_iff_left_of_imp And.right

theorem candidates_eq_visibleStatements :
    ExactStatusMethod.candidates snapshot subject view =
      (visibleStatements snapshot subject view).map SignedStatus.statement := by
  rw [ExactStatusMethod.candidates, List.filter_map]
  rfl

/-- The exact method sees a snapshot through the view. -/
theorem decide_restrict (id : StatusMethodId) (policy : StatusPolicy) (evaluationTime : Timestamp) :
    ExactStatusMethod.decide id policy (snapshot.restrict view) subject view evaluationTime =
      ExactStatusMethod.decide id policy snapshot subject view evaluationTime := by
  simp only [ExactStatusMethod.decide, candidates_eq_visibleStatements, visibleStatements_restrict]
  rfl

end Restrict

/-- The contract of a status method: only the statements a view sees take part. -/
structure StatusMethod.ViewLocal (method : StatusMethod) : Prop where
  principal : ∀ policy snapshot subject view evaluationTime,
    method.principal policy (snapshot.restrict view) subject view evaluationTime =
      method.principal policy snapshot subject view evaluationTime
  grant : ∀ policy snapshot subject view evaluationTime,
    method.grant policy (snapshot.restrict view) subject view evaluationTime =
      method.grant policy snapshot subject view evaluationTime

section Methods

variable [Sha256]

theorem exactStatusMethod_viewLocal (id : StatusMethodId) : (exactStatusMethod id).ViewLocal where
  principal policy snapshot subject view evaluationTime :=
    decide_restrict snapshot subject view id policy evaluationTime
  grant policy snapshot subject view evaluationTime :=
    decide_restrict snapshot subject view id policy evaluationTime

/-- Every method a registry finds keeps the contract once the methods added to the core do. -/
theorem statusMethod_viewLocal {registries : ImmutableRegistries}
    (hpure : ∀ method ∈ registries.pure.statusMethods, method.ViewLocal)
    {accepted : AcceptedRegistries} {id : StatusMethodId} {principal : Bool} {method : StatusMethod}
    (h : registries.statusMethod accepted id principal = some method) : method.ViewLocal := by
  unfold ImmutableRegistries.statusMethod at h
  generalize (if principal then accepted.acceptsPrincipalStatusMethod id
    else accepted.acceptsGrantStatusMethod id) = accepts at h
  cases accepts with
  | false => cases h
  | true =>
    rcases List.mem_append.mp (List.mem_of_find?_eq_some h) with hcore | hadded
    · simp only [coreStatusMethods, List.mem_cons, List.not_mem_nil, or_false] at hcore
      rcases hcore with rfl | rfl <;> exact exactStatusMethod_viewLocal _
    · exact hpure method hadded

end Methods

/-- The meter that grants any one reservation. -/
def unlimitedMeter : WorkMeter := WorkMeter.new 0xFFFFFFFFFFFFFFFF

/-- The outcome of a check that makes one reservation, with the reservation granted. -/
def ignoringWork {α : Type} (x : Metered α) : Except VerificationFailure α := (x unlimitedMeter).1

theorem ignoringWork_ofExcept_bind {α β : Type} (value : Except VerificationFailure α)
    (f : α → Metered β) :
    ignoringWork (Run.ofExcept value >>= f) = value >>= fun a => ignoringWork (f a) := by
  cases value <;> rfl

theorem ignoringWork_reserve_bind {α : Type} (maximum : UInt64) (f : Unit → Metered α)
    {value : Except VerificationFailure α} (h : ∀ meter, (f () meter).1 = value) :
    ignoringWork (reserve maximum >>= f) = value := by
  have hmax : maximum.toNat < 2 ^ 64 := maximum.toNat_lt
  have hfits : ¬2 ^ 64 ≤ unlimitedMeter.used.toNat + maximum.toNat := by
    simp only [unlimitedMeter, WorkMeter.new, UInt64.toNat_zero]
    omega
  have hlimit : ¬unlimitedMeter.limit < unlimitedMeter.used + maximum := by
    simp only [unlimitedMeter, WorkMeter.new, UInt64.lt_iff_toNat_lt, UInt64.zero_add]
    simp
    omega
  have hreserve : reserve maximum unlimitedMeter =
      (.ok (), { unlimitedMeter with used := unlimitedMeter.used + maximum }) := by
    rw [reserve, if_neg hfits, if_neg hlimit]
  rw [ignoringWork, Run.bind_ok hreserve]
  exact h _

section Checks

variable [Cbor] [Sha256] (controls : List VerifiedControl) (context : ContextParts)
  (registries : ImmutableRegistries)

/-- What a principal status check decides once its work is granted. -/
def principalStatusOutcome (policy : StatusPolicy) (principal : PrincipalId) (listing : StatusListing)
    (anchor : TrustAnchor) : Except VerificationFailure Unit :=
  ignoringWork (checkPrincipalStatus controls context registries policy principal listing anchor)

def grantStatusOutcome (policy : StatusPolicy) (grant : GrantId) (anchor : TrustAnchor) :
    Except VerificationFailure Unit :=
  ignoringWork (checkGrantStatus controls context registries policy grant anchor)

def approverStatusOutcome (anchor : ApproverAnchor) : Except VerificationFailure ApprovalVerdict :=
  ignoringWork (statusVerdict controls context registries anchor)

/-- A principal check under a snapshot: the statements in view, then the method's decision. -/
theorem principalStatusOutcome_snapshot {method : StatusMethodId} {maxAge : FreshnessLimit}
    {implementation : StatusMethod}
    (hmethod : registries.statusMethod context.acceptedRegistries method true = some implementation)
    (principal : PrincipalId) (listing : StatusListing) (anchor : TrustAnchor) :
    principalStatusOutcome controls context registries (.snapshotRequired method maxAge) principal
        listing anchor =
      (checkStatements controls principalStatusRef context
        (visibleStatements context.principalStatusSnapshot principal (.anchor anchor)) >>= fun _ =>
        ((implementation.principal (.snapshotRequired method maxAge) context.principalStatusSnapshot
          principal (.anchor anchor) context.evaluationTime).mapError registryOperationFailure >>=
          fun decision =>
            if listing = .revocationList ∧ decision = .missing then .ok ()
            else statusDecision decision true)) := by
  simp only [principalStatusOutcome, checkPrincipalStatus, hmethod, Run.ofOption_some, Run.pure_bind,
    ignoringWork_ofExcept_bind]
  refine congrArg _ (funext fun _ => ?_)
  refine ignoringWork_reserve_bind _ _ fun meter => ?_
  cases (implementation.principal (.snapshotRequired method maxAge) context.principalStatusSnapshot
    principal (.anchor anchor) context.evaluationTime).mapError registryOperationFailure with
  | error failure => rfl
  | ok decision =>
    rw [Run.ofExcept_ok, Run.pure_bind]
    by_cases hmissing : listing = .revocationList ∧ decision = .missing
    · rw [if_pos hmissing]
      exact (if_pos hmissing).symm
    · rw [if_neg hmissing]
      exact (if_neg hmissing).symm

theorem grantStatusOutcome_snapshot {method : StatusMethodId} {maxAge : FreshnessLimit}
    {implementation : StatusMethod}
    (hmethod : registries.statusMethod context.acceptedRegistries method false = some implementation)
    (grant : GrantId) (anchor : TrustAnchor) :
    grantStatusOutcome controls context registries (.snapshotRequired method maxAge) grant anchor =
      (checkStatements controls grantStatusRef context
        (visibleStatements context.grantStatusSnapshot grant (.anchor anchor)) >>= fun _ =>
        ((implementation.grant (.snapshotRequired method maxAge) context.grantStatusSnapshot grant
          (.anchor anchor) context.evaluationTime).mapError registryOperationFailure >>=
          fun decision => statusDecision decision false)) := by
  simp only [grantStatusOutcome, checkGrantStatus, hmethod, Run.ofOption_some, Run.pure_bind,
    ignoringWork_ofExcept_bind]
  refine congrArg _ (funext fun _ => ?_)
  refine ignoringWork_reserve_bind _ _ fun meter => ?_
  cases (implementation.grant (.snapshotRequired method maxAge) context.grantStatusSnapshot grant
    (.anchor anchor) context.evaluationTime).mapError registryOperationFailure <;> rfl

/-- What the method's answer makes of an approval. -/
def approverAnswer (answer : Except RegistryOperationError StatusDecision) :
    Except VerificationFailure ApprovalVerdict :=
  match answer with
  | .error error => classify (registryOperationFailure error)
  | .ok decision => .ok (approverDecision decision)

theorem approverStatusOutcome_snapshot {anchor : ApproverAnchor} {method : StatusMethodId}
    {maxAge : FreshnessLimit} {implementation : StatusMethod}
    (hpolicy : anchor.statusPolicy = .snapshotRequired method maxAge)
    (hmethod : registries.statusMethod context.acceptedRegistries method true = some implementation) :
    approverStatusOutcome controls context registries anchor =
      match checkStatements controls principalStatusRef context
        (visibleStatements context.principalStatusSnapshot anchor.principal .approver) with
      | .error failure => classify failure
      | .ok _ => approverAnswer (implementation.principal anchor.statusPolicy
          context.principalStatusSnapshot anchor.principal .approver context.evaluationTime) := by
  rw [approverStatusOutcome, statusVerdict, hpolicy]
  dsimp only
  rw [hmethod]
  dsimp only
  cases checkStatements controls principalStatusRef context
    (visibleStatements context.principalStatusSnapshot anchor.principal .approver) with
  | error failure => rfl
  | ok _ =>
    refine ignoringWork_reserve_bind _ _ fun meter => ?_
    cases implementation.principal (.snapshotRequired method maxAge) context.principalStatusSnapshot
      anchor.principal .approver context.evaluationTime <;> rfl

end Checks

theorem StatusScope.key_injective : Function.Injective StatusScope.key := by
  intro a b h
  cases a with
  | anchors listed =>
    cases b with
    | anchors other =>
      obtain ⟨items, hne, hbounded, hsorted⟩ := listed
      obtain ⟨items', hne', hbounded', hsorted'⟩ := other
      simp only [StatusScope.key, EmbeddingLike.apply_eq_iff_eq, Prod.mk.injEq, true_and] at h
      subst h
      rfl
    | _ => simp [StatusScope.key] at h
  | _ => cases b <;> first | rfl | simp [StatusScope.key] at h

theorem StatusTrustRule.key_injective : Function.Injective StatusTrustRule.key := by
  intro a b h
  obtain ⟨method, issuer, floor, scope⟩ := a
  obtain ⟨method', issuer', floor', scope'⟩ := b
  simp only [StatusTrustRule.key, StatusTrustRule.named, EmbeddingLike.apply_eq_iff_eq,
    Prod.mk.injEq] at h
  obtain ⟨⟨rfl, rfl⟩, rfl, hscope⟩ := h
  obtain rfl := StatusScope.key_injective hscope
  rfl

section RuleOrder

variable {σ : Type} [LinearOrder σ] {trust rules : List StatusTrustRule} (h : trust.Perm rules)

include h

theorem statusIssuerVisible_perm (issuer : PrincipalId) (view : StatusView) :
    statusIssuerVisible trust issuer view = statusIssuerVisible rules issuer view := by
  cases view with
  | anchor anchor => exact (h.filter _).all_eq
  | approver => exact (h.filter _).all_eq

omit [LinearOrder σ] in
/-- Rules with distinct methods and issuers trust the same statements in any order. -/
theorem trusted_perm (hdistinct : (trust.map StatusTrustRule.named).Nodup) (method : StatusMethodId)
    (statements : List (StatusStatement σ)) :
    ExactStatusMethod.trusted method trust statements =
      ExactStatusMethod.trusted method rules statements := by
  induction statements with
  | nil => rfl
  | cons statement statements ih =>
    have hfind : (trust.find? fun rule => rule.method = method ∧ rule.issuer = statement.issuer) =
        rules.find? fun rule => rule.method = method ∧ rule.issuer = statement.issuer := by
      refine find?_eq_of_perm h fun a ha b hb hpa hpb => ?_
      simp only [decide_eq_true_eq] at hpa hpb
      refine List.inj_on_of_nodup_map hdistinct ha hb ?_
      simp only [StatusTrustRule.named, hpa.1, hpa.2, hpb.1, hpb.2]
    simp only [ExactStatusMethod.trusted, hfind, ih]

omit [LinearOrder σ] in
/-- The selection of the exact method does not depend on the order of the rules. -/
theorem selectStatus_perm (hdistinct : (trust.map StatusTrustRule.named).Nodup)
    (policy : StatusPolicy) (candidates : List (StatusStatement σ)) (evaluationTime : Timestamp) :
    ExactStatusMethod.selectStatus policy trust candidates evaluationTime =
      ExactStatusMethod.selectStatus policy rules candidates evaluationTime := by
  simp only [ExactStatusMethod.selectStatus, trusted_perm h hdistinct]

/-- A snapshot is the same whatever order its rules are given in. -/
theorem withTrust_perm (id : StatusSnapshotId) (observedAt validUntil : Timestamp)
    (statements : List (SignedStatus σ)) (checkpoints : List EvidenceId) :
    StatusSnapshot.withTrust id observedAt validUntil statements checkpoints trust =
      StatusSnapshot.withTrust id observedAt validUntil statements checkpoints rules := by
  have hsorted : sortByKey StatusTrustRule.key trust = sortByKey StatusTrustRule.key rules :=
    sortByKey_eq_of_perm h fun a _ b _ hab => StatusTrustRule.key_injective hab
  simp only [StatusSnapshot.withTrust, hsorted, h.length_eq]

end RuleOrder

/-- The context with another snapshot of one kind. -/
def ContextParts.withPrincipalSnapshot (context : ContextParts) (snapshot : PrincipalStatusSnapshot) :
    ContextParts :=
  { context with principalStatusSnapshot := snapshot }

def ContextParts.withGrantSnapshot (context : ContextParts) (snapshot : GrantStatusSnapshot) :
    ContextParts :=
  { context with grantStatusSnapshot := snapshot }

section Isolation

variable [Cbor] [Sha256] {registries : ImmutableRegistries}
  (hlocal : ∀ method ∈ registries.pure.statusMethods, method.ViewLocal) (controls : List VerifiedControl)
  (context : ContextParts)

include hlocal

theorem principalStatusOutcome_restrict (policy : StatusPolicy) (principal : PrincipalId)
    (listing : StatusListing) (anchor : TrustAnchor) :
    principalStatusOutcome controls
        (context.withPrincipalSnapshot (context.principalStatusSnapshot.restrict (.anchor anchor)))
        registries policy principal listing anchor =
      principalStatusOutcome controls context registries policy principal listing anchor := by
  cases policy with
  | expiryOnly => rfl
  | snapshotRequired method maxAge =>
    cases hmethod : registries.statusMethod context.acceptedRegistries method true with
    | none =>
      simp only [principalStatusOutcome, checkPrincipalStatus, ContextParts.withPrincipalSnapshot,
        hmethod]
      rfl
    | some implementation =>
      rw [principalStatusOutcome_snapshot controls context registries hmethod,
        principalStatusOutcome_snapshot controls
          (context.withPrincipalSnapshot (context.principalStatusSnapshot.restrict (.anchor anchor)))
          registries hmethod]
      simp only [ContextParts.withPrincipalSnapshot, visibleStatements_restrict,
        (statusMethod_viewLocal hlocal hmethod).principal]
      rfl

theorem grantStatusOutcome_restrict (policy : StatusPolicy) (grant : GrantId) (anchor : TrustAnchor) :
    grantStatusOutcome controls
        (context.withGrantSnapshot (context.grantStatusSnapshot.restrict (.anchor anchor))) registries
        policy grant anchor =
      grantStatusOutcome controls context registries policy grant anchor := by
  cases policy with
  | expiryOnly => rfl
  | snapshotRequired method maxAge =>
    cases hmethod : registries.statusMethod context.acceptedRegistries method false with
    | none =>
      simp only [grantStatusOutcome, checkGrantStatus, ContextParts.withGrantSnapshot, hmethod]
      rfl
    | some implementation =>
      rw [grantStatusOutcome_snapshot controls context registries hmethod,
        grantStatusOutcome_snapshot controls
          (context.withGrantSnapshot (context.grantStatusSnapshot.restrict (.anchor anchor)))
          registries hmethod]
      simp only [ContextParts.withGrantSnapshot, visibleStatements_restrict,
        (statusMethod_viewLocal hlocal hmethod).grant]
      rfl

theorem approverStatusOutcome_restrict (anchor : ApproverAnchor) :
    approverStatusOutcome controls
        (context.withPrincipalSnapshot (context.principalStatusSnapshot.restrict .approver)) registries
        anchor =
      approverStatusOutcome controls context registries anchor := by
  cases hpolicy : anchor.statusPolicy with
  | expiryOnly =>
    simp only [approverStatusOutcome, statusVerdict, hpolicy]
  | snapshotRequired method maxAge =>
    cases hmethod : registries.statusMethod context.acceptedRegistries method true with
    | none =>
      simp only [approverStatusOutcome, statusVerdict, ContextParts.withPrincipalSnapshot, hpolicy,
        hmethod]
    | some implementation =>
      rw [approverStatusOutcome_snapshot controls context registries hpolicy hmethod,
        approverStatusOutcome_snapshot controls
          (context.withPrincipalSnapshot (context.principalStatusSnapshot.restrict .approver))
          registries hpolicy hmethod]
      simp only [ContextParts.withPrincipalSnapshot, visibleStatements_restrict,
        (statusMethod_viewLocal hlocal hmethod).principal]
      rfl

/-- Status scope non-interference. Whatever the controls, the status of a principal or a grant under
an anchor, and of an approver, is the one the snapshot gives without the statements of every issuer
that some rule names and does not let the view see. So snapshots that agree on what a view sees give
one outcome, whatever else they hold, and the order the trust rules are given in takes no part. -/
theorem statusScope_noninterference :
    (∀ policy principal listing anchor, principalStatusOutcome controls
        (context.withPrincipalSnapshot (context.principalStatusSnapshot.restrict (.anchor anchor)))
        registries policy principal listing anchor =
      principalStatusOutcome controls context registries policy principal listing anchor) ∧
    (∀ policy grant anchor, grantStatusOutcome controls
        (context.withGrantSnapshot (context.grantStatusSnapshot.restrict (.anchor anchor))) registries
        policy grant anchor =
      grantStatusOutcome controls context registries policy grant anchor) ∧
    (∀ anchor, approverStatusOutcome controls
        (context.withPrincipalSnapshot (context.principalStatusSnapshot.restrict .approver)) registries
        anchor =
      approverStatusOutcome controls context registries anchor) ∧
    (∀ snapshot policy principal listing anchor,
      snapshot.restrict (.anchor anchor) = context.principalStatusSnapshot.restrict (.anchor anchor) →
      principalStatusOutcome controls (context.withPrincipalSnapshot snapshot) registries policy
        principal listing anchor =
      principalStatusOutcome controls context registries policy principal listing anchor) ∧
    (∀ snapshot policy grant anchor,
      snapshot.restrict (.anchor anchor) = context.grantStatusSnapshot.restrict (.anchor anchor) →
      grantStatusOutcome controls (context.withGrantSnapshot snapshot) registries policy grant anchor =
      grantStatusOutcome controls context registries policy grant anchor) ∧
    (∀ snapshot anchor,
      snapshot.restrict .approver = context.principalStatusSnapshot.restrict .approver →
      approverStatusOutcome controls (context.withPrincipalSnapshot snapshot) registries anchor =
      approverStatusOutcome controls context registries anchor) ∧
    (∀ {trust rules : List StatusTrustRule}, trust.Perm rules →
      (∀ id observedAt validUntil (statements : List SignedPrincipalStatus) checkpoints,
        StatusSnapshot.withTrust id observedAt validUntil statements checkpoints trust =
          StatusSnapshot.withTrust id observedAt validUntil statements checkpoints rules) ∧
      (∀ id observedAt validUntil (statements : List SignedGrantStatus) checkpoints,
        StatusSnapshot.withTrust id observedAt validUntil statements checkpoints trust =
          StatusSnapshot.withTrust id observedAt validUntil statements checkpoints rules) ∧
      (∀ issuer view,
        statusIssuerVisible trust issuer view = statusIssuerVisible rules issuer view) ∧
      ((trust.map StatusTrustRule.named).Nodup →
        (∀ policy (candidates : List PrincipalStatusStatement) evaluationTime,
          ExactStatusMethod.selectStatus policy trust candidates evaluationTime =
            ExactStatusMethod.selectStatus policy rules candidates evaluationTime) ∧
        ∀ policy (candidates : List GrantStatusStatement) evaluationTime,
          ExactStatusMethod.selectStatus policy trust candidates evaluationTime =
            ExactStatusMethod.selectStatus policy rules candidates evaluationTime)) := by
  refine ⟨principalStatusOutcome_restrict hlocal controls context,
    grantStatusOutcome_restrict hlocal controls context,
    approverStatusOutcome_restrict hlocal controls context, ?_, ?_, ?_, fun hperm =>
      ⟨withTrust_perm hperm, withTrust_perm hperm, statusIssuerVisible_perm hperm, fun hdistinct =>
        ⟨selectStatus_perm hperm hdistinct, selectStatus_perm hperm hdistinct⟩⟩⟩
  · intro snapshot policy principal listing anchor hseen
    have hother := principalStatusOutcome_restrict hlocal controls
      (context.withPrincipalSnapshot snapshot) policy principal listing anchor
    have hown := principalStatusOutcome_restrict hlocal controls context policy principal listing anchor
    rw [← hseen] at hown
    exact hother.symm.trans hown
  · intro snapshot policy grant anchor hseen
    have hother := grantStatusOutcome_restrict hlocal controls (context.withGrantSnapshot snapshot)
      policy grant anchor
    have hown := grantStatusOutcome_restrict hlocal controls context policy grant anchor
    rw [← hseen] at hown
    exact hother.symm.trans hown
  · intro snapshot anchor hseen
    have hother := approverStatusOutcome_restrict hlocal controls
      (context.withPrincipalSnapshot snapshot) anchor
    have hown := approverStatusOutcome_restrict hlocal controls context anchor
    rw [← hseen] at hown
    exact hother.symm.trans hown

end Isolation

section Sample

local instance sampleScopeCbor : Cbor := rfc8949

local instance sampleScopeSha256 : Sha256 :=
  ⟨fun bytes => ⟨Sha2.sha256 bytes, Sha2.sha256_length bytes⟩⟩

/-- A revocation of the agent by an issuer that counts under its own anchor only. -/
def sampleForeign : PrincipalStatusSnapshot :=
  { sampleSnapshot [sampleStatus .revoked sampleSignature] (by decide) (List.pairwise_singleton _ _)
      rfl (by decide) with
    trust := [⟨sampleId, sampleRoot, 0, .ownAnchor⟩]
    trustBounded := by decide
    trustSorted := List.pairwise_singleton _ _ }

/-- The revocation is out of sight under the agent's own anchor and decides nothing there. -/
theorem statusScope_noninterference_sample :
    let context := sampleDeploymentParts [] sampleForeign
    let anchor := { sampleAnchor with principal := sampleAgent }
    let policy := StatusPolicy.snapshotRequired principalStatusMethodV1 ⟨100, by decide⟩
    (sampleForeign.restrict (.anchor anchor)).statements = [] ∧
      principalStatusOutcome [] (context.withPrincipalSnapshot (sampleForeign.restrict (.anchor anchor)))
          (sampleImplementations []) policy sampleAgent .revocationList anchor =
        principalStatusOutcome [] context (sampleImplementations []) policy sampleAgent .revocationList
          anchor := by
  intro context anchor policy
  have hlocal : ∀ method ∈ (sampleImplementations []).pure.statusMethods, method.ViewLocal :=
    fun _ hmem => absurd hmem List.not_mem_nil
  exact ⟨by decide +kernel, (statusScope_noninterference hlocal [] context).1 policy sampleAgent
    .revocationList anchor⟩

end Sample

end AuthsProof
