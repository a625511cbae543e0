import AuthsProof.EntryPoints

/-! The signature check of an observation against the check of every other signature: they judge alike
unless the principal method itself reports that a limit was exceeded. -/

namespace AuthsProof

namespace ObservationStage

variable [Cbor] (stage : ObservationStage)

/-- The check every signed statement passes, on an observation: its observer as the principal, for an
assertion, with its own evidence. -/
def signatureEvaluated (observation : SignedObservation) : Metered ControlEvidence :=
  evaluateSignature stage.context stage.registries observation.statement.observer
    observation.signature
    (observationSigningPreimage observation.statement observation.signature.descriptor) .assertion
    observation.statement.observedAt (.ok observation.evidence)

/-- What the outcome of the common check makes of an observation. -/
def judged (observation : SignedObservation) :
    Except VerificationFailure ControlEvidence → Except VerificationFailure Bool
  | .ok control => .ok (control.consumedEvidence = observation.evidence.map EvidenceObject.id)
  | .error failure => if failure = exhausted then .error exhausted else .ok false

/-- What the principal method is asked about an observation. -/
def controlInput (observation : SignedObservation) : PrincipalControlInput where
  principal := observation.statement.observer
  verificationMethod := observation.signature.descriptor.verificationMethod
  signatureSuite := observation.signature.descriptor.suite
  purpose := .assertion
  signingPreimage :=
    observationSigningPreimage observation.statement observation.signature.descriptor
  signature := observation.signature.signature.bytes
  assertedSigningTime := observation.statement.observedAt
  evidence := observation.evidence
  evaluationTime := stage.context.evaluationTime

/-- The work both checks reserve before the method runs. -/
def reserveBoth (method : PrincipalMethod) (suite : SignatureSuite) : Metered Unit := do
  reserve method.maximumWorkUnits
  reserve suite.workUnits

/-- The method and the suite of an observation are registered, its evidence is of accepted types, the
work of both fits, and the method reports that a limit was exceeded. -/
def MethodExhausted (observation : SignedObservation) (meter : WorkMeter) : Prop :=
  ∃ method suite,
    stage.registries.principalMethod stage.context.acceptedRegistries
      observation.signature.descriptor.principalMethod = some method ∧
    stage.registries.signatureSuite stage.context.acceptedRegistries
      observation.signature.descriptor.suite = some suite ∧
    (observation.evidence.all fun object =>
      stage.context.acceptedRegistries.acceptsEvidenceType object.evidenceType) = true ∧
    (reserveBoth method suite meter).1 = .ok () ∧
    method.evaluateControl (stage.controlInput observation) = .error .resourceLimitExceeded

omit [Cbor] in
theorem controlFailure_exhausted {failure : PrincipalControlError} :
    controlFailure failure = exhausted ↔ failure = .resourceLimitExceeded := by
  cases failure <;> simp [controlFailure, exhausted]

omit [Cbor] in
theorem reserve_error {maximum : UInt64} {meter reserved : WorkMeter} {failure : VerificationFailure}
    (h : reserve maximum meter = (.error failure, reserved)) : failure = exhausted := by
  unfold reserve at h
  split_ifs at h
  · exact (Except.error.inj (congrArg Prod.fst h)).symm
  · exact (Except.error.inj (congrArg Prod.fst h)).symm
  · cases h

omit [Cbor] in
theorem reserveBoth_error {method : PrincipalMethod} {suite : SignatureSuite}
    {meter reserved : WorkMeter} {failure : VerificationFailure}
    (h : reserveBoth method suite meter = (.error failure, reserved)) : failure = exhausted := by
  rw [reserveBoth, Run.bind_apply] at h
  rcases hfirst : reserve method.maximumWorkUnits meter with ⟨_ | _, after⟩
  · rw [hfirst] at h
    exact (Except.error.inj (congrArg Prod.fst h)) ▸ reserve_error hfirst
  · rw [hfirst] at h
    exact reserve_error h

omit [Cbor] in
theorem reserveBoth_bind {α : Type} (method : PrincipalMethod) (suite : SignatureSuite)
    (x : Metered α) (meter : WorkMeter) :
    (do reserve method.maximumWorkUnits; reserve suite.workUnits; x : Metered α) meter =
      match reserveBoth method suite meter with
      | (.ok _, reserved) => x reserved
      | (.error failure, reserved) => (.error failure, reserved) := by
  simp only [reserveBoth, Run.bind_apply]
  rcases reserve method.maximumWorkUnits meter with ⟨_ | _, after⟩
  · rfl
  · dsimp only
    rcases reserve suite.workUnits after with ⟨_ | _, _⟩ <;> rfl

section Registered

variable (observation : SignedObservation) (method : PrincipalMethod) (suite : SignatureSuite)

/-- What the observation's own check does with the method's answer. -/
def authenticWith : Metered Bool :=
  match method.evaluateControl (stage.controlInput observation) with
  | .error _ => pure false
  | .ok control => do
    Run.ensure (control.workUnits ≤ method.maximumWorkUnits) exhausted
    if control.consumedEvidence ≠ observation.evidence.map EvidenceObject.id then pure false
    else
      match suite.verify {
        verificationKey := control.verificationKey
        signingPreimage := control.signatureMessage.getD (stage.controlInput observation).signingPreimage
        signature := observation.signature.signature.bytes } with
      | .ok _ => pure true
      | .error _ => pure false

/-- What the common check does with the method's answer. -/
def evaluatedWith : Metered ControlEvidence := do
  let control ← Run.ofExcept
    ((method.evaluateControl (stage.controlInput observation)).mapError controlFailure)
  Run.ensure (control.workUnits ≤ method.maximumWorkUnits) exhausted
  Run.ofExcept <| (suite.verify {
    verificationKey := control.verificationKey
    signingPreimage := control.signatureMessage.getD (stage.controlInput observation).signingPreimage
    signature := observation.signature.signature.bytes }).mapError signatureFailure
  pure control

/-- After the reservations the two checks differ only where the method exceeds a limit. -/
theorem authenticWith_judged_iff (meter : WorkMeter) :
    (stage.authenticWith observation method suite meter).1 =
        judged observation (stage.evaluatedWith observation method suite meter).1 ↔
      method.evaluateControl (stage.controlInput observation) ≠ .error .resourceLimitExceeded := by
  rw [authenticWith, evaluatedWith]
  cases hcontrol : method.evaluateControl (stage.controlInput observation) with
  | error failure =>
    have hjudged : judged observation (.error (controlFailure failure)) =
        if failure = .resourceLimitExceeded then .error exhausted else .ok false := by
      rw [judged]
      simp only [controlFailure_exhausted]
    show (Except.ok false : Except VerificationFailure Bool) =
      judged observation (.error (controlFailure failure)) ↔ _
    rw [hjudged]
    by_cases hlimit : failure = .resourceLimitExceeded
    · simp [hlimit]
    · simp [hlimit]
  | ok control =>
    refine iff_of_true ?_ nofun
    by_cases hwork : control.workUnits ≤ method.maximumWorkUnits
    · simp only [Except.mapError, Run.ofExcept_ok, Run.pure_bind, Run.ensure_pos _ hwork]
      generalize suite.verify {
          verificationKey := control.verificationKey
          signingPreimage :=
            control.signatureMessage.getD (stage.controlInput observation).signingPreimage
          signature := observation.signature.signature.bytes } = verified
      by_cases hevidence : control.consumedEvidence = observation.evidence.map EvidenceObject.id
      · cases verified with
        | ok _ => simp [hevidence, judged]
        | error failure => simp [hevidence, judged, signatureFailure, exhausted]
      · cases verified with
        | ok _ => simp [hevidence, judged]
        | error failure => simp [hevidence, judged, signatureFailure, exhausted]
    · simp [Except.mapError, Run.ensure_neg _ hwork, judged]

end Registered

/-- An observation's signature is judged as the common check judges it exactly when the method does
not report that a limit was exceeded. -/
theorem authentic_judged_iff (observation : SignedObservation) (meter : WorkMeter) :
    (stage.authentic observation meter).1 =
        judged observation (stage.signatureEvaluated observation meter).1 ↔
      ¬stage.MethodExhausted observation meter := by
  rw [authentic, signatureEvaluated, evaluateSignature, MethodExhausted]
  cases hmethod : stage.registries.principalMethod stage.context.acceptedRegistries
      observation.signature.descriptor.principalMethod with
  | none => simp [judged, exhausted]
  | some method =>
    cases hsuite : stage.registries.signatureSuite stage.context.acceptedRegistries
        observation.signature.descriptor.suite with
    | none => simp [judged, exhausted]
    | some suite =>
      by_cases haccepted : (observation.evidence.all fun object =>
          stage.context.acceptedRegistries.acceptsEvidenceType object.evidenceType) = true
      · have hauthentic := reserveBoth_bind method suite (stage.authenticWith observation method suite)
          meter
        have hevaluated := reserveBoth_bind method suite
          (stage.evaluatedWith observation method suite) meter
        simp only [Run.ofOption_some, Run.ofExcept_ok, Run.pure_bind, Run.ensure_pos _ haccepted,
          haccepted, Bool.not_true, Bool.false_eq_true, if_false]
        refine (Eq.congr (congrArg Prod.fst hauthentic)
          (congrArg (fun run => judged observation run.1) hevaluated)).trans ?_
        rcases hreserved : reserveBoth method suite meter with ⟨failure | _, reserved⟩
        · obtain rfl := reserveBoth_error hreserved
          simp [judged, hreserved]
        · simp only
          rw [authenticWith_judged_iff]
          constructor
          · rintro hlimit ⟨_, _, hm, hs, -, -, hexhausted⟩
            obtain rfl := Option.some.inj hm
            exact hlimit hexhausted
          · intro hnot hexhausted
            exact hnot ⟨method, suite, rfl, rfl, trivial, by rw [hreserved], hexhausted⟩
      · simp only [Run.ofOption_some, Run.ofExcept_ok, Run.pure_bind, Run.ensure_neg _ haccepted,
          Run.fail_bind]
        simp [haccepted, judged, exhausted]

end ObservationStage

section Sample

local instance sampleObservationCbor : Cbor := rfc8949

local instance sampleObservationSha256 : Sha256 :=
  ⟨fun bytes => ⟨Sha2.sha256 bytes, Sha2.sha256_length bytes⟩⟩

/-- A method that parses evidence of at most eight bytes. -/
def limitedMethod : PrincipalMethod where
  id := sampleId
  configurationId := .zero
  maximumWorkUnits := 1
  evaluateControl input :=
    if input.evidence.any fun object => 8 < object.bytes.length then .error .resourceLimitExceeded
    else ControlEvidence.new [7] [] (input.evidence.map EvidenceObject.id) sampleId 1 1

def limitedStage : ObservationStage where
  chain := []
  root := sampleRoot
  action := ⟨sampleAction sampleRoot none none, sampleSignature⟩
  canonical := sampleCanonical
  context := sampleDeploymentParts [] sampleNoStatus
  registries := { sampleImplementations [] with
    principalMethods := [limitedMethod]
    methodsDistinct := List.nodup_singleton _ }

/-- An observation with evidence of `size + 1` bytes. -/
theorem observed_bounded : boundedText 1024 "cluster://production" = true := by decide

theorem observedEvidence_sorted (size : Nat) (h : size < hardMaxEvidenceBytes) :
    [sampleEvidence size h].Pairwise fun a b => a.id < b.id :=
  List.pairwise_singleton _ _

def observationOf (size : Nat) (h : size < hardMaxEvidenceBytes) : SignedObservation where
  statement := {
    observer := sampleAgent
    schema := sampleId
    subject := ⟨"cluster://production", observed_bounded⟩
    observedAt := 40
    facts := ⟨[⟨sampleId, .uint 1⟩], List.cons_ne_nil _ _, by decide, List.pairwise_singleton _ _⟩ }
  signature := sampleSignature
  evidence := [sampleEvidence size h]
  bounded := Nat.le_of_ble_eq_true rfl
  sorted := observedEvidence_sorted size h

/-- The method reports that evidence of nine bytes exceeds its limit: the common check fails by
exhaustion, the observation is merely ignored. -/
theorem authentic_limit_ignored :
    (limitedStage.authentic (observationOf 8 (by decide)) (WorkMeter.new 10)).1 = .ok false ∧
      (limitedStage.signatureEvaluated (observationOf 8 (by decide)) (WorkMeter.new 10)).1 =
        .error exhausted := by
  decide +kernel

end Sample

end AuthsProof
