import AuthsProof.ContextChange

/-! Trust anchors confer authority only on the branches they root: an anchor whose principal is not
the root of any branch changes no decision and no work. -/

namespace AuthsProof

section Roots

variable [Cbor] [Sha256]

/-- The root principal of every branch of a bundle whose chain resolves. -/
def branchRoots (bundle : ProofBundle) : List PrincipalId :=
  bundle.actions.filterMap fun action =>
    (grantChain (grantRecords bundle.grants) action).toOption.map (rootPrincipal action)

theorem rootPrincipal_mem_branchRoots {bundle : ProofBundle} {action : SignedAction}
    {chain : List SignedGrant} (haction : action ∈ bundle.actions)
    (hchain : grantChain (grantRecords bundle.grants) action = .ok chain) :
    rootPrincipal action chain ∈ branchRoots bundle := by
  refine List.mem_filterMap.mpr ⟨action, haction, ?_⟩
  rw [hchain]
  rfl

end Roots

/-- `d` is `c` with more trust anchors, none of them for a principal in `roots`. -/
structure AddsUnrelated (c d : TrustedContext) (roots : List PrincipalId) : Prop where
  same : d.toContextParts = { c.toContextParts with trustAnchors := d.trustAnchors }
  kept : c.trustAnchors ⊆ d.trustAnchors
  unrelated : ∀ anchor ∈ d.trustAnchors, anchor ∉ c.trustAnchors → anchor.principal ∉ roots

namespace AddsUnrelated

variable {c d : TrustedContext} {roots : List PrincipalId} (h : AddsUnrelated c d roots)

include h

/-- Both contexts offer the same anchors, in the same order, to a principal in `roots`. -/
theorem filter_trustAnchors {root : PrincipalId} (hroot : root ∈ roots) :
    (d.trustAnchors.filter fun anchor => anchor.principal = root) =
      c.trustAnchors.filter fun anchor => anchor.principal = root := by
  have hsorted (e : TrustedContext) :
      (e.trustAnchors.filter fun anchor => anchor.principal = root).Pairwise
        fun a b => a.id < b.id :=
    e.anchorsSorted.sublist List.filter_sublist
  have hnodup (e : TrustedContext) :
      (e.trustAnchors.filter fun anchor => anchor.principal = root).Nodup :=
    (hsorted e).imp fun hlt heq => (heq ▸ hlt).false
  have hperm : (d.trustAnchors.filter fun anchor => anchor.principal = root).Perm
      (c.trustAnchors.filter fun anchor => anchor.principal = root) := by
    refine (List.perm_ext_iff_of_nodup (hnodup d) (hnodup c)).mpr fun anchor => ?_
    simp only [List.mem_filter, decide_eq_true_eq]
    constructor
    · intro ⟨hanchor, hprincipal⟩
      by_contra hnot
      have hnew : anchor ∉ c.trustAnchors := fun hold => hnot ⟨hold, hprincipal⟩
      exact h.unrelated anchor hanchor hnew (hprincipal ▸ hroot)
    · intro ⟨hanchor, hprincipal⟩
      exact ⟨h.kept hanchor, hprincipal⟩
  exact hperm.eq_of_pairwise (fun a b _ _ hab hba => (hab.asymm hba).elim) (hsorted d) (hsorted c)

theorem alike : c.toContextParts.Alike d.toContextParts :=
  ⟨d.trustAnchors, c.principalStatusSnapshot, c.grantStatusSnapshot, c.approvalRequirements, h.same⟩

end AddsUnrelated

section Verification

variable [Cbor] [Sha256] {c d : TrustedContext} {registries : ImmutableRegistries}

/-- An unrelated anchor changes nothing a control stage reads, and no anchor of any branch. -/
theorem AddsUnrelated.controlStageAlike {decoded : DecodedProof} {resolved : ResolvedProof}
    (h : AddsUnrelated c d (branchRoots decoded.bundle))
    (hresolved : resolveProof decoded c.toContextParts = .ok resolved) :
    ControlStageAlike registries c.toContextParts d.toContextParts resolved := by
  have hcontrol : verifyPrincipalControl d.toContextParts registries resolved =
      verifyPrincipalControl c.toContextParts registries resolved := by
    rw [h.same]
    rfl
  cases hc : verifyPrincipalControl c.toContextParts registries resolved with
  | error failure => exact Or.inl ⟨failure, hc, hcontrol.trans hc⟩
  | ok controlled =>
    have hkept := verifyPrincipalControl_resolved _ _ hc
    obtain ⟨_, controls, workUnits⟩ := controlled
    obtain rfl := hkept
    refine Or.inr ⟨controls, controls, workUnits, hc, hcontrol.trans hc, ?_⟩
    have hresolves := (resolves_of_resolveProof hresolved).eq
    have hsame := h.same
    refine ⟨h.alike, fun _ => rfl, ?_, ?_, ?_, ?_, ?_, ?_⟩
    · rw [hsame]
      rfl
    · intro action haction chain hchain
      rw [hresolves] at haction hchain
      exact h.filter_trustAnchors (rootPrincipal_mem_branchRoots haction hchain)
    all_goals
      intros
      rw [hsame]
      rfl

/-- Unrelated trust anchors confer nothing: a context with more anchors, none for the root principal
of a branch of the proof, decides alike, authorizes the same branches and charges the same work. -/
theorem unrelatedAnchors_confer_nothing {proofBytes : Bytes} {canonical : CanonicalAction}
    (hsame : d.toContextParts = { c.toContextParts with trustAnchors := d.trustAnchors })
    (hkept : c.trustAnchors ⊆ d.trustAnchors)
    (hunrelated : ∀ bundle, decodeBundle proofBytes c.limits = .ok bundle →
      ∀ anchor ∈ d.trustAnchors, anchor ∉ c.trustAnchors → anchor.principal ∉ branchRoots bundle) :
    let before := verifyPortable c registries proofBytes canonical
    let after := verifyPortable d registries proofBytes canonical
    after.decision = before.decision ∧ after.stage = before.stage ∧ after.code = before.code ∧
      after.authorizedBranches = before.authorizedBranches ∧
      after.resources.workUnits = before.resources.workUnits ∧
      (verify d registries proofBytes canonical).code =
        (verify c registries proofBytes canonical).code ∧
      (verify d registries proofBytes canonical).action =
        (verify c registries proofBytes canonical).action.map
          fun action => { action with contextDigest := contextDigest d } := by
  have hadds (bundle : ProofBundle) (hdecode : decodeBundle proofBytes c.limits = .ok bundle) :
      AddsUnrelated c d (branchRoots bundle) := ⟨hsame, hkept, hunrelated bundle hdecode⟩
  have halike : c.toContextParts.Alike d.toContextParts :=
    AddsUnrelated.alike ⟨hsame, hkept, fun _ _ _ => List.not_mem_nil⟩
  have hruns : runStages d registries proofBytes canonical =
      (runStages c registries proofBytes canonical).withContextDigest (contextDigest d) := by
    refine runStages_alike halike (fun decoded => ?_) fun decoded resolved hdecode hresolved => ?_
    · rw [hsame]
      rfl
    · exact AddsUnrelated.controlStageAlike
        (hadds decoded.bundle (decodeBundle_of_decodeProof hdecode)) hresolved
  have hcode (e : TrustedContext) :=
    (runStages e registries proofBytes canonical).portable_agrees e registries proofBytes canonical
  simp only [verify_eq, verifyPortable_eq, StageRun.portable_stage, StageRun.portable_workUnits,
    StageRun.portable_authorizedBranches, (hcode _).1, (hcode _).2]
  simp only [hruns, StageRun.withContextDigest_code, StageRun.withContextDigest_action,
    StageRun.withContextDigest_authorizedBranches]
  exact ⟨trivial, rfl, trivial, trivial, rfl, trivial, trivial⟩

end Verification

section Sample

local instance sampleAnchorsCbor : Cbor := rfc8949

local instance sampleAnchorsSha256 : Sha256 :=
  ⟨fun bytes => ⟨Sha2.sha256 bytes, Sha2.sha256_length bytes⟩⟩

/-- An anchor of the agent, which roots no branch of the root's own action. -/
def sampleUnrelated : TrustAnchor :=
  { sampleRootAnchor .expiryOnly with
    id := ⟨"unrelated", by decide⟩
    principal := sampleAgent }

def sampleWiderDeployment : TrustedContext :=
  sampleDeployment [sampleRootAnchor .expiryOnly, sampleUnrelated] sampleNoStatus (by decide +kernel)
    (by decide +kernel)

theorem unrelatedAnchors_sample :
    let proofBytes := encodeBundle sampleRootBundle
    let registries := sampleImplementations []
    branchRoots sampleRootBundle = [sampleRoot] ∧
      (verifyPortable sampleWiderDeployment registries proofBytes sampleCanonical).code =
        (verifyPortable sampleOwnDeployment registries proofBytes sampleCanonical).code := by
  intro proofBytes registries
  have hroots : branchRoots sampleRootBundle = [sampleRoot] := rfl
  have hdecode := decodeBundle_of_decodeProof
    (sampleRootBundle_decodes sampleOwnDeployment.toContextParts rfl)
  have hsame : sampleWiderDeployment.toContextParts =
      { sampleOwnDeployment.toContextParts with
        trustAnchors := sampleWiderDeployment.trustAnchors } := rfl
  refine ⟨hroots, (@unrelatedAnchors_confer_nothing _ _ sampleOwnDeployment sampleWiderDeployment
    registries proofBytes sampleCanonical hsame ?_ ?_).2.2.1⟩
  · exact fun anchor hanchor => List.mem_cons.mpr (Or.inl (List.mem_singleton.mp hanchor))
  · intro bundle hbundle anchor hanchor hnew
    obtain rfl := Except.ok.inj (hdecode.symm.trans hbundle)
    rw [hroots, List.mem_singleton]
    rcases List.mem_cons.mp hanchor with rfl | hother
    · exact absurd List.mem_cons_self hnew
    · obtain rfl := List.mem_singleton.mp hother
      decide +kernel

end Sample

end AuthsProof
