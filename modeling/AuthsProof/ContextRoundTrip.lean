import AuthsProof.ContextFields

/-! A context comes back from its encoding exactly where its nested collections are within its own
limits, with its status statements and approval requirements in the encoder's order. -/

namespace AuthsProof

open Sorting Wire Decode

namespace TrustedContext

/-- What the constructor has checked of a context that its decoder checks again. -/
structure Bounds (c : TrustedContext) : Prop where
  anchorCount : c.trustAnchors.length ≤ c.limits.get .trustAnchors
  anchors : ∀ a ∈ c.trustAnchors, trustAnchorAccepted c.acceptedRegistries a = true
  registryCount : c.acceptedRegistries.maximumEntryCount ≤ c.limits.get .registryEntries
  requirementCount : c.assurancePolicy.requirements.items.length ≤ c.limits.get .evidenceObjects
  principalCount : c.principalStatusSnapshot.statements.length ≤
    c.limits.get .principalStatusStatements
  grantCount : c.grantStatusSnapshot.statements.length ≤ c.limits.get .grantStatusStatements
  principalCheckpoints : c.principalStatusSnapshot.checkpoints.items.length ≤
    c.limits.get .evidenceObjects
  grantCheckpoints : c.grantStatusSnapshot.checkpoints.items.length ≤ c.limits.get .evidenceObjects
  principalTrust : c.principalStatusSnapshot.trust.length ≤ c.limits.get .registryEntries
  grantTrust : c.grantStatusSnapshot.trust.length ≤ c.limits.get .registryEntries
  principalScopes : statusScopesApply c.principalStatusSnapshot.trust c.trustAnchors = true
  grantScopes : statusScopesApply c.grantStatusSnapshot.trust c.trustAnchors = true
  observerCount : c.observerAnchors.length ≤ maxObserverAnchors
  observers : ∀ a ∈ c.observerAnchors, observerAnchorAccepted c.acceptedRegistries a = true
  approverCount : c.approverAnchors.length ≤ c.limits.get .approverAnchors
  approvers : ∀ a ∈ c.approverAnchors, approverAnchorAccepted c.acceptedRegistries a = true
  approvalCount : c.approvalRequirements.length ≤ c.limits.get .approvalRequirements

theorem bounds (c : TrustedContext) : c.Bounds := by
  have hbase := c.isAccepted
  have hobservers := c.observersOk
  have happrovals := c.approvalsOk
  simp only [ContextParts.baseAccepted, ContextParts.observersAccepted,
    ContextParts.approvalsAccepted, Bool.and_eq_true, decide_eq_true_eq, List.all_eq_true]
    at hbase hobservers happrovals
  obtain ⟨⟨⟨⟨⟨⟨⟨⟨⟨⟨⟨⟨⟨⟨⟨⟨_, _⟩, hanchorCount⟩, hanchors⟩, _⟩, _⟩, _⟩, hregistries⟩, hrequirements⟩,
    hprincipal⟩, hgrant⟩, hpcheck⟩, hgcheck⟩, hptrust⟩, hgtrust⟩, hpscopes⟩, hgscopes⟩ := hbase
  obtain ⟨⟨⟨⟨happroverCount, happrovalCount⟩, happrovers⟩, _⟩, _⟩ := happrovals
  exact ⟨hanchorCount, hanchors, hregistries, hrequirements, hprincipal, hgrant, hpcheck, hgcheck,
    hptrust, hgtrust, hpscopes, hgscopes, hobservers.1, hobservers.2, happroverCount, happrovers,
    happrovalCount⟩

theorem methods_length_le (c : TrustedContext) (methods : CanonicalList PrincipalMethodId 1024)
    (h : methods.items.all (fun method => c.acceptedRegistries.acceptsPrincipalMethod method) = true) :
    methods.items.length ≤ c.limits.get .registryEntries := by
  have hsubset : methods.items ⊆ c.acceptedRegistries.principalMethods.items := fun method hmem =>
    of_decide_eq_true (List.all_eq_true.mp h method hmem)
  have hcount : c.acceptedRegistries.principalMethods.items.length ≤
      c.acceptedRegistries.maximumEntryCount := le_foldl_max (Or.inl (by simp))
  exact (methods.length_le_of_subset hsubset).trans (hcount.trans c.bounds.registryCount)

theorem profiles_length_le (c : TrustedContext) (profiles : RegistryList ProfileRef)
    (h : profiles.items.all (fun profile => c.acceptedRegistries.acceptsProfile profile) = true) :
    profiles.items.length ≤ c.limits.get .registryEntries := by
  have hsubset : profiles.items ⊆ c.acceptedRegistries.profiles.items := fun profile hmem =>
    of_decide_eq_true (List.all_eq_true.mp h profile hmem)
  have hcount : c.acceptedRegistries.profiles.items.length ≤
      c.acceptedRegistries.maximumEntryCount := le_foldl_max (Or.inl (by simp))
  exact (profiles.length_le_of_subset hsubset).trans (hcount.trans c.bounds.registryCount)

/-- The nested collections of a context within its own limits. -/
structure Fits (c : TrustedContext) : Prop where
  anchors : ∀ a ∈ c.trustAnchors, a.Fits c.limits
  requirements : ∀ r ∈ c.assurancePolicy.requirements.items, r.Fits c.limits
  principalStatus : ∀ s ∈ c.principalStatusSnapshot.statements, s.Fits c.limits
  grantStatus : ∀ s ∈ c.grantStatusSnapshot.statements, s.Fits c.limits
  observers : ∀ a ∈ c.observerAnchors, a.Fits c.limits

variable [Cbor] [Sha256]

/-- The snapshot constructor finds no repetition among the statements in the encoder's order. -/
structure Distinct (c : TrustedContext) : Prop where
  principalStatus : neighboursDistinct
    (sortedPrincipalStatus c.principalStatusSnapshot.statements) = true
  grantStatus : neighboursDistinct (sortedGrantStatus c.grantStatusSnapshot.statements) = true

theorem reordered_principalSnapshot (c : TrustedContext) : c.principalStatusSnapshot.Reordered
    (c.principalStatusSnapshot.rebuilt
      (sortedPrincipalStatus c.principalStatusSnapshot.statements)) :=
  StatusSnapshot.reordered_rebuilt (sortByKey_perm _ _)

theorem reordered_grantSnapshot (c : TrustedContext) : c.grantStatusSnapshot.Reordered
    (c.grantStatusSnapshot.rebuilt (sortedGrantStatus c.grantStatusSnapshot.statements)) :=
  StatusSnapshot.reordered_rebuilt (sortByKey_perm _ _)

theorem sortedApprovalRequirements_perm (requirements : List ApprovalRequirement) :
    (sortedApprovalRequirements requirements).Perm requirements := sortByKey_perm _ _

/-- The context as its decoder leaves it: statements and requirements in the encoder's order. -/
def canonical (c : TrustedContext) : TrustedContext :=
  { c with
    principalStatusSnapshot := c.principalStatusSnapshot.rebuilt
      (sortedPrincipalStatus c.principalStatusSnapshot.statements)
    grantStatusSnapshot := c.grantStatusSnapshot.rebuilt
      (sortedGrantStatus c.grantStatusSnapshot.statements)
    approvalRequirements := sortedApprovalRequirements c.approvalRequirements
    isAccepted := by
      have hprincipal := c.reordered_principalSnapshot
      have hgrant := c.reordered_grantSnapshot
      have haccepted := c.isAccepted
      simp only [ContextParts.baseAccepted, hprincipal.statements.length_eq, hprincipal.checkpoints,
        hprincipal.trust, hgrant.statements.length_eq, hgrant.checkpoints, hgrant.trust] at haccepted
      exact haccepted
    approvalsOk := by
      have hperm := sortedApprovalRequirements_perm c.approvalRequirements
      have happrovals := c.approvalsOk
      simp only [ContextParts.approvalsAccepted, hperm.length_eq, hperm.nodup_iff,
        hperm.all_eq] at happrovals ⊢
      exact happrovals }

/-- Two contexts that differ in nothing but the order of their status statements and approval
requirements. -/
structure Reordered (c d : TrustedContext) : Prop where
  parts : d.toContextParts = { c.toContextParts with
    principalStatusSnapshot := d.principalStatusSnapshot
    grantStatusSnapshot := d.grantStatusSnapshot
    approvalRequirements := d.approvalRequirements }
  principalStatus : c.principalStatusSnapshot.Reordered d.principalStatusSnapshot
  grantStatus : c.grantStatusSnapshot.Reordered d.grantStatusSnapshot
  requirements : c.approvalRequirements.Perm d.approvalRequirements

theorem reordered_canonical (c : TrustedContext) : c.Reordered c.canonical :=
  ⟨rfl, c.reordered_principalSnapshot, c.reordered_grantSnapshot,
    (sortedApprovalRequirements_perm _).symm⟩

/-- No two statements of a snapshot share an identifier. -/
structure DistinctIds (c : TrustedContext) : Prop where
  principalStatus : (c.principalStatusSnapshot.statements.map
    fun status => principalStatusId status.statement).Nodup
  grantStatus : (c.grantStatusSnapshot.statements.map
    fun status => grantStatusId status.statement).Nodup

/-- Requirements, and statements the snapshot order does not separate, in identifier order. -/
structure InOrder (c : TrustedContext) : Prop where
  principalStatus : c.principalStatusSnapshot.statements.Pairwise fun a b =>
    a.key = b.key → principalStatusId a.statement ≤ principalStatusId b.statement
  grantStatus : c.grantStatusSnapshot.statements.Pairwise fun a b =>
    a.key = b.key → grantStatusId a.statement ≤ grantStatusId b.statement
  requirements : c.approvalRequirements.Pairwise fun a b =>
    approvalRequirementId a ≤ approvalRequirementId b

section Statements

omit [Cbor] [Sha256]

variable {σ : Type} [LinearOrder σ] {identifier : StatusStatement σ → Digest}
  {statements : List (SignedStatus σ)}

theorem neighboursDistinct_of_nodup
    (h : (statements.map fun status => identifier status.statement).Nodup) :
    neighboursDistinct (sortByKey (fun status => identifier status.statement) statements) = true := by
  have hperm : (sortByKey SignedStatus.key (sortByKey (fun status => identifier status.statement)
      statements)).Perm statements := (sortByKey_perm _ _).trans (sortByKey_perm _ _)
  have hstatements : (statements.map SignedStatus.statement).Nodup :=
    List.Nodup.of_map identifier (by simpa [Function.comp_def] using h)
  exact adjacentDistinct_iff.mpr ((hperm.map _).nodup_iff.mpr hstatements).isChain

theorem sortByKey_rebuilt {s : StatusSnapshot σ}
    (h : (s.statements.map fun status => identifier status.statement).Nodup) :
    sortByKey (fun status => identifier status.statement)
        (s.rebuilt (sortByKey (fun status => identifier status.statement) s.statements)).statements =
      sortByKey (fun status => identifier status.statement) s.statements := by
  have hreordered := StatusSnapshot.reordered_rebuilt
    (sortByKey_perm (fun status : SignedStatus σ => identifier status.statement) s.statements)
  exact (sortByKey_eq_of_perm hreordered.statements
    fun a ha b hb hab => List.inj_on_of_nodup_map h ha hb hab).symm

theorem rebuilt_tied {s : StatusSnapshot σ}
    (h : neighboursDistinct (sortByKey (fun status => identifier status.statement) s.statements) =
      true) :
    (s.rebuilt (sortByKey (fun status => identifier status.statement) s.statements)).statements.Pairwise
      fun a b => a.key = b.key → identifier a.statement ≤ identifier b.statement := by
  rw [StatusSnapshot.rebuilt_statements (sortByKey_perm _ _) h]
  exact sortByKey_sortByKey_tied _ _ _

/-- Rebuilding in identifier order changes nothing exactly where ties are in that order. -/
theorem rebuilt_eq_self_iff {s : StatusSnapshot σ}
    (h : neighboursDistinct (sortByKey (fun status => identifier status.statement) s.statements) =
      true) :
    s.rebuilt (sortByKey (fun status => identifier status.statement) s.statements) = s ↔
      s.statements.Pairwise fun a b =>
        a.key = b.key → identifier a.statement ≤ identifier b.statement := by
  have hperm := sortByKey_perm (fun status : SignedStatus σ => identifier status.statement) s.statements
  have hstatements := StatusSnapshot.rebuilt_statements hperm h
  constructor
  · intro hself
    have htied := rebuilt_tied h
    rwa [hself] at htied
  · intro htied
    have hreordered := StatusSnapshot.reordered_rebuilt hperm
    rw [sortByKey_sortByKey_of_tied s.statementsSorted htied] at hstatements
    exact StatusSnapshot.ext_parts hreordered.id.symm hreordered.observedAt.symm
      hreordered.validUntil.symm hstatements hreordered.checkpoints.symm hreordered.trust.symm

end Statements

theorem DistinctIds.distinct {c : TrustedContext} (h : c.DistinctIds) : c.Distinct :=
  ⟨neighboursDistinct_of_nodup h.principalStatus, neighboursDistinct_of_nodup h.grantStatus⟩

theorem encodeVerifierContext_canonical {c : TrustedContext} (h : c.DistinctIds) :
    encodeVerifierContext c.canonical = encodeVerifierContext c := by
  have hprincipal := c.reordered_principalSnapshot
  have hgrant := c.reordered_grantSnapshot
  have hpsorted := sortByKey_rebuilt h.principalStatus
  have hgsorted := sortByKey_rebuilt h.grantStatus
  have hp : encodePrincipalSnapshot c.canonical.principalStatusSnapshot =
      encodePrincipalSnapshot c.principalStatusSnapshot := by
    simp only [encodePrincipalSnapshot, encodeSnapshot, canonical, ← hprincipal.id,
      ← hprincipal.observedAt, ← hprincipal.validUntil, ← hprincipal.checkpoints,
      ← hprincipal.trust]
    rw [sortedPrincipalStatus, sortedPrincipalStatus, hpsorted]
  have hg : encodeGrantSnapshot c.canonical.grantStatusSnapshot =
      encodeGrantSnapshot c.grantStatusSnapshot := by
    simp only [encodeGrantSnapshot, encodeSnapshot, canonical, ← hgrant.id,
      ← hgrant.observedAt, ← hgrant.validUntil, ← hgrant.checkpoints, ← hgrant.trust]
    rw [sortedGrantStatus, sortedGrantStatus, hgsorted]
  have hr : encodeRequirementList c.canonical.approvalRequirements =
      encodeRequirementList c.approvalRequirements := by
    simp only [encodeRequirementList, canonical, sortedApprovalRequirements, sortByKey_sortByKey]
  rw [encodeVerifierContext, hp, hg, hr]
  rfl

theorem canonical_eq_self_iff {c : TrustedContext} (h : c.Distinct) : c.canonical = c ↔ c.InOrder := by
  have hp := rebuilt_eq_self_iff h.principalStatus
  have hg := rebuilt_eq_self_iff h.grantStatus
  constructor
  · intro hself
    have hparts := congrArg toContextParts hself
    refine ⟨hp.mp (congrArg ContextParts.principalStatusSnapshot hparts),
      hg.mp (congrArg ContextParts.grantStatusSnapshot hparts), ?_⟩
    have hrequirements : sortedApprovalRequirements c.approvalRequirements =
      c.approvalRequirements := congrArg ContextParts.approvalRequirements hparts
    rw [← hrequirements]
    exact sortByKey_pairwise _ _
  · intro horder
    have hrequirements : sortedApprovalRequirements c.approvalRequirements =
      c.approvalRequirements := sortByKey_of_pairwise horder.requirements
    refine toContextParts_injective ?_
    show { c.toContextParts with
      principalStatusSnapshot := c.principalStatusSnapshot.rebuilt
        (sortedPrincipalStatus c.principalStatusSnapshot.statements)
      grantStatusSnapshot := c.grantStatusSnapshot.rebuilt
        (sortedGrantStatus c.grantStatusSnapshot.statements)
      approvalRequirements := sortedApprovalRequirements c.approvalRequirements } = c.toContextParts
    rw [hrequirements]
    simp only [sortedPrincipalStatus, sortedGrantStatus, hp.mpr horder.principalStatus,
      hg.mpr horder.grantStatus]

theorem canonical_inOrder {c : TrustedContext} (h : c.Distinct) : c.canonical.InOrder :=
  ⟨rebuilt_tied h.principalStatus, rebuilt_tied h.grantStatus, sortByKey_pairwise _ _⟩

variable [LawfulCbor]

/-- The decoder reads a context back in the encoder's order exactly where its nested collections are
within its own limits and no statement is repeated there. -/
theorem readsIf_context (c : TrustedContext) :
    ReadsIf (c.Fits ∧ c.Distinct) contextFrom (encodeVerifierContext c) c.canonical := by
  have hbounds := c.bounds
  have hanchors := readsIf_list (lt_of_le_of_lt hbounds.anchorCount (c.limits.get_lt _))
    (c.limits.get .trustAnchors) fun a (ha : a ∈ c.trustAnchors) => by
      have haccepted := hbounds.anchors a ha
      simp only [trustAnchorAccepted, Bool.and_eq_true] at haccepted
      exact readsIf_anchor c.limits (c.methods_length_le _ haccepted.1.1)
        (c.profiles_length_le _ haccepted.1.2)
  have hpolicy := readsIf_assurancePolicy c.limits hbounds.requirementCount
  have hprincipal : ReadsIf ((∀ x ∈ c.principalStatusSnapshot.statements, x.Fits c.limits) ∧
      neighboursDistinct (sortedPrincipalStatus c.principalStatusSnapshot.statements) = true)
      (principalSnapshot c.limits) (encodePrincipalSnapshot c.principalStatusSnapshot)
      c.canonical.principalStatusSnapshot :=
    readsIf_snapshot c.limits (sortByKey_perm _ _) (readsIf_signedPrincipalStatus c.limits)
      hbounds.principalCount hbounds.principalCheckpoints hbounds.principalTrust
      fun rule hrule listed hscope =>
        (listed_length_le hbounds.principalScopes hrule hscope).trans hbounds.anchorCount
  have hgrant : ReadsIf ((∀ x ∈ c.grantStatusSnapshot.statements, x.Fits c.limits) ∧
      neighboursDistinct (sortedGrantStatus c.grantStatusSnapshot.statements) = true)
      (grantSnapshot c.limits) (encodeGrantSnapshot c.grantStatusSnapshot)
      c.canonical.grantStatusSnapshot :=
    readsIf_snapshot c.limits (sortByKey_perm _ _) (readsIf_signedGrantStatus c.limits)
      hbounds.grantCount hbounds.grantCheckpoints hbounds.grantTrust
      fun rule hrule listed hscope =>
        (listed_length_le hbounds.grantScopes hrule hscope).trans hbounds.anchorCount
  have hobservers := readsIf_list (lt_of_le_of_lt hbounds.observerCount (by decide))
    maxObserverAnchors fun a (ha : a ∈ c.observerAnchors) =>
      readsIf_observerAnchor c.limits (c.methods_length_le _ (hbounds.observers a ha))
  have happrovers : Reads (approverAnchors c.limits)
      (encodeList encodeApproverAnchor c.approverAnchors) c.approverAnchors :=
    reads_listOfFits hbounds.approverCount (c.limits.get_lt _) (fun a ha => by
      have haccepted := hbounds.approvers a ha
      simp only [approverAnchorAccepted, Bool.and_eq_true] at haccepted
      exact (reads_approverAnchor c.limits (c.methods_length_le _ haccepted.1)).readsIf)
      fun _ _ => trivial
  have hlength : (sortedApprovalRequirements c.approvalRequirements).length ≤
      c.limits.get .approvalRequirements := by
    rw [(sortedApprovalRequirements_perm _).length_eq]
    exact hbounds.approvalCount
  have hrequirements : Reads (contextRequirements c.limits)
      (encodeRequirementList c.approvalRequirements) c.canonical.approvalRequirements :=
    reads_listOfFits hlength (c.limits.get_lt _) (fun r _ => (reads_approvalRequirement r).readsIf)
      fun _ _ => trivial
  obtain ⟨base, hbase, hrest⟩ := exists_of_bind_ok c.canonical.new_withApprovals
  obtain ⟨observed, hobserved, happroved⟩ := exists_of_bind_ok hrest
  have h : ReadsIf ((c.trustAnchors.length ≤ c.limits.get .trustAnchors ∧
      ∀ a ∈ c.trustAnchors, a.Fits c.limits) ∧
      (∀ r ∈ c.assurancePolicy.requirements.items, r.Fits c.limits) ∧
      ((∀ x ∈ c.principalStatusSnapshot.statements, x.Fits c.limits) ∧
        neighboursDistinct (sortedPrincipalStatus c.principalStatusSnapshot.statements) = true) ∧
      ((∀ x ∈ c.grantStatusSnapshot.statements, x.Fits c.limits) ∧
        neighboursDistinct (sortedGrantStatus c.grantStatusSnapshot.statements) = true) ∧
      (c.observerAnchors.length ≤ maxObserverAnchors ∧
        ∀ a ∈ c.observerAnchors, a.Fits c.limits) ∧ True)
      contextFrom (encodeVerifierContext c) c.canonical := by
    refine (reads_map (by norm_num)).seq ?_
    refine reads_field 0 (reads_verifierLimits c.limits) ?_
    refine reads_field 1 (reads_digestBytes c.configuration) ?_
    refine reads_field 2 (reads_compositionRequirement c.composition) ?_
    refine readsIf_field 3 hanchors ?_
    refine reads_field 4 (reads_registries c.limits hbounds.registryCount) ?_
    refine reads_field 5 (reads_bounded c.expectedAudience _ (by norm_num)) ?_
    refine reads_field 6 (reads_digestBytes c.expectedChallenge) ?_
    refine reads_field 7 (reads_u64 c.evaluationTime) ?_
    refine readsIf_field 8 hpolicy ?_
    refine readsIf_field 9 hprincipal ?_
    refine readsIf_field 10 hgrant ?_
    refine reads_field 11 (reads_bounded c.resourceMatcher _ (by norm_num)) ?_
    refine reads_field 12 (reads_bounded c.profilePolicy _ (by norm_num)) ?_
    refine reads_field 13 (reads_bounded c.channelPolicy _ (by norm_num)) ?_
    refine readsIf_field 14 hobservers ?_
    refine reads_field 15 happrovers ?_
    refine reads_field 16 hrequirements ?_
    refine (reads_model hbase).step ?_
    refine (reads_model hobserved).step ?_
    exact (reads_model happroved).readsIf
  refine h.congr ⟨fun ⟨f, d⟩ => ?_, fun ⟨ha, hr, hp, hg, ho, _⟩ => ?_⟩
  · exact ⟨⟨hbounds.anchorCount, f.anchors⟩, f.requirements, ⟨f.principalStatus, d.principalStatus⟩,
      ⟨f.grantStatus, d.grantStatus⟩, ⟨hbounds.observerCount, f.observers⟩, trivial⟩
  · exact ⟨⟨ha.2, hr, hp.1, hg.1, ho.2⟩, ⟨hp.2, hg.2⟩⟩

/-- What an encoded context decodes to: itself in the encoder's order, or nothing. -/
theorem decodeVerifierContext_spec (c : TrustedContext) :
    (c.Fits ∧ c.Distinct ∧ (encodeVerifierContext c).length ≤ c.limits.get .contextBytes ∧
        encodeVerifierContext c.canonical = encodeVerifierContext c →
      decodeVerifierContext (encodeVerifierContext c) = .ok c.canonical) ∧
    (¬(c.Fits ∧ c.Distinct ∧ (encodeVerifierContext c).length ≤ c.limits.get .contextBytes ∧
        encodeVerifierContext c.canonical = encodeVerifierContext c) →
      ∃ error, decodeVerifierContext (encodeVerifierContext c) = .error error) := by
  have hsize := ReadsIf.ensure ((encodeVerifierContext c).length ≤ c.canonical.limits.get .contextBytes)
    CodecError.limitExceeded
  have hread : ReadsIf ((c.Fits ∧ c.Distinct) ∧
      ((encodeVerifierContext c).length ≤ c.canonical.limits.get .contextBytes ∧ True))
      (boundedContext (encodeVerifierContext c).length) (encodeVerifierContext c) c.canonical :=
    c.readsIf_context.then (hsize.step (ReadsIf.pure c.canonical))
  have hdecode := @decodeCanonical_of_readsIf _ _ _ encodeVerifierContext _ _ hread
  have hhard : c.limits.get .contextBytes ≤ hardMaxContextBytes := c.limits.get_le .contextBytes
  rw [decodeVerifierContext]
  by_cases hover : hardMaxContextBytes < (encodeVerifierContext c).length
  · rw [if_pos hover]
    exact ⟨fun h => by omega, fun _ => ⟨_, rfl⟩⟩
  · rw [if_neg hover]
    refine ⟨fun h => hdecode.1 ?_, fun h => hdecode.2 fun h' => h ?_⟩
    · exact ⟨⟨⟨h.1, h.2.1⟩, h.2.2.1, trivial⟩, h.2.2.2⟩
    · exact ⟨h'.1.1.1, h'.1.1.2, h'.1.2.1, h'.2⟩

theorem eq_canonical_of_decode {c decoded : TrustedContext}
    (h : decodeVerifierContext (encodeVerifierContext c) = .ok decoded) :
    decoded = c.canonical ∧ c.Distinct := by
  obtain ⟨hok, herror⟩ := c.decodeVerifierContext_spec
  by_cases hp : c.Fits ∧ c.Distinct ∧ (encodeVerifierContext c).length ≤ c.limits.get .contextBytes ∧
      encodeVerifierContext c.canonical = encodeVerifierContext c
  · rw [hok hp] at h
    exact ⟨(Except.ok.inj h).symm, hp.2.1⟩
  · obtain ⟨error, he⟩ := herror hp
    rw [he] at h
    cases h

end TrustedContext

open TrustedContext in
/-- A context within its own limits comes back with its approval requirements and tied status
statements in identifier order, and unchanged exactly where they already were. -/
theorem decodeVerifierContext_encodeVerifierContext [Cbor] [LawfulCbor] [Sha256] {c : TrustedContext}
    (hsize : (encodeVerifierContext c).length ≤ c.limits.get .contextBytes) (hfits : c.Fits)
    (hids : c.DistinctIds) :
    ∃ decoded, decodeVerifierContext (encodeVerifierContext c) = .ok decoded ∧
      c.Reordered decoded ∧ decoded.InOrder ∧ (decoded = c ↔ c.InOrder) := by
  have hencode := encodeVerifierContext_canonical hids
  have hdecode := c.decodeVerifierContext_spec.1 ⟨hfits, hids.distinct, hsize, hencode⟩
  exact ⟨c.canonical, hdecode, c.reordered_canonical, canonical_inOrder hids.distinct,
    canonical_eq_self_iff hids.distinct⟩

section Sample

local instance sampleContextCbor : Cbor := rfc8949

local instance sampleContextSha256 : Sha256 :=
  ⟨fun bytes => ⟨Sha2.sha256 bytes, Sha2.sha256_length bytes⟩⟩

theorem sampleThreshold_le : (1 : UInt16).toNat ≤ 2 := by decide

theorem sampleFree_bounded : ([] : List ProfileRef).length ≤ hardMaxRegistryEntries := by decide

theorem sampleFree_sorted : ([] : List ProfileRef).Pairwise (· < ·) := .nil

theorem sampleFree_subset : ([] : List ProfileRef) ⊆ sampleProfiles.items := List.nil_subset _

theorem sampleObservers_sorted :
    ([] : List ObserverAnchor).Pairwise fun a b => a.id < b.id := .nil

def sampleStatus (state : LifecycleState) (signature : SignatureEnvelope) : SignedPrincipalStatus where
  statement := {
    method := sampleId
    subject := sampleAgent
    state
    sequence := 1
    observedAt := 0
    validUntil := 100
    issuer := sampleRoot
    extensions := .empty
    ordered := sampleWindow_ordered }
  signature

/-- A snapshot of statements the snapshot order does not separate. -/
def sampleSnapshot {σ : Type} [LinearOrder σ] (statements : List (SignedStatus σ))
    (hbounded : statements.length ≤ hardMaxStatus)
    (hsorted : statements.Pairwise fun a b => a.key ≤ b.key)
    (hdistinct : adjacentDistinct (statements.map SignedStatus.statement) = true)
    (hcover : ∀ status ∈ statements, status.statement.observedAt ≤ 50 ∧
      100 ≤ status.statement.validUntil) : StatusSnapshot σ where
  id := .zero
  observedAt := 50
  validUntil := 100
  statements
  checkpoints := ⟨[], Nat.zero_le _, List.Pairwise.nil⟩
  trust := []
  ordered := by decide
  statementsBounded := hbounded
  statementsSorted := hsorted
  statementsDistinct := hdistinct
  statementsCover := hcover
  trustBounded := Nat.zero_le _
  trustSorted := List.Pairwise.nil

def sampleNoStatus {σ : Type} [LinearOrder σ] : StatusSnapshot σ :=
  sampleSnapshot [] (Nat.zero_le _) List.Pairwise.nil rfl (by simp)

def sampleRequirement (threshold : UInt16) (hpositive : threshold ≠ 0) (hreachable : threshold.toNat ≤ 2) :
    ApprovalRequirement where
  approvers := ⟨[sampleAgent, sampleRoot], by decide, by decide, by decide⟩
  threshold
  positive := hpositive
  reachable := hreachable

def sampleApprover (principal : PrincipalId) : ApproverAnchor where
  principal
  acceptedMethods := sampleIds
  validity := ⟨0, 100, sampleWindow_ordered⟩
  statusPolicy := .expiryOnly
  methodsNonempty := by decide

theorem sampleApprovers_sorted : [sampleApprover sampleAgent, sampleApprover sampleRoot].Pairwise
    fun a b => a.principal < b.principal := by decide

def sampleParts (limits : VerifierLimits) (snapshot : PrincipalStatusSnapshot)
    (requirements : List ApprovalRequirement) : ContextParts where
  configuration := .zero
  composition := ⟨none, 1, 1, 1, by decide⟩
  trustAnchors := [sampleAnchor]
  acceptedRegistries := sampleRegistries ⟨[], sampleFree_bounded, sampleFree_sorted⟩ sampleFree_subset
  expectedAudience := sampleAudience
  expectedChallenge := .zero
  evaluationTime := 60
  assurancePolicy := ⟨sampleId, ⟨[], Nat.zero_le _, List.Pairwise.nil⟩⟩
  principalStatusSnapshot := snapshot
  grantStatusSnapshot := sampleNoStatus
  resourceMatcher := sampleId
  profilePolicy := sampleId
  channelPolicy := sampleId
  limits
  observerAnchors := []
  approverAnchors := [sampleApprover sampleAgent, sampleApprover sampleRoot]
  approvalRequirements := requirements

def sampleContext (limits : VerifierLimits) (snapshot : PrincipalStatusSnapshot)
    (requirements : List ApprovalRequirement)
    (hbase : (sampleParts limits snapshot requirements).baseAccepted = true)
    (happrovals : (sampleParts limits snapshot requirements).approvalsAccepted = true) :
    TrustedContext where
  toContextParts := sampleParts limits snapshot requirements
  anchorsSorted := List.pairwise_singleton _ _
  isAccepted := hbase
  observersSorted := sampleObservers_sorted
  observersOk := rfl
  approversSorted := sampleApprovers_sorted
  approvalsOk := happrovals

/-- Requirements out of identifier order. -/
def sampleRequirements : List ApprovalRequirement :=
  [sampleRequirement 1 sampleVersion_ne sampleThreshold_le, sampleRequirement 2 (by decide) (by decide)]

def sampleReversed : TrustedContext :=
  sampleContext .defaultDeployment sampleNoStatus sampleRequirements (by decide +kernel)
    (by decide +kernel)

def sampleNoAudience : VerifierLimits where
  get := Function.update defaultLimit .audiences 0
  maxWorkUnits := defaultMaxWorkUnits
  get_le kind := by cases kind <;> decide
  maxWorkUnits_le := VerifierLimits.defaultDeployment.maxWorkUnits_le

def sampleNarrow : TrustedContext :=
  sampleContext sampleNoAudience sampleNoStatus [] (by decide +kernel) (by decide +kernel)

def sampleOtherSignature : SignatureEnvelope :=
  { sampleSignature with signature := ⟨[8], by decide, by decide⟩ }

/-- One statement under two signatures, kept apart by another with the same subject, method, sequence
and issuer. -/
def sampleRepeated : TrustedContext :=
  sampleContext .defaultDeployment (sampleSnapshot [sampleStatus .active sampleSignature,
    sampleStatus .revoked sampleSignature, sampleStatus .active sampleOtherSignature] (by decide)
    (by decide +kernel) (by decide +kernel) (by decide +kernel)) [] (by decide +kernel)
    (by decide +kernel)

theorem sampleAnchor_fits : sampleAnchor.Fits .defaultDeployment :=
  ⟨by decide, by decide, by decide⟩

theorem sampleReversed_fits : sampleReversed.Fits where
  anchors a ha := by
    obtain rfl := List.mem_singleton.mp ha
    exact sampleAnchor_fits
  requirements _ hmem := absurd hmem List.not_mem_nil
  principalStatus _ hmem := absurd hmem List.not_mem_nil
  grantStatus _ hmem := absurd hmem List.not_mem_nil
  observers _ hmem := absurd hmem List.not_mem_nil

theorem sampleReversed_distinctIds : sampleReversed.DistinctIds :=
  ⟨List.nodup_nil, List.nodup_nil⟩

theorem sampleReversed_not_inOrder : ¬sampleReversed.InOrder := by
  intro h
  have hpair := (List.pairwise_cons.mp h.requirements).1 _ (List.mem_singleton_self _)
  exact absurd hpair (by decide +kernel)

/-- The round trip of a context with two approval requirements out of identifier order. -/
theorem decodeVerifierContext_sampleReversed :
    (encodeVerifierContext sampleReversed).length ≤ sampleReversed.limits.get .contextBytes ∧
      ∃ decoded, decodeVerifierContext (encodeVerifierContext sampleReversed) = .ok decoded ∧
        sampleReversed.Reordered decoded ∧ decoded.InOrder := by
  have hsize : (encodeVerifierContext sampleReversed).length ≤
      sampleReversed.limits.get .contextBytes := by decide +kernel
  have : LawfulCbor := rfc8949_lawful
  obtain ⟨decoded, hdecoded, hreordered, horder, _⟩ :=
    decodeVerifierContext_encodeVerifierContext hsize sampleReversed_fits sampleReversed_distinctIds
  exact ⟨hsize, decoded, hdecoded, hreordered, horder⟩

/-- Contexts within their own byte limit that do not come back: one comes back in another order, one
has an anchor with more audiences than its own limit, one a statement repeated in identifier order. -/
theorem decodeVerifierContext_not_self :
    ((encodeVerifierContext sampleReversed).length ≤ sampleReversed.limits.get .contextBytes ∧
      decodeVerifierContext (encodeVerifierContext sampleReversed) ≠ .ok sampleReversed) ∧
    ((encodeVerifierContext sampleNarrow).length ≤ sampleNarrow.limits.get .contextBytes ∧
      ∀ decoded, decodeVerifierContext (encodeVerifierContext sampleNarrow) ≠ .ok decoded) ∧
    ((encodeVerifierContext sampleRepeated).length ≤ sampleRepeated.limits.get .contextBytes ∧
      ∀ decoded, decodeVerifierContext (encodeVerifierContext sampleRepeated) ≠ .ok decoded) := by
  have : LawfulCbor := rfc8949_lawful
  refine ⟨⟨by decide +kernel, fun h => ?_⟩, ⟨by decide +kernel, fun decoded h => ?_⟩,
    ⟨by decide +kernel, fun decoded h => ?_⟩⟩
  · obtain ⟨hself, hdistinct⟩ := TrustedContext.eq_canonical_of_decode h
    exact sampleReversed_not_inOrder ((TrustedContext.canonical_eq_self_iff hdistinct).mp hself.symm)
  · obtain ⟨error, herror⟩ := sampleNarrow.decodeVerifierContext_spec.2 fun hp => by
      have haudiences := (hp.1.anchors sampleAnchor (List.mem_singleton_self _)).audiences
      exact absurd haudiences (by decide)
    rw [herror] at h
    cases h
  · have hdistinct := (TrustedContext.eq_canonical_of_decode h).2.principalStatus
    exact absurd hdistinct (by decide +kernel)

end Sample

end AuthsProof
