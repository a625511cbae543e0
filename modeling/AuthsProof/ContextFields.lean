import AuthsProof.ContextCodec
import AuthsProof.BundleRoundTrip

/-! What the decoders make of the parts of an encoded context and of an encoded action. -/

namespace AuthsProof

open Sorting Wire Decode

section Lengths

theorem le_foldl_max {x : Nat} {xs : List Nat} {start : Nat} (h : x ∈ xs ∨ x ≤ start) :
    x ≤ xs.foldl max start := by
  induction xs generalizing start with
  | nil => simpa using h
  | cons y ys ih =>
    rw [List.foldl_cons]
    refine ih ?_
    rcases h with h | h
    · rcases List.mem_cons.mp h with rfl | h
      · exact Or.inr (le_max_right start x)
      · exact Or.inl h
    · exact Or.inr (h.trans (le_max_left start y))

/-- A canonical list inside another list is no longer than it. -/
theorem CanonicalList.length_le_of_subset {α : Type} [LinearOrder α] {maximum : Nat}
    (l : CanonicalList α maximum) {xs : List α} (h : l.items ⊆ xs) : l.items.length ≤ xs.length :=
  (List.subperm_of_subset (l.sorted.imp fun hlt => hlt.ne) h).length_le

end Lengths

section Action

variable [Cbor] [LawfulCbor] {limits : VerifierLimits}

theorem reads_detachedAttachments {attachments : List DetachedAttachment} {taken : Nat}
    (h : taken + detachedBytes attachments ≤ limits.get .attachmentBytes) :
    Reads (detachedAttachments limits taken attachments.length)
      (attachments.flatMap encodeDetachedAttachment) attachments := by
  induction attachments generalizing taken with
  | nil => exact Reads.pure []
  | cons a attachments ih =>
    have hsum : detachedBytes (a :: attachments) = a.bytes.length + detachedBytes attachments := by
      simp [detachedBytes]
    have hlen : a.bytes.length < 2 ^ 64 :=
      lt_of_le_of_lt a.bounded (by norm_num [hardMaxBundleBytes])
    have hbytes := (readsIf_boundedBytes hlen (limits.get .attachmentBytes) true).reads
      ⟨by omega, fun _ => a.nonempty⟩
    have hrest := ih (by omega : taken + a.bytes.length + detachedBytes attachments ≤ _)
    have hencode : (a :: attachments).flatMap encodeDetachedAttachment =
        [Cbor.map 2, encodeKey 0, encodeDigest a.digest, encodeKey 1, Cbor.bytes a.bytes,
          attachments.flatMap encodeDetachedAttachment].flatten := by
      simp [encodeDetachedAttachment]
    rw [hencode]
    refine ReadsIf.always ((reads_map (by norm_num)).seq ?_)
    refine reads_field 0 (reads_digestBytes a.digest) ?_
    refine reads_field 1 hbytes ?_
    refine (Reads.ensure _ (by omega)).step ?_
    refine (reads_model a.new_self).step ?_
    exact hrest.seq (ReadsIf.pure (a :: attachments))

/-- The action within the limits of a verifier. -/
structure CanonicalAction.Within (limits : VerifierLimits) (a : CanonicalAction) : Prop where
  body : a.body.length ≤ limits.get .canonicalBodyBytes
  count : a.detachedAttachments.length ≤ limits.get .attachments
  attachments : detachedBytes a.detachedAttachments ≤ limits.get .attachmentBytes

theorem reads_canonicalAction {a : CanonicalAction} (h : a.Within limits) :
    Reads (canonicalAction limits) (encodeCanonicalAction a) a := by
  have hlen : a.body.length < 2 ^ 64 :=
    lt_of_le_of_lt a.bounded (by norm_num [hardMaxCanonicalBodyBytes])
  have hcount : a.detachedAttachments.length < 2 ^ 64 :=
    lt_of_le_of_lt a.attachmentsBounded (by norm_num [hardMaxAttachments])
  have hbody := (readsIf_boundedBytes hlen (limits.get .canonicalBodyBytes) true).reads
    ⟨h.body, fun _ => a.nonempty⟩
  have hattachments : Reads (detachedAttachments limits 0 a.detachedAttachments.length)
      (a.detachedAttachments.flatMap encodeDetachedAttachment) a.detachedAttachments :=
    reads_detachedAttachments (by simpa using h.attachments)
  have hencode : encodeCanonicalAction a = [Cbor.map 6, encodeKey 0, encodeProfileRef a.profile,
      encodeKey 1, Cbor.text a.mediaType.str, encodeKey 2, Cbor.bytes a.body, encodeKey 3,
      encodePermission a.permission, encodeKey 4, encodeOptional encodeBudget a.requestedBudget,
      encodeKey 5, Cbor.array a.detachedAttachments.length,
      a.detachedAttachments.flatMap encodeDetachedAttachment].flatten := by
    simp [encodeCanonicalAction, encodeList]
  obtain ⟨base, hbase, hrebuilt⟩ := exists_of_bind_ok a.new_withDetachedAttachments
  rw [hencode]
  refine ReadsIf.always ((reads_map (by norm_num)).seq ?_)
  refine reads_field 0 (reads_profileRef a.profile) ?_
  refine reads_field 1 (reads_bounded a.mediaType _ (by norm_num)) ?_
  refine reads_field 2 hbody ?_
  refine reads_field 3 (reads_permission a.permission) ?_
  refine reads_field 4 (reads_optionalBudget a.requestedBudget) ?_
  refine reads_field 5 ((readsIf_array hcount _).reads h.count) ?_
  refine hattachments.seq ?_
  exact (reads_model hbase).step (reads_model hrebuilt).readsIf

/-- Every action is within the hard limits, so its encoding determines it. -/
theorem encodeCanonicalAction_injective : Function.Injective encodeCanonicalAction := by
  intro a b h
  have hwithin : ∀ c : CanonicalAction, c.Within .hard := fun c =>
    ⟨c.bounded, c.attachmentsBounded, c.attachmentBytesBounded⟩
  have ha := reads_canonicalAction (hwithin a) []
  have hb := reads_canonicalAction (hwithin b) []
  rw [h, hb] at ha
  exact (Prod.mk.inj (Except.ok.inj ha)).1.symm

/-- Whatever an encoded action decodes to is the action itself. -/
theorem eq_of_decodeCanonicalAction {a decoded : CanonicalAction}
    (h : decodeCanonicalAction (encodeCanonicalAction a) limits = .ok decoded) : decoded = a := by
  rw [decodeCanonicalAction] at h
  split_ifs at h with hsize
  exact encodeCanonicalAction_injective (encode_of_decodeCanonical h)

end Action

section Fits

variable (limits : VerifierLimits)

structure TrustAnchor.Fits (a : TrustAnchor) : Prop where
  permissions : a.permissions.items.length ≤ limits.get .permissions
  resourceNamespaces : a.resourceNamespaces.items.length ≤ limits.get .permissions
  audiences : a.audiences.items.length ≤ limits.get .audiences

def AssuranceRequirement.Fits (r : AssuranceRequirement) : Prop :=
  r.parameters.entries.length ≤ limits.get .criticalExtensions

structure ObserverAnchor.Fits (a : ObserverAnchor) : Prop where
  schemas : a.schemas.items.length ≤ limits.get .registryEntries
  subjectNamespaces : a.subjectNamespaces.items.length ≤ limits.get .permissions

end Fits

/-- The anchors a rule of the trust list names are anchors of the context. -/
theorem listed_length_le {trust : List StatusTrustRule} {anchors : List TrustAnchor}
    (happly : statusScopesApply trust anchors = true) {rule : StatusTrustRule} (hrule : rule ∈ trust)
    {listed : StatusScopeAnchors} (hscope : rule.scope = .anchors listed) :
    listed.items.length ≤ anchors.length := by
  have hall := List.all_eq_true.mp happly rule hrule
  rw [Bool.and_eq_true, hscope] at hall
  have hsubset : listed.items ⊆ anchors.map TrustAnchor.id := by
    intro id hid
    have hany := List.all_eq_true.mp hall.1 id hid
    obtain ⟨anchor, hanchor, heq⟩ := List.any_eq_true.mp hany
    exact List.mem_map.mpr ⟨anchor, hanchor, of_decide_eq_true heq⟩
  have hnodup : listed.items.Nodup := listed.sorted.imp fun hlt => hlt.ne
  simpa using (List.subperm_of_subset hnodup hsubset).length_le

section Snapshot

variable {σ : Type} [LinearOrder σ]

/-- The check of the snapshot constructor on its statements: no two neighbours agree. -/
def neighboursDistinct (statements : List (SignedStatus σ)) : Bool :=
  adjacentDistinct ((sortByKey SignedStatus.key statements).map SignedStatus.statement)

namespace StatusSnapshot

/-- The snapshot as its constructor leaves it on the same statements in another order. -/
def rebuilt (s : StatusSnapshot σ) (statements : List (SignedStatus σ)) : StatusSnapshot σ :=
  match withTrust s.id s.observedAt s.validUntil statements s.checkpoints.items s.trust with
  | .ok snapshot => snapshot
  | .error _ => s

variable {s : StatusSnapshot σ} {statements : List (SignedStatus σ)}

theorem withTrust_error (hdistinct : neighboursDistinct statements = false) :
    withTrust s.id s.observedAt s.validUntil statements s.checkpoints.items s.trust =
      .error .invalidStatusSnapshot := by
  refine dif_neg fun h => ?_
  have hdistinct' := h.2.2.2.2.1
  rw [neighboursDistinct, hdistinct'] at hdistinct
  cases hdistinct

theorem withTrust_ok (hperm : statements.Perm s.statements)
    (hdistinct : neighboursDistinct statements = true) :
    ∃ snapshot, withTrust s.id s.observedAt s.validUntil statements s.checkpoints.items s.trust =
        .ok snapshot ∧ snapshot.id = s.id ∧ snapshot.observedAt = s.observedAt ∧
      snapshot.validUntil = s.validUntil ∧
      snapshot.statements = sortByKey SignedStatus.key statements ∧
      snapshot.checkpoints = s.checkpoints ∧ snapshot.trust = s.trust := by
  have hcover : ∀ status ∈ sortByKey SignedStatus.key statements,
      status.statement.observedAt ≤ s.observedAt ∧ s.validUntil ≤ status.statement.validUntil :=
    fun status hstatus => s.statementsCover status (hperm.mem_iff.mp (mem_sortByKey.mp hstatus))
  have hrules : adjacentDistinct ((sortByKey StatusTrustRule.key s.trust).map
      StatusTrustRule.named) = true := by
    rw [s.trust_sortByKey]
    exact adjacentDistinct_of_pairwise_lt s.trustSorted
  have hlength : statements.length ≤ hardMaxStatus := hperm.length_eq ▸ s.statementsBounded
  refine ⟨_, dif_pos ⟨s.ordered, hlength, s.checkpoints.bounded, s.trustBounded, hdistinct, hcover,
    hrules⟩, rfl, rfl, rfl, rfl, ?_, s.trust_sortByKey⟩
  exact CanonicalList.items_injective (sortDedup_of_pairwise s.checkpoints.sorted)

theorem withTrust_rebuilt (hperm : statements.Perm s.statements)
    (hdistinct : neighboursDistinct statements = true) :
    withTrust s.id s.observedAt s.validUntil statements s.checkpoints.items s.trust =
      .ok (s.rebuilt statements) := by
  obtain ⟨snapshot, hok, _⟩ := withTrust_ok hperm hdistinct
  rw [rebuilt, hok]

theorem rebuilt_statements (hperm : statements.Perm s.statements)
    (hdistinct : neighboursDistinct statements = true) :
    (s.rebuilt statements).statements = sortByKey SignedStatus.key statements := by
  obtain ⟨snapshot, hok, _, _, _, hstatements, _⟩ := withTrust_ok hperm hdistinct
  rw [rebuilt, hok]
  exact hstatements

/-- Rebuilding keeps everything but the order of the statements. -/
structure Reordered (a b : StatusSnapshot σ) : Prop where
  id : a.id = b.id
  observedAt : a.observedAt = b.observedAt
  validUntil : a.validUntil = b.validUntil
  statements : a.statements.Perm b.statements
  checkpoints : a.checkpoints = b.checkpoints
  trust : a.trust = b.trust

theorem reordered_rebuilt (hperm : statements.Perm s.statements) :
    s.Reordered (s.rebuilt statements) := by
  by_cases hdistinct : neighboursDistinct statements = true
  · obtain ⟨snapshot, hok, hid, hobserved, hvalid, hstatements, hcheckpoints, htrust⟩ :=
      withTrust_ok hperm hdistinct
    have hrebuilt : s.rebuilt statements = snapshot := by rw [rebuilt, hok]
    rw [hrebuilt]
    refine ⟨hid.symm, hobserved.symm, hvalid.symm, ?_, hcheckpoints.symm, htrust.symm⟩
    rw [hstatements]
    exact hperm.symm.trans (sortByKey_perm _ _).symm
  · have hrebuilt : s.rebuilt statements = s := by
      rw [rebuilt, withTrust_error (Bool.eq_false_iff.mpr hdistinct)]
    rw [hrebuilt]
    exact ⟨rfl, rfl, rfl, List.Perm.refl _, rfl, rfl⟩

end StatusSnapshot

end Snapshot

section Limits

/-- Limits that agree with `limits` on the given kinds and with `start` elsewhere. -/
def VerifierLimits.over (limits start : VerifierLimits) (kinds : List LimitKind) : VerifierLimits where
  get kind := if kind ∈ kinds then limits.get kind else start.get kind
  maxWorkUnits := start.maxWorkUnits
  get_le kind := by
    split_ifs
    · exact limits.get_le kind
    · exact start.get_le kind
  maxWorkUnits_le := start.maxWorkUnits_le

theorem VerifierLimits.over_nil (limits start : VerifierLimits) : limits.over start [] = start := by
  ext kind
  · simp [VerifierLimits.over]
  · rfl

/-- Setting one limit leaves the others still to be read. -/
theorem VerifierLimits.withLimit_over (limits start : VerifierLimits) (kind : LimitKind)
    (kinds : List LimitKind) : ∃ next, start.withLimit kind (limits.get kind) = .ok next ∧
      limits.over next kinds = limits.over start (kind :: kinds) := by
  refine ⟨_, dif_pos (limits.get_le kind), ?_⟩
  ext other
  · by_cases hother : other = kind
    · subst hother
      simp [VerifierLimits.over]
    · simp [VerifierLimits.over, hother]
  · rfl

end Limits

section Laws

variable [Cbor] [LawfulCbor] (limits : VerifierLimits)

/-- No list of identifiers of a context is longer than 1024 entries. -/
theorem readsIf_texts {maximum : Nat} (xs : List (BoundedString maximum)) (error : ModelError)
    (bound : Nat) (hlen : xs.length ≤ 1024) (h : maximum < 2 ^ 64) :
    ReadsIf (xs.length ≤ bound) (parsedTexts bound (parseBounded maximum error))
      (encodeRegistryIds xs) xs :=
  readsIf_plainList (by omega) bound fun x _ => reads_bounded x error h

theorem readsIf_profileRefs (xs : List ProfileRef) (bound : Nat) (hlen : xs.length ≤ 1024) :
    ReadsIf (xs.length ≤ bound) (profileRefs bound) (encodeList encodeProfileRef xs) xs :=
  readsIf_plainList (by omega) bound fun x _ => reads_profileRef x

theorem readsIf_anchor {a : TrustAnchor}
    (hmethods : a.acceptedMethods.items.length ≤ limits.get .registryEntries)
    (hprofiles : a.profiles.items.length ≤ limits.get .registryEntries) :
    ReadsIf (a.Fits limits) (anchor limits) (encodeAnchor a) a := by
  have h : ReadsIf (a.permissions.items.length ≤ limits.get .permissions ∧
      a.resourceNamespaces.items.length ≤ limits.get .permissions ∧
      a.audiences.items.length ≤ limits.get .audiences ∧ True) (anchor limits) (encodeAnchor a) a := by
    refine (reads_map (by norm_num)).seq ?_
    refine reads_field 0 (reads_bounded a.id _ (by norm_num)) ?_
    refine reads_field 1 (reads_principal a.principal) ?_
    refine reads_field 2
      ((readsIf_texts _ _ _ a.acceptedMethods.bounded (by norm_num)).reads hmethods) ?_
    refine reads_field 3 ((readsIf_profileRefs _ _ a.profiles.bounded).reads hprofiles) ?_
    refine readsIf_field 4 (readsIf_permissions limits a.permissions) ?_
    refine readsIf_field 5 (readsIf_texts _ _ _ a.resourceNamespaces.bounded (by norm_num)) ?_
    refine readsIf_field 6 (readsIf_audiences limits a.audiences) ?_
    refine reads_field 7 (reads_u64 a.validity.notBefore) ?_
    refine reads_field 8 (reads_u64 a.validity.expiresAt) ?_
    refine (reads_model a.validity.new_self).step ?_
    refine reads_field 9 (reads_optionalBudget a.budgetCeiling) ?_
    refine reads_field 10 (reads_u16 a.maxDelegationDepth) ?_
    refine reads_field 11 (reads_bounded a.assurancePolicy _ (by norm_num)) ?_
    refine reads_field 12 (reads_statusPolicy a.statusPolicy) ?_
    exact (reads_model a.new_self).readsIf
  refine h.congr ⟨fun f => ⟨f.permissions, f.resourceNamespaces, f.audiences, trivial⟩, ?_⟩
  intro ⟨hpermissions, hnamespaces, haudiences, _⟩
  exact ⟨hpermissions, hnamespaces, haudiences⟩

theorem reads_registries {r : AcceptedRegistries}
    (h : r.maximumEntryCount ≤ limits.get .registryEntries) :
    Reads (registries limits) (encodeRegistries r) r := by
  have hcount : ∀ n ∈ [r.principalMethods.items.length, r.signatureSuites.items.length,
      r.evidenceTypes.items.length, r.principalStatusMethods.items.length,
      r.grantStatusMethods.items.length, r.assuranceClaims.items.length,
      r.assuranceImplications.items.length, r.resourceMatchers.items.length,
      r.budgetAlgebras.items.length, r.criticalExtensions.items.length, r.profiles.items.length,
      r.profilePolicies.items.length, r.budgetFreeProfiles.items.length],
      n ≤ limits.get .registryEntries :=
    fun n hn => (le_foldl_max (Or.inl hn)).trans h
  refine ReadsIf.always ((reads_map (by norm_num)).seq ?_)
  refine reads_field 0 (reads_digestBytes r.manifestId) ?_
  refine reads_field 1
    ((readsIf_texts _ _ _ r.principalMethods.bounded (by norm_num)).reads (hcount _ (by simp))) ?_
  refine reads_field 2
    ((readsIf_texts _ _ _ r.signatureSuites.bounded (by norm_num)).reads (hcount _ (by simp))) ?_
  refine reads_field 3
    ((readsIf_texts _ _ _ r.evidenceTypes.bounded (by norm_num)).reads (hcount _ (by simp))) ?_
  refine reads_field 4
    ((readsIf_texts _ _ _ r.principalStatusMethods.bounded (by norm_num)).reads (hcount _ (by simp))) ?_
  refine reads_field 5
    ((readsIf_texts _ _ _ r.grantStatusMethods.bounded (by norm_num)).reads (hcount _ (by simp))) ?_
  refine reads_field 6
    ((readsIf_texts _ _ _ r.assuranceClaims.bounded (by norm_num)).reads (hcount _ (by simp))) ?_
  refine reads_field 7
    ((readsIf_texts _ _ _ r.assuranceImplications.bounded (by norm_num)).reads (hcount _ (by simp))) ?_
  refine reads_field 8
    ((readsIf_texts _ _ _ r.resourceMatchers.bounded (by norm_num)).reads (hcount _ (by simp))) ?_
  refine reads_field 9
    ((readsIf_texts _ _ _ r.budgetAlgebras.bounded (by norm_num)).reads (hcount _ (by simp))) ?_
  refine reads_field 10
    ((readsIf_texts _ _ _ r.criticalExtensions.bounded (by norm_num)).reads (hcount _ (by simp))) ?_
  refine reads_field 11 ((readsIf_profileRefs _ _ r.profiles.bounded).reads (hcount _ (by simp))) ?_
  refine reads_field 12
    ((readsIf_texts _ _ _ r.profilePolicies.bounded (by norm_num)).reads (hcount _ (by simp))) ?_
  refine reads_field 13
    ((readsIf_profileRefs _ _ r.budgetFreeProfiles.bounded).reads (hcount _ (by simp))) ?_
  exact (reads_model r.new_withBudgetFreeProfiles).readsIf

theorem reads_role (r : ParticipantRole) : Reads role (encodeU8 r.code) r := by
  cases r <;> exact (reads_u8 _).then (Reads.pure _)

theorem reads_quantifier (q : AssuranceQuantifier) : Reads quantifier (encodeU8 q.code) q := by
  cases q <;> exact (reads_u8 _).then (Reads.pure _)

theorem reads_arrayExact {n : Nat} (h : n < 2 ^ 64) : Reads (arrayExact n) (Cbor.array n) () :=
  (reads_item fun rest => LawfulCbor.readArray_array n rest h).then (Reads.ensure _ rfl)

theorem reads_claimParameter (p : ClaimParameter) :
    Reads claimParameter (encodeClaimParameter p) p := by
  refine ReadsIf.always ((reads_arrayExact (by norm_num)).seq ?_)
  refine (reads_bounded (ofLex p).1 _ (by norm_num)).seq ?_
  exact (reads_bounded (ofLex p).2 _ (by norm_num)).seq (ReadsIf.pure p)

theorem reads_optionalText (x : Option (BoundedString 128)) :
    Reads (optional (parsed RegistryId.parse)) (encodeOptional (fun x => Cbor.text x.str) x) x :=
  reads_optional (fun a _ => notNull_text (lt_of_lt_of_le a.size_lt (by norm_num)))
    fun a _ => reads_bounded a _ (by norm_num)

theorem readsIf_assuranceRequirement (r : AssuranceRequirement) :
    ReadsIf (r.Fits limits) (assuranceRequirement limits) (encodeAssuranceRequirement r) r := by
  have hlen : r.parameters.entries.length < 2 ^ 64 :=
    lt_of_le_of_lt r.parameters.bounded (by norm_num [hardMaxExtensions])
  have hage : Reads (optional freshness) (encodeOptional (fun age => encodeU64 age.seconds)
      r.maximumAge) r.maximumAge :=
    reads_optional (fun a _ => notNull_u64 a.seconds)
      fun a _ => (reads_u64 a.seconds).then (reads_model a.new_seconds)
  have h : ReadsIf (r.parameters.entries.length ≤ limits.get .criticalExtensions ∧ True)
      (assuranceRequirement limits) (encodeAssuranceRequirement r) r := by
    refine (reads_map (by norm_num)).seq ?_
    refine reads_field 0 (reads_role r.role) ?_
    refine reads_field 1 (reads_bounded r.claimKind _ (by norm_num)) ?_
    refine readsIf_field 2 (readsIf_plainList hlen _ fun p _ => reads_claimParameter p) ?_
    refine reads_field 3 (reads_optionalText r.source) ?_
    refine reads_field 4 (reads_optionalText r.adapter) ?_
    refine reads_field 5 (reads_optional (fun a _ => notNull_u16 a) fun a _ => reads_u16 a) ?_
    refine reads_field 6 hage ?_
    refine reads_field 7 (reads_quantifier r.quantifier) ?_
    exact (reads_model r.constrained_self).readsIf
  exact h.congr (by simp [AssuranceRequirement.Fits])

theorem readsIf_assurancePolicy {p : AssurancePolicy}
    (hcount : p.requirements.items.length ≤ limits.get .evidenceObjects) :
    ReadsIf (∀ r ∈ p.requirements.items, r.Fits limits) (assurancePolicy limits)
      (encodeAssurancePolicy p) p := by
  have hlist := readsIf_list (lt_of_le_of_lt hcount (limits.get_lt _)) (limits.get .evidenceObjects)
    fun r (_ : r ∈ p.requirements.items) => readsIf_assuranceRequirement limits r
  refine (reads_map (by norm_num)).seq ?_
  refine reads_field 0 (reads_bounded p.id _ (by norm_num)) ?_
  refine (readsIf_field 1 hlist (reads_model p.new_self).readsIf).congr ?_
  simp [hcount]

theorem reads_statusScope {scope : StatusScope}
    (h : ∀ listed, scope = .anchors listed → listed.items.length ≤ limits.get .trustAnchors) :
    Reads (statusScope limits) (encodeStatusScope scope) scope := by
  cases scope with
  | ownAnchor =>
    refine ReadsIf.always ((reads_mapEntries (by norm_num)).seq ?_)
    refine (Reads.ensure _ (by norm_num)).step ?_
    exact reads_field 0 (reads_u8 0) (ReadsIf.pure StatusScope.ownAnchor)
  | anchors listed =>
    refine ReadsIf.always ((reads_mapEntries (by norm_num)).seq ?_)
    refine (Reads.ensure _ (by norm_num)).step ?_
    refine reads_field 0 (reads_u8 1) ?_
    refine reads_field 1 ((readsIf_texts _ _ _ listed.bounded (by norm_num)).reads (h listed rfl)) ?_
    refine (reads_model (setOfItems_items _ _ listed)).step ?_
    exact ReadsIf.pure (StatusScope.anchors listed)
  | anyAnchor =>
    refine ReadsIf.always ((reads_mapEntries (by norm_num)).seq ?_)
    refine (Reads.ensure _ (by norm_num)).step ?_
    exact reads_field 0 (reads_u8 2) (ReadsIf.pure StatusScope.anyAnchor)

theorem reads_statusTrustRule {rule : StatusTrustRule}
    (h : ∀ listed, rule.scope = .anchors listed → listed.items.length ≤ limits.get .trustAnchors) :
    Reads (statusTrustRule limits) (encodeStatusTrustRule rule) rule := by
  refine ReadsIf.always ((reads_map (by norm_num)).seq ?_)
  refine reads_field 0 (reads_bounded rule.method _ (by norm_num)) ?_
  refine reads_field 1 (reads_principal rule.issuer) ?_
  refine reads_field 2 (reads_u64 rule.sequenceFloor) ?_
  exact reads_field 3 (reads_statusScope limits h) (ReadsIf.pure rule)

/-- A snapshot comes back in the encoder's order where every statement fits and the constructor finds
no repetition in that order. -/
theorem readsIf_snapshot {σ : Type} [LinearOrder σ] {kind : LimitKind}
    {status : VerifierLimits → Decoder (SignedStatus σ)} {encodeStatus : SignedStatus σ → Bytes}
    {sorted : List (SignedStatus σ) → List (SignedStatus σ)} {s : StatusSnapshot σ}
    (hsorted : (sorted s.statements).Perm s.statements)
    (hstatus : ∀ x, ReadsIf (x.Fits limits) (status limits) (encodeStatus x) x)
    (hcount : s.statements.length ≤ limits.get kind)
    (hcheckpoints : s.checkpoints.items.length ≤ limits.get .evidenceObjects)
    (htrust : s.trust.length ≤ limits.get .registryEntries)
    (hscopes : ∀ rule ∈ s.trust, ∀ listed, rule.scope = .anchors listed →
      listed.items.length ≤ limits.get .trustAnchors) :
    ReadsIf ((∀ x ∈ s.statements, x.Fits limits) ∧ neighboursDistinct (sorted s.statements) = true)
      (snapshot kind status limits) (encodeSnapshot sorted encodeStatus s)
      (s.rebuilt (sorted s.statements)) := by
  have hlength : (sorted s.statements).length ≤ limits.get kind := hsorted.length_eq ▸ hcount
  have hstatements := readsIf_list (lt_of_le_of_lt hlength (limits.get_lt _)) (limits.get kind)
    fun x (_ : x ∈ sorted s.statements) => hstatus x
  have hrules : Reads (statusTrust limits) (encodeList encodeStatusTrustRule s.trust) s.trust :=
    reads_listOfFits htrust (limits.get_lt _)
      (fun rule hrule => (reads_statusTrustRule limits (hscopes rule hrule)).readsIf) fun _ _ => trivial
  have hids : Reads (checkpoints limits) (encodeList encodeDigest s.checkpoints.items)
      s.checkpoints.items :=
    reads_listOfFits hcheckpoints (limits.get_lt _) (fun a _ => (reads_digestBytes a).readsIf)
      fun _ _ => trivial
  have hbuild : ReadsIf (neighboursDistinct (sorted s.statements) = true)
      (model (StatusSnapshot.withTrust s.id s.observedAt s.validUntil (sorted s.statements)
        s.checkpoints.items s.trust)) [] (s.rebuilt (sorted s.statements)) :=
    readsIf_model (fun h => StatusSnapshot.withTrust_rebuilt hsorted h)
      fun h => ⟨_, StatusSnapshot.withTrust_error (Bool.eq_false_iff.mpr h)⟩
  have h : ReadsIf (((sorted s.statements).length ≤ limits.get kind ∧
      ∀ x ∈ sorted s.statements, x.Fits limits) ∧ neighboursDistinct (sorted s.statements) = true)
      (snapshot kind status limits) (encodeSnapshot sorted encodeStatus s)
      (s.rebuilt (sorted s.statements)) := by
    refine (reads_map (by norm_num)).seq ?_
    refine reads_field 0 (reads_digestBytes s.id) ?_
    refine reads_field 1 (reads_u64 s.observedAt) ?_
    refine reads_field 2 (reads_u64 s.validUntil) ?_
    refine readsIf_field 3 hstatements ?_
    refine reads_field 4 hids ?_
    exact reads_field 5 hrules hbuild
  refine h.congr ?_
  simp [hlength, hsorted.mem_iff]

theorem reads_limitFields {kinds : List LimitKind} {index : UInt8} {start : VerifierLimits} :
    Reads (limitFields index kinds start) (encodeLimitFields limits index kinds)
      (limits.over start kinds) := by
  induction kinds generalizing index start with
  | nil =>
    rw [VerifierLimits.over_nil]
    exact Reads.pure start
  | cons kind kinds ih =>
    obtain ⟨next, hnext, hover⟩ := limits.withLimit_over start kind kinds
    have hvalue : (UInt64.ofNat (limits.get kind)).toNat = limits.get kind := by
      simpa using Nat.mod_eq_of_lt (limits.get_lt kind)
    rw [← hover]
    refine ReadsIf.always (reads_field index (reads_u64 _) ?_)
    rw [hvalue, List.flatten_singleton]
    exact (reads_model hnext).step ih.readsIf

theorem reads_verifierLimits : Reads verifierLimits (encodeLimits limits) limits := by
  have hunits : ((limits.over .hard limitKinds).withWorkUnits limits.maxWorkUnits) =
      .ok { limits.over .hard limitKinds with
        maxWorkUnits := limits.maxWorkUnits, maxWorkUnits_le := limits.maxWorkUnits_le } :=
    dif_pos limits.maxWorkUnits_le
  have hall : limits.over { limits.over .hard limitKinds with
      maxWorkUnits := limits.maxWorkUnits, maxWorkUnits_le := limits.maxWorkUnits_le }
      approvalLimitKinds = limits := by
    ext kind
    · cases kind <;> rfl
    · rfl
  refine ReadsIf.always ((reads_map (by norm_num)).seq ?_)
  refine (reads_limitFields limits).seq ?_
  refine reads_field 26 (reads_u64 limits.maxWorkUnits) ?_
  refine (reads_model hunits).step ?_
  have hfields := @reads_limitFields _ _ limits approvalLimitKinds 27 { limits.over .hard limitKinds
    with maxWorkUnits := limits.maxWorkUnits, maxWorkUnits_le := limits.maxWorkUnits_le }
  rw [hall] at hfields
  rw [List.flatten_singleton]
  exact hfields.readsIf

theorem reads_compositionRequirement (c : CompositionRequirement) :
    Reads compositionRequirement (encodeCompositionRequirement c) c := by
  refine ReadsIf.always ((reads_map (by norm_num)).seq ?_)
  refine reads_field 0 (reads_optionalDigest c.expectedPlan) ?_
  refine reads_field 1 (reads_u16 c.minimumAuthorizedBranches) ?_
  refine reads_field 2 (reads_u16 c.minimumDistinctActors) ?_
  refine reads_field 3 (reads_u16 c.minimumDistinctRoots) ?_
  exact (reads_model c.new_self).readsIf

theorem readsIf_observerAnchor {a : ObserverAnchor}
    (hmethods : a.acceptedMethods.items.length ≤ limits.get .registryEntries) :
    ReadsIf (a.Fits limits) (observerAnchor limits) (encodeObserverAnchor a) a := by
  have h : ReadsIf (a.schemas.items.length ≤ limits.get .registryEntries ∧
      a.subjectNamespaces.items.length ≤ limits.get .permissions ∧ True) (observerAnchor limits)
      (encodeObserverAnchor a) a := by
    refine (reads_map (by norm_num)).seq ?_
    refine reads_field 0 (reads_bounded a.id _ (by norm_num)) ?_
    refine reads_field 1 (reads_principal a.principal) ?_
    refine reads_field 2
      ((readsIf_texts _ _ _ a.acceptedMethods.bounded (by norm_num)).reads hmethods) ?_
    refine readsIf_field 3 (readsIf_texts _ _ _ a.schemas.bounded (by norm_num)) ?_
    refine readsIf_field 4 (readsIf_texts _ _ _ a.subjectNamespaces.bounded (by norm_num)) ?_
    refine reads_field 5 (reads_u64 a.validity.notBefore) ?_
    refine reads_field 6 (reads_u64 a.validity.expiresAt) ?_
    refine (reads_model a.validity.new_self).step ?_
    exact (reads_model a.new_self).readsIf
  refine h.congr ⟨fun f => ⟨f.schemas, f.subjectNamespaces, trivial⟩, ?_⟩
  intro ⟨hschemas, hnamespaces, _⟩
  exact ⟨hschemas, hnamespaces⟩

theorem reads_approverAnchor {a : ApproverAnchor}
    (hmethods : a.acceptedMethods.items.length ≤ limits.get .registryEntries) :
    Reads (approverAnchor limits) (encodeApproverAnchor a) a := by
  refine ReadsIf.always ((reads_map (by norm_num)).seq ?_)
  refine reads_field 0 (reads_principal a.principal) ?_
  refine reads_field 1
    ((readsIf_texts _ _ _ a.acceptedMethods.bounded (by norm_num)).reads hmethods) ?_
  refine reads_field 2 (reads_u64 a.validity.notBefore) ?_
  refine reads_field 3 (reads_u64 a.validity.expiresAt) ?_
  refine reads_field 4 (reads_statusPolicy a.statusPolicy) ?_
  refine (reads_model a.validity.new_self).step ?_
  exact (reads_model a.new_self).readsIf

theorem reads_approvalRequirement (r : ApprovalRequirement) :
    Reads approvalRequirement (encodeApprovalRequirement r) r := by
  have happrovers : Reads (parsedTexts maxApproversPerRequirement PrincipalId.parse)
      (encodeList (fun approver : PrincipalId => Cbor.text approver.str) r.approvers.items)
      r.approvers.items :=
    reads_listOfFits r.approvers.bounded (by decide) (fun a _ => (reads_principal a).readsIf)
      fun _ _ => trivial
  refine ReadsIf.always ((reads_map (by norm_num)).seq ?_)
  refine reads_field 0 happrovers ?_
  refine reads_field 1 (reads_u16 r.threshold) ?_
  exact (reads_model r.new_self).readsIf

end Laws

end AuthsProof
