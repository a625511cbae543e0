import AuthsProof.AuthorityChain
import AuthsProof.Lib.Sha2
import AuthsProof.RoundTrip

/-! A proof bundle within the limits survives its encoding, up to the order the encoder puts on its
unordered collections. -/

namespace AuthsProof

open Sorting Wire Decode

namespace AuthorizationPlan

mutual

/-- The plan has at most `remaining` levels and no node has more members than the limit. -/
def Fits (limits : VerifierLimits) : Nat → AuthorizationPlan → Prop
  | 0, _ => False
  | _ + 1, .proof _ => True
  | remaining + 1, .allOf members =>
    members.length ≤ limits.get .planBranching ∧ MembersFit limits remaining members
  | remaining + 1, .anyOf members =>
    members.length ≤ limits.get .planBranching ∧ MembersFit limits remaining members
  | remaining + 1, .kOfN _ members =>
    members.length ≤ limits.get .planBranching ∧ MembersFit limits remaining members

def MembersFit (limits : VerifierLimits) : Nat → List AuthorizationPlan → Prop
  | _, [] => True
  | remaining, member :: members => Fits limits remaining member ∧ MembersFit limits remaining members

end

mutual

theorem fits_of_walk {limits : VerifierLimits} :
    ∀ {plan : AuthorizationPlan} {depth : Nat} {seen seen' : Walk},
      walk limits depth plan seen = .ok seen' → plan.Fits limits (limits.get .planDepth + 1 - depth)
  | .proof reference, depth, seen, seen', h => by
    rw [walk] at h
    split_ifs at h with hdepth hleaf
    obtain ⟨levels, hlevels⟩ : ∃ n, limits.get .planDepth + 1 - depth = n + 1 :=
      ⟨limits.get .planDepth - depth, by omega⟩
    rw [hlevels]
    trivial
  | .allOf members, depth, seen, seen', h => by
    rw [walk] at h
    split_ifs at h with hdepth hempty hbranch
    have hmembers := membersFit_of_walk h
    rw [show limits.get .planDepth + 1 - depth = limits.get .planDepth + 1 - (depth + 1) + 1 by omega]
    exact ⟨not_lt.mp hbranch, hmembers⟩
  | .anyOf members, depth, seen, seen', h => by
    rw [walk] at h
    split_ifs at h with hdepth hempty hbranch
    have hmembers := membersFit_of_walk h
    rw [show limits.get .planDepth + 1 - depth = limits.get .planDepth + 1 - (depth + 1) + 1 by omega]
    exact ⟨not_lt.mp hbranch, hmembers⟩
  | .kOfN k members, depth, seen, seen', h => by
    rw [walk] at h
    split_ifs at h with hdepth hk hbranch
    have hmembers := membersFit_of_walk h
    rw [show limits.get .planDepth + 1 - depth = limits.get .planDepth + 1 - (depth + 1) + 1 by omega]
    exact ⟨not_lt.mp hbranch, hmembers⟩

theorem membersFit_of_walk {limits : VerifierLimits} :
    ∀ {members : List AuthorizationPlan} {depth : Nat} {seen seen' : Walk},
      walkMembers limits depth members seen = .ok seen' →
        MembersFit limits (limits.get .planDepth + 1 - depth) members
  | [], depth, seen, seen', h => by simp [MembersFit]
  | member :: members, depth, seen, seen', h => by
    rw [walkMembers] at h
    split at h
    · rename_i mid hmember
      exact ⟨fits_of_walk hmember, membersFit_of_walk h⟩
    · cases h

end

theorem fits_of_validate {plan : AuthorizationPlan} {limits : VerifierLimits} {shape : PlanShape}
    (h : plan.validate limits = .ok shape) : plan.Fits limits (limits.get .planDepth) := by
  rw [validate] at h
  split at h
  · rename_i seen hwalk
    simpa using fits_of_walk hwalk
  · cases h

end AuthorizationPlan

open AuthorizationPlan

section Plan

/-- The members of a compound plan, each with the proof that the constructors made it. -/
def canonicalMembers : (members : List AuthorizationPlan) → MembersCanonical members →
    List CanonicalPlan
  | [], _ => []
  | member :: members, h => ⟨member, h.1⟩ :: canonicalMembers members h.2

theorem canonicalMembers_plan : ∀ (members : List AuthorizationPlan) (h : MembersCanonical members),
    (canonicalMembers members h).map CanonicalPlan.plan = members
  | [], _ => rfl
  | member :: members, h => by
    rw [canonicalMembers, List.map_cons, canonicalMembers_plan members h.2]

/-- A compound node the constructors accept has no more members than the hard branching limit. -/
theorem length_lt_of_compound {plan built : AuthorizationPlan} {members : List AuthorizationPlan}
    (h : compound plan = .ok built)
    (hplan : ∀ remaining, plan.Fits .hard remaining → members.length ≤ hardLimit .planBranching) :
    members.length < 2 ^ 64 := by
  obtain ⟨shape, hshape⟩ := validate_of_compound h
  have hfits := hplan _ (fits_of_validate hshape)
  have hhard : hardLimit .planBranching = 128 := rfl
  omega

theorem length_le_of_fits_allOf {limits : VerifierLimits} {members : List AuthorizationPlan} :
    ∀ remaining, (AuthorizationPlan.allOf (sortMembers members)).Fits limits remaining →
      members.length ≤ limits.get .planBranching
  | 0, h => h.elim
  | _ + 1, h => by simpa [sortMembers] using h.1

theorem length_le_of_fits_anyOf {limits : VerifierLimits} {members : List AuthorizationPlan} :
    ∀ remaining, (AuthorizationPlan.anyOf (sortMembers members)).Fits limits remaining →
      members.length ≤ limits.get .planBranching
  | 0, h => h.elim
  | _ + 1, h => by simpa [sortMembers] using h.1

theorem length_le_of_fits_kOfN {limits : VerifierLimits} {k : UInt16}
    {members : List AuthorizationPlan} :
    ∀ remaining, (AuthorizationPlan.kOfN k (sortMembers members)).Fits limits remaining →
      members.length ≤ limits.get .planBranching
  | 0, h => h.elim
  | _ + 1, h => by simpa [sortMembers] using h.1

variable [Cbor] [LawfulCbor] (limits : VerifierLimits)

/-- The member list of a compound node, given how its members are read. -/
theorem readsIf_memberList {members : List AuthorizationPlan} {plans : List CanonicalPlan} {p : Prop}
    {read : Decoder CanonicalPlan} (hlen : members.length < 2 ^ 64)
    (hread : ReadsIf p (readMany read members.length) (encodePlanMembers members) plans) :
    ReadsIf (members.length ≤ limits.get .planBranching ∧ p) (list (limits.get .planBranching) read)
      (Cbor.array members.length ++ encodePlanMembers members) plans :=
  (readsIf_array hlen _).bind hread

mutual

theorem readsIf_authorizationPlan :
    ∀ (plan : AuthorizationPlan) (hplan : plan.Canonical) (remaining : Nat),
      ReadsIf (plan.Fits limits remaining) (authorizationPlan limits remaining)
        (encodeAuthorizationPlan plan) ⟨plan, hplan⟩
  | plan, hplan, 0 => by
    refine ⟨fun h => ?_, fun _ rest => ⟨.limitExceeded, rfl⟩⟩
    rw [Fits] at h
    exact h.elim
  | .proof reference, hplan, remaining + 1 => by
    rw [encodeAuthorizationPlan, authorizationPlan]
    refine ReadsIf.congr ?_ (iff_true_intro trivial)
    refine (reads_mapEntries (by norm_num)).seq ?_
    refine reads_field 0 (reads_u8 0) ?_
    exact reads_field 1 (reads_digestBytes reference) (ReadsIf.pure (CanonicalPlan.proof reference))
  | .allOf members, hplan, remaining + 1 => by
    have hlen := length_lt_of_compound hplan.1 length_le_of_fits_allOf
    have hmembers := readsIf_memberList limits hlen (readsIf_planMembers members hplan.2 remaining)
    have hbuild : CanonicalPlan.allOf (canonicalMembers members hplan.2) =
        .ok ⟨.allOf members, hplan⟩ :=
      CanonicalPlan.ofResult_ok (by rw [canonicalMembers_plan]; exact hplan.1)
    rw [encodeAuthorizationPlan, authorizationPlan]
    refine (reads_mapEntries (by norm_num)).seq ?_
    refine reads_field 0 (reads_u8 1) ?_
    refine (readsIf_field 1 hmembers (reads_model hbuild).readsIf).congr ?_
    simp [Fits]
  | .anyOf members, hplan, remaining + 1 => by
    have hlen := length_lt_of_compound hplan.1 length_le_of_fits_anyOf
    have hmembers := readsIf_memberList limits hlen (readsIf_planMembers members hplan.2 remaining)
    have hbuild : CanonicalPlan.anyOf (canonicalMembers members hplan.2) =
        .ok ⟨.anyOf members, hplan⟩ :=
      CanonicalPlan.ofResult_ok (by rw [canonicalMembers_plan]; exact hplan.1)
    rw [encodeAuthorizationPlan, authorizationPlan]
    refine (reads_mapEntries (by norm_num)).seq ?_
    refine reads_field 0 (reads_u8 2) ?_
    refine (readsIf_field 1 hmembers (reads_model hbuild).readsIf).congr ?_
    simp [Fits]
  | .kOfN k members, hplan, remaining + 1 => by
    have hlen := length_lt_of_compound hplan.1 length_le_of_fits_kOfN
    have hmembers := readsIf_memberList limits hlen (readsIf_planMembers members hplan.2 remaining)
    have hbuild : CanonicalPlan.kOfN k (canonicalMembers members hplan.2) =
        .ok ⟨.kOfN k members, hplan⟩ :=
      CanonicalPlan.ofResult_ok (by rw [canonicalMembers_plan]; exact hplan.1)
    rw [encodeAuthorizationPlan, authorizationPlan]
    refine (reads_mapEntries (by norm_num)).seq ?_
    refine reads_field 0 (reads_u8 3) ?_
    refine reads_field 1 (reads_u16 k) ?_
    refine (readsIf_field 2 hmembers (reads_model hbuild).readsIf).congr ?_
    simp [Fits]

theorem readsIf_planMembers :
    ∀ (members : List AuthorizationPlan) (hmembers : MembersCanonical members) (remaining : Nat),
      ReadsIf (MembersFit limits remaining members)
        (readMany (authorizationPlan limits remaining) members.length) (encodePlanMembers members)
        (canonicalMembers members hmembers)
  | [], hmembers, remaining => by
    rw [encodePlanMembers, MembersFit]
    exact ReadsIf.pure []
  | member :: members, hmembers, remaining => by
    have hmember := readsIf_authorizationPlan member hmembers.1 remaining
    have hrest := readsIf_planMembers members hmembers.2 remaining
    rw [encodePlanMembers, MembersFit]
    have htail : ReadsIf (MembersFit limits remaining members ∧ True)
        (readMany (authorizationPlan limits remaining) members.length >>= fun plans =>
          pure (⟨member, hmembers.1⟩ :: plans)) (encodePlanMembers members)
        (⟨member, hmembers.1⟩ :: canonicalMembers members hmembers.2) :=
      hrest.then (ReadsIf.pure _)
    exact (hmember.bind htail).congr (by simp)

end

end Plan

namespace ProofBundle

/-- Two bundles with the same objects, whose grants and status facts may come in another order; the
constructor itself orders every other unordered collection. -/
structure Reordered (a b : ProofBundle) : Prop where
  header : a.header = b.header
  grants : a.grants.Perm b.grants
  actions : a.actions = b.actions
  plan : a.plan = b.plan
  evidence : a.evidence = b.evidence
  bindings : a.bindings = b.bindings
  principalStatus : a.principalStatus.Perm b.principalStatus
  grantStatus : a.grantStatus.Perm b.grantStatus
  attachments : a.attachments = b.attachments
  canonicalBody : a.canonicalBody = b.canonicalBody
  approvals : a.approvals = b.approvals

theorem Reordered.symm {a b : ProofBundle} (h : a.Reordered b) : b.Reordered a :=
  ⟨h.header.symm, h.grants.symm, h.actions.symm, h.plan.symm, h.evidence.symm, h.bindings.symm,
    h.principalStatus.symm, h.grantStatus.symm, h.attachments.symm, h.canonicalBody.symm,
    h.approvals.symm⟩

theorem Reordered.trans {a b c : ProofBundle} (h : a.Reordered b) (h' : b.Reordered c) :
    a.Reordered c :=
  ⟨h.header.trans h'.header, h.grants.trans h'.grants, h.actions.trans h'.actions,
    h.plan.trans h'.plan, h.evidence.trans h'.evidence, h.bindings.trans h'.bindings,
    h.principalStatus.trans h'.principalStatus, h.grantStatus.trans h'.grantStatus,
    h.attachments.trans h'.attachments, h.canonicalBody.trans h'.canonicalBody,
    h.approvals.trans h'.approvals⟩

theorem bindings_sortByKey (b : ProofBundle) :
    sortByKey ControlBinding.statement b.bindings = b.bindings := by
  refine sortByKey_of_pairwise (b.bindingsSorted.imp fun h => ?_)
  rcases Prod.Lex.toLex_le_toLex.mp h with h | h
  · exact h.le
  · exact h.1.le

variable [Cbor] [Sha256]

/-- The bundle within the limits: its size, its counts and every nested bound. -/
structure Within (limits : VerifierLimits) (b : ProofBundle) : Prop where
  bytes : (encodeBundle b).length ≤ limits.get .bundleBytes
  grantCount : b.grants.length ≤ limits.get .grants
  grants : ∀ g ∈ b.grants, g.Fits limits
  actionCount : b.actions.length ≤ limits.get .actions
  actions : ∀ a ∈ b.actions, a.Fits limits
  plan : ∃ shape, b.plan.plan.validate limits = .ok shape
  evidenceCount : b.evidence.length ≤ limits.get .evidenceObjects
  evidence : ∀ e ∈ b.evidence, e.Fits limits
  bindingCount : b.bindings.length ≤ limits.get .controlBindings
  bindings : ∀ x ∈ b.bindings, x.Fits limits
  principalStatusCount : b.principalStatus.length ≤ limits.get .principalStatusStatements
  principalStatus : ∀ s ∈ b.principalStatus, s.Fits limits
  grantStatusCount : b.grantStatus.length ≤ limits.get .grantStatusStatements
  grantStatus : ∀ s ∈ b.grantStatus, s.Fits limits
  signatures : signatureCount b.grants b.actions b.principalStatus b.grantStatus ≤
    limits.get .signatures
  attachments : b.attachments.length ≤ limits.get .attachments
  canonicalBody : ∀ body ∈ b.canonicalBody, body.length ≤ limits.get .canonicalBodyBytes
  approvalCount : b.approvals.length ≤ limits.get .approvals
  approvals : ∀ a ∈ b.approvals, a.signature.Fits limits ∧ ∀ e ∈ a.evidence, e.Fits limits

/-- Every evidence object of the bundle is named by its content identifier. -/
structure ContentAddressed (b : ProofBundle) : Prop where
  evidence : ∀ e ∈ b.evidence, evidenceId e = e.id
  approvals : ∀ a ∈ b.approvals, ∀ e ∈ a.evidence, evidenceId e = e.id

/-- Every signed approval of the bundle is within the byte bound of one. -/
def ApprovalsBounded (b : ProofBundle) : Prop :=
  ∀ a ∈ b.approvals, (encodeSignedApproval a).length ≤ maxSignedApprovalBytes

/-- The bundle in the order of its encoding. -/
def canonical (b : ProofBundle) : ProofBundle :=
  { b with
    grants := sortedGrants b.grants
    principalStatus := sortedPrincipalStatus b.principalStatus
    grantStatus := sortedGrantStatus b.grantStatus
    isBounded := by
      have h := b.isBounded
      simp only [BundleParts.bounded, signatureCount, sortedGrants, sortedPrincipalStatus,
        sortedGrantStatus, length_sortByKey] at h ⊢
      exact h }

theorem reordered_canonical (b : ProofBundle) : b.Reordered b.canonical :=
  ⟨rfl, (sortByKey_perm _ _).symm, rfl, rfl, rfl, rfl, (sortByKey_perm _ _).symm,
    (sortByKey_perm _ _).symm, rfl, rfl, rfl⟩

theorem encodeBundle_canonical (b : ProofBundle) : encodeBundle b.canonical = encodeBundle b := by
  simp only [encodeBundle, canonical, sortedGrants, sortedPrincipalStatus, sortedGrantStatus,
    sortByKey_sortByKey]

theorem ContentAddressed.fits {limits : VerifierLimits} {b : ProofBundle} (hwithin : b.Within limits)
    (hids : b.ContentAddressed) (hbytes : b.ApprovalsBounded) : ∀ a ∈ b.approvals, a.Fits limits := by
  intro a ha
  refine ⟨(hwithin.approvals a ha).1, fun e he => ?_, hbytes a ha⟩
  exact ⟨(hwithin.approvals a ha).2 e he, hids.approvals a ha e he⟩

variable [LawfulCbor]

omit [Sha256] in
theorem reads_header (header : BundleHeader) :
    Reads bundleHeader [Cbor.map 2, encodeKey 0, encodeU16 protocolV1,
      encodeKey 1, encodeU64 header.flags].flatten header := by
  refine ReadsIf.always ((reads_map (by norm_num)).seq ?_)
  refine reads_field 0 reads_protocolVersion ?_
  refine reads_field 1 (reads_u64 header.flags) ?_
  exact (reads_model header.new_flags).readsIf

/-- Within the limits the decoder reads the bundle back exactly when it accepts every approval. -/
theorem readsIf_bundle {limits : VerifierLimits} {b : ProofBundle} (hwithin : b.Within limits)
    (hids : ∀ e ∈ b.evidence, evidenceId e = e.id) :
    ReadsIf (∀ a ∈ b.approvals, a.Fits limits) (bundleFrom limits) (encodeBundle b) b.canonical := by
  obtain ⟨shape, hshape⟩ := hwithin.plan
  have hgrants : Reads (list (limits.get .grants) (signedGrant limits))
      (encodeList encodeSignedGrant (sortedGrants b.grants)) (sortedGrants b.grants) :=
    reads_listOfFits (by simpa [sortedGrants] using hwithin.grantCount) (limits.get_lt _)
      (fun g _ => readsIf_signedGrant limits g)
      fun g hg => hwithin.grants g ((sortByKey_perm _ _).mem_iff.mp hg)
  have hactions : Reads (list (limits.get .actions) (signedAction limits))
      (encodeList encodeSignedAction b.actions) b.actions :=
    reads_listOfFits hwithin.actionCount (limits.get_lt _)
      (fun a ha => (reads_signedAction limits (hwithin.actions a ha)).readsIf) fun _ _ => trivial
  have hevidence : Reads (list (limits.get .evidenceObjects) (evidence limits))
      (encodeList encodeEvidence b.evidence) b.evidence :=
    reads_listOfFits hwithin.evidenceCount (limits.get_lt _)
      (fun e _ => readsIf_evidence limits e) fun e he => ⟨hwithin.evidence e he, hids e he⟩
  have hbindings : Reads (list (limits.get .controlBindings) (binding limits))
      (encodeList encodeBinding b.bindings) b.bindings :=
    reads_listOfFits hwithin.bindingCount (limits.get_lt _)
      (fun x _ => readsIf_binding limits x) hwithin.bindings
  have hprincipal : Reads (list (limits.get .principalStatusStatements) (signedPrincipalStatus limits))
      (encodeList encodeSignedPrincipalStatus (sortedPrincipalStatus b.principalStatus))
      (sortedPrincipalStatus b.principalStatus) :=
    reads_listOfFits (by simpa [sortedPrincipalStatus] using hwithin.principalStatusCount)
      (limits.get_lt _) (fun s _ => readsIf_signedPrincipalStatus limits s)
      fun s hs => hwithin.principalStatus s ((sortByKey_perm _ _).mem_iff.mp hs)
  have hgrant : Reads (list (limits.get .grantStatusStatements) (signedGrantStatus limits))
      (encodeList encodeSignedGrantStatus (sortedGrantStatus b.grantStatus))
      (sortedGrantStatus b.grantStatus) :=
    reads_listOfFits (by simpa [sortedGrantStatus] using hwithin.grantStatusCount)
      (limits.get_lt _) (fun s _ => readsIf_signedGrantStatus limits s)
      fun s hs => hwithin.grantStatus s ((sortByKey_perm _ _).mem_iff.mp hs)
  have hsignatures : signatureCount (sortedGrants b.grants) b.actions
      (sortedPrincipalStatus b.principalStatus) (sortedGrantStatus b.grantStatus) ≤
      limits.get .signatures := by
    simpa [signatureCount, sortedGrants, sortedPrincipalStatus, sortedGrantStatus] using
      hwithin.signatures
  have hattachments : Reads (list (limits.get .attachments) attachment)
      (encodeList encodeAttachment b.attachments) b.attachments :=
    reads_listOfFits hwithin.attachments (limits.get_lt _)
      (fun a _ => (reads_attachment a).readsIf) fun _ _ => trivial
  have hbody : Reads (optional (boundedBytes (limits.get .canonicalBodyBytes) false))
      (encodeOptional Cbor.bytes b.canonicalBody) b.canonicalBody := by
    have hlen : ∀ body ∈ b.canonicalBody, body.length < 2 ^ 64 := fun body hmem =>
      lt_of_le_of_lt (hwithin.canonicalBody body hmem) (limits.get_lt _)
    refine reads_optional (fun body hmem => notNull_bytes (hlen body hmem)) fun body hmem => ?_
    exact (readsIf_boundedBytes (hlen body hmem) _ false).reads
      ⟨hwithin.canonicalBody body hmem, by simp⟩
  have happrovals : ReadsIf (b.approvals.length ≤ limits.get .approvals ∧
      ∀ a ∈ b.approvals, a.Fits limits) (list (limits.get .approvals) (signedApproval limits))
      (encodeList encodeSignedApproval b.approvals) b.approvals :=
    readsIf_list (lt_of_le_of_lt hwithin.approvalCount (limits.get_lt _)) _
      fun a _ => readsIf_signedApproval limits a
  obtain ⟨base, hbase, hrebuilt⟩ := exists_of_bind_ok b.canonical.new_withApprovals
  have hactionsSort := sortByKey_of_pairwise b.actionsSorted
  have hevidenceSort := sortByKey_of_pairwise b.evidenceSorted
  have hattachmentsSort := sortByKey_of_pairwise b.attachmentsSorted
  rw [encodeBundle, hactionsSort, hevidenceSort, bindings_sortByKey, hattachmentsSort]
  refine (reads_map (by norm_num)).seq ?_
  refine reads_field 0 (reads_header b.header) ?_
  refine reads_field 1 hgrants ?_
  refine reads_field 2 hactions ?_
  refine reads_field 3 ((readsIf_authorizationPlan limits b.plan.plan b.plan.canonical _).reads
    (fits_of_validate hshape)) ?_
  refine (reads_model hshape).step ?_
  refine reads_field 4 hevidence ?_
  refine reads_field 5 hbindings ?_
  refine reads_field 6 hprincipal ?_
  refine reads_field 7 hgrant ?_
  refine (Reads.ensure _ hsignatures).step ?_
  refine reads_field 8 hattachments ?_
  refine reads_field 9 hbody ?_
  refine (readsIf_field 10 happrovals ((reads_model hbase).step (reads_model hrebuilt).readsIf)).congr ?_
  simp [hwithin.approvalCount]

theorem decodeBundle_of_readsIf {limits : VerifierLimits} {b : ProofBundle}
    (hwithin : b.Within limits) (hids : b.ContentAddressed) (hbytes : b.ApprovalsBounded) :
    decodeBundle (encodeBundle b) limits = .ok b.canonical := by
  rw [decodeBundle, if_neg (not_lt.mpr hwithin.bytes)]
  have hreads := readsIf_bundle hwithin hids.evidence
  exact (decodeCanonical_of_readsIf hreads).1
    ⟨hids.fits hwithin hbytes, encodeBundle_canonical b⟩

end ProofBundle

open ProofBundle in
/-- A bundle within the limits decodes to itself in the encoder's order, and its bytes determine it
up to that order. -/
theorem decodeBundle_encodeBundle [Cbor] [LawfulCbor] [Sha256] {limits : VerifierLimits}
    {b : ProofBundle} (hwithin : b.Within limits) (hids : b.ContentAddressed)
    (hbytes : b.ApprovalsBounded) :
    (∃ decoded, decodeBundle (encodeBundle b) limits = .ok decoded ∧ b.Reordered decoded ∧
      decoded.grants = sortedGrants b.grants ∧
      decoded.principalStatus = sortedPrincipalStatus b.principalStatus ∧
      decoded.grantStatus = sortedGrantStatus b.grantStatus ∧ encodeBundle decoded = encodeBundle b) ∧
    ∀ other : ProofBundle, other.Within limits → other.ContentAddressed → other.ApprovalsBounded →
      encodeBundle other = encodeBundle b → b.Reordered other := by
  have hdecode := decodeBundle_of_readsIf hwithin hids hbytes
  constructor
  · exact ⟨b.canonical, hdecode, b.reordered_canonical, rfl, rfl, rfl, encodeBundle_canonical b⟩
  · intro other howithin hoids hobytes hequal
    have hother := decodeBundle_of_readsIf howithin hoids hobytes
    rw [hequal, hdecode] at hother
    have hcanonical : b.canonical = other.canonical := Except.ok.inj hother
    have hreordered := b.reordered_canonical
    rw [hcanonical] at hreordered
    exact hreordered.trans other.reordered_canonical.symm

section Sample

local instance sampleCbor : Cbor := rfc8949

local instance sampleSha256 : Sha256 := ⟨fun bytes => ⟨Sha2.sha256 bytes, Sha2.sha256_length bytes⟩⟩

theorem sampleKey_nonempty : ([7] : Bytes) ≠ [] := by decide

theorem sampleSize_lt : 7 < hardMaxEvidenceBytes := by decide

theorem sampleHeader_zero : (0 : UInt64) = 0 := rfl

theorem sampleAttachments_sorted :
    ([] : List AttachmentDescriptor).Pairwise fun a b => a.digest ≤ b.digest := .nil

theorem sampleApprovals_bounded : 0 ≤ hardLimit .approvals := Nat.zero_le _

def sampleSignature : SignatureEnvelope where
  descriptor := ⟨sampleId, ⟨"key-1", by decide⟩, sampleId⟩
  signature := ⟨[7], by decide, by decide⟩

/-- Evidence of `size + 1` zero bytes under its content identifier. -/
def sampleEvidence (size : Nat) (h : size < hardMaxEvidenceBytes) : EvidenceObject :=
  let content : EvidenceObject := {
    id := .zero
    evidenceType := sampleId
    mediaType := sampleId
    bytes := List.replicate (size + 1) 0
    nonempty := by simp
    bounded := by simpa using Nat.succ_le_of_lt h }
  { content with id := evidenceId content }

theorem sampleSignature_fits : sampleSignature.Fits .defaultDeployment :=
  Nat.le_of_ble_eq_true rfl

theorem sampleEvidence_fits {size : Nat} (h : size < hardMaxEvidenceBytes) (hsize : size < 65536) :
    (sampleEvidence size h).Fits .defaultDeployment := by
  have hlimit : VerifierLimits.defaultDeployment.get .evidenceBytes = 65536 := rfl
  have hlen : (sampleEvidence size h).bytes.length = size + 1 := List.length_replicate ..
  rw [EvidenceObject.Fits, hlimit, hlen]
  omega

def sampleApproval (size : Nat) (h : size < hardMaxEvidenceBytes) : SignedApproval where
  statement := {
    approver := sampleAgent
    requirement := .zero
    mediaType := sampleId
    bodyDigest := .zero
    permission := samplePermission
    requestedBudget := none
    attributes := none
    audience := sampleAudience
    challenge := .zero
    validity := ⟨0, 10, by decide⟩ }
  signature := sampleSignature
  evidence := [sampleEvidence size h]
  bounded := Nat.le_of_ble_eq_true rfl
  sorted := List.pairwise_singleton _ _

def sampleBundle (size : Nat) (h : size < hardMaxEvidenceBytes) : ProofBundle where
  header := ⟨0, rfl⟩
  grants := [⟨sampleGrant, sampleSignature⟩]
  actions := [⟨sampleAction sampleAgent none none, sampleSignature⟩]
  plan := CanonicalPlan.proof .zero
  evidence := [sampleEvidence 7 (by decide)]
  bindings := []
  principalStatus := []
  grantStatus := []
  attachments := []
  canonicalBody := none
  approvals := [sampleApproval size h]
  isBounded := rfl
  actionsSorted := List.pairwise_singleton _ _
  evidenceSorted := List.pairwise_singleton _ _
  bindingsSorted := List.Pairwise.nil
  attachmentsSorted := List.Pairwise.nil
  planValidates := ⟨_, rfl⟩
  approvalsBounded := Nat.le_of_ble_eq_true rfl

theorem sampleBundle_contentAddressed (size : Nat) (h : size < hardMaxEvidenceBytes) :
    (sampleBundle size h).ContentAddressed where
  evidence := by
    intro e he
    obtain rfl := List.mem_singleton.mp he
    rfl
  approvals := by
    intro a ha e he
    obtain rfl := List.mem_singleton.mp ha
    obtain rfl := List.mem_singleton.mp he
    rfl

theorem sampleBundle_within {size : Nat} (h : size < hardMaxEvidenceBytes)
    (hbytes : (encodeBundle (sampleBundle size h)).length ≤ 262144) (hsize : size < 65536) :
    (sampleBundle size h).Within .defaultDeployment where
  bytes := hbytes
  grantCount := Nat.le_of_ble_eq_true rfl
  grants := by
    intro g hg
    obtain rfl := List.mem_singleton.mp hg
    have hextensions : sampleGrant.extensions.Fits .defaultDeployment :=
      ⟨Nat.zero_le _, fun _ hmem => absurd hmem List.not_mem_nil⟩
    exact ⟨⟨by decide, by decide, trivial, hextensions⟩, sampleSignature_fits⟩
  actionCount := Nat.le_of_ble_eq_true rfl
  actions := by
    intro a ha
    obtain rfl := List.mem_singleton.mp ha
    have hextensions : CriticalExtensions.empty.Fits .defaultDeployment :=
      ⟨Nat.zero_le _, fun _ hmem => absurd hmem List.not_mem_nil⟩
    exact ⟨⟨Nat.zero_le _, hextensions⟩, sampleSignature_fits⟩
  plan := ⟨_, rfl⟩
  evidenceCount := Nat.le_of_ble_eq_true rfl
  evidence := by
    intro e he
    obtain rfl := List.mem_singleton.mp he
    exact sampleEvidence_fits _ (by decide)
  bindingCount := Nat.zero_le _
  bindings := fun _ hmem => absurd hmem List.not_mem_nil
  principalStatusCount := Nat.zero_le _
  principalStatus := fun _ hmem => absurd hmem List.not_mem_nil
  grantStatusCount := Nat.zero_le _
  grantStatus := fun _ hmem => absurd hmem List.not_mem_nil
  signatures := Nat.le_of_ble_eq_true rfl
  attachments := Nat.zero_le _
  canonicalBody := fun _ hmem => absurd hmem (by simp [sampleBundle])
  approvalCount := Nat.le_of_ble_eq_true rfl
  approvals := by
    intro a ha
    obtain rfl := List.mem_singleton.mp ha
    refine ⟨sampleSignature_fits, fun e he => ?_⟩
    obtain rfl := List.mem_singleton.mp he
    exact sampleEvidence_fits h hsize

/-- The round trip of a bundle with one grant, one action, one evidence object and one approval. -/
theorem decodeBundle_sampleBundle :
    (sampleBundle 7 (by decide)).Within .defaultDeployment ∧
      ∃ decoded, decodeBundle (encodeBundle (sampleBundle 7 (by decide))) .defaultDeployment =
        .ok decoded ∧ (sampleBundle 7 (by decide)).Reordered decoded := by
  have hwithin := @sampleBundle_within 7 (by decide) (by decide +kernel) (by decide)
  have hbytes : (sampleBundle 7 (by decide)).ApprovalsBounded := by
    intro a ha
    obtain rfl := List.mem_singleton.mp ha
    decide +kernel
  have : LawfulCbor := rfc8949_lawful
  obtain ⟨⟨decoded, hdecoded, hreordered, _⟩, _⟩ :=
    decodeBundle_encodeBundle hwithin (sampleBundle_contentAddressed 7 (by decide)) hbytes
  exact ⟨hwithin, decoded, hdecoded, hreordered⟩

/-- An approval of more than 4096 encoded bytes is within every limit and never decodes. -/
theorem decodeBundle_oversizedApproval :
    (sampleBundle 4200 (by decide)).Within .defaultDeployment ∧
      (sampleBundle 4200 (by decide)).ContentAddressed ∧
      ∀ decoded, decodeBundle (encodeBundle (sampleBundle 4200 (by decide))) .defaultDeployment ≠
        .ok decoded := by
  have hwithin := @sampleBundle_within 4200 (by decide) (by decide +kernel) (by decide)
  have hids := sampleBundle_contentAddressed 4200 (by decide)
  refine ⟨hwithin, hids, ?_⟩
  intro decoded hdecoded
  have : LawfulCbor := rfc8949_lawful
  have hover : maxSignedApprovalBytes <
      (encodeSignedApproval (sampleApproval 4200 (by decide))).length := by decide +kernel
  have hreads := ProofBundle.readsIf_bundle hwithin hids.evidence
  have hfits : ¬∀ a ∈ (sampleBundle 4200 (by decide)).approvals, a.Fits .defaultDeployment := by
    intro hall
    exact absurd (hall _ List.mem_cons_self).bytes (not_le.mpr hover)
  rw [decodeBundle, if_neg (not_lt.mpr hwithin.bytes)] at hdecoded
  obtain ⟨error, herror⟩ := (decodeCanonical_of_readsIf hreads).2 fun h => hfits h.1
  rw [herror] at hdecoded
  cases hdecoded

end Sample

end AuthsProof
