import AuthsProof.AuthorityChain
import AuthsProof.Covering

/-! The attenuation laws of the core critical extensions along delegation chains. Three of the four are
preorders; a bounded-policy commitment only links the exact bytes of the one before it. -/

namespace AuthsProof

open Attenuation Wire Decode

/-- The payloads a handler evaluates without failure. -/
def CriticalExtensionHandler.Accepts (handler : CriticalExtensionHandler) (payload : Bytes) : Prop :=
  ∃ extension : CriticalExtension, extension.bytes = payload ∧ handler.evaluate extension = .ok ()

/-- The law of a handler is a preorder on the payloads it accepts. -/
structure CriticalExtensionHandler.PreorderLaw (handler : CriticalExtensionHandler) : Prop where
  refl : ∀ x, handler.Accepts x → handler.attenuates (some x) (some x) = .ok true
  trans : ∀ x y z, handler.Accepts x → handler.Accepts y → handler.Accepts z →
    handler.attenuates (some x) (some y) = .ok true →
    handler.attenuates (some y) (some z) = .ok true → handler.attenuates (some x) (some z) = .ok true

section Payload

variable {α : Type} {decode : Bytes → Except RegistryOperationError α} {law : α → α → Bool}

theorem payloadAttenuates_added {x : Bytes} :
    payloadAttenuates decode law (some x) none = .ok true ↔ ∃ a, decode x = .ok a := by
  cases h : decode x with
  | error e => simp [payloadAttenuates, h, bind, Except.bind]
  | ok a => simp [payloadAttenuates, h, bind, Except.bind, pure, Except.pure]

theorem payloadAttenuates_kept {x y : Bytes} :
    payloadAttenuates decode law (some x) (some y) = .ok true ↔
      ∃ a b, decode x = .ok a ∧ decode y = .ok b ∧ law a b = true := by
  cases hx : decode x with
  | error e => simp [payloadAttenuates, hx, bind, Except.bind]
  | ok a =>
    cases hy : decode y with
    | error e => simp [payloadAttenuates, hx, hy, bind, Except.bind]
    | ok b => simp [payloadAttenuates, hx, hy, bind, Except.bind, pure, Except.pure]

/-- A law that composes on what the payloads mean composes on the payloads, added ones included. -/
theorem payloadAttenuates_compose (htrans : ∀ a b c, law a b = true → law b c = true → law a c = true)
    {x y : Bytes} {parent : Option Bytes} (hxy : payloadAttenuates decode law (some x) (some y) = .ok true)
    (hy : payloadAttenuates decode law (some y) parent = .ok true) :
    payloadAttenuates decode law (some x) parent = .ok true := by
  obtain ⟨a, b, ha, hb, hab⟩ := payloadAttenuates_kept.mp hxy
  cases parent with
  | none => exact payloadAttenuates_added.mpr ⟨a, ha⟩
  | some z =>
    obtain ⟨b', c, hb', hc, hbc⟩ := payloadAttenuates_kept.mp hy
    obtain rfl := Except.ok.inj (hb.symm.trans hb')
    exact payloadAttenuates_kept.mpr ⟨a, c, ha, hc, htrans a b c hab hbc⟩

variable [Sha256]

theorem payloadHandler_accepts_iff {id : ExtensionId} {name : String}
    {attenuates : Option Bytes → Option Bytes → Except RegistryOperationError Bool} {x : Bytes} :
    (payloadHandler id name decode attenuates).Accepts x ↔
      x.length ≤ hardMaxExtensionBytes ∧ ∃ a, decode x = .ok a := by
  simp only [CriticalExtensionHandler.Accepts, payloadHandler]
  constructor
  · intro ⟨extension, hbytes, hevaluate⟩
    split_ifs at hevaluate
    rw [hbytes] at hevaluate
    refine ⟨hbytes ▸ extension.bounded, ?_⟩
    cases hdecode : decode x with
    | error e => simp [hdecode, Except.map] at hevaluate
    | ok a => exact ⟨a, rfl⟩
  · intro ⟨hsize, a, ha⟩
    refine ⟨⟨id, x, hsize⟩, rfl, ?_⟩
    rw [if_neg (not_not.mpr rfl), ha]
    rfl

theorem payloadHandler_preorder {id : ExtensionId} {name : String} (hrefl : ∀ a, law a a = true)
    (htrans : ∀ a b c, law a b = true → law b c = true → law a c = true) :
    (payloadHandler id name decode (payloadAttenuates decode law)).PreorderLaw where
  refl x hx := by
    obtain ⟨a, ha⟩ := (payloadHandler_accepts_iff.mp hx).2
    exact payloadAttenuates_kept.mpr ⟨a, a, ha, ha, hrefl a⟩
  trans _ _ z _ _ _ hxy hyz := @payloadAttenuates_compose _ _ _ htrans _ _ (some z) hxy hyz

end Payload

section Core

variable [Cbor] [Sha256]

omit [Cbor] in
theorem exactMarkerExtension_kept {x y : Bytes} :
    exactMarkerExtension.attenuates (some x) (some y) = .ok true ↔ x = y := by
  simp [exactMarkerExtension]

omit [Cbor] in
theorem exactMarkerExtension_preorder : exactMarkerExtension.PreorderLaw where
  refl _ _ := exactMarkerExtension_kept.mpr rfl
  trans _ _ _ _ _ _ hxy hyz :=
    exactMarkerExtension_kept.mpr
      ((exactMarkerExtension_kept.mp hxy).trans (exactMarkerExtension_kept.mp hyz))

theorem observationRequirementExtension_preorder : observationRequirementExtension.PreorderLaw :=
  payloadHandler_preorder observationRequirementsAttenuate_refl
    fun _ _ _ => observationRequirementsAttenuate_trans

theorem approvalRequirementExtension_preorder : approvalRequirementExtension.PreorderLaw :=
  payloadHandler_preorder approvalRequirementsAttenuate_refl
    fun _ _ _ => approvalRequirementsAttenuate_trans

/-- The payload is a bounded-policy commitment whose parent link is `link`. -/
def LinksPolicy (payload : Bytes) (link : Option Digest) : Prop :=
  ∃ body, decodeBoundedPolicyCommitment payload = .ok body ∧ body.parent = link

theorem decodeBoundedPolicy_eq_ok {x : Bytes} {body : BoundedPolicyCommitment} :
    decodeBoundedPolicy x = .ok body ↔ decodeBoundedPolicyCommitment x = .ok body := by
  rw [decodeBoundedPolicy]
  cases decodeBoundedPolicyCommitment x <;> simp [Except.mapError]

omit [Cbor] [Sha256] in
theorem boundedPolicyLinkAccepts_iff {link digest : Option Digest} :
    boundedPolicyLinkAccepts link digest = true ↔ link = digest := by
  cases link with
  | none => cases digest <;> simp [boundedPolicyLinkAccepts]
  | some link =>
    cases digest with
    | none => simp [boundedPolicyLinkAccepts]
    | some digest =>
      obtain ⟨bytes, hbytes⟩ := link
      obtain ⟨others, hothers⟩ := digest
      simp [boundedPolicyLinkAccepts, digestEqual]

theorem boundedPolicyAttenuates_eq {x y : Bytes} {body other : BoundedPolicyCommitment}
    (hx : decodeBoundedPolicyCommitment x = .ok body) (hy : decodeBoundedPolicyCommitment y = .ok other) :
    boundedPolicyAttenuates (some x) (some y) =
      .ok (boundedPolicyLinkAccepts body.parent (some (boundedPolicyLink y))) := by
  rw [← decodeBoundedPolicy_eq_ok] at hx hy
  simp [boundedPolicyAttenuates, hx, hy, bind, Except.bind, pure, Except.pure]

theorem boundedPolicyAttenuates_added {x : Bytes} :
    boundedPolicyAttenuates (some x) none = .ok true ↔ LinksPolicy x none := by
  simp only [LinksPolicy, ← decodeBoundedPolicy_eq_ok]
  cases h : decodeBoundedPolicy x with
  | error e => simp [boundedPolicyAttenuates, h, bind, Except.bind]
  | ok body => simp [boundedPolicyAttenuates, h, bind, Except.bind, pure, Except.pure,
      boundedPolicyLinkAccepts_iff]

/-- A kept commitment links the exact bytes of its parent, whatever either policy says. -/
theorem boundedPolicyAttenuates_kept {x y : Bytes} :
    boundedPolicyAttenuates (some x) (some y) = .ok true ↔
      LinksPolicy x (some (boundedPolicyLink y)) ∧ ∃ body, decodeBoundedPolicyCommitment y = .ok body := by
  simp only [LinksPolicy, ← decodeBoundedPolicy_eq_ok]
  cases hx : decodeBoundedPolicy x with
  | error e => simp [boundedPolicyAttenuates, hx, bind, Except.bind]
  | ok body =>
    cases hy : decodeBoundedPolicy y with
    | error e => simp [boundedPolicyAttenuates, hx, hy, bind, Except.bind]
    | ok other => simp [boundedPolicyAttenuates, hx, hy, bind, Except.bind, pure, Except.pure,
        boundedPolicyLinkAccepts_iff]

omit [Cbor] [Sha256] in
/-- A failing law refuses, as `unwrap_or(false)`. -/
theorem unwrapOr_eq_true {result : Except RegistryOperationError Bool} :
    (match result with
      | .ok accepted => accepted
      | .error _ => false) = true ↔ result = .ok true := by
  cases result <;> simp

/-- Attenuation laws of the core handlers alone, by which authors plan before a context is known. -/
def coreExtensionLaws : CriticalExtensionLaws where
  attenuates id child parent :=
    let judged (handler : CriticalExtensionHandler) : Bool :=
      match handler.attenuates child parent with
      | .ok accepted => accepted
      | .error _ => false
    if id = exactMarkerExtension.id then judged exactMarkerExtension
    else if id = observationRequirementExtension.id then judged observationRequirementExtension
    else if id = boundedPolicyCommitmentExtension.id then judged boundedPolicyCommitmentExtension
    else if id = approvalRequirementExtension.id then judged approvalRequirementExtension
    else false

/-- The law of an identifier is that of a core handler, or refuses everything. -/
def CoreLaw (laws : CriticalExtensionLaws) (id : ExtensionId) : Prop :=
  (∃ handler ∈ coreExtensionHandlers, handler.id = id ∧ ∀ child parent,
    laws.attenuates id child parent = true ↔ handler.attenuates child parent = .ok true) ∨
  ∀ child parent, laws.attenuates id child parent = false

theorem coreExtensionLaws_coreLaw (id : ExtensionId) : CoreLaw coreExtensionLaws id := by
  unfold CoreLaw coreExtensionLaws
  dsimp only
  by_cases hmarker : id = exactMarkerExtension.id
  · refine Or.inl ⟨exactMarkerExtension, by simp [coreExtensionHandlers], hmarker.symm, fun _ _ => ?_⟩
    rw [if_pos hmarker]
    exact unwrapOr_eq_true
  by_cases hobservation : id = observationRequirementExtension.id
  · refine Or.inl ⟨observationRequirementExtension, by simp [coreExtensionHandlers],
      hobservation.symm, fun _ _ => ?_⟩
    rw [if_neg hmarker, if_pos hobservation]
    exact unwrapOr_eq_true
  by_cases hpolicy : id = boundedPolicyCommitmentExtension.id
  · refine Or.inl ⟨boundedPolicyCommitmentExtension, by simp [coreExtensionHandlers], hpolicy.symm,
      fun _ _ => ?_⟩
    rw [if_neg hmarker, if_neg hobservation, if_pos hpolicy]
    exact unwrapOr_eq_true
  by_cases happroval : id = approvalRequirementExtension.id
  · refine Or.inl ⟨approvalRequirementExtension, by simp [coreExtensionHandlers], happroval.symm,
      fun _ _ => ?_⟩
    rw [if_neg hmarker, if_neg hobservation, if_neg hpolicy, if_pos happroval]
    exact unwrapOr_eq_true
  · refine Or.inr fun _ _ => ?_
    rw [if_neg hmarker, if_neg hobservation, if_neg hpolicy, if_neg happroval]

/-- A verifier that adds no handler judges every identifier by the core laws. -/
theorem extensionLaws_coreLaw {registries : ImmutableRegistries} {accepted : AcceptedRegistries}
    (hadded : registries.pure.extensionHandlers = []) (id : ExtensionId) :
    CoreLaw (registries.extensionLaws accepted) id := by
  unfold CoreLaw ImmutableRegistries.extensionLaws
  dsimp only
  cases hfound : registries.extensionHandler accepted id with
  | none => exact Or.inr fun _ _ => rfl
  | some handler =>
    unfold ImmutableRegistries.extensionHandler at hfound
    split_ifs at hfound
    rw [hadded, List.append_nil] at hfound
    exact Or.inl ⟨handler, List.mem_of_find?_eq_some hfound, by simpa using List.find?_some hfound,
      fun _ _ => unwrapOr_eq_true⟩

/-- Every core law but the bounded-policy one composes along two edges. -/
theorem CoreLaw.compose {laws : CriticalExtensionLaws} {id : ExtensionId} (hlaw : CoreLaw laws id)
    (hid : id ≠ boundedPolicyCommitmentExtensionV1) {x y : Bytes} {parent : Option Bytes}
    (hxy : laws.attenuates id (some x) (some y) = true) (hy : laws.attenuates id (some y) parent = true) :
    laws.attenuates id (some x) parent = true := by
  rcases hlaw with ⟨handler, hmem, hhandler, hlaw⟩ | hnone
  · rw [hlaw] at hxy hy ⊢
    simp only [coreExtensionHandlers, List.mem_cons, List.not_mem_nil, or_false] at hmem
    rcases hmem with rfl | rfl | rfl | rfl
    · cases exactMarkerExtension_kept.mp hxy
      exact hy
    · exact @payloadAttenuates_compose _ decodeRequirements observationRequirementsAttenuate
        (fun _ _ _ => observationRequirementsAttenuate_trans) x y parent hxy hy
    · exact absurd hhandler.symm hid
    · exact @payloadAttenuates_compose _ decodeApprovals approvalRequirementsAttenuate
        (fun _ _ _ => approvalRequirementsAttenuate_trans) x y parent hxy hy
  · rw [hnone] at hxy
    cases hxy

/-- The bounded-policy law, where one is registered, reads one edge: the commitment links the exact
bytes it replaces, or nothing where there was none. -/
theorem CoreLaw.links {laws : CriticalExtensionLaws}
    (hlaw : CoreLaw laws boundedPolicyCommitmentExtensionV1) {x : Bytes} {parent : Option Bytes}
    (h : laws.attenuates boundedPolicyCommitmentExtensionV1 (some x) parent = true) :
    LinksPolicy x (parent.map boundedPolicyLink) := by
  rcases hlaw with ⟨handler, hmem, hhandler, hlaw⟩ | hnone
  · rw [hlaw] at h
    simp only [coreExtensionHandlers, List.mem_cons, List.not_mem_nil, or_false] at hmem
    rcases hmem with rfl | rfl | rfl | rfl
    · exact absurd hhandler
        (by decide : exactMarkerExtensionV1 ≠ boundedPolicyCommitmentExtensionV1)
    · exact absurd hhandler
        (by decide : observationRequirementExtensionV1 ≠ boundedPolicyCommitmentExtensionV1)
    · cases parent with
      | none => exact boundedPolicyAttenuates_added.mp h
      | some y => exact (boundedPolicyAttenuates_kept.mp h).1
    · exact absurd hhandler
        (by decide : approvalRequirementExtensionV1 ≠ boundedPolicyCommitmentExtensionV1)
  · rw [hnone] at h
    cases h

end Core

section Edges

def CriticalExtensions.payload (extensions : CriticalExtensions) (id : ExtensionId) : Option Bytes :=
  (criticalExtensionFind extensions id).map CriticalExtension.bytes

theorem criticalExtensionFind_some {extensions : CriticalExtensions} {id : ExtensionId}
    {extension : CriticalExtension} (h : criticalExtensionFind extensions id = some extension) :
    extension ∈ extensions.entries ∧ extension.id = id := by
  refine ⟨List.mem_of_find?_eq_some h, BoundedString.str_injective ?_⟩
  simpa using List.find?_some h

/-- The entries are sorted by identifier, so looking one up finds it. -/
theorem criticalExtensionFind_mem {extensions : CriticalExtensions} {extension : CriticalExtension}
    (h : extension ∈ extensions.entries) :
    criticalExtensionFind extensions extension.id = some extension := by
  cases hfound : criticalExtensionFind extensions extension.id with
  | none =>
    have hmissing := List.find?_eq_none.mp hfound extension h
    simp at hmissing
  | some found =>
    obtain ⟨hmem, hid⟩ := criticalExtensionFind_some hfound
    have hkeys : (extensions.entries.map CriticalExtension.id).Nodup :=
      List.pairwise_map.mpr (extensions.sorted.imp fun hlt => hlt.ne)
    rw [List.inj_on_of_nodup_map hkeys hmem h hid]

variable (laws : CriticalExtensionLaws)

/-- What an edge asks of one identifier: nothing where it is on neither side, its law where the child
has it, and no edge may drop it. -/
def EdgeAccepts (id : ExtensionId) : Option Bytes → Option Bytes → Prop
  | none, none => True
  | none, some _ => False
  | some child, parent => laws.attenuates id (some child) parent = true

/-- The set relation is the edge relation of every identifier. -/
theorem criticalExtensionsAttenuate_iff {child parent : CriticalExtensions} :
    criticalExtensionsAttenuate laws child parent = true ↔
      ∀ id, EdgeAccepts laws id (child.payload id) (parent.payload id) := by
  simp only [criticalExtensionsAttenuate, Bool.and_eq_true, parentExtensionsRetained,
    childExtensionsAdmitted, List.all_eq_true]
  constructor
  · intro ⟨hretained, hadmitted⟩ id
    cases hchild : criticalExtensionFind child id with
    | none =>
      cases hparent : criticalExtensionFind parent id with
      | none => simp [CriticalExtensions.payload, hchild, hparent, EdgeAccepts]
      | some kept =>
        obtain ⟨hmem, rfl⟩ := criticalExtensionFind_some hparent
        have hdropped := hretained kept hmem
        simp [parentExtensionRetained, hchild] at hdropped
    | some held =>
      obtain ⟨hmem, rfl⟩ := criticalExtensionFind_some hchild
      cases hparent : criticalExtensionFind parent held.id with
      | none =>
        have hadded := hadmitted held hmem
        rw [childExtensionAdmitted, hparent] at hadded
        simpa [CriticalExtensions.payload, hchild, hparent, EdgeAccepts] using hadded
      | some kept =>
        obtain ⟨hkept, hid⟩ := criticalExtensionFind_some hparent
        have hlaw := hretained kept hkept
        rw [parentExtensionRetained, hid, hchild] at hlaw
        simpa [CriticalExtensions.payload, hchild, hparent, EdgeAccepts] using hlaw
  · intro h
    constructor
    · intro kept hmem
      have hedge := h kept.id
      have hparent := criticalExtensionFind_mem hmem
      rw [parentExtensionRetained]
      cases hchild : criticalExtensionFind child kept.id with
      | none => simp [CriticalExtensions.payload, hchild, hparent, EdgeAccepts] at hedge
      | some held => simpa [CriticalExtensions.payload, hchild, hparent, EdgeAccepts] using hedge
    · intro held hmem
      have hedge := h held.id
      have hchild := criticalExtensionFind_mem hmem
      rw [childExtensionAdmitted]
      cases hparent : criticalExtensionFind parent held.id with
      | none => simpa [CriticalExtensions.payload, hchild, hparent, EdgeAccepts] using hedge
      | some kept => rfl

variable {laws}

/-- Where the law of an identifier composes, so does the edge relation. -/
theorem EdgeAccepts.trans {id : ExtensionId}
    (hcompose : ∀ (x y : Bytes) (parent : Option Bytes), laws.attenuates id (some x) (some y) = true →
      laws.attenuates id (some y) parent = true → laws.attenuates id (some x) parent = true)
    {a b c : Option Bytes} (hab : EdgeAccepts laws id a b) (hbc : EdgeAccepts laws id b c) :
    EdgeAccepts laws id a c := by
  cases a with
  | none =>
    cases b with
    | none => exact hbc
    | some y => exact hab.elim
  | some x =>
    cases b with
    | none =>
      cases c with
      | none => exact hab
      | some z => exact hbc.elim
    | some y => exact hcompose x y c hab hbc

/-- What each edge of an accepted chain asks of one identifier. -/
theorem delegateChain_edges {anchor : TrustAnchor} {grants : List (GrantId × GrantStatement)}
    {terminal : EffectiveAuthority} (hchain : delegateChain laws anchor grants = .ok terminal)
    (id : ExtensionId) :
    Linked (fun parent grant => ∀ extensions ∈ parent,
        EdgeAccepts laws id (grant.2.extensions.payload id) (extensions.payload id))
      (fun grant => some grant.2.extensions) none grants := by
  refine run_linked (delegateStep laws) EffectiveAuthority.extensions (fun parent grant child hstep => ?_)
    hchain
  refine ⟨fun extensions hparent => ?_, by rw [(delegateStep_ok hstep).child_eq]⟩
  have hattenuates := delegate_extensions hstep
  rw [show parent.extensions = some extensions from hparent] at hattenuates
  exact (criticalExtensionsAttenuate_iff laws).mp hattenuates id

end Edges

section Chain

variable [Cbor] [Sha256] {laws : CriticalExtensionLaws} {anchor : TrustAnchor}
  {grants : List (GrantId × GrantStatement)} {terminal : EffectiveAuthority}

/-- Every later grant of an accepted chain narrows the extensions of every earlier one. -/
theorem delegateChain_extensions (hlaws : ∀ id, CoreLaw laws id)
    (hchain : delegateChain laws anchor grants = .ok terminal) {id : ExtensionId}
    (hid : id ≠ boundedPolicyCommitmentExtensionV1) :
    grants.Pairwise fun earlier later => EdgeAccepts laws id (later.2.extensions.payload id)
      (earlier.2.extensions.payload id) := by
  have hpairs := ((delegateChain_edges hchain id).pairwise ?_).2
  · exact hpairs.imp fun hedge => hedge _ rfl
  · intro parent grant next hfirst hsecond extensions hparent
    exact EdgeAccepts.trans (fun _ _ _ => (hlaws id).compose hid) (hsecond _ rfl)
      (hfirst extensions hparent)

/-- A commitment, once in a chain, stays, and each links the exact bytes of the one before. -/
theorem delegateChain_policyLinks (hlaws : ∀ id, CoreLaw laws id)
    (hchain : delegateChain laws anchor grants = .ok terminal) {i : Nat}
    {grant next : GrantId × GrantStatement} (hgrant : grants[i]? = some grant)
    (hnext : grants[i + 1]? = some next) :
    match next.2.extensions.payload boundedPolicyCommitmentExtensionV1,
      grant.2.extensions.payload boundedPolicyCommitmentExtensionV1 with
    | none, parent => parent = none
    | some child, parent => LinksPolicy child (parent.map boundedPolicyLink) := by
  have hedge := (delegateChain_edges hchain boundedPolicyCommitmentExtensionV1).getElem.2 i grant next
    hgrant hnext grant.2.extensions rfl
  cases hchild : next.2.extensions.payload boundedPolicyCommitmentExtensionV1 with
  | none =>
    cases hparent : grant.2.extensions.payload boundedPolicyCommitmentExtensionV1 with
    | none => rfl
    | some parent =>
      rw [hchild, hparent] at hedge
      exact hedge.elim
  | some child =>
    rw [hchild] at hedge
    exact (hlaws _).links hedge

end Chain

/-- The core extension laws but the bounded-policy one are preorders on the payloads their handlers
accept, so along any accepted chain every later grant narrows every earlier one. The bounded-policy
law is a link: it accepts a pair exactly when the child names the digest of the parent's bytes. -/
theorem coreExtensionLaws_preorder [Cbor] [Sha256] :
    (exactMarkerExtension.PreorderLaw ∧ observationRequirementExtension.PreorderLaw ∧
      approvalRequirementExtension.PreorderLaw) ∧
    (∀ x y : Bytes, boundedPolicyCommitmentExtension.Accepts x →
      boundedPolicyCommitmentExtension.Accepts y →
      (boundedPolicyCommitmentExtension.attenuates (some x) (some y) = .ok true ↔
        LinksPolicy x (some (boundedPolicyLink y)))) ∧
    ∀ (laws : CriticalExtensionLaws) (anchor : TrustAnchor) (grants : List (GrantId × GrantStatement))
      (terminal : EffectiveAuthority),
      (laws = coreExtensionLaws ∨ ∃ registries accepted,
        registries.pure.extensionHandlers = [] ∧
          laws = ImmutableRegistries.extensionLaws registries accepted) →
      delegateChain laws anchor grants = .ok terminal →
      (∀ id, id ≠ boundedPolicyCommitmentExtensionV1 →
        grants.Pairwise fun earlier later => EdgeAccepts laws id (later.2.extensions.payload id)
          (earlier.2.extensions.payload id)) ∧
      ∀ (i : Nat) grant next, grants[i]? = some grant → grants[i + 1]? = some next →
        match next.2.extensions.payload boundedPolicyCommitmentExtensionV1,
          grant.2.extensions.payload boundedPolicyCommitmentExtensionV1 with
        | none, parent => parent = none
        | some child, parent => LinksPolicy child (parent.map boundedPolicyLink) := by
  refine ⟨⟨exactMarkerExtension_preorder, observationRequirementExtension_preorder,
    approvalRequirementExtension_preorder⟩, fun x y _ hy => ?_, fun laws anchor grants terminal hlaws hchain => ?_⟩
  · obtain ⟨body, hbody⟩ := (payloadHandler_accepts_iff.mp hy).2
    refine boundedPolicyAttenuates_kept.trans (and_iff_left ⟨body, ?_⟩)
    exact decodeBoundedPolicy_eq_ok.mp hbody
  · have hcore : ∀ id, CoreLaw laws id := by
      rcases hlaws with rfl | ⟨registries, accepted, hadded, rfl⟩
      · exact coreExtensionLaws_coreLaw
      · exact extensionLaws_coreLaw hadded
    exact ⟨fun _ hid => delegateChain_extensions hcore hchain hid,
      fun _ _ _ => delegateChain_policyLinks hcore hchain⟩


section PolicyCodec

variable [Cbor] [LawfulCbor]

theorem reads_policyIdentifier {maximum : Nat} (identifier : PolicyIdentifier)
    (h : identifier.str.utf8ByteSize ≤ maximum) (hmaximum : maximum < 2 ^ 64) :
    Reads (parsed (PolicyIdentifier.parse · maximum)) (Cbor.text identifier.str) identifier := by
  refine reads_parsed (lt_of_le_of_lt h hmaximum) ?_
  rw [PolicyIdentifier.parse, dif_pos ⟨identifier.nonempty, h, identifier.vocabulary⟩]

theorem reads_policyCommitment (c : PolicyCommitment) :
    Reads policyCommitment (encodePolicyCommitment c) c := by
  obtain ⟨hversion, htype, hcanonicalization, hevaluator⟩ := c.bounded
  refine ReadsIf.always ((reads_map (by norm_num)).seq ?_)
  refine reads_field 0 (reads_policyIdentifier c.policyType htype (by decide)) ?_
  refine reads_field 1 (reads_u16 c.policyVersion) ?_
  refine reads_field 2 (reads_policyIdentifier c.canonicalizationId hcanonicalization (by decide)) ?_
  refine reads_field 3 (reads_digestBytes c.policyDigest) ?_
  refine reads_field 4 (reads_policyIdentifier c.evaluatorSemanticId hevaluator (by decide)) ?_
  exact (reads_model (by rw [PolicyCommitment.new, dif_pos c.bounded])).readsIf

variable [Sha256]

/-- A commitment whose policy opens to its digest is read back from its encoding. -/
theorem decodeBoundedPolicyCommitment_encode (body : BoundedPolicyCommitment)
    (hsize : (encodeBoundedPolicyCommitment body).length ≤ hardMaxExtensionBytes)
    (hopens : boundedPolicyDigest body.policy = body.commitment.policyDigest) :
    decodeBoundedPolicyCommitment (encodeBoundedPolicyCommitment body) = .ok body := by
  have hfields : Reads boundedPolicyFields (encodeBoundedPolicyCommitment body)
      (body.commitment, body.policy, body.parent) := by
    have hlen : body.policy.length < 2 ^ 64 := lt_of_le_of_lt body.bounded (by decide)
    have hpolicy : Reads (boundedBytes maxBoundedPolicyBytes false) (Cbor.bytes body.policy)
        body.policy := (readsIf_boundedBytes hlen _ false).reads ⟨body.bounded, by simp⟩
    refine ReadsIf.always ((reads_map (by norm_num)).seq ?_)
    refine reads_field 0 (reads_policyCommitment body.commitment) ?_
    refine reads_field 1 hpolicy ?_
    refine reads_field 2 (reads_optionalDigest body.parent) ?_
    exact ReadsIf.pure _
  have hrun := hfields []
  rw [List.append_nil] at hrun
  have hnew : BoundedPolicyCommitment.new body.commitment body.policy body.parent = .ok body := by
    rw [BoundedPolicyCommitment.new, dif_neg body.nonempty, dif_neg body.bounded.not_gt]
  simp [decodeBoundedPolicyCommitment, hsize.not_gt, hrun, hnew, Except.mapError, hopens]

end PolicyCodec

section Fixture

local instance lawsCbor : Cbor := rfc8949

local instance lawsSha256 : Sha256 := ⟨fun bytes => ⟨Sha2.sha256 bytes, Sha2.sha256_length bytes⟩⟩

def samplePolicyId : PolicyIdentifier := ⟨"policy", by decide, by decide⟩

/-- A commitment to the one-byte policy `[1]` that links no parent. -/
theorem samplePolicy_nonempty : ([1] : Bytes) ≠ [] := by decide

def samplePolicy : BoundedPolicyCommitment where
  commitment := ⟨samplePolicyId, 1, samplePolicyId, boundedPolicyDigest [1], samplePolicyId, by decide⟩
  policy := [1]
  parent := none
  nonempty := samplePolicy_nonempty
  bounded := by decide

theorem samplePolicy_size :
    (encodeBoundedPolicyCommitment samplePolicy).length ≤ hardMaxExtensionBytes := by
  decide +kernel

theorem samplePolicy_decodes :
    decodeBoundedPolicyCommitment (encodeBoundedPolicyCommitment samplePolicy) = .ok samplePolicy := by
  have : LawfulCbor := rfc8949_lawful
  exact decodeBoundedPolicyCommitment_encode samplePolicy samplePolicy_size rfl

/-- An accepted commitment does not attenuate itself: nothing links its own bytes. -/
theorem boundedPolicyCommitmentExtension_irreflexive :
    boundedPolicyCommitmentExtension.Accepts (encodeBoundedPolicyCommitment samplePolicy) ∧
      boundedPolicyCommitmentExtension.attenuates (some (encodeBoundedPolicyCommitment samplePolicy))
        (some (encodeBoundedPolicyCommitment samplePolicy)) = .ok false ∧
      ¬boundedPolicyCommitmentExtension.PreorderLaw := by
  have haccepts : boundedPolicyCommitmentExtension.Accepts
      (encodeBoundedPolicyCommitment samplePolicy) :=
    payloadHandler_accepts_iff.mpr
      ⟨samplePolicy_size, samplePolicy, decodeBoundedPolicy_eq_ok.mpr samplePolicy_decodes⟩
  have hrefused : boundedPolicyCommitmentExtension.attenuates
      (some (encodeBoundedPolicyCommitment samplePolicy))
      (some (encodeBoundedPolicyCommitment samplePolicy)) = .ok false :=
    boundedPolicyAttenuates_eq samplePolicy_decodes samplePolicy_decodes
  refine ⟨haccepts, hrefused, fun hlaw => ?_⟩
  have hkept := hlaw.refl _ haccepts
  rw [hrefused] at hkept
  cases hkept

def sampleMarker : CriticalExtensions where
  entries := [⟨exactMarkerExtensionV1, [1], by decide⟩]
  bounded := by decide
  sorted := List.pairwise_singleton ..

/-- Two linked grants that carry the marker. -/
def sampleMarked : List (GrantId × GrantStatement) :=
  [(.filled 1, { sampleGrant with extensions := sampleMarker }),
    (.filled 2, { sampleGrant with
      issuer := sampleAgent
      subject := sampleRoot
      remainingDepth := 0
      parent := some (.filled 1)
      extensions := sampleMarker })]

theorem coreExtensionLaws_preorder_sample :
    EdgeAccepts coreExtensionLaws exactMarkerExtensionV1 (some [1]) (some [1]) := by
  have hchain := (coreExtensionLaws_preorder.2.2 coreExtensionLaws sampleAnchor sampleMarked _
    (Or.inl rfl) rfl).1 exactMarkerExtensionV1 (by decide)
  exact List.rel_of_pairwise_cons hchain List.mem_cons_self

end Fixture

end AuthsProof
