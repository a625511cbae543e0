import AuthsProof.Decode

/-! What the decoders make of the encoders' output: each statement is read back exactly where its
nested collections are within the limits. -/

namespace AuthsProof

open Sorting Wire Decode

section Fits

variable (limits : VerifierLimits)

def ActionConstraint.Fits : ActionConstraint → Prop
  | .allowedBodyDigests digests => digests.items.length ≤ limits.get .allowedBodyDigests
  | _ => True

def CriticalExtensions.Fits (extensions : CriticalExtensions) : Prop :=
  extensions.entries.length ≤ limits.get .criticalExtensions ∧
    ∀ extension ∈ extensions.entries, extension.bytes.length ≤ limits.get .criticalExtensionBytes

def SignatureEnvelope.Fits (signature : SignatureEnvelope) : Prop :=
  signature.signature.bytes.length ≤ limits.get .signatureBytes

structure GrantStatement.Fits (statement : GrantStatement) : Prop where
  permissions : statement.permissions.items.length ≤ limits.get .permissions
  audiences : statement.audiences.items.length ≤ limits.get .audiences
  actionConstraint : statement.actionConstraint.Fits limits
  extensions : statement.extensions.Fits limits

def SignedGrant.Fits (grant : SignedGrant) : Prop :=
  grant.statement.Fits limits ∧ grant.signature.Fits limits

def ActionEnvelope.Fits (envelope : ActionEnvelope) : Prop :=
  envelope.attachments.length ≤ limits.get .attachments ∧ envelope.extensions.Fits limits

def SignedAction.Fits (action : SignedAction) : Prop :=
  action.envelope.Fits limits ∧ action.signature.Fits limits

def SignedStatus.Fits {σ : Type} (status : SignedStatus σ) : Prop :=
  status.statement.extensions.Fits limits ∧ status.signature.Fits limits

def EvidenceObject.Fits (evidence : EvidenceObject) : Prop :=
  evidence.bytes.length ≤ limits.get .evidenceBytes

def ControlBinding.Fits (binding : ControlBinding) : Prop :=
  binding.evidence.length ≤ limits.get .bindingEvidence

end Fits

section Laws

theorem BoundedString.size_lt {maximum : Nat} (x : BoundedString maximum) :
    x.str.utf8ByteSize < maximum + 1 := by
  have h := x.bounded
  simp only [boundedText, Bool.not_eq_true', Bool.or_eq_false_iff, decide_eq_false_iff_not] at h
  omega

theorem PrincipalId.size_lt (p : PrincipalId) : p.str.utf8ByteSize < 2 ^ 64 := by
  have h := (⟨p.str, p.bounded⟩ : BoundedString 512).size_lt
  simp only at h
  omega

variable [Cbor] [LawfulCbor] (limits : VerifierLimits)

theorem reads_bounded {maximum : Nat} (x : BoundedString maximum) (error : ModelError)
    (h : maximum < 2 ^ 64) :
    Reads (parsed (parseBounded maximum error)) (Cbor.text x.str) x :=
  reads_parsed (lt_of_lt_of_le x.size_lt h) (parseBounded_str error x)

theorem reads_principal (p : PrincipalId) : Reads (parsed PrincipalId.parse) (Cbor.text p.str) p :=
  reads_parsed p.size_lt p.parse_str

theorem reads_profileRef (p : ProfileRef) : Reads profileRef (encodeProfileRef p) p := by
  refine ReadsIf.always ((reads_map (by norm_num)).seq ?_)
  refine reads_field 0 (reads_bounded p.id _ (by norm_num)) ?_
  refine reads_field 1 (reads_u16 p.version) ?_
  exact (reads_model p.new_self).readsIf

theorem reads_permission (p : Permission) : Reads permission (encodePermission p) p := by
  refine ReadsIf.always ((reads_map (by norm_num)).seq ?_)
  refine reads_field 0 (reads_bounded p.capability _ (by norm_num)) ?_
  refine reads_field 1 (reads_bounded p.resource _ (by norm_num)) ?_
  exact ReadsIf.pure p

/-- A bounded set is read back from its items in order. -/
theorem readsIf_set {α : Type} [LinearOrder α] {hard : Nat} {read : Decoder α} {encode : α → Bytes}
    {build : List α → Except ModelError (BoundedSet α hard)} (s : BoundedSet α hard) (maximum : Nat)
    (hhard : hard < 2 ^ 64) (hread : ∀ a, Reads read (encode a) a) (hbuild : build s.items = .ok s) :
    ReadsIf (s.items.length ≤ maximum) (list maximum read >>= fun values => model (build values))
      (encodeList encode s.items) s := by
  have hlen : s.items.length < 2 ^ 64 := lt_of_le_of_lt s.bounded hhard
  have hlist := readsIf_plainList hlen maximum fun a (_ : a ∈ s.items) => hread a
  exact (hlist.then (reads_model hbuild).readsIf).congr (by simp)

theorem readsIf_permissions (s : PermissionSet) :
    ReadsIf (s.items.length ≤ limits.get .permissions) (permissions limits)
      (encodePermissionSet s) s :=
  readsIf_set s _ (by norm_num [hardMaxPermissions]) reads_permission (setOfItems_items _ _ s)

theorem readsIf_audiences (s : AudienceSet) :
    ReadsIf (s.items.length ≤ limits.get .audiences) (audiences limits) (encodeAudienceSet s) s :=
  readsIf_set s _ (by norm_num [hardMaxAudiences]) (fun a => reads_bounded a _ (by norm_num))
    (setOfItems_items _ _ s)

theorem reads_statusPolicy (p : StatusPolicy) : Reads statusPolicy (encodeStatusPolicy p) p := by
  cases p with
  | expiryOnly =>
    refine ReadsIf.always ((reads_mapEntries (by norm_num)).seq ?_)
    refine reads_field 0 (reads_u8 0) ?_
    exact ReadsIf.pure StatusPolicy.expiryOnly
  | snapshotRequired method maxAge =>
    refine ReadsIf.always ((reads_mapEntries (by norm_num)).seq ?_)
    refine reads_field 0 (reads_u8 1) ?_
    refine reads_field 1 (reads_bounded method _ (by norm_num)) ?_
    refine reads_field 2 (reads_u64 maxAge.seconds) ?_
    refine (reads_model maxAge.new_seconds).step ?_
    exact ReadsIf.pure (StatusPolicy.snapshotRequired method maxAge)

theorem reads_budget (b : BudgetCeiling) : Reads budget (encodeBudget b) b := by
  refine ReadsIf.always ((reads_map (by norm_num)).seq ?_)
  refine reads_field 0 (reads_bounded b.algebra _ (by norm_num)) ?_
  refine reads_field 1 (reads_u64 b.value) ?_
  exact ReadsIf.pure b

theorem reads_optionalBudget (b : Option BudgetCeiling) :
    Reads (optional budget) (encodeOptional encodeBudget b) b :=
  reads_optional (fun _ _ => notNull_map (by norm_num) _) fun a _ => reads_budget a

theorem reads_optionalDigest (d : Option Digest) :
    Reads (optional digestBytes) (encodeOptional encodeDigest d) d :=
  reads_optional (fun a _ => notNull_digest a) fun a _ => reads_digestBytes a

theorem readsIf_constraint (c : ActionConstraint) :
    ReadsIf (c.Fits limits) (constraint limits) (encodeConstraint c) c := by
  cases c with
  | anyBody =>
    refine (reads_mapEntries (by norm_num)).seq ?_
    refine reads_field 0 (reads_u8 0) ?_
    exact ReadsIf.pure ActionConstraint.anyBody
  | exactBodyDigest digest =>
    refine (reads_mapEntries (by norm_num)).seq ?_
    refine reads_field 0 (reads_u8 1) ?_
    refine reads_field 1 (reads_digestBytes digest) ?_
    exact ReadsIf.pure (ActionConstraint.exactBodyDigest digest)
  | allowedBodyDigests digests =>
    have hlen : digests.items.length < 2 ^ 64 :=
      lt_of_le_of_lt digests.bounded (by norm_num [hardMaxBodyDigests])
    have hbuild : ActionConstraint.allowed digests.items = .ok (.allowedBodyDigests digests) := by
      simp [ActionConstraint.allowed, BodyDigestSet.new, bind, Except.bind, pure, Except.pure]
    have hlist := readsIf_plainList hlen (limits.get .allowedBodyDigests)
      fun a (_ : a ∈ digests.items) => reads_digestBytes a
    refine (reads_mapEntries (by norm_num)).seq ?_
    refine reads_field 0 (reads_u8 2) ?_
    refine (readsIf_field 1 hlist (reads_model hbuild).readsIf).congr ?_
    simp [ActionConstraint.Fits]

theorem readsIf_extension (e : CriticalExtension) :
    ReadsIf (e.bytes.length ≤ limits.get .criticalExtensionBytes) (extension limits)
      (encodeExtension e) e := by
  have hlen : e.bytes.length < 2 ^ 64 :=
    lt_of_le_of_lt e.bounded (by norm_num [hardMaxExtensionBytes])
  refine (reads_map (by norm_num)).seq ?_
  refine reads_field 0 (reads_bounded e.id _ (by norm_num)) ?_
  refine (readsIf_field 1 (readsIf_boundedBytes hlen _ false) (reads_model e.new_self).readsIf).congr ?_
  simp

theorem readsIf_extensions (e : CriticalExtensions) :
    ReadsIf (e.Fits limits) (extensions limits) (encodeExtensions e) e := by
  have hlen : e.entries.length < 2 ^ 64 :=
    lt_of_le_of_lt e.bounded (by norm_num [hardMaxExtensions])
  refine ((readsIf_list hlen _ fun a _ => readsIf_extension limits a).then
    (reads_model e.new_entries).readsIf).congr ?_
  simp [CriticalExtensions.Fits]

theorem reads_signatureDescriptor (d : SignatureDescriptor) :
    Reads signatureDescriptor (encodeSignatureDescriptor d) d := by
  refine ReadsIf.always ((reads_map (by norm_num)).seq ?_)
  refine reads_field 0 (reads_bounded d.principalMethod _ (by norm_num)) ?_
  refine reads_field 1 (reads_bounded d.verificationMethod _ (by norm_num)) ?_
  refine reads_field 2 (reads_bounded d.suite _ (by norm_num)) ?_
  exact ReadsIf.pure d

theorem readsIf_signature (s : SignatureEnvelope) :
    ReadsIf (s.Fits limits) (signature limits) (encodeSignature s) s := by
  have hlen : s.signature.bytes.length < 2 ^ 64 :=
    lt_of_le_of_lt s.signature.bounded (by norm_num [hardMaxSignatureBytes])
  refine (reads_map (by norm_num)).seq ?_
  refine reads_field 0 (reads_signatureDescriptor s.descriptor) ?_
  refine (readsIf_field 1 (readsIf_boundedBytes hlen _ true)
    ((reads_model s.signature.new_bytes).step (ReadsIf.pure s))).congr ?_
  simp [SignatureEnvelope.Fits, s.signature.nonempty]

theorem readsIf_grantStatement (g : GrantStatement) :
    ReadsIf (g.Fits limits) (grantStatement limits) (encodeGrantStatement g) g := by
  have h : ReadsIf (g.permissions.items.length ≤ limits.get .permissions ∧
      g.audiences.items.length ≤ limits.get .audiences ∧ g.actionConstraint.Fits limits ∧
      g.extensions.Fits limits ∧ True) (grantStatement limits) (encodeGrantStatement g) g := by
    refine (reads_map (by norm_num)).seq ?_
    refine reads_field 0 reads_protocolVersion ?_
    refine reads_field 1 (reads_principal g.issuer) ?_
    refine reads_field 2 (reads_principal g.subject) ?_
    refine reads_field 3 (reads_bounded g.profile.id _ (by norm_num)) ?_
    refine reads_field 4 (reads_u16 g.profile.version) ?_
    refine (reads_model g.profile.new_self).step ?_
    refine readsIf_field 5 (readsIf_permissions limits g.permissions) ?_
    refine reads_field 6 (reads_u64 g.validity.notBefore) ?_
    refine reads_field 7 (reads_u64 g.validity.expiresAt) ?_
    refine (reads_model g.validity.new_self).step ?_
    refine readsIf_field 8 (readsIf_audiences limits g.audiences) ?_
    refine readsIf_field 9 (readsIf_constraint limits g.actionConstraint) ?_
    refine reads_field 10 (reads_optionalBudget g.budgetCeiling) ?_
    refine reads_field 11 (reads_u16 g.remainingDepth) ?_
    refine reads_field 12 (reads_optionalDigest g.parent) ?_
    refine reads_field 13 (reads_statusPolicy g.statusPolicy) ?_
    refine reads_field 14 (reads_bounded g.assuranceFloor _ (by norm_num)) ?_
    refine readsIf_field 15 (readsIf_extensions limits g.extensions) ?_
    exact ReadsIf.pure g
  refine h.congr ⟨fun f => ⟨f.permissions, f.audiences, f.actionConstraint, f.extensions, trivial⟩, ?_⟩
  intro ⟨hpermissions, haudiences, hconstraint, hextensions, _⟩
  exact ⟨hpermissions, haudiences, hconstraint, hextensions⟩

/-- A statement and its signature, the two fields of every signed object. -/
theorem readsIf_signed {α β : Type} {p : Prop} {read : Decoder α} {bs : Bytes} {a : α}
    (hread : ReadsIf p read bs a) (s : SignatureEnvelope) (pair : α → SignatureEnvelope → β) :
    ReadsIf (p ∧ s.Fits limits)
      (map 2 >>= fun _ => key 0 >>= fun _ => read >>= fun statement => key 1 >>= fun _ =>
        signature limits >>= fun envelope => pure (pair statement envelope))
      [Cbor.map 2, encodeKey 0, bs, encodeKey 1, encodeSignature s].flatten (pair a s) := by
  refine (reads_map (by norm_num)).seq ?_
  refine readsIf_field 0 hread ?_
  refine (readsIf_field 1 (readsIf_signature limits s) (ReadsIf.pure (pair a s))).congr ?_
  simp

theorem readsIf_signedGrant (g : SignedGrant) :
    ReadsIf (g.Fits limits) (signedGrant limits) (encodeSignedGrant g) g :=
  readsIf_signed limits (readsIf_grantStatement limits g.statement) g.signature SignedGrant.mk

theorem reads_attachment (a : AttachmentDescriptor) : Reads attachment (encodeAttachment a) a := by
  refine ReadsIf.always ((reads_map (by norm_num)).seq ?_)
  refine reads_field 0 (reads_digestBytes a.digest) ?_
  refine reads_field 1 (reads_bounded a.mediaType _ (by norm_num)) ?_
  refine reads_field 2 (reads_u64 a.byteLength) ?_
  refine reads_field 3 (reads_bounded a.disposition _ (by norm_num)) ?_
  refine reads_field 4 (reads_bool _) ?_
  refine reads_field 5 (reads_bool _) ?_
  refine reads_field 6 (reads_bool _) ?_
  obtain ⟨digest, mediaType, byteLength, disposition, confidentiality, presence, opacity⟩ := a
  cases confidentiality <;> cases presence <;> cases opacity <;> exact ReadsIf.pure _

/-- Only a list that could be held in memory has a header. -/
theorem readsIf_actionEnvelope (e : ActionEnvelope) (hlen : e.attachments.length < 2 ^ 64) :
    ReadsIf (e.Fits limits) (actionEnvelope limits) (encodeActionEnvelope e) e := by
  refine ReadsIf.congr (p := e.attachments.length ≤ limits.get .attachments ∧
    e.extensions.Fits limits ∧ True) ?_ (by simp [ActionEnvelope.Fits])
  refine (reads_map (by norm_num)).seq ?_
  refine reads_field 0 reads_protocolVersion ?_
  refine reads_field 1 (reads_bounded e.profile.id _ (by norm_num)) ?_
  refine reads_field 2 (reads_u16 e.profile.version) ?_
  refine (reads_model e.profile.new_self).step ?_
  refine reads_field 3 (reads_bounded e.bodyMediaType _ (by norm_num)) ?_
  refine reads_field 4 (reads_digestBytes e.canonicalBodyDigest) ?_
  refine reads_field 5 (reads_bounded e.permission.capability _ (by norm_num)) ?_
  refine reads_field 6 (reads_bounded e.permission.resource _ (by norm_num)) ?_
  refine reads_field 7 (reads_optionalBudget e.requestedBudget) ?_
  refine reads_field 8 (reads_bounded e.audience _ (by norm_num)) ?_
  refine reads_field 9 (reads_digestBytes e.challenge) ?_
  refine reads_field 10 (reads_u64 e.validity.notBefore) ?_
  refine reads_field 11 (reads_u64 e.validity.expiresAt) ?_
  refine (reads_model e.validity.new_self).step ?_
  refine reads_field 12 (reads_principal e.actor) ?_
  refine reads_field 13 (reads_optionalDigest e.terminalGrant) ?_
  refine reads_field 14 (reads_digestBytes e.authorizationPlan) ?_
  refine reads_field 15 (reads_bounded e.channelBinding _ (by norm_num)) ?_
  refine reads_field 16 (reads_digestBytes e.proofRef) ?_
  refine readsIf_field 17 (readsIf_plainList hlen _ fun a _ => reads_attachment a) ?_
  refine readsIf_field 18 (readsIf_extensions limits e.extensions) ?_
  exact ReadsIf.pure e

theorem readsIf_signedAction (a : SignedAction) (hlen : a.envelope.attachments.length < 2 ^ 64) :
    ReadsIf (a.Fits limits) (signedAction limits) (encodeSignedAction a) a :=
  readsIf_signed limits (readsIf_actionEnvelope limits a.envelope hlen) a.signature SignedAction.mk

omit [Cbor] [LawfulCbor] in
theorem ActionEnvelope.Fits.length_lt {e : ActionEnvelope} (h : e.Fits limits) :
    e.attachments.length < 2 ^ 64 := by
  have hhard : limits.get .attachments ≤ 512 := limits.get_le .attachments
  have hattachments := h.1
  omega

theorem reads_actionEnvelope {e : ActionEnvelope} (h : e.Fits limits) :
    Reads (actionEnvelope limits) (encodeActionEnvelope e) e :=
  (readsIf_actionEnvelope limits e (h.length_lt limits)).reads h

theorem reads_signedAction {a : SignedAction} (h : a.Fits limits) :
    Reads (signedAction limits) (encodeSignedAction a) a :=
  (readsIf_signedAction limits a (h.1.length_lt limits)).reads h

theorem reads_statementRef (r : StatementRef) : Reads statementRef (encodeStatementRef r) r := by
  cases r with
  | grant id =>
    refine ReadsIf.always ((reads_map (by norm_num)).seq ?_)
    refine reads_field 0 (reads_u8 0) ?_
    exact reads_field 1 (reads_digestBytes id) (ReadsIf.pure (StatementRef.grant id))
  | action id =>
    refine ReadsIf.always ((reads_map (by norm_num)).seq ?_)
    refine reads_field 0 (reads_u8 1) ?_
    exact reads_field 1 (reads_digestBytes id) (ReadsIf.pure (StatementRef.action id))
  | principalStatus id =>
    refine ReadsIf.always ((reads_map (by norm_num)).seq ?_)
    refine reads_field 0 (reads_u8 2) ?_
    exact reads_field 1 (reads_digestBytes id) (ReadsIf.pure (StatementRef.principalStatus id))
  | grantStatus id =>
    refine ReadsIf.always ((reads_map (by norm_num)).seq ?_)
    refine reads_field 0 (reads_u8 3) ?_
    exact reads_field 1 (reads_digestBytes id) (ReadsIf.pure (StatementRef.grantStatus id))

theorem readsIf_binding (b : ControlBinding) :
    ReadsIf (b.Fits limits) (binding limits) (encodeBinding b) b := by
  have hlen : b.evidence.length < 2 ^ 64 :=
    lt_of_le_of_lt b.bounded (by norm_num [hardMaxBindingEvidence])
  refine (reads_map (by norm_num)).seq ?_
  refine reads_field 0 (reads_statementRef b.statement) ?_
  refine (readsIf_field 1 (readsIf_plainList hlen _ fun a _ => reads_digestBytes a)
    (reads_model b.new_self).readsIf).congr ?_
  simp [ControlBinding.Fits]

theorem reads_state (s : LifecycleState) : Reads state (encodeU8 (encodeState s)) s := by
  cases s <;> exact (reads_u8 _).then (Reads.pure _)

section Subject

variable {σ : Type} {subject : Decoder σ} {encodeSubject : σ → Bytes}
  (hsubject : ∀ x, Reads subject (encodeSubject x) x)
include hsubject

theorem readsIf_statusStatement (s : StatusStatement σ) :
    ReadsIf (s.extensions.Fits limits) (statusStatement subject limits)
      (encodeStatusStatement encodeSubject s) s := by
  have h : ReadsIf (s.extensions.Fits limits ∧ True) (statusStatement subject limits)
      (encodeStatusStatement encodeSubject s) s := by
    refine (reads_map (by norm_num)).seq ?_
    refine reads_field 0 reads_protocolVersion ?_
    refine reads_field 1 (reads_bounded s.method _ (by norm_num)) ?_
    refine reads_field 2 (hsubject s.subject) ?_
    refine reads_field 3 (reads_state s.state) ?_
    refine reads_field 4 (reads_u64 s.sequence) ?_
    refine reads_field 5 (reads_u64 s.observedAt) ?_
    refine reads_field 6 (reads_u64 s.validUntil) ?_
    refine reads_field 7 (reads_principal s.issuer) ?_
    refine readsIf_field 8 (readsIf_extensions limits s.extensions) ?_
    exact (reads_model s.new_self).readsIf
  exact h.congr (by simp)

theorem readsIf_signedStatus (s : SignedStatus σ) :
    ReadsIf (s.Fits limits) (signedStatus subject limits) (encodeSignedStatus encodeSubject s) s :=
  readsIf_signed limits (readsIf_statusStatement limits hsubject s.statement) s.signature
    SignedStatus.mk

end Subject

theorem readsIf_signedPrincipalStatus (s : SignedPrincipalStatus) :
    ReadsIf (s.Fits limits) (signedPrincipalStatus limits) (encodeSignedPrincipalStatus s) s :=
  readsIf_signedStatus limits reads_principal s

theorem readsIf_signedGrantStatus (s : SignedGrantStatus) :
    ReadsIf (s.Fits limits) (signedGrantStatus limits) (encodeSignedGrantStatus s) s :=
  readsIf_signedStatus limits reads_digestBytes s

theorem reads_approvalStatement (s : ApprovalStatement) :
    Reads approvalStatement (encodeApprovalStatement s) s := by
  refine ReadsIf.always ((reads_map (by norm_num)).seq ?_)
  refine reads_field 0 reads_protocolVersion ?_
  refine reads_field 1 (reads_principal s.approver) ?_
  refine reads_field 2 (reads_digestBytes s.requirement) ?_
  refine reads_field 3 (reads_bounded s.mediaType _ (by norm_num)) ?_
  refine reads_field 4 (reads_digestBytes s.bodyDigest) ?_
  refine reads_field 5 (reads_bounded s.permission.capability _ (by norm_num)) ?_
  refine reads_field 6 (reads_bounded s.permission.resource _ (by norm_num)) ?_
  refine reads_field 7 (reads_optionalBudget s.requestedBudget) ?_
  refine reads_field 8 (reads_optionalDigest s.attributes) ?_
  refine reads_field 9 (reads_bounded s.audience _ (by norm_num)) ?_
  refine reads_field 10 (reads_digestBytes s.challenge) ?_
  refine reads_field 11 (reads_u64 s.validity.notBefore) ?_
  refine reads_field 12 (reads_u64 s.validity.expiresAt) ?_
  exact (reads_model s.validity.new_self).step (ReadsIf.pure s)

variable [Sha256]

theorem readsIf_evidence (e : EvidenceObject) :
    ReadsIf (e.Fits limits ∧ evidenceId e = e.id) (evidence limits) (encodeEvidence e) e := by
  have hlen : e.bytes.length < 2 ^ 64 :=
    lt_of_le_of_lt e.bounded (by norm_num [hardMaxEvidenceBytes])
  refine (reads_map (by norm_num)).seq ?_
  refine reads_field 0 (reads_digestBytes e.id) ?_
  refine reads_field 1 (reads_bounded e.evidenceType _ (by norm_num)) ?_
  refine reads_field 2 (reads_bounded e.mediaType _ (by norm_num)) ?_
  refine (readsIf_field 3 (readsIf_boundedBytes hlen _ true) ((reads_model e.new_self).step
    ((ReadsIf.ensure (evidenceId e = e.id) _).step (ReadsIf.pure e)))).congr ?_
  simp [EvidenceObject.Fits, e.nonempty]

/-- What the decoder asks of one approval of a bundle. -/
structure SignedApproval.Fits (a : SignedApproval) : Prop where
  signature : a.signature.Fits limits
  evidence : ∀ e ∈ a.evidence, e.Fits limits ∧ evidenceId e = e.id
  bytes : (encodeSignedApproval a).length ≤ maxSignedApprovalBytes

theorem readsIf_signedApproval (a : SignedApproval) :
    ReadsIf (a.Fits limits) (signedApproval limits) (encodeSignedApproval a) a := by
  have hlen : a.evidence.length < 2 ^ 64 :=
    lt_of_le_of_lt a.bounded (by norm_num [maxApprovalEvidence])
  have hfields : ReadsIf (a.signature.Fits limits ∧ (a.evidence.length ≤ maxApprovalEvidence ∧
      ∀ e ∈ a.evidence, e.Fits limits ∧ evidenceId e = e.id) ∧ True) (approvalFields limits)
      (encodeSignedApproval a) (a.statement, a.signature, a.evidence) := by
    refine (reads_map (by norm_num)).seq ?_
    refine reads_field 0 (reads_approvalStatement a.statement) ?_
    refine readsIf_field 1 (readsIf_signature limits a.signature) ?_
    refine readsIf_field 2 (readsIf_list hlen _ fun e _ => readsIf_evidence limits e) ?_
    exact ReadsIf.pure (a.statement, a.signature, a.evidence)
  have hcheck : ReadsIf ((encodeSignedApproval a).length ≤ maxSignedApprovalBytes)
      (fromExcept (if maxSignedApprovalBytes < (encodeSignedApproval a).length then
        .error CodecError.limitExceeded
        else (SignedApproval.new a.statement a.signature a.evidence).mapError CodecError.model)) [] a := by
    refine ReadsIf.lift (fun h => ?_) (fun h => ⟨.limitExceeded, if_pos (not_le.mp h)⟩)
    rw [if_neg (not_lt.mpr h), a.new_self]
    rfl
  refine (ReadsIf.consumed hfields hcheck).congr ⟨fun h => ?_, fun h => ?_⟩
  · exact ⟨⟨h.signature, ⟨a.bounded, h.evidence⟩, trivial⟩, h.bytes⟩
  · exact ⟨h.1.1, h.1.2.1.2, h.2⟩

end Laws

end AuthsProof
