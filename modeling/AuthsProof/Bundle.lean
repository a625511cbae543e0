import AuthsProof.Approval
import AuthsProof.Plan

/-! Proof bundles: every object a presenter sends, within the protocol hard maxima. -/

namespace AuthsProof

open Sorting

/-- The bundle header; no flag is registered, so a header carries none. -/
structure BundleHeader where
  flags : UInt64
  unregistered : flags = 0
  deriving DecidableEq

def BundleHeader.new (flags : UInt64) : Except ModelError BundleHeader :=
  if h : flags = 0 then .ok ⟨flags, h⟩ else .error .invalidBundleHeader

@[simp] theorem BundleHeader.new_flags (header : BundleHeader) :
    BundleHeader.new header.flags = .ok header := by
  obtain ⟨flags, hflags⟩ := header
  simp [BundleHeader.new, hflags]

def signatureCount (grants : List SignedGrant) (actions : List SignedAction)
    (principalStatus : List SignedPrincipalStatus) (grantStatus : List SignedGrantStatus) : Nat :=
  grants.length + actions.length + principalStatus.length + grantStatus.length

/-- The objects of a bundle, in any number and order. -/
structure BundleParts where
  header : BundleHeader
  grants : List SignedGrant
  actions : List SignedAction
  plan : CanonicalPlan
  evidence : List EvidenceObject
  bindings : List ControlBinding
  principalStatus : List SignedPrincipalStatus
  grantStatus : List SignedGrantStatus
  attachments : List AttachmentDescriptor
  canonicalBody : Option Bytes
  approvals : List SignedApproval

/-- The collection bounds of a bundle. -/
def BundleParts.bounded (parts : BundleParts) : Bool :=
  parts.grants.length ≤ hardLimit .grants && !parts.actions.isEmpty &&
    parts.actions.length ≤ hardLimit .actions && parts.evidence.length ≤ hardLimit .evidenceObjects &&
    parts.bindings.length ≤ hardLimit .controlBindings &&
    parts.principalStatus.length ≤ hardLimit .principalStatusStatements &&
    parts.grantStatus.length ≤ hardLimit .grantStatusStatements &&
    parts.attachments.length ≤ hardLimit .attachments &&
    signatureCount parts.grants parts.actions parts.principalStatus parts.grantStatus ≤
      hardLimit .signatures &&
    parts.canonicalBody.all fun body => body.length ≤ hardMaxCanonicalBodyBytes

/-- A target V1 proof bundle. -/
structure ProofBundle extends BundleParts where
  isBounded : toBundleParts.bounded = true
  actionsSorted : actions.Pairwise fun a b => a.envelope.proofRef ≤ b.envelope.proofRef
  evidenceSorted : evidence.Pairwise fun a b => a.id ≤ b.id
  bindingsSorted : bindings.Pairwise fun a b => a.key ≤ b.key
  attachmentsSorted : attachments.Pairwise fun a b => a.digest ≤ b.digest
  planValidates : ∃ shape, plan.plan.validate .hard = .ok shape
  approvalsBounded : approvals.length ≤ hardLimit .approvals

namespace ProofBundle

theorem toBundleParts_injective : Function.Injective toBundleParts := by
  intro a b h
  cases a
  cases b
  cases h
  rfl

def new (header : BundleHeader) (grants : List SignedGrant) (actions : List SignedAction)
    (plan : CanonicalPlan) (evidence : List EvidenceObject) (bindings : List ControlBinding)
    (principalStatus : List SignedPrincipalStatus) (grantStatus : List SignedGrantStatus)
    (attachments : List AttachmentDescriptor) (canonicalBody : Option Bytes) :
    Except ModelError ProofBundle :=
  let parts : BundleParts := {
    header, grants, plan, principalStatus, grantStatus, canonicalBody
    actions := sortByKey (fun action => action.envelope.proofRef) actions
    evidence := sortByKey EvidenceObject.id evidence
    bindings := sortByKey ControlBinding.key bindings
    attachments := sortByKey AttachmentDescriptor.digest attachments
    approvals := [] }
  if hbounded : parts.bounded = true then
    match hplan : plan.plan.validate .hard with
    | .ok shape => .ok {
        parts with
        isBounded := hbounded
        actionsSorted := sortByKey_pairwise _ _
        evidenceSorted := sortByKey_pairwise _ _
        bindingsSorted := sortByKey_pairwise _ _
        attachmentsSorted := sortByKey_pairwise _ _
        planValidates := ⟨shape, hplan⟩
        approvalsBounded := Nat.zero_le _ }
    | .error error => .error error
  else .error .collectionLimitExceeded

def withApprovals (bundle : ProofBundle) (approvals : List SignedApproval) :
    Except ModelError ProofBundle :=
  if h : approvals.length ≤ hardLimit .approvals then
    .ok { bundle with approvals, approvalsBounded := h }
  else .error .collectionLimitExceeded

/-- A bundle rebuilt by its constructors is the bundle itself. -/
theorem new_withApprovals (b : ProofBundle) :
    (new b.header b.grants b.actions b.plan b.evidence b.bindings b.principalStatus b.grantStatus
      b.attachments b.canonicalBody >>= fun base => base.withApprovals b.approvals) = .ok b := by
  have hactions := sortByKey_of_pairwise b.actionsSorted
  have hevidence := sortByKey_of_pairwise b.evidenceSorted
  have hbindings := sortByKey_of_pairwise b.bindingsSorted
  have hattachments := sortByKey_of_pairwise b.attachmentsSorted
  obtain ⟨shape, hshape⟩ := b.planValidates
  have hbounded : BundleParts.bounded { b.toBundleParts with approvals := [] } = true := b.isBounded
  simp only [new, hactions, hevidence, hbindings, hattachments, hbounded, dif_pos]
  split
  · simp [bind, Except.bind, withApprovals, b.approvalsBounded]
  · rename_i error herror
    rw [hshape] at herror
    cases herror

end ProofBundle

end AuthsProof
