import AuthsProof.Statement

/-! Approval requirements, approver anchors and the signed approvals counted against them. -/

namespace AuthsProof

open Sorting

def maxApproversPerRequirement : Nat := 16
def maxApprovalRequirementsPerGrant : Nat := 4
def maxApprovalRequirementsPerChain : Nat := 16
def maxApprovalRequirementsPerVerification : Nat := 64
def maxSignedApprovalBytes : Nat := 4096
def maxApprovalEvidence : Nat := 4

/-- "K of these N principals": the approvers and a threshold between one and their number. -/
@[ext] structure ApprovalRequirement where
  approvers : BoundedSet PrincipalId maxApproversPerRequirement
  threshold : UInt16
  positive : threshold ≠ 0
  reachable : threshold.toNat ≤ approvers.items.length

instance : DecidableEq ApprovalRequirement := fun _ _ => decidable_of_iff' _ ApprovalRequirement.ext_iff

def ApprovalRequirement.new (approvers : List PrincipalId) (threshold : UInt16) :
    Except ModelError ApprovalRequirement :=
  match BoundedSet.new maxApproversPerRequirement approvers with
  | .error _ => .error .invalidApprovalRequirement
  | .ok approvers =>
    if h : threshold ≠ 0 ∧ threshold.toNat ≤ approvers.items.length then
      .ok ⟨approvers, threshold, h.1, h.2⟩
    else .error .invalidApprovalRequirement

@[simp] theorem ApprovalRequirement.new_self (r : ApprovalRequirement) :
    ApprovalRequirement.new r.approvers.items r.threshold = .ok r := by
  simp [ApprovalRequirement.new, r.positive, r.reachable]

/-- The requirements a grant carries in its critical extension, as signed. -/
structure ApprovalRequirements where
  items : List ApprovalRequirement
  nonempty : items ≠ []
  bounded : items.length ≤ maxApprovalRequirementsPerGrant
  distinct : items.Nodup

def ApprovalRequirements.new (requirements : List ApprovalRequirement) :
    Except ModelError ApprovalRequirements :=
  if hne : requirements = [] then .error .invalidApprovalRequirement
  else if hlen : maxApprovalRequirementsPerGrant < requirements.length then
    .error .collectionLimitExceeded
  else if hnodup : requirements.Nodup then .ok ⟨requirements, hne, not_lt.mp hlen, hnodup⟩
  else .error .invalidApprovalRequirement

/-- How the verifier checks one approver, which confers nothing else on it. -/
structure ApproverAnchor where
  principal : PrincipalId
  acceptedMethods : CanonicalList PrincipalMethodId 1024
  validity : ValidityWindow
  statusPolicy : StatusPolicy
  methodsNonempty : acceptedMethods.items ≠ []
  deriving DecidableEq

def ApproverAnchor.new (principal : PrincipalId) (acceptedMethods : List PrincipalMethodId)
    (validity : ValidityWindow) (statusPolicy : StatusPolicy) : Except ModelError ApproverAnchor := do
  let acceptedMethods ← CanonicalList.ofSortDedup _ .invalidApproverAnchor acceptedMethods
  if h : acceptedMethods.items ≠ [] then
    .ok ⟨principal, acceptedMethods, validity, statusPolicy, h⟩
  else .error .invalidApproverAnchor

@[simp] theorem ApproverAnchor.new_self (a : ApproverAnchor) :
    ApproverAnchor.new a.principal a.acceptedMethods.items a.validity a.statusPolicy = .ok a := by
  simp [ApproverAnchor.new, bind, Except.bind, a.methodsNonempty]

/-- What an approver signs: the meaning of one exact action, for one requirement. -/
structure ApprovalStatement where
  approver : PrincipalId
  requirement : ApprovalRequirementId
  mediaType : MediaType
  bodyDigest : Digest
  permission : Permission
  requestedBudget : Option BudgetCeiling
  attributes : Option Digest
  audience : Audience
  challenge : Challenge
  validity : ValidityWindow
  deriving DecidableEq

structure SignedApproval where
  statement : ApprovalStatement
  signature : SignatureEnvelope
  evidence : List EvidenceObject
  bounded : evidence.length ≤ maxApprovalEvidence
  sorted : evidence.Pairwise (fun a b => a.id < b.id)
  deriving DecidableEq

def SignedApproval.new (statement : ApprovalStatement) (signature : SignatureEnvelope)
    (evidence : List EvidenceObject) : Except ModelError SignedApproval :=
  if hlen : maxApprovalEvidence < evidence.length then .error .invalidApproval
  else if hd : adjacentDistinct ((sortByKey EvidenceObject.id evidence).map EvidenceObject.id) = true
  then
    .ok {
      statement, signature
      evidence := sortByKey EvidenceObject.id evidence
      bounded := by simpa using hlen
      sorted := pairwise_lt_of_adjacentDistinct (sortByKey_pairwise _ _) hd }
  else .error .invalidApproval

@[simp] theorem SignedApproval.new_self (a : SignedApproval) :
    SignedApproval.new a.statement a.signature a.evidence = .ok a := by
  have hsort : sortByKey EvidenceObject.id a.evidence = a.evidence :=
    sortByKey_of_pairwise (a.sorted.imp fun h => h.le)
  have hdistinct := adjacentDistinct_of_pairwise_lt a.sorted
  have hlen := a.bounded.not_gt
  simp [SignedApproval.new, hsort, hdistinct, hlen]

/-- The approvals that counted for one requirement. -/
structure ApprovalSatisfaction where
  requirement : ApprovalRequirementId
  approvals : BoundedSet ApprovalDigest maxApproversPerRequirement
  deriving DecidableEq

def ApprovalSatisfaction.new (requirement : ApprovalRequirementId) (approvals : List ApprovalDigest) :
    Except ModelError ApprovalSatisfaction :=
  match BoundedSet.new maxApproversPerRequirement approvals with
  | .ok approvals => .ok ⟨requirement, approvals⟩
  | .error _ => .error .invalidApproval

@[simp] theorem ApprovalSatisfaction.new_self (s : ApprovalSatisfaction) :
    ApprovalSatisfaction.new s.requirement s.approvals.items = .ok s := by
  simp [ApprovalSatisfaction.new]

inductive ApprovalVerdict where
  | counted
  | pending
  | ignored
  deriving DecidableEq

structure ApprovalOutcome where
  approver : PrincipalId
  verdict : ApprovalVerdict
  deriving DecidableEq

structure ApprovalCounts where
  counted : Nat
  pending : Nat

/-- Counted when some outcome of the approver is, pending when only some pending one is. -/
def approverVerdict (outcomes : List ApprovalOutcome) (approver : PrincipalId) : ApprovalVerdict :=
  let own := outcomes.filter fun outcome => principalIdEqual outcome.approver approver
  if own.any fun outcome => outcome.verdict = .counted then .counted
  else if own.any fun outcome => outcome.verdict = .pending then .pending
  else .ignored

def approvalCounts (approvers : List PrincipalId) (outcomes : List ApprovalOutcome) :
    ApprovalCounts where
  counted := approvers.countP fun approver => approverVerdict outcomes approver = .counted
  pending := approvers.countP fun approver => approverVerdict outcomes approver = .pending

end AuthsProof
