import AuthsProof.Lib.Threshold
import AuthsProof.Outcome
import AuthsProof.Plan

/-! Evaluation of an authorization plan: one pass over the leaves, with a denial, requirement or
authorization at every node, and its agreement with the threshold semantics of plans. -/

namespace AuthsProof

open Sorting Threshold

abbrev Truth := Threshold.Truth

inductive BranchOutcome where
  | authorized
  | denied (reason : DenialReason)
  | indeterminate (requirement : Requirement)
  | structurallyInvalid (reason : DenialReason)
  deriving DecidableEq

inductive EvaluationEvent where
  | proof (reference : ProofRef) (outcome : BranchOutcome)
  | aggregate (childCount : Nat) (required : UInt16) (authorized indeterminate : Nat)
      (outcome : BranchOutcome)
  deriving DecidableEq

def usizeMax : Nat := 2 ^ 64 - 1

def thresholdCounts (required : UInt16) (authorized indeterminate : Nat) : Truth :=
  if required.toNat ≤ authorized then .authorized
  else if required.toNat ≤ min (authorized + indeterminate) usizeMax then .indeterminate
  else .denied

/-- What the loop over a node's members has collected. -/
structure Tally where
  authorized : Nat := 0
  denied : List DenialReason := []
  indeterminate : List Requirement := []

def Tally.record (tally : Tally) : BranchOutcome → Tally
  | .authorized => { tally with authorized := tally.authorized + 1 }
  | .denied reason => { tally with denied := tally.denied ++ [reason] }
  | .structurallyInvalid reason => { tally with denied := tally.denied ++ [reason] }
  | .indeterminate requirement =>
    { tally with indeterminate := tally.indeterminate ++ [requirement] }

def canonicalDenial (reasons : List DenialReason) : Option DenialReason :=
  minByKey DenialReason.code reasons

def canonicalRequirement (requirements : List Requirement) : Option Requirement :=
  minByKey Requirement.code requirements

def allOfOutcome (tally : Tally) : BranchOutcome :=
  match canonicalDenial tally.denied with
  | some reason => .denied reason
  | none =>
    match canonicalRequirement tally.indeterminate with
    | some requirement => .indeterminate requirement
    | none => .authorized

def anyOfOutcome (tally : Tally) : BranchOutcome :=
  if 0 < tally.authorized then .authorized
  else
    match canonicalRequirement tally.indeterminate with
    | some requirement => .indeterminate requirement
    | none => .denied ((canonicalDenial tally.denied).getD .authorizationPlanInvalid)

def kOfNOutcome (k : UInt16) (tally : Tally) : BranchOutcome :=
  match thresholdCounts k tally.authorized tally.indeterminate.length with
  | .authorized => .authorized
  | .indeterminate =>
    .indeterminate ((canonicalRequirement tally.indeterminate).getD .externalFactUnavailable)
  | .denied => .denied ((canonicalDenial tally.denied).getD .authorizationPlanInvalid)

/-- `u16::try_from` with its saturating default. -/
def childCountU16 (count : Nat) : UInt16 := if count < 65536 then UInt16.ofNat count else 65535

section Evaluate

variable {σ : Type} (branch : ProofRef → σ → BranchOutcome × σ) (observer : EvaluationEvent → σ → σ)

mutual

def evaluateNode : AuthorizationPlan → σ → BranchOutcome × σ
  | .proof reference, state =>
    let (outcome, state) := branch reference state
    (outcome, observer (.proof reference outcome) state)
  | .allOf members, state =>
    let (tally, state) := evaluateMembers members {} state
    let outcome := allOfOutcome tally
    (outcome, observer (.aggregate members.length (childCountU16 members.length) tally.authorized
      tally.indeterminate.length outcome) state)
  | .anyOf members, state =>
    let (tally, state) := evaluateMembers members {} state
    let outcome := anyOfOutcome tally
    (outcome, observer (.aggregate members.length 1 tally.authorized tally.indeterminate.length
      outcome) state)
  | .kOfN k members, state =>
    let (tally, state) := evaluateMembers members {} state
    let outcome := kOfNOutcome k tally
    (outcome, observer (.aggregate members.length k tally.authorized tally.indeterminate.length
      outcome) state)

def evaluateMembers : List AuthorizationPlan → Tally → σ → Tally × σ
  | [], tally, state => (tally, state)
  | member :: members, tally, state =>
    let (outcome, state) := evaluateNode member state
    evaluateMembers members (tally.record outcome) state

end

def evaluateObserved (plan : AuthorizationPlan) (limits : VerifierLimits) (state : σ) :
    Except DenialReason BranchOutcome × σ :=
  match plan.validate limits with
  | .error _ => (.error .authorizationPlanInvalid, state)
  | .ok _ =>
    let (outcome, state) := evaluateNode branch observer plan state
    (.ok outcome, state)

def evaluate (plan : AuthorizationPlan) (limits : VerifierLimits) (state : σ) :
    Except DenialReason BranchOutcome × σ :=
  evaluateObserved branch (fun _ state => state) plan limits state

end Evaluate

def BranchOutcome.verdict : BranchOutcome → Truth
  | .authorized => .authorized
  | .indeterminate _ => .indeterminate
  | .denied _ => .denied
  | .structurallyInvalid _ => .denied

def BranchOutcome.denial : BranchOutcome → Option DenialReason
  | .denied reason => some reason
  | .structurallyInvalid reason => some reason
  | _ => none

def BranchOutcome.requirement : BranchOutcome → Option Requirement
  | .indeterminate requirement => some requirement
  | _ => none

/-- The threshold semantics of one node: the verdict of at least `k` members, with the smallest code
of the deciding class. It has no value when that class is empty. -/
def thresholdOutcome (k : Nat) (members : List BranchOutcome) : Option BranchOutcome :=
  match threshold k (members.map BranchOutcome.verdict) with
  | .authorized => some .authorized
  | .indeterminate =>
    (minByKey Requirement.code (members.filterMap BranchOutcome.requirement)).map .indeterminate
  | .denied => (minByKey DenialReason.code (members.filterMap BranchOutcome.denial)).map .denied

mutual

/-- The recursive threshold semantics of a plan under a leaf assignment. -/
def planSemantics (f : ProofRef → BranchOutcome) : AuthorizationPlan → Option BranchOutcome
  | .proof reference => some (f reference)
  | .allOf members => (memberSemantics f members).bind (thresholdOutcome members.length)
  | .anyOf members => (memberSemantics f members).bind (thresholdOutcome 1)
  | .kOfN k members => (memberSemantics f members).bind (thresholdOutcome k.toNat)

def memberSemantics (f : ProofRef → BranchOutcome) :
    List AuthorizationPlan → Option (List BranchOutcome)
  | [] => some []
  | member :: members =>
    match planSemantics f member, memberSemantics f members with
    | some outcome, some outcomes => some (outcome :: outcomes)
    | _, _ => none

end

end AuthsProof
