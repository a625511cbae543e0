import AuthsProof.Lib.PostOrder
import AuthsProof.PlanSemantics
import AuthsProof.Verifier

/-! The trace of a plan: the events of an evaluation are those of the plan's tree in post-order, and
the recording of them rebuilds that tree. -/

namespace AuthsProof

open PostOrder Sorting Trace

/-- How many nodes an event closes. -/
def EvaluationEvent.childCount : EvaluationEvent → Nat
  | .proof _ _ => 0
  | .aggregate childCount _ _ _ _ => childCount

section Tree

variable (f : ProofRef → BranchOutcome)

mutual

/-- The outcome of a plan's node from those of its members. -/
def nodeOutcome : AuthorizationPlan → BranchOutcome
  | .proof reference => f reference
  | .allOf members => allOfOutcome (tallyOf (memberOutcomes members))
  | .anyOf members => anyOfOutcome (tallyOf (memberOutcomes members))
  | .kOfN k members => kOfNOutcome k (tallyOf (memberOutcomes members))

def memberOutcomes : List AuthorizationPlan → List BranchOutcome
  | [] => []
  | member :: members => nodeOutcome member :: memberOutcomes members

end

/-- The event of an aggregate over members of which `k` are required. -/
def aggregateEvent (members : List AuthorizationPlan) (k : UInt16) (outcome : BranchOutcome) :
    EvaluationEvent :=
  .aggregate members.length k (tallyOf (memberOutcomes f members)).authorized
    (tallyOf (memberOutcomes f members)).indeterminate.length outcome

/-- The event of a plan's root. -/
def nodeEvent : AuthorizationPlan → EvaluationEvent
  | .proof reference => .proof reference (f reference)
  | .allOf members =>
    aggregateEvent f members (childCountU16 members.length) (nodeOutcome f (.allOf members))
  | .anyOf members => aggregateEvent f members 1 (nodeOutcome f (.anyOf members))
  | .kOfN k members => aggregateEvent f members k (nodeOutcome f (.kOfN k members))

mutual

/-- The tree of a plan, with the event of every node. -/
def planTree : AuthorizationPlan → PostOrder.Tree EvaluationEvent
  | .proof reference => .node (nodeEvent f (.proof reference)) []
  | .allOf members => .node (nodeEvent f (.allOf members)) (memberTrees members)
  | .anyOf members => .node (nodeEvent f (.anyOf members)) (memberTrees members)
  | .kOfN k members => .node (nodeEvent f (.kOfN k members)) (memberTrees members)

def memberTrees : List AuthorizationPlan → List (PostOrder.Tree EvaluationEvent)
  | [] => []
  | member :: members => planTree member :: memberTrees members

end

theorem nodeEvent_outcome (plan : AuthorizationPlan) :
    (nodeEvent f plan).outcome = nodeOutcome f plan := by
  cases plan <;> rfl

theorem planTree_event (plan : AuthorizationPlan) : (planTree f plan).event = nodeEvent f plan := by
  cases plan <;> rfl

theorem memberTrees_length (members : List AuthorizationPlan) :
    (memberTrees f members).length = members.length := by
  induction members with
  | nil => rfl
  | cons member members ih => exact congrArg (· + 1) ih

mutual

theorem planTree_counted : ∀ plan, (planTree f plan).Counted EvaluationEvent.childCount
  | .proof _ => ⟨rfl, trivial⟩
  | .allOf members => ⟨(memberTrees_length f members).symm, memberTrees_counted members⟩
  | .anyOf members => ⟨(memberTrees_length f members).symm, memberTrees_counted members⟩
  | .kOfN _ members => ⟨(memberTrees_length f members).symm, memberTrees_counted members⟩

theorem memberTrees_counted :
    ∀ members, PostOrder.Tree.MembersCounted EvaluationEvent.childCount (memberTrees f members)
  | [] => trivial
  | member :: members => ⟨planTree_counted member, memberTrees_counted members⟩

end

/-- A leaf function without effects. -/
def leafOutcome (reference : ProofRef) (events : List EvaluationEvent) :
    BranchOutcome × List EvaluationEvent :=
  (f reference, events)

/-- An observer that writes every event down. -/
def collectEvent (event : EvaluationEvent) (events : List EvaluationEvent) : List EvaluationEvent :=
  events ++ [event]

theorem foldl_record_empty (outcomes : List BranchOutcome) :
    outcomes.foldl Tally.record {} = tallyOf outcomes := by
  rw [foldl_record]
  simp

mutual

/-- An evaluation emits the events of the plan's tree in post-order. -/
theorem evaluateNode_events : ∀ (plan : AuthorizationPlan) (events : List EvaluationEvent),
    evaluateNode (leafOutcome f) collectEvent plan events =
      (nodeOutcome f plan, events ++ (planTree f plan).postOrder)
  | .proof _, _ => rfl
  | .allOf members, events => by
    rw [evaluateNode, evaluateMembers_events members, foldl_record_empty]
    exact congrArg (Prod.mk _) (List.append_assoc _ _ _)
  | .anyOf members, events => by
    rw [evaluateNode, evaluateMembers_events members, foldl_record_empty]
    exact congrArg (Prod.mk _) (List.append_assoc _ _ _)
  | .kOfN k members, events => by
    rw [evaluateNode, evaluateMembers_events members, foldl_record_empty]
    exact congrArg (Prod.mk _) (List.append_assoc _ _ _)

theorem evaluateMembers_events :
    ∀ (members : List AuthorizationPlan) (tally : Tally) (events : List EvaluationEvent),
      evaluateMembers (leafOutcome f) collectEvent members tally events =
        ((memberOutcomes f members).foldl Tally.record tally,
          events ++ PostOrder.Tree.memberPostOrder (memberTrees f members))
  | [], tally, events => by rw [memberTrees, PostOrder.Tree.memberPostOrder, List.append_nil]; rfl
  | member :: members, tally, events => by
    have hrest := evaluateMembers_events members (tally.record (nodeOutcome f member))
      (events ++ (planTree f member).postOrder)
    rw [evaluateMembers, evaluateNode_events member, memberTrees, PostOrder.Tree.memberPostOrder,
      ← List.append_assoc]
    exact hrest

end

end Tree

section Record

variable (principalNode : Option UInt32)

/-- The node recorded for an event over the nodes of its members. -/
def recordPlanNode : EvaluationEvent → List (Option UInt32) → Tracing (Option UInt32)
  | .proof _ outcome, _ =>
    recordWithParents .authority .planNode .proof (.present true) (branchFactResult outcome)
      (some (branchVerificationCode outcome)) principalNode.toList
  | .aggregate _ required authorized _ outcome, children =>
    recordWithParents .authority .planNode .derived
      (.count (saturatingU64 authorized) required.toUInt64) (branchFactResult outcome)
      (some (branchVerificationCode outcome)) (children.filterMap id)

/-- The stack the recording of a plan reaches. -/
abbrev planStack := runStack EvaluationEvent.childCount (recordPlanNode principalNode)

/-- The nodes recorded for a tree, each over those of its own members. -/
abbrev recordTree := fold (recordPlanNode principalNode)

/-- What the recording answers with the stack it ends with. -/
def onlyRoot : Option (List (Option UInt32)) → Option UInt32
  | some [root] => root
  | _ => none

theorem recordPlanEvents_eq (events : List EvaluationEvent) (stack : List (Option UInt32))
    (trace : TraceCollector) :
    recordPlanEvents principalNode events stack trace =
      (onlyRoot (planStack principalNode events stack trace).1,
        (planStack principalNode events stack trace).2) := by
  induction events generalizing stack trace with
  | nil => rcases stack with _ | ⟨root, _ | ⟨next, stack⟩⟩ <;> rfl
  | cons event events ih =>
    cases event with
    | proof reference outcome =>
      have h : (EvaluationEvent.proof reference outcome).childCount ≤ stack.length := Nat.zero_le _
      rw [recordPlanEvents, planStack, runStack_cons _ _ h]
      exact ih _ _
    | aggregate childCount required authorized indeterminate outcome =>
      by_cases h : stack.length < childCount
      · rw [recordPlanEvents, if_pos h, planStack, runStack_underflow _ _ h]
        rfl
      · rw [recordPlanEvents, if_neg h, planStack, runStack_cons _ _ (Nat.not_lt.mp h)]
        exact ih _ _

/-- The fact of an event at a position, over the facts at the positions of its members. -/
def planFact (position : Nat) (children : List Nat) : EvaluationEvent → FactEvaluation
  | .proof _ outcome =>
    { sequence := saturatingU32 position, stage := .authority, kind := .planNode, origin := .proof
      value := .present true, result := branchFactResult outcome
      code := some (branchVerificationCode outcome)
      parents := sortDedup (principalNode.toList.filter fun parent => parent < saturatingU32 position) }
  | .aggregate _ required authorized _ outcome =>
    { sequence := saturatingU32 position, stage := .authority, kind := .planNode, origin := .derived
      value := .count (saturatingU64 authorized) required.toUInt64, result := branchFactResult outcome
      code := some (branchVerificationCode outcome)
      parents := children.map saturatingU32 }

mutual

/-- The facts of a tree whose first stands at position `start`. -/
def treeFacts (start : Nat) : PostOrder.Tree EvaluationEvent → List FactEvaluation
  | .node event members =>
    memberFacts start members ++
      [planFact principalNode (start + (PostOrder.Tree.memberPostOrder members).length)
        (PostOrder.Tree.roots start members) event]

def memberFacts : Nat → List (PostOrder.Tree EvaluationEvent) → List FactEvaluation
  | _, [] => []
  | start, member :: members =>
    treeFacts start member ++ memberFacts (start + member.postOrder.length) members

end

mutual

theorem treeFacts_length :
    ∀ (start : Nat) (tree : PostOrder.Tree EvaluationEvent),
    (treeFacts principalNode start tree).length = tree.postOrder.length
  | start, .node event members => by
    rw [treeFacts, PostOrder.Tree.postOrder, List.length_append, List.length_append,
      memberFacts_length start members]
    rfl

theorem memberFacts_length : ∀ (start : Nat) (members : List (PostOrder.Tree EvaluationEvent)),
    (memberFacts principalNode start members).length = (PostOrder.Tree.memberPostOrder members).length
  | _, [] => rfl
  | start, member :: members => by
    rw [memberFacts, PostOrder.Tree.memberPostOrder, List.length_append, List.length_append,
      treeFacts_length start member, memberFacts_length _ members]

end

theorem saturatingU32_lt {a b : Nat} (h : a < b) (hb : b < 2 ^ 32) :
    saturatingU32 a < saturatingU32 b := by
  rw [saturatingU32, saturatingU32, if_pos (by omega), if_pos hb, UInt32.lt_iff_toNat_lt,
    UInt32.toNat_ofNat_of_lt' (by simpa using h.trans hb), UInt32.toNat_ofNat_of_lt' (by simpa using hb)]
  exact h

/-- A collector with room for `n` more facts, all of them at positions of 32 bits. -/
structure Room (trace : TraceCollector) (n : Nat) : Prop where
  collecting : trace.collecting = true
  capacity : trace.events.length + n ≤ trace.capacity
  positions : trace.events.length + n ≤ 2 ^ 32

theorem Room.mono {trace : TraceCollector} {n k : Nat} (h : Room trace n) (hle : k ≤ n) :
    Room trace k :=
  ⟨h.collecting, (Nat.add_le_add_left hle _).trans h.capacity,
    (Nat.add_le_add_left hle _).trans h.positions⟩

theorem Room.add {trace : TraceCollector} {n k : Nat} {facts : List FactEvaluation}
    (h : Room trace (n + k)) (hn : facts.length = n) :
    Room { trace with events := trace.events ++ facts } k := by
  have hlength : (trace.events ++ facts).length + k = trace.events.length + (n + k) := by
    rw [List.length_append, hn, Nat.add_assoc]
  exact ⟨h.collecting, hlength.trans_le h.capacity, hlength.trans_le h.positions⟩

theorem recordWithParents_room {trace : TraceCollector} {n : Nat} (h : Room trace (n + 1))
    (stage : VerificationStage) (kind : FactKind) (origin : FactOrigin) (value : Trace.FactValue)
    (result : FactResult) (code : Option VerificationCode) (parents : List UInt32) :
    recordWithParents stage kind origin value result code parents trace =
      (some (saturatingU32 trace.events.length), { trace with
        events := trace.events ++ [⟨saturatingU32 trace.events.length, stage, kind, origin, value,
          result, code, sortDedup (parents.filter fun parent =>
            parent < saturatingU32 trace.events.length)⟩] }) := by
  have hcapacity := h.capacity
  rw [recordWithParents, if_neg]
  simp only [h.collecting, Bool.not_true, Bool.false_or, decide_eq_true_eq]
  omega

/-- Parents that stand before a fact, in ascending order, are recorded as they are. -/
theorem earlier_parents {positions : List Nat} {n : Nat} (hn : n < 2 ^ 32)
    (hbefore : ∀ position ∈ positions, position < n) (hsorted : positions.Pairwise (· < ·)) :
    sortDedup ((positions.map saturatingU32).filter fun parent => parent < saturatingU32 n) =
      positions.map saturatingU32 := by
  have hall : (positions.map saturatingU32).filter (fun parent => parent < saturatingU32 n) =
      positions.map saturatingU32 := by
    rw [List.filter_eq_self]
    intro parent hmem
    obtain ⟨position, hposition, rfl⟩ := List.mem_map.mp hmem
    exact decide_eq_true (saturatingU32_lt (hbefore position hposition) hn)
  rw [hall]
  refine Sorting.sortDedup_of_pairwise (List.pairwise_map.mpr ?_)
  exact hsorted.imp_of_mem fun _ hb hlt => saturatingU32_lt hlt ((hbefore _ hb).trans hn)

theorem recordPlanNode_room {trace : TraceCollector} (h : Room trace 1) (event : EvaluationEvent)
    {positions : List Nat} (hbefore : ∀ position ∈ positions, position < trace.events.length)
    (hsorted : positions.Pairwise (· < ·)) :
    recordPlanNode principalNode event
        (positions.map fun position => some (saturatingU32 position)) trace =
      (some (saturatingU32 trace.events.length), { trace with
        events := trace.events ++
          [planFact principalNode trace.events.length positions event] }) := by
  cases event with
  | proof reference outcome => exact recordWithParents_room h _ _ _ _ _ _ _
  | aggregate childCount required authorized indeterminate outcome =>
    have hpositions := h.positions
    have hchildren : (positions.map fun position => some (saturatingU32 position)).filterMap id =
        positions.map saturatingU32 := by
      rw [List.filterMap_map]
      exact congrFun List.filterMap_eq_map positions
    rw [recordPlanNode, recordWithParents_room h, hchildren,
      earlier_parents (by omega) hbefore hsorted]
    rfl

mutual

/-- A collector with room records the facts of the tree, every aggregate over the facts of its own
members, and answers with the position of the root. -/
theorem recordTree_room : ∀ {tree : PostOrder.Tree EvaluationEvent} {trace : TraceCollector}
    (_ : Room trace tree.postOrder.length),
    recordTree principalNode tree trace =
      (some (saturatingU32 (PostOrder.Tree.root trace.events.length tree)),
        { trace with events := trace.events ++ treeFacts principalNode trace.events.length tree })
  | .node event members, trace, h => by
    rw [PostOrder.Tree.postOrder, List.length_append, List.length_singleton] at h
    have hmembers := recordMembers_room (h.mono (Nat.le_add_right _ 1))
    have hfacts := memberFacts_length principalNode trace.events.length members
    have hposition : (trace.events ++ memberFacts principalNode trace.events.length members).length =
        trace.events.length + (PostOrder.Tree.memberPostOrder members).length := by
      rw [List.length_append, hfacts]
    have hroot : PostOrder.Tree.root trace.events.length (.node event members) =
        trace.events.length + (PostOrder.Tree.memberPostOrder members).length := by
      rw [PostOrder.Tree.root, PostOrder.Tree.postOrder, List.length_append]
      rfl
    have hnode := recordPlanNode_room principalNode (h.add hfacts) event
      (fun position hmem => hposition ▸ (PostOrder.Tree.roots_bounds hmem).2)
      (PostOrder.Tree.roots_pairwise trace.events.length members)
    have hfold : recordTree principalNode (.node event members) trace =
        recordPlanNode principalNode event (foldMembers (recordPlanNode principalNode) members trace).1
          (foldMembers (recordPlanNode principalNode) members trace).2 := rfl
    rw [hfold, hmembers, hnode, hposition, hroot, treeFacts, List.append_assoc]

theorem recordMembers_room : ∀ {members : List (PostOrder.Tree EvaluationEvent)} {trace : TraceCollector}
    (_ : Room trace (PostOrder.Tree.memberPostOrder members).length),
    foldMembers (recordPlanNode principalNode) members trace =
      ((PostOrder.Tree.roots trace.events.length members).map fun position => some (saturatingU32 position),
        { trace with events := trace.events ++ memberFacts principalNode trace.events.length members })
  | [], trace, h => by
    rw [memberFacts, List.append_nil]
    rfl
  | member :: members, trace, h => by
    rw [PostOrder.Tree.memberPostOrder, List.length_append] at h
    have hmember := recordTree_room (h.mono (Nat.le_add_right _ _))
    have hfacts := treeFacts_length principalNode trace.events.length member
    have hmembers := recordMembers_room (h.add hfacts)
    have hfold : foldMembers (recordPlanNode principalNode) (member :: members) trace =
        ((recordTree principalNode member trace).1 ::
            (foldMembers (recordPlanNode principalNode) members
              (recordTree principalNode member trace).2).1,
          (foldMembers (recordPlanNode principalNode) members
            (recordTree principalNode member trace).2).2) := rfl
    rw [hfold, hmember, hmembers, List.length_append, hfacts, memberFacts, List.append_assoc]
    rfl

end

end Record

/-- The events of an evaluation are its plan's tree in post-order, the last of them with the returned
outcome. Recording them never takes more entries than the stack holds, leaves one, and gives every
aggregate the nodes of its own members. -/
theorem planEvents_rebuild {plan : AuthorizationPlan} {limits : VerifierLimits}
    {shape : AuthorizationPlan.PlanShape} (h : plan.validate limits = .ok shape)
    (f : ProofRef → BranchOutcome) :
    ∃ outcome events,
      evaluateObserved (leafOutcome f) collectEvent plan limits [] = (.ok outcome, events) ∧
      events = (planTree f plan).postOrder ∧
      events.getLast?.map EvaluationEvent.outcome = some outcome ∧
      ∀ principalNode trace,
        (∀ before event after, events = before ++ event :: after → ∃ stack reached,
          planStack principalNode before [] trace = (some stack, reached) ∧
            event.childCount ≤ stack.length) ∧
        ∃ root recorded, recordTree principalNode (planTree f plan) trace = (root, recorded) ∧
          planStack principalNode events [] trace = (some [root], recorded) ∧
          recordPlanEvents principalNode events [] trace = (root, recorded) ∧
          (Room trace events.length →
            root = some (saturatingU32 (PostOrder.Tree.root trace.events.length (planTree f plan))) ∧
            recorded.events = trace.events ++
              treeFacts principalNode trace.events.length (planTree f plan)) := by
  have hevents := evaluateNode_events f plan []
  refine ⟨nodeOutcome f plan, (planTree f plan).postOrder, ?_, rfl, ?_, fun principalNode trace => ?_⟩
  · rw [evaluateObserved, h, hevents, List.nil_append]
  · rw [PostOrder.Tree.postOrder_getLast?, planTree_event, Option.map_some, nodeEvent_outcome]
  · have hstack := runStack_tree (recordPlanNode principalNode) (planTree_counted f plan) trace
    refine ⟨fun before event after hsplit => runStack_enough _ hstack hsplit,
      (recordTree principalNode (planTree f plan) trace).1,
      (recordTree principalNode (planTree f plan) trace).2, rfl, hstack, ?_, fun hroom => ?_⟩
    · rw [recordPlanEvents_eq, planStack, hstack]
      rfl
    · rw [recordTree_room principalNode hroom]
      exact ⟨rfl, rfl⟩

/-- A collector with room records four leaves and two aggregates, each over its own members. -/
theorem planEvents_rebuild_twoOfThree :
    ∃ outcome events root recorded,
      evaluateObserved (leafOutcome twoOfThreeLeaf) collectEvent twoOfThree .hard [] =
        (.ok outcome, events) ∧
      recordPlanEvents none events [] ⟨true, 16, [], none⟩ = (root, recorded) ∧ root = some 5 ∧
      recorded.events.map FactEvaluation.parents = [[], [], [], [1, 2], [], [0, 3, 4]] := by
  obtain ⟨outcome, events, hrun, hpost, -, hrecord⟩ :=
    @planEvents_rebuild twoOfThree .hard _ rfl twoOfThreeLeaf
  obtain ⟨-, root, recorded, -, -, hrecorded, hroom⟩ := hrecord none ⟨true, 16, [], none⟩
  have hlength : events.length = 6 := hpost ▸ rfl
  obtain ⟨hroot, hfacts⟩ := hroom (hlength ▸ ⟨rfl, by decide, by decide⟩)
  exact ⟨outcome, events, root, recorded, hrun, hrecorded, hroot, hfacts ▸ rfl⟩

end AuthsProof
