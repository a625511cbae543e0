import Mathlib.Data.List.Basic

/-! A tree emitted in post-order and the stack machine that rebuilds it. -/

namespace PostOrder

/-- A tree whose nodes carry events. -/
inductive Tree (E : Type) where
  | node (event : E) (members : List (Tree E))

namespace Tree

variable {E : Type}

def event : Tree E → E
  | .node event _ => event

mutual

/-- The events of a tree, those of a node's members before its own. -/
def postOrder : Tree E → List E
  | .node event members => memberPostOrder members ++ [event]

def memberPostOrder : List (Tree E) → List E
  | [] => []
  | member :: members => postOrder member ++ memberPostOrder members

end

mutual

/-- Every event tells how many members its node has. -/
def Counted (arity : E → Nat) : Tree E → Prop
  | .node event members => arity event = members.length ∧ MembersCounted arity members

def MembersCounted (arity : E → Nat) : List (Tree E) → Prop
  | [] => True
  | member :: members => Counted arity member ∧ MembersCounted arity members

end

/-- Where the root of a tree stands whose events are emitted from position `start` on. -/
def root (start : Nat) (tree : Tree E) : Nat := start + tree.postOrder.length - 1

/-- Where the roots of trees stand that are emitted one after another. -/
def roots : Nat → List (Tree E) → List Nat
  | _, [] => []
  | start, member :: members =>
    root start member :: roots (start + member.postOrder.length) members

theorem postOrder_length_pos (tree : Tree E) : 0 < tree.postOrder.length := by
  cases tree with
  | node event members => rw [postOrder, List.length_append, List.length_singleton]; omega

theorem roots_bounds {start position : Nat} {members : List (Tree E)}
    (h : position ∈ roots start members) :
    start ≤ position ∧ position < start + (memberPostOrder members).length := by
  induction members generalizing start with
  | nil => cases h
  | cons member members ih =>
    have hpos := postOrder_length_pos member
    rw [memberPostOrder, List.length_append]
    rcases List.mem_cons.mp h with rfl | hmem
    · rw [root]
      omega
    · have hbounds := ih hmem
      omega

/-- The roots of a node's members stand in the order of the members. -/
theorem roots_pairwise (start : Nat) (members : List (Tree E)) :
    (roots start members).Pairwise (· < ·) := by
  induction members generalizing start with
  | nil => exact List.Pairwise.nil
  | cons member members ih =>
    refine List.pairwise_cons.mpr ⟨fun position hmem => ?_, ih _⟩
    have hbounds := roots_bounds hmem
    have hpos := postOrder_length_pos member
    rw [root]
    omega

theorem postOrder_getLast? (tree : Tree E) : tree.postOrder.getLast? = some tree.event := by
  cases tree with
  | node event members => rw [postOrder, List.getLast?_concat, Tree.event]

end Tree

section Machine

variable {E N σ : Type} (arity : E → Nat) (step : E → List N → StateM σ N)

mutual

/-- What `step` makes of a tree, each node over what it made of its members. -/
def fold : Tree E → StateM σ N
  | .node event members => do
    let made ← foldMembers members
    step event made

def foldMembers : List (Tree E) → StateM σ (List N)
  | [] => pure []
  | member :: members => do
    let made ← fold member
    let others ← foldMembers members
    pure (made :: others)

end

/-- The stack after the events, the latest entry first: each event takes as many entries as it counts
and leaves one. There is none when an event counts more entries than there are. -/
def runStack : List E → List N → StateM σ (Option (List N))
  | [], stack => pure (some stack)
  | event :: events, stack =>
    if stack.length < arity event then pure none
    else do
      let made ← step event (stack.take (arity event)).reverse
      runStack events (made :: stack.drop (arity event))

theorem foldMembers_length (members : List (Tree E)) (s : σ) :
    (foldMembers step members s).1.length = members.length := by
  induction members generalizing s with
  | nil => rfl
  | cons member members ih => exact congrArg (· + 1) (ih (fold step member s).2)

theorem runStack_cons {event : E} {stack : List N} (h : arity event ≤ stack.length) (events : List E)
    (s : σ) :
    runStack arity step (event :: events) stack s =
      runStack arity step events
        ((step event (stack.take (arity event)).reverse s).1 :: stack.drop (arity event))
        (step event (stack.take (arity event)).reverse s).2 := by
  rw [runStack, if_neg (by omega)]
  rfl

theorem runStack_underflow {event : E} {stack : List N} (h : stack.length < arity event)
    (events : List E) (s : σ) : runStack arity step (event :: events) stack s = (none, s) := by
  rw [runStack, if_pos h]
  rfl

variable {arity}

mutual

theorem runStack_postOrder : ∀ {tree : Tree E} (_ : tree.Counted arity) (events : List E)
    (stack : List N) (s : σ),
    runStack arity step (tree.postOrder ++ events) stack s =
      runStack arity step events ((fold step tree s).1 :: stack) (fold step tree s).2
  | .node event members, h, events, stack, s => by
    have hlength := foldMembers_length step members s
    rw [Tree.postOrder, List.append_assoc, runStack_memberPostOrder h.2, List.singleton_append,
      runStack_cons arity step (by rw [h.1, List.length_append, List.length_reverse, hlength]; omega)]
    -- The entries taken are those the members left, in their order.
    have htaken : ((foldMembers step members s).1.reverse ++ stack).take (arity event) =
        (foldMembers step members s).1.reverse :=
      List.take_left' (by rw [List.length_reverse, hlength, h.1])
    have hkept : ((foldMembers step members s).1.reverse ++ stack).drop (arity event) = stack :=
      List.drop_left' (by rw [List.length_reverse, hlength, h.1])
    rw [htaken, hkept, List.reverse_reverse]
    rfl

theorem runStack_memberPostOrder : ∀ {members : List (Tree E)}
    (_ : Tree.MembersCounted arity members) (events : List E) (stack : List N) (s : σ),
    runStack arity step (Tree.memberPostOrder members ++ events) stack s =
      runStack arity step events ((foldMembers step members s).1.reverse ++ stack)
        (foldMembers step members s).2
  | [], _, events, stack, s => rfl
  | member :: members, h, events, stack, s => by
    rw [Tree.memberPostOrder, List.append_assoc, runStack_postOrder h.1,
      runStack_memberPostOrder h.2]
    have hmade : (foldMembers step (member :: members) s).1.reverse =
        (foldMembers step members (fold step member s).2).1.reverse ++ [(fold step member s).1] :=
      List.reverse_cons
    rw [hmade, List.append_assoc]
    rfl

end

/-- The machine ends with one entry, what `step` makes of the tree. -/
theorem runStack_tree {tree : Tree E} (h : tree.Counted arity) (s : σ) :
    runStack arity step tree.postOrder [] s = (some [(fold step tree s).1], (fold step tree s).2) := by
  have hrun := runStack_postOrder step h [] [] s
  rwa [List.append_nil] at hrun

theorem runStack_append (before after : List E) (stack : List N) (s : σ) :
    runStack arity step (before ++ after) stack s =
      match runStack arity step before stack s with
      | (some stack, s) => runStack arity step after stack s
      | (none, s) => (none, s) := by
  induction before generalizing stack s with
  | nil => rfl
  | cons event before ih =>
    by_cases h : stack.length < arity event
    · rw [List.cons_append, runStack_underflow arity step h, runStack_underflow arity step h]
    · rw [List.cons_append, runStack_cons arity step (Nat.not_lt.mp h),
        runStack_cons arity step (Nat.not_lt.mp h), ih]

/-- A run that ends with a stack finds as many entries as each of its events counts. -/
theorem runStack_enough {events : List E} {stack final : List N} {s t : σ}
    (h : runStack arity step events stack s = (some final, t)) {before after : List E} {event : E}
    (hevents : events = before ++ event :: after) :
    ∃ reached u, runStack arity step before stack s = (some reached, u) ∧
      arity event ≤ reached.length := by
  rw [hevents, runStack_append] at h
  rcases hbefore : runStack arity step before stack s with ⟨_ | reached, u⟩
  · rw [hbefore] at h
    cases h
  · rw [hbefore] at h
    refine ⟨reached, u, rfl, ?_⟩
    by_contra hfew
    simp only at h
    rw [runStack_underflow arity step (Nat.not_le.mp hfew)] at h
    cases h

end Machine

end PostOrder
