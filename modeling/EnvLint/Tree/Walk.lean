import EnvLint.Json.Size
import EnvLint.Tree.Children

/-! # Walking a tree

    A walk enters every node before its children and leaves it after them.  It
    runs on a stack of pending visits, so the depth of the tree does not matter;
    each visit makes what is pending cheaper, so the walk ends. -/

namespace EnvLint.Tree

/-- Which side of a node a visit is on. -/
inductive Phase where
  /-- Before the children. -/
  | enter
  /-- After the children. -/
  | leave
deriving DecidableEq, Repr

/-- A visit to a node. -/
structure Visit where
  /-- Before or after the children. -/
  phase : Phase
  /-- The node visited. -/
  node : Json
deriving DecidableEq, Repr

/-- What is pending after a visit: entering a node schedules its children and then
    its leaving. -/
def Visit.schedule (visit : Visit) (pending : List Visit) : List Visit :=
  match visit.phase with
  | .enter => (children visit.node).map (⟨.enter, ·⟩) ++ ⟨.leave, visit.node⟩ :: pending
  | .leave => pending

/-- How much a pending visit still costs: entering a node pays for two visits to
    every value in it, leaving it for one. -/
def Visit.cost (visit : Visit) : Nat :=
  match visit.phase with
  | .enter => 2 * visit.node.size
  | .leave => 1

/-- How much a stack of pending visits still costs. -/
def pendingCost : List Visit → Nat
  | [] => 0
  | visit :: pending => visit.cost + pendingCost pending

/-- Entering nodes before what is pending costs two visits to every value in them. -/
theorem pendingCost_enter_append (nodes : List Json) (pending : List Visit) :
    pendingCost (nodes.map (⟨.enter, ·⟩) ++ pending)
      = 2 * Json.sizeItems nodes + pendingCost pending := by
  induction nodes with
  | nil => rw [List.map_nil, List.nil_append, Json.sizeItems, Nat.mul_zero, Nat.zero_add]
  | cons n nodes ih =>
      simp only [List.map_cons, List.cons_append, pendingCost, ih, Visit.cost, Json.sizeItems]
      omega

/-- Every visit makes the stack cheaper, since children are parts of their node. -/
theorem Visit.pendingCost_schedule_lt (visit : Visit) (pending : List Visit) :
    pendingCost (visit.schedule pending) < pendingCost (visit :: pending) := by
  obtain ⟨phase, node⟩ := visit
  cases phase with
  | leave =>
      simp only [schedule, pendingCost, cost]
      omega
  | enter =>
      have hlt := sizeItems_children_lt node
      simp only [schedule, pendingCost_enter_append, pendingCost, cost]
      omega

/-- The visits made from a stack of pending ones, until it is empty. -/
def visits : List Visit → List Visit
  | [] => []
  | visit :: pending => visit :: visits (visit.schedule pending)
termination_by pending => pendingCost pending
decreasing_by exact Visit.pendingCost_schedule_lt visit pending

/-- All visits of a tree in document order, or why the root is no node. -/
def walk (root : Json) : Except NotNode (List Visit) :=
  (typeOf root).map fun _ => visits [⟨.enter, root⟩]

end EnvLint.Tree
