import Mathlib.Data.List.Sort
import Mathlib.Algebra.Order.Ring.Rat
/-!
# Flame graphs with a limit on their nodes

A query builds a call tree and turns it into numbered nodes for display, the heavier siblings first.
Above a limit a second builder hands out the nodes from one shared budget.

Weights are exact numbers here; the source computes them in floating point.
-/
namespace MiniDrop

/-- `continuousTreeNode`: `Order` lists the children. -/
inductive ContinuousTreeNode where
  | node (name : String) (value self : ℚ) (order : List ContinuousTreeNode)

/-- `ProfileNode`. -/
inductive ProfileNode where
  | node (id name : String) (value self : ℚ) (children : List ProfileNode)

def ContinuousTreeNode.order : ContinuousTreeNode → List ContinuousTreeNode
  | .node _ _ _ order => order

/-- Siblings by falling value, then by name. -/
def ContinuousTreeNode.before : ContinuousTreeNode → ContinuousTreeNode → Bool
  | .node name value _ _, .node other weight _ _ => weight < value ∨ weight = value ∧ name ≤ other

/-- The children of every node in the order in which the builders walk them. -/
def arranged : List ContinuousTreeNode → List ContinuousTreeNode
  | [] => []
  | .node name value self order :: rest =>
    (arranged rest).orderedInsert (·.before ·) (.node name value self (arranged order))

/-- `countTreeNodes` of a node with the given children. -/
def countTreeNodes : List ContinuousTreeNode → Nat
  | [] => 0
  | .node _ _ _ order :: rest => 1 + countTreeNodes order + countTreeNodes rest

def nodeID (above : String) (idx : Nat) : String :=
  if above ≠ "" then above ++ "." ++ toString idx else toString idx

/-- The loop of `continuousTreeToProfileNodes`. -/
def profileNodes : String → Nat → List ContinuousTreeNode → List ProfileNode
  | _, _, [] => []
  | above, idx, .node name value self order :: rest =>
    .node (nodeID above idx) name value self (profileNodes (nodeID above idx) 0 order) ::
      profileNodes above (idx + 1) rest

/-- The loop of `continuousTreeToProfileNodesBudget`, with what is left of the budget. -/
def budgetNodes : String → Nat → Nat → List ContinuousTreeNode → List ProfileNode × Nat
  | _, _, remaining, [] => ([], remaining)
  | _, _, 0, _ :: _ => ([], 0)
  | above, idx, remaining + 1, .node name value self order :: rest =>
    let below := budgetNodes (nodeID above idx) 0 remaining order
    let beside := budgetNodes above (idx + 1) below.2 rest
    (.node (nodeID above idx) name value self below.1 :: beside.1, beside.2)

def continuousTreeToProfileNodes (root : ContinuousTreeNode) (above : String) : List ProfileNode :=
  profileNodes above 0 (arranged root.order)

def continuousDefaultMaxNodes : Int := 5000

/-- The limit that a request for at most `maxNodes` nodes sets. -/
def nodeLimit (maxNodes : Int) : Nat :=
  (if maxNodes ≤ 0 then continuousDefaultMaxNodes else maxNodes).toNat

def continuousTreeToProfileNodesTruncated (root : Option ContinuousTreeNode) (above : String)
    (maxNodes : Int) : List ProfileNode × Bool :=
  match root with
  | none => ([], false)
  | some root =>
    if countTreeNodes root.order > nodeLimit maxNodes then
      ((budgetNodes above 0 (nodeLimit maxNodes) (arranged root.order)).1, true)
    else (continuousTreeToProfileNodes root above, false)

end MiniDrop
