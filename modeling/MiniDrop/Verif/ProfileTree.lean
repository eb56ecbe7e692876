import MiniDrop.Server.ProfileTree
/-!
# A truncated flame graph

The two builders number the nodes alike, and the shared budget runs out in the order of a
depth-first walk: what is left of a truncated tree is a first part of the whole one.
-/
namespace MiniDrop

open List

/-- The nodes in depth-first order, each with its parent's id: parent, id, name, value and self. -/
def preorder : String → List ProfileNode → List (String × String × String × ℚ × ℚ)
  | _, [] => []
  | parent, .node id name value self children :: rest =>
    (parent, id, name, value, self) :: (preorder id children ++ preorder parent rest)

theorem countTreeNodes_orderedInsert (name : String) (value self : ℚ)
    (order nodes : List ContinuousTreeNode) :
    countTreeNodes (nodes.orderedInsert (·.before ·) (.node name value self order)) =
      1 + countTreeNodes order + countTreeNodes nodes := by
  induction nodes with
  | nil => simp [countTreeNodes]
  | cons node rest ih =>
    obtain ⟨other, weight, own, below⟩ := node
    rw [orderedInsert_cons]
    split
    · rw [countTreeNodes]
    · rw [countTreeNodes, ih, countTreeNodes]
      omega

/-- The order of siblings does not matter for the count. -/
theorem countTreeNodes_arranged (nodes : List ContinuousTreeNode) :
    countTreeNodes (arranged nodes) = countTreeNodes nodes := by
  fun_induction arranged nodes with
  | case1 => rfl
  | case2 name value self order rest below beside =>
    rw [countTreeNodes_orderedInsert, below, beside, countTreeNodes]

theorem length_preorder (parent above : String) (idx : Nat) (nodes : List ContinuousTreeNode) :
    (preorder parent (profileNodes above idx nodes)).length = countTreeNodes nodes := by
  fun_induction profileNodes above idx nodes generalizing parent with
  | case1 => simp [preorder, countTreeNodes]
  | case2 above idx name value self order rest below beside =>
    rw [preorder, length_cons, length_append, below, beside, countTreeNodes]
    omega

/-- The budget pays for a first part of the nodes. -/
theorem preorder_budgetNodes (parent above : String) (idx remaining : Nat)
    (nodes : List ContinuousTreeNode) :
    preorder parent (budgetNodes above idx remaining nodes).1 =
        (preorder parent (profileNodes above idx nodes)).take remaining ∧
      (budgetNodes above idx remaining nodes).2 = remaining - countTreeNodes nodes := by
  fun_induction budgetNodes above idx remaining nodes generalizing parent with
  | case1 => simp [profileNodes, preorder, countTreeNodes]
  | case2 => simp [preorder]
  | case3 above idx remaining name value self order rest below beside ihBelow ihBeside =>
    obtain ⟨belowNodes, belowLeft⟩ := ihBelow (nodeID above idx)
    obtain ⟨besideNodes, besideLeft⟩ := ihBeside parent
    have length := length_preorder (nodeID above idx) (nodeID above idx) 0 order
    constructor
    · rw [preorder, belowNodes, besideNodes, belowLeft, profileNodes, preorder, take_succ_cons,
        take_append, length]
    · rw [besideLeft, belowLeft, countTreeNodes]
      omega

/-- For every call tree, limit and id to start from: a tree with at most as many nodes as the limit
is returned whole, and of a larger one exactly the first nodes in depth-first order, with their ids,
names, values and parents. -/
theorem truncated_first_nodes (root : ContinuousTreeNode) (above : String) (maxNodes : Int) :
    let whole := preorder above (continuousTreeToProfileNodes root above)
    let out := continuousTreeToProfileNodesTruncated (some root) above maxNodes
    (whole.length ≤ nodeLimit maxNodes → out = (continuousTreeToProfileNodes root above, false)) ∧
      (nodeLimit maxNodes < whole.length →
        out.2 = true ∧ preorder above out.1 = whole.take (nodeLimit maxNodes)) := by
  have count : (preorder above (continuousTreeToProfileNodes root above)).length =
      countTreeNodes root.order := by
    rw [continuousTreeToProfileNodes, length_preorder, countTreeNodes_arranged]
  dsimp only
  rw [count, continuousTreeToProfileNodesTruncated]
  constructor
  · intro fits
    exact if_neg (not_lt.mpr fits)
  · intro exceeds
    rw [if_pos exceeds]
    exact ⟨rfl, (preorder_budgetNodes above above 0 _ _).1⟩

end MiniDrop
