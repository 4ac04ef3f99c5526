import Outliner.Outline.Row

namespace Outliner

theorem Node.with_children (node : Node) (below : List Node) (same : node.children = below) :
    { node with children := below } = node := by
  subst same
  cases node
  rfl

theorem modify_append_cons {α : Type} (change : α → α) (front : List α) (item : α)
    (back : List α) :
    (front ++ item :: back).modify front.length change = front ++ change item :: back := by
  induction front with
  | nil => rfl
  | cons first front ih => simp [ih]

theorem Node.sizeOf_lt (node child : Node) (member : child ∈ node.children) :
    sizeOf child < sizeOf node := by
  have smaller := List.sizeOf_lt_of_mem member
  cases node with
  | mk name kind path level expanded lines children itemKind =>
      simp only at smaller
      simp only [Node.mk.sizeOf_spec]
      omega

theorem Node.induction {motive : Node → Prop}
    (step : ∀ node, (∀ child ∈ node.children, motive child) → motive node) (node : Node) :
    motive node :=
  step node fun child _ => Node.induction step child
termination_by sizeOf node
decreasing_by exact Node.sizeOf_lt node child ‹_›

/-- The node of a forest at an address of child indices. -/
def nodeAt? (forest : List Node) : List Nat → Option Node
  | [] => none
  | [index] => forest[index]?
  | index :: address => forest[index]?.bind fun node => nodeAt? node.children address

mutual

theorem Node.map_node_rowsBy (enter : Node → Bool) (depth depth' : Int)
    (address address' : List Nat) (node : Node) :
    (node.rowsBy enter depth address).map Row.node =
      (node.rowsBy enter depth' address').map Row.node := by
  cases node with
  | mk name kind path level expanded lines children itemKind =>
      simp only [Node.rowsBy, List.map_cons]
      split
      · rw [map_node_rowsBy enter (depth + 1) (depth' + 1) address address' 0 0 children]
      · rfl
termination_by structural node

theorem map_node_rowsBy (enter : Node → Bool) (depth depth' : Int) (parent parent' : List Nat)
    (index index' : Nat) (forest : List Node) :
    (rowsBy enter depth parent index forest).map Row.node =
      (rowsBy enter depth' parent' index' forest).map Row.node := by
  cases forest with
  | nil => rfl
  | cons node rest =>
      simp only [rowsBy, List.map_append]
      rw [Node.map_node_rowsBy enter depth depth' (parent ++ [index]) (parent' ++ [index']) node,
        map_node_rowsBy enter depth depth' parent parent' (index + 1) (index' + 1) rest]
termination_by structural forest

end

@[simp] theorem preorder_nil : preorder [] = [] := rfl

@[simp] theorem preorder_cons (node : Node) (rest : List Node) :
    preorder (node :: rest) = node :: (preorder node.children ++ preorder rest) := by
  cases node with
  | mk name kind path level expanded lines children itemKind =>
      simp only [preorder, allRows, rowsBy, Node.rowsBy, if_true, List.map_append, List.map_cons,
        List.cons_append]
      rw [map_node_rowsBy _ (0 + 1) 0 ([] ++ [0]) [] 0 0 children,
        map_node_rowsBy _ 0 0 [] [] (0 + 1) 0 rest]

theorem preorder_eq_flatMap (forest : List Node) :
    preorder forest = forest.flatMap fun node => node :: preorder node.children := by
  induction forest with
  | nil => rfl
  | cons node rest ih => rw [preorder_cons, ih, List.flatMap_cons, List.cons_append]

@[simp] theorem preorder_append (front back : List Node) :
    preorder (front ++ back) = preorder front ++ preorder back := by
  induction front with
  | nil => rfl
  | cons node rest ih => simp [ih]

theorem preorder_leaves (leaves : List Node) (childless : ∀ leaf ∈ leaves, leaf.children = []) :
    preorder leaves = leaves := by
  induction leaves with
  | nil => rfl
  | cons leaf rest ih =>
      have others := ih (fun other member => childless other (List.mem_cons_of_mem leaf member))
      rw [preorder_cons, childless leaf List.mem_cons_self, others]
      rfl

theorem mem_preorder (node : Node) (forest : List Node) :
    node ∈ preorder forest ↔ ∃ root ∈ forest, node = root ∨ node ∈ preorder root.children := by
  induction forest with
  | nil => simp
  | cons root rest ih => simp [ih, or_assoc]

theorem mem_preorder_root (node root : Node) :
    node ∈ preorder [root] ↔ node = root ∨ node ∈ preorder root.children := by
  simp

end Outliner
