import Outliner.Proofs.Outline.Flags

/-!
Which rows are visible, told by addresses: those of the nodes whose proper ancestors are all
expanded, in the lexicographic order of addresses. After the flags are set all over a forest they are
all of its nodes, or its roots.
-/

namespace Outliner

/-- The addresses of the proper ancestors of the node at an address, from the root on. -/
def ancestors (address : List Nat) : List (List Nat) :=
  (List.range (address.length - 1)).map fun steps => address.take (steps + 1)

/-- Two nodes agree in all fields of their own but the flag, and have equally many children. -/
structure Node.AgreesWith (node other : Node) : Prop where
  name : node.name = other.name
  kind : node.kind = other.kind
  path : node.path = other.path
  level : node.level = other.level
  lines : node.lines = other.lines
  itemKind : node.itemKind = other.itemKind
  width : node.children.length = other.children.length

section Ancestors

theorem length_ancestors (index : Nat) (rest : List Nat) :
    (ancestors (index :: rest)).length = rest.length := by
  simp [ancestors]

theorem ancestors_cons_cons (index next : Nat) (rest : List Nat) :
    ancestors (index :: next :: rest) =
      [index] :: (ancestors (next :: rest)).map (index :: ·) := by
  simp [ancestors, List.range_succ_eq_map]

theorem ne_nil_of_mem_ancestors (address above : List Nat) (member : above ∈ ancestors address) :
    above ≠ [] := by
  rcases List.mem_map.mp member with ⟨steps, among, rfl⟩
  have inside := List.mem_range.mp among
  have held : address ≠ [] := by
    intro empty
    rw [empty] at inside
    exact absurd inside (Nat.not_lt_zero steps)
  simp [held]

/-- A way through expanded nodes is an address all of whose proper ancestors are expanded, by
induction on the steps of the way. -/
theorem reach?_expanded_iff (rest : List Nat) (index : Nat) (forest : List Node) (target : Node) :
    forest[index]?.bind (Node.reach? Node.expanded rest) = some target ↔
      nodeAt? forest (index :: rest) = some target ∧
        ∀ above ∈ ancestors (index :: rest), flagAt? forest above = some true := by
  induction rest generalizing index forest with
  | nil =>
      have alone : ancestors [index] = [] := rfl
      cases found : forest[index]? with
      | none => simp [nodeAt?, found]
      | some node => simp [nodeAt?, found, alone, Node.reach?]
  | cons next rest ih =>
      cases found : forest[index]? with
      | none => simp [nodeAt?_cons_cons, found]
      | some node =>
          have own : flagAt? forest [index] = some node.expanded := by
            rw [flagAt?_cons, found]
            rfl
          have below : ∀ above ∈ ancestors (next :: rest),
              flagAt? forest (index :: above) = flagAt? node.children above := by
            intro above member
            cases above with
            | nil => exact absurd rfl (ne_nil_of_mem_ancestors _ _ member)
            | cons first others => rw [flagAt?_cons, found]; rfl
          have inner := ih next node.children
          rw [ancestors_cons_cons, List.forall_mem_cons, List.forall_mem_map, own,
            nodeAt?_cons_cons, found, Option.bind_some, Option.bind_some, Node.reach?]
          cases open? : node.expanded with
          | false => simp
          | true =>
              rw [if_pos rfl, inner]
              constructor
              · intro reached
                refine ⟨reached.1, rfl, ?_⟩
                intro above member
                rw [below above member]
                exact reached.2 above member
              · intro reached
                refine ⟨reached.1, ?_⟩
                intro above member
                rw [← below above member]
                exact reached.2.2 above member

theorem mem_visibleRows_iff (forest : List Node) (depth : Int) (row : Row) :
    row ∈ visibleRows forest depth ↔ nodeAt? forest row.address = some row.node ∧
      (∀ above ∈ ancestors row.address, flagAt? forest above = some true) ∧
      row.depth = depth + (ancestors row.address).length := by
  rw [visibleRows, mem_rowsBy_iff]
  constructor
  · intro shown
    rcases shown with ⟨index, rest, place, deep, reached⟩
    rw [place, length_ancestors]
    have way := (reach?_expanded_iff rest index forest row.node).mp reached
    exact ⟨way.1, way.2, deep⟩
  · intro given
    rcases given with ⟨found, above, deep⟩
    cases place : row.address with
    | nil =>
        rw [place] at found
        cases found
    | cons index rest =>
        rw [place] at found above deep
        rw [length_ancestors] at deep
        exact ⟨index, rest, rfl, deep, (reach?_expanded_iff rest index forest row.node).mpr
          ⟨found, above⟩⟩

end Ancestors

theorem lt_append_cons (front : List Nat) (index : Nat) (rest : List Nat) :
    front < front ++ index :: rest := by
  induction front with
  | nil => exact List.nil_lt_cons index rest
  | cons first others ih => exact List.cons_lt_cons_iff.mpr (Or.inr ⟨rfl, ih⟩)

theorem append_lt_append (front : List Nat) (index next : Nat) (rest others : List Nat)
    (less : index < next) : front ++ index :: rest < front ++ next :: others := by
  induction front with
  | nil => exact List.cons_lt_cons_iff.mpr (Or.inl less)
  | cons first front ih => exact List.cons_lt_cons_iff.mpr (Or.inr ⟨rfl, ih⟩)

section Order

variable (enter : Node → Bool)

def Increasing (rows : List Row) : Prop :=
  rows.Pairwise fun row other => row.address < other.address

theorem Increasing.nodup {rows : List Row} (increasing : Increasing rows) : rows.Nodup := by
  apply List.Pairwise.imp _ increasing
  intro row other less same
  rw [same] at less
  exact List.lt_irrefl other.address less

theorem increasing_siblings (depth : Int) (parent : List Nat) (first : Nat) (forest : List Node)
    (each : ∀ node ∈ forest, ∀ address, Increasing (node.rowsBy enter depth address)) :
    Increasing (rowsBy enter depth parent first forest) := by
  induction forest generalizing first with
  | nil => exact List.Pairwise.nil
  | cons node siblings ih =>
      rw [List.forall_mem_cons] at each
      rw [Increasing, rowsBy, List.pairwise_append]
      refine ⟨each.1 (parent ++ [first]), ih (first + 1) each.2, ?_⟩
      intro row member other later
      rcases (Node.mem_rowsBy_iff enter _ _ node row).mp member with ⟨rest, place, _⟩
      rcases (mem_rowsBy enter _ _ _ _ other).mp later with ⟨index, sibling, _, inside⟩
      rcases (Node.mem_rowsBy_iff enter _ _ sibling other).mp inside with ⟨others, otherPlace, _⟩
      rw [place, otherPlace, List.append_assoc, List.append_assoc]
      exact append_lt_append parent first (first + 1 + index) rest others (by omega)

theorem Node.increasing_rowsBy (depth : Int) (address : List Nat) (node : Node) :
    Increasing (node.rowsBy enter depth address) := by
  induction node using Node.induction generalizing depth address with
  | step node ih =>
      rw [Node.rowsBy_eq, Increasing, List.pairwise_cons]
      constructor
      · intro other member
        split at member
        · rcases (mem_rowsBy enter _ _ _ _ other).mp member with ⟨index, child, _, inside⟩
          rcases (Node.mem_rowsBy_iff enter _ _ child other).mp inside with ⟨rest, place, _⟩
          rw [place, List.append_assoc]
          exact lt_append_cons address (0 + index) rest
        · cases member
      · split
        · apply increasing_siblings
          intro child member place
          exact ih child member (depth + 1) place
        · exact List.Pairwise.nil

theorem increasing_rowsBy (depth : Int) (parent : List Nat) (first : Nat) (forest : List Node) :
    Increasing (rowsBy enter depth parent first forest) := by
  apply increasing_siblings
  intro node _ address
  exact node.increasing_rowsBy enter depth address

end Order

theorem Node.agreesWith_setExpanded (value : Bool) (node : Node) :
    (node.setExpanded value).AgreesWith node := by
  rw [Node.setExpanded_eq]
  refine ⟨rfl, rfl, rfl, rfl, rfl, rfl, ?_⟩
  rw [setExpanded_eq_map, List.length_map]

theorem preorder_setExpanded (value : Bool) (forest : List Node) :
    preorder (setExpanded value forest) = (preorder forest).map (Node.setExpanded value) := by
  match forest with
  | [] => rfl
  | node :: rest =>
      have below := preorder_setExpanded value node.children
      have later := preorder_setExpanded value rest
      have children : (node.setExpanded value).children = setExpanded value node.children := by
        rw [Node.setExpanded_eq]
      rw [setExpanded, preorder_cons, preorder_cons, children, below, later, List.map_cons,
        List.map_append]
termination_by sizeOf forest
decreasing_by
  · cases node
    simp only [List.cons.sizeOf_spec, Node.mk.sizeOf_spec]
    omega
  · simp only [List.cons.sizeOf_spec]
    omega

mutual

theorem Node.rowsBy_setExpanded_true (depth : Int) (address : List Nat) (node : Node) :
    (node.setExpanded true).rowsBy Node.expanded depth address =
      (node.setExpanded true).rowsBy (fun _ => true) depth address := by
  cases node with
  | mk name kind path level expanded lines children itemKind =>
      simp only [Node.setExpanded, Node.rowsBy, if_true]
      rw [rowsBy_setExpanded_true (depth + 1) address 0 children]
termination_by structural node

theorem rowsBy_setExpanded_true (depth : Int) (parent : List Nat) (first : Nat)
    (forest : List Node) :
    rowsBy Node.expanded depth parent first (setExpanded true forest) =
      rowsBy (fun _ => true) depth parent first (setExpanded true forest) := by
  cases forest with
  | nil => rfl
  | cons node rest =>
      rw [setExpanded, rowsBy, rowsBy,
        Node.rowsBy_setExpanded_true depth (parent ++ [first]) node,
        rowsBy_setExpanded_true depth parent (first + 1) rest]
termination_by structural forest

end

theorem nodes_setExpanded_true (forest : List Node) (depth : Int) :
    (visibleRows (setExpanded true forest) depth).map Row.node =
      (preorder forest).map (Node.setExpanded true) := by
  calc
    _ = (rowsBy (fun _ => true) depth [] 0 (setExpanded true forest)).map Row.node := by
      rw [visibleRows, rowsBy_setExpanded_true]
    _ = preorder (setExpanded true forest) :=
      map_node_rowsBy (fun _ => true) depth 0 [] [] 0 0 (setExpanded true forest)
    _ = (preorder forest).map (Node.setExpanded true) := preorder_setExpanded true forest

theorem rowsBy_setExpanded_false (depth : Int) (parent : List Nat) (first : Nat)
    (forest : List Node) :
    rowsBy Node.expanded depth parent first (setExpanded false forest) =
      forest.mapIdx fun index root =>
        ⟨depth, parent ++ [first + index], root.setExpanded false⟩ := by
  induction forest generalizing first with
  | nil => rfl
  | cons node rest ih =>
      have closed : (node.setExpanded false).rowsBy Node.expanded depth (parent ++ [first]) =
          [⟨depth, parent ++ [first], node.setExpanded false⟩] := by
        rw [Node.rowsBy_eq, Node.setExpanded_eq]
        rfl
      rw [setExpanded, rowsBy, closed, ih (first + 1), List.mapIdx_cons]
      simp only [List.singleton_append, Nat.add_zero, Nat.add_assoc, Nat.add_comm 1]

/-- The visible rows of any forest. The walk that keeps the open lists of siblings on a stack yields
them; they are the nodes all of whose proper ancestors are expanded, each as deep as it has such
ancestors below the depth of the roots, in strictly increasing order of addresses. With all flags set
they are all nodes in pre-order, with all flags cleared the roots, and setting flags changes nothing
else of any node. -/
theorem visibleRows_by_address (forest : List Node) (depth : Int) :
    Frame.rows [⟨depth, [], 0, forest⟩] = visibleRows forest depth ∧
    (∀ row, row ∈ visibleRows forest depth ↔ nodeAt? forest row.address = some row.node ∧
      (∀ above ∈ ancestors row.address, flagAt? forest above = some true) ∧
      row.depth = depth + (ancestors row.address).length) ∧
    (visibleRows forest depth).Pairwise (fun row other => row.address < other.address) ∧
    (visibleRows (setExpanded true forest) depth).map Row.node =
      (preorder forest).map (Node.setExpanded true) ∧
    visibleRows (setExpanded false forest) depth =
      forest.mapIdx (fun index root => ⟨depth, [index], root.setExpanded false⟩) ∧
    ∀ value address,
      (nodeAt? (setExpanded value forest) address).isSome = (nodeAt? forest address).isSome ∧
      ∀ node ∈ nodeAt? forest address, ∃ after ∈ nodeAt? (setExpanded value forest) address,
        after.AgreesWith node ∧ after.expanded = value := by
  refine ⟨Frame.rows_of_forest forest depth, mem_visibleRows_iff forest depth,
    increasing_rowsBy Node.expanded depth [] 0 forest, nodes_setExpanded_true forest depth, ?_, ?_⟩
  · have roots := rowsBy_setExpanded_false depth [] 0 forest
    rw [visibleRows, roots]
    simp
  · intro value address
    rw [nodeAt?_setExpanded]
    constructor
    · exact Option.isSome_map
    · intro node found
      rw [Option.mem_def.mp found]
      refine ⟨node.setExpanded value, rfl, node.agreesWith_setExpanded value, ?_⟩
      rw [Node.setExpanded_eq]

end Outliner
