import Outliner.Display.Tree
import Outliner.Proofs.Outline.Visible

namespace Outliner

theorem isEmpty_setExpanded (value : Bool) (forest : List Node) :
    (setExpanded value forest).isEmpty = forest.isEmpty := by
  cases forest <;> rfl

theorem length_setExpanded (value : Bool) (forest : List Node) :
    (setExpanded value forest).length = forest.length := by
  induction forest with
  | nil => rfl
  | cons node rest ih => rw [setExpanded, List.length_cons, ih, List.length_cons]

theorem Node.label_setExpanded (value : Bool) (node : Node) :
    (node.setExpanded value).label = node.label := by
  cases node with
  | mk name kind path level expanded lines children itemKind =>
      simp only [setExpanded, label, summary, hasChildren, isEmpty_setExpanded]
      rfl

namespace Display

def isWithin (maxDepth : Option Int) (row : Row) : Bool :=
  maxDepth.all fun limit => decide (row.depth ≤ max 1 limit)

/-- The rows that a printed tree shows. -/
def shownRows (forest : List Node) (expandAll : Bool) (maxDepth : Option Int) : List Row :=
  (visibleRows (if expandAll then setExpanded true forest else forest) 1).filter (isWithin maxDepth)

/-- The number of children after the label of a node that shows none of them. -/
def foldMark (rows : List Row) (row : Row) : Text :=
  if row.node.children ≠ [] ∧ ∀ other ∈ rows, other.address.dropLast ≠ row.address then
    " [dim](+".toList ++ Text.ofNat row.node.children.length ++ ")[/dim]".toList
  else []

mutual

theorem branch_setExpanded (maxDepth : Option Int) (depth : Int) (node : Node) :
    branch false maxDepth depth (node.setExpanded true) = branch true maxDepth depth node := by
  cases node with
  | mk name kind path level expanded lines children itemKind =>
      have label := Node.label_setExpanded true
        ⟨name, kind, path, level, expanded, lines, children, itemKind⟩
      rw [Node.setExpanded] at label ⊢
      simp only [branch, label, isEmpty_setExpanded, length_setExpanded, Bool.false_or,
        Bool.true_or, branches_setExpanded]
termination_by structural node

theorem branches_setExpanded (maxDepth : Option Int) (depth : Int) (forest : List Node) :
    branches false maxDepth depth (setExpanded true forest) =
      branches true maxDepth depth forest := by
  cases forest with
  | nil => rfl
  | cons node rest =>
      rw [setExpanded, branches, branches, branch_setExpanded, branches_setExpanded]
termination_by structural forest

end

theorem isWithin_of_open (maxDepth : Option Int) (depth : Int)
    (isOpen : maxDepth.all (depth < ·) = true) (row : Row) (below : row.depth = depth + 1) :
    isWithin maxDepth row = true := by
  cases maxDepth with
  | none => rfl
  | some limit =>
      simp only [Option.all_some, decide_eq_true_eq] at isOpen
      simp only [isWithin, Option.all_some, decide_eq_true_eq]
      omega

theorem not_isWithin_of_closed (maxDepth : Option Int) (depth : Int) (positive : 1 ≤ depth)
    (closed : maxDepth.all (depth < ·) = false) (row : Row) (below : depth < row.depth) :
    isWithin maxDepth row = false := by
  cases maxDepth with
  | none => cases closed
  | some limit =>
      simp only [Option.all_some, decide_eq_false_iff_not] at closed
      simp only [isWithin, Option.all_some, decide_eq_false_iff_not]
      omega

theorem branch_eq (expandAll : Bool) (maxDepth : Option Int) (depth : Int) (node : Node) :
    branch expandAll maxDepth depth node =
      if ((expandAll || node.expanded) && maxDepth.all (depth < ·)) || node.children.isEmpty then
        .mk node.label (branches expandAll maxDepth (depth + 1) node.children)
      else
        .mk (node.label ++
          ' ' :: dim ("(+".toList ++ Text.ofNat node.children.length ++ ")".toList)) [] := by
  cases node
  rfl

section Labels

variable (maxDepth : Option Int)

def isOpen (row : Row) : Bool :=
  row.node.expanded && maxDepth.all (row.depth < ·)

def labelled (row : Row) : Int × Text :=
  (row.depth, row.node.label ++
    if isOpen maxDepth row || row.node.children.isEmpty then []
    else ' ' :: dim ("(+".toList ++ Text.ofNat row.node.children.length ++ ")".toList))

/-- A label with its depth as rows count it. -/
def placed (label : Nat × Text) : Int × Text :=
  (label.1, label.2)

theorem filter_rowsBy (depth : Int) (positive : 1 ≤ depth) (address : List Nat) (node : Node)
    (within : isWithin maxDepth ⟨depth, address, node⟩ = true) :
    (node.rowsBy Node.expanded depth address).filter (isWithin maxDepth) =
      ⟨depth, address, node⟩ ::
        if isOpen maxDepth ⟨depth, address, node⟩ then
          (rowsBy Node.expanded (depth + 1) address 0 node.children).filter (isWithin maxDepth)
        else [] := by
  rw [Node.rowsBy_eq, List.filter_cons, if_pos within, isOpen]
  congr 1
  cases node.expanded with
  | false => rfl
  | true =>
      cases closed : maxDepth.all (depth < ·) with
      | true => rfl
      | false =>
          simp only [if_true, Bool.and_false, Bool.false_eq_true, if_false]
          rw [List.filter_eq_nil_iff]
          intro row member
          have below := depth_le_of_mem_rowsBy _ _ _ _ _ row member
          rw [not_isWithin_of_closed maxDepth depth positive closed row (by omega)]
          exact Bool.false_ne_true

theorem labels_branch_eq (depth : Nat) (address : List Nat) (node : Node) :
    ((branch false maxDepth depth node).labels depth).map placed =
      labelled maxDepth ⟨depth, address, node⟩ ::
        if isOpen maxDepth ⟨depth, address, node⟩ then
          (labelsOfAll (depth + 1) (branches false maxDepth (depth + 1) node.children)).map placed
        else [] := by
  have entered : isOpen maxDepth ⟨depth, address, node⟩ =
      (node.expanded && maxDepth.all ((depth : Int) < ·)) := rfl
  rw [branch_eq, Bool.false_or, labelled, ← entered]
  cases isOpen maxDepth ⟨depth, address, node⟩ with
  | true => simp [Branch.labels, placed]
  | false =>
      cases node.children with
      | nil => simp [Branch.labels, placed, branches, labelsOfAll]
      | cons child rest => simp [Branch.labels, placed, labelsOfAll]

mutual

theorem labels_branch (depth : Nat) (positive : 1 ≤ depth) (address : List Nat) (node : Node)
    (within : ∀ row : Row, row.depth = depth → isWithin maxDepth row = true) :
    ((branch false maxDepth depth node).labels depth).map placed =
      ((node.rowsBy Node.expanded depth address).filter (isWithin maxDepth)).map
        (labelled maxDepth) := by
  rw [labels_branch_eq maxDepth depth address node,
    filter_rowsBy maxDepth depth (by omega) address node (within _ rfl), List.map_cons]
  congr 1
  cases node with
  | mk name kind path level expanded lines children itemKind =>
      split
      · next entered =>
          rw [isOpen, Bool.and_eq_true] at entered
          exact labels_branches (depth + 1) (by omega) address 0 children
            (isWithin_of_open maxDepth depth entered.2)
      · rfl
termination_by structural node

theorem labels_branches (depth : Nat) (positive : 1 ≤ depth) (parent : List Nat) (first : Nat)
    (forest : List Node)
    (within : ∀ row : Row, row.depth = depth → isWithin maxDepth row = true) :
    (labelsOfAll depth (branches false maxDepth depth forest)).map placed =
      ((rowsBy Node.expanded depth parent first forest).filter (isWithin maxDepth)).map
        (labelled maxDepth) := by
  cases forest with
  | nil => rfl
  | cons node rest =>
      rw [branches, labelsOfAll, rowsBy, List.map_append, List.filter_append, List.map_append,
        labels_branch depth positive (parent ++ [first]) node within,
        labels_branches depth positive parent (first + 1) rest within]
termination_by structural forest

end

end Labels

section Marks

variable (forest : List Node) (maxDepth : Option Int)

theorem isOpen_of_child_shown (row other : Row) (index : Nat) (member : row ∈ visibleRows forest 1)
    (shown : other ∈ (visibleRows forest 1).filter (isWithin maxDepth))
    (place : other.address = row.address ++ [index]) : isOpen maxDepth row = true := by
  obtain ⟨listed, within⟩ := List.mem_filter.mp shown
  obtain ⟨expanded, _, below⟩ :=
    (mem_rowsBy_child _ 1 forest row other index member place).mp listed
  have positive := depth_le_of_mem_rowsBy _ 1 [] 0 forest row member
  cases closed : maxDepth.all (row.depth < ·) with
  | true => rw [isOpen, expanded, closed]; rfl
  | false =>
      rw [not_isWithin_of_closed maxDepth row.depth positive closed other (by omega)] at within
      cases within

theorem exists_child_shown (row : Row) (child : Node) (member : row ∈ visibleRows forest 1)
    (first : row.node.children[0]? = some child) (entered : isOpen maxDepth row = true) :
    ⟨row.depth + 1, row.address ++ [0], child⟩ ∈
      (visibleRows forest 1).filter (isWithin maxDepth) := by
  rw [isOpen, Bool.and_eq_true] at entered
  rw [List.mem_filter]
  constructor
  · exact (mem_rowsBy_child _ 1 forest row _ 0 member rfl).mpr ⟨entered.1, first, rfl⟩
  · exact isWithin_of_open maxDepth row.depth entered.2 _ rfl

theorem isOpen_iff_child_shown (row : Row) (member : row ∈ visibleRows forest 1)
    (held : row.node.children ≠ []) :
    isOpen maxDepth row = true ↔ ∃ other ∈ (visibleRows forest 1).filter (isWithin maxDepth),
      other.address.dropLast = row.address := by
  constructor
  · intro entered
    obtain ⟨child, rest, children⟩ := List.exists_cons_of_ne_nil held
    have first : row.node.children[0]? = some child := by rw [children]; rfl
    refine ⟨_, exists_child_shown forest maxDepth row child member first entered, ?_⟩
    exact List.dropLast_concat
  · rintro ⟨other, shown, above⟩
    obtain ⟨index, rest, place, _, _⟩ :=
      (mem_rowsBy_iff _ 1 forest other).mp (List.mem_filter.mp shown).1
    have nonempty : other.address ≠ [] := by simp [place]
    apply isOpen_of_child_shown forest maxDepth row other (other.address.getLast nonempty) member
      shown
    rw [← above, List.dropLast_concat_getLast]

theorem labelled_eq (row : Row) (member : row ∈ visibleRows forest 1) :
    labelled maxDepth row =
      (row.depth, row.node.label ++
        foldMark ((visibleRows forest 1).filter (isWithin maxDepth)) row) := by
  rw [labelled, foldMark]
  congr 2
  by_cases held : row.node.children = []
  · simp [held]
  · have child := isOpen_iff_child_shown forest maxDepth row member held
    cases entered : isOpen maxDepth row with
    | true =>
        obtain ⟨other, shown, above⟩ := child.mp entered
        rw [Bool.true_or, if_pos rfl, if_neg]
        intro folded
        exact folded.2 other shown above
    | false =>
        have folded : ∀ other ∈ (visibleRows forest 1).filter (isWithin maxDepth),
            other.address.dropLast ≠ row.address := by
          intro other shown above
          rw [child.mpr ⟨other, shown, above⟩] at entered
          cases entered
        rw [if_neg (by simpa using held), if_pos ⟨held, folded⟩]
        simp only [dim, styled, List.append_assoc]
        rfl

end Marks

theorem labels_tree (forest : List Node) (title : Text) (expandAll : Bool)
    (maxDepth : Option Int) :
    ((tree forest title expandAll maxDepth).labels 0).map placed =
      (0, "[bold]".toList ++ Markup.escape title ++ "[/bold]".toList) ::
        (shownRows forest expandAll maxDepth).map fun row =>
          (row.depth, row.node.label ++ foldMark (shownRows forest expandAll maxDepth) row) := by
  have opened : branches expandAll maxDepth 1 forest =
      branches false maxDepth 1 (if expandAll then setExpanded true forest else forest) := by
    cases expandAll with
    | true => exact (branches_setExpanded maxDepth 1 forest).symm
    | false => rfl
  have roots (row : Row) (depth : row.depth = 1) : isWithin maxDepth row = true := by
    cases maxDepth with
    | none => rfl
    | some limit =>
        simp only [isWithin, Option.all_some, decide_eq_true_eq]
        omega
  rw [tree, Branch.labels, List.map_cons, opened, shownRows]
  congr 1
  have labels := labels_branches maxDepth 1 (Nat.le_refl 1) [] 0
    (if expandAll then setExpanded true forest else forest) roots
  refine labels.trans ?_
  apply List.map_congr_left
  intro row shown
  exact labelled_eq _ maxDepth row (List.mem_filter.mp shown).1

end Display

end Outliner
