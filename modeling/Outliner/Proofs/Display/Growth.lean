import Outliner.Proofs.Display.Folding

/-!
A printed tree as a loop with a stack grows it, one branch after another. At every moment the tree
that has grown and the nodes that are left make up the same tree.
-/

namespace Outliner.Display

def Branch.childrenAt : List Nat → Branch → List Branch
  | [], .mk _ children => children
  | index :: address, .mk _ children =>
    (children[index]?.map fun child => childrenAt address child).getD []

def Branch.grow (change : List Branch → List Branch) : List Nat → Branch → Branch
  | [], .mk label children => .mk label (change children)
  | index :: address, .mk label children => .mk label (children.modify index (grow change address))

theorem Branch.grow_append (change : List Branch → List Branch) (front : List Nat) (index : Nat)
    (whole : Branch) :
    whole.grow change (front ++ [index]) =
      whole.grow (fun siblings => siblings.modify index (grow change [])) front := by
  induction front generalizing whole with
  | nil =>
      obtain ⟨label, children⟩ := whole
      rfl
  | cons first front ih =>
      obtain ⟨label, children⟩ := whole
      rw [List.cons_append, grow, grow]
      congr 2
      funext child
      exact ih child

theorem Branch.grow_grow (first second : List Branch → List Branch) (address : List Nat)
    (whole : Branch) :
    (whole.grow first address).grow second address =
      whole.grow (fun siblings => second (first siblings)) address := by
  induction address generalizing whole with
  | nil =>
      obtain ⟨label, children⟩ := whole
      rfl
  | cons index address ih =>
      obtain ⟨label, children⟩ := whole
      rw [grow, grow, grow, List.modify_modify_eq]
      congr 2
      funext child
      exact ih child

theorem Branch.grow_same (address : List Nat) (whole : Branch) :
    whole.grow (fun siblings => siblings) address = whole := by
  induction address generalizing whole with
  | nil =>
      obtain ⟨label, children⟩ := whole
      rfl
  | cons index address ih =>
      obtain ⟨label, children⟩ := whole
      have same : grow (fun siblings => siblings) address = id := by
        funext child
        exact ih child
      rw [grow, same, List.modify_id]

theorem Branch.grow_congr (first second : List Branch → List Branch) (address : List Nat)
    (whole : Branch) (same : first (whole.childrenAt address) = second (whole.childrenAt address)) :
    whole.grow first address = whole.grow second address := by
  induction address generalizing whole with
  | nil =>
      obtain ⟨label, children⟩ := whole
      exact congrArg (Branch.mk label) same
  | cons index address ih =>
      obtain ⟨label, children⟩ := whole
      rw [grow, grow]
      congr 1
      apply List.ext_getElem?
      intro place
      rw [List.getElem?_modify, List.getElem?_modify]
      by_cases here : index = place
      · subst here
        cases found : children[index]? with
        | none => rfl
        | some child =>
            rw [childrenAt, found] at same
            simp [ih child same]
      · simp [here]

structure Task where
  parent : List Nat
  node : Node
  depth : Int

/-- The tree as far as it has grown, and the nodes that are left, of which the next comes first. -/
structure Growth where
  whole : Branch
  pending : List Task

namespace Growth

variable (expandAll : Bool) (maxDepth : Option Int)

def start (forest : List Node) (title : Text) : Growth where
  whole := .mk (styled "bold".toList (Markup.escape title)) []
  pending := forest.map (⟨[], ·, 1⟩)

def opens (task : Task) : Bool :=
  task.node.hasChildren && (expandAll || task.node.expanded) && maxDepth.all (task.depth < ·)

def labelOf (task : Task) : Text :=
  if task.node.hasChildren && !opens expandAll maxDepth task then
    task.node.label ++ ' ' ::
      dim ("(+".toList ++ Text.ofNat task.node.children.length ++ ")".toList)
  else task.node.label

def tasksBelow (parent : List Nat) (task : Task) : List Task :=
  if opens expandAll maxDepth task then task.node.children.map (⟨parent, ·, task.depth + 1⟩) else []

def add (whole : Branch) (task : Task) (rest : List Task) : Growth where
  whole := whole.grow (· ++ [.mk (labelOf expandAll maxDepth task) []]) task.parent
  pending := tasksBelow expandAll maxDepth
    (task.parent ++ [(whole.childrenAt task.parent).length]) task ++ rest

def step : Growth → Growth
  | ⟨whole, []⟩ => ⟨whole, []⟩
  | ⟨whole, task :: rest⟩ => add expandAll maxDepth whole task rest

def fill (whole : Branch) (task : Task) : Branch :=
  whole.grow (· ++ [branch expandAll maxDepth task.depth task.node]) task.parent

def complete (growth : Growth) : Branch :=
  growth.pending.foldl (fill expandAll maxDepth) growth.whole

noncomputable def load : List Task → Nat
  | [] => 0
  | task :: rest => sizeOf task.node + load rest

theorem load_append (front back : List Task) : load (front ++ back) = load front + load back := by
  induction front with
  | nil => simp [load]
  | cons task front ih =>
      rw [List.cons_append, load, load, ih]
      omega

theorem load_children (parent : List Nat) (depth : Int) (children : List Node) :
    load (children.map (⟨parent, ·, depth⟩)) ≤ sizeOf children := by
  induction children with
  | nil => simp [load]
  | cons child rest ih =>
      simp only [List.map_cons, load, List.cons.sizeOf_spec]
      omega

theorem load_add (whole : Branch) (task : Task) (rest : List Task) :
    load (add expandAll maxDepth whole task rest).pending < load (task :: rest) := by
  have below : sizeOf task.node.children < sizeOf task.node := by
    cases task.node
    simp only [Node.mk.sizeOf_spec]
    omega
  rw [add, load_append, load, tasksBelow]
  split
  · have children := load_children (task.parent ++ [(whole.childrenAt task.parent).length])
      (task.depth + 1) task.node.children
    omega
  · rw [load]
    omega

theorem load_step (growth : Growth) (busy : growth.pending ≠ []) :
    load (growth.step expandAll maxDepth).pending < load growth.pending := by
  obtain ⟨whole, pending⟩ := growth
  cases pending with
  | nil => exact absurd rfl busy
  | cons task rest => exact load_add expandAll maxDepth whole task rest

def run (growth : Growth) : Branch :=
  if growth.pending = [] then growth.whole else run (growth.step expandAll maxDepth)
termination_by load growth.pending
decreasing_by exact load_step expandAll maxDepth growth ‹_›

theorem foldl_fill (parent : List Nat) (depth : Int) (forest : List Node) (whole : Branch) :
    (forest.map (⟨parent, ·, depth⟩)).foldl (fill expandAll maxDepth) whole =
      whole.grow (· ++ branches expandAll maxDepth depth forest) parent := by
  induction forest generalizing whole with
  | nil =>
      rw [branches]
      simp only [List.append_nil]
      exact (whole.grow_same parent).symm
  | cons node rest ih =>
      rw [List.map_cons, List.foldl_cons, ih, fill, Branch.grow_grow, branches]
      simp only [List.append_assoc, List.singleton_append]

theorem branch_eq_labelOf (task : Task) :
    branch expandAll maxDepth task.depth task.node =
      .mk (labelOf expandAll maxDepth task)
        (if opens expandAll maxDepth task then
          branches expandAll maxDepth (task.depth + 1) task.node.children
        else []) := by
  obtain ⟨parent, node, depth⟩ := task
  rw [branch_eq, labelOf, opens, Node.hasChildren, Bool.and_assoc]
  cases (expandAll || node.expanded) && maxDepth.all (depth < ·) with
  | true =>
      cases node.children with
      | nil => simp [branches]
      | cons child rest => simp
  | false =>
      cases node.children with
      | nil => simp [branches]
      | cons child rest => simp

theorem complete_step (growth : Growth) :
    (growth.step expandAll maxDepth).complete expandAll maxDepth =
      growth.complete expandAll maxDepth := by
  obtain ⟨whole, pending⟩ := growth
  cases pending with
  | nil => rfl
  | cons task rest =>
      rw [step, add, complete, complete, List.foldl_append, List.foldl_cons]
      congr 1
      rw [fill, branch_eq_labelOf, tasksBelow]
      split
      · -- The children go below the branch just added, which is the last one of its parent.
        rw [foldl_fill, Branch.grow_append, Branch.grow_grow]
        apply Branch.grow_congr
        rw [modify_append_cons]
        rfl
      · rfl

theorem run_eq_complete (growth : Growth) :
    growth.run expandAll maxDepth = growth.complete expandAll maxDepth := by
  fun_induction run expandAll maxDepth growth with
  | case1 growth idle => rw [complete, idle, List.foldl_nil]
  | case2 growth busy ih => rw [ih, complete_step]

theorem run_start (forest : List Node) (title : Text) :
    (start forest title).run expandAll maxDepth = tree forest title expandAll maxDepth := by
  rw [run_eq_complete, complete, start, foldl_fill]
  rfl

end Growth

/-- A printed tree shows the visible rows of its forest down to a depth, in their order and at their
depths. A node tells the number of its children exactly if it has some and shows none. Both the tree
and the rows are those of the loops that make them. -/
theorem tree_shows_visible_rows (forest : List Node) (title : Text) (expandAll : Bool)
    (maxDepth : Option Int) :
    (Growth.start forest title).run expandAll maxDepth = tree forest title expandAll maxDepth ∧
    (∀ shown depth, Frame.rows [⟨depth, [], 0, shown⟩] = visibleRows shown depth) ∧
    ((tree forest title expandAll maxDepth).labels 0).map placed =
      (0, "[bold]".toList ++ Markup.escape title ++ "[/bold]".toList) ::
        (shownRows forest expandAll maxDepth).map fun row =>
          (row.depth, row.node.label ++ foldMark (shownRows forest expandAll maxDepth) row) :=
  ⟨Growth.run_start expandAll maxDepth forest title, Frame.rows_of_forest,
    labels_tree forest title expandAll maxDepth⟩

end Outliner.Display
