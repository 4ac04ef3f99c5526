import Outliner.Proofs.Outline.Forest

namespace Outliner

def OfKinds (kinds : List Kind) (forest : List Node) : Prop :=
  ∀ node ∈ forest, node.kind ∈ kinds

def arraySummary (count : Nat) : Text :=
  "Array with ".toList ++ Text.ofNat count ++ " items".toList

def objectSummary (count : Nat) : Text :=
  "Object with ".toList ++ Text.ofNat count ++ " properties".toList

def containerTitle : Kind → Option Text
  | .parameter => some "Parameters".toList
  | .localVariable => some "Variables".toList
  | _ => none

def IsFileContent (forest : List Node) : Prop :=
  OfKinds [.classType, .function] forest ∨ OfKinds [.object, .property] forest ∨
    OfKinds [.arrayItem] forest ∨ forest.length = 1 ∧ OfKinds [.error] forest

namespace Node

def GroupsLeaves (node : Node) : Prop :=
  node.children ≠ [] ∧ ∃ itemKind title,
    node.itemKind = some itemKind ∧ containerTitle itemKind = some title ∧
    OfKinds [itemKind] node.children ∧
    node.name = title ++ " (".toList ++ Text.ofNat node.children.length ++ ")".toList

def MatchesSummary (node : Node) : Prop :=
  OfKinds [.arrayItem] node.children ∧ node.lines = [arraySummary node.children.length] ∨
    OfKinds [.object, .property] node.children ∧
      node.lines = [objectSummary node.children.length]

/-- The rule of a node's kind. The containers of a function come in a fixed order, each at most
once. -/
def FitsKind (node : Node) : Prop :=
  match node.kind with
  | .folder => OfKinds [.folder, .file] node.children
  | .file => IsFileContent node.children
  | .classType => OfKinds [.function] node.children
  | .function =>
    (node.children.map fun child => (child.kind, child.itemKind)).Sublist
      [(.container, some .parameter), (.container, some .localVariable)]
  | .container => node.GroupsLeaves
  | .parameter => node.children = []
  | .localVariable => node.children = [] ∧ node.lines.length = 1
  | .object => node.MatchesSummary
  | .arrayItem => node.lines.length = 1 ∧ (node.children = [] ∨ node.MatchesSummary)
  | .property => node.children = []
  | .error => node.children = []

/-- What holds of each node: it is collapsed, only a container has a kind of items, and its kind
fits its children, its lines and its name. -/
structure Sound (node : Node) : Prop where
  collapsed : node.expanded = false
  grouping : node.itemKind.isSome → node.kind = .container
  fits : node.FitsKind

theorem sound_of_fits (node : Node) (collapsed : node.expanded = false)
    (plain : node.itemKind = none) (fits : node.FitsKind) : node.Sound := by
  refine ⟨collapsed, ?_, fits⟩
  intro grouped
  rw [plain] at grouped
  cases grouped

end Node

def WellFormed (forest : List Node) : Prop :=
  ∀ node ∈ preorder forest, node.Sound

theorem wellFormed_nil : WellFormed [] := by
  intro node member
  cases member

theorem wellFormed_cons (node : Node) (rest : List Node) :
    WellFormed (node :: rest) ↔ node.Sound ∧ WellFormed node.children ∧ WellFormed rest := by
  simp only [WellFormed, preorder_cons, List.mem_cons, List.mem_append, or_imp, forall_and,
    forall_eq]

theorem wellFormed_iff_roots (forest : List Node) :
    WellFormed forest ↔ ∀ node ∈ forest, node.Sound ∧ WellFormed node.children := by
  induction forest with
  | nil => simp [wellFormed_nil]
  | cons node rest ih => simp [wellFormed_cons, ih, and_assoc]

theorem wellFormed_root (root : Node) (forest : List Node) (wellFormed : WellFormed forest)
    (member : root ∈ forest) : WellFormed [root] := by
  rw [wellFormed_cons]
  obtain ⟨sound, below⟩ := (wellFormed_iff_roots forest).mp wellFormed root member
  exact ⟨sound, below, wellFormed_nil⟩

theorem wellFormed_append (front back : List Node) :
    WellFormed (front ++ back) ↔ WellFormed front ∧ WellFormed back := by
  simp only [WellFormed, preorder_append, List.mem_append, or_imp, forall_and]

theorem wellFormed_leaf (node : Node) (sound : node.Sound) (childless : node.children = []) :
    WellFormed [node] := by
  rw [wellFormed_cons, childless]
  exact ⟨sound, wellFormed_nil, wellFormed_nil⟩

theorem wellFormed_leaves (leaves : List Node) (sound : ∀ leaf ∈ leaves, leaf.Sound)
    (childless : ∀ leaf ∈ leaves, leaf.children = []) : WellFormed leaves := by
  intro leaf member
  rw [preorder_leaves leaves childless] at member
  exact sound leaf member

end Outliner
