import Outliner.Proofs.Outline.Forest

namespace Outliner

mutual

/-- A tree with other labels: the levels are moved and the path is replaced. -/
def Node.relabel (shift : Int) (path : Text) : Node → Node
  | ⟨name, kind, _, level, expanded, lines, children, itemKind⟩ =>
    ⟨name, kind, path, level + shift, expanded, lines, relabel shift path children, itemKind⟩
termination_by structural node => node

def relabel (shift : Int) (path : Text) : List Node → List Node
  | [] => []
  | node :: rest => node.relabel shift path :: relabel shift path rest
termination_by structural forest => forest

end

theorem Node.relabel_eq (shift : Int) (path : Text) (node : Node) :
    node.relabel shift path =
      { node with path := path, level := node.level + shift,
                  children := Outliner.relabel shift path node.children } := by
  cases node
  rfl

theorem relabel_eq_map (shift : Int) (path : Text) (forest : List Node) :
    relabel shift path forest = forest.map (Node.relabel shift path) := by
  induction forest with
  | nil => rfl
  | cons node rest ih => rw [relabel, ih, List.map_cons]

theorem path_of_relabelled (shift : Int) (path : Text) (forest : List Node) :
    ∀ node ∈ preorder (relabel shift path forest), node.path = path := by
  have each (root : Node) : ∀ node ∈ preorder [root.relabel shift path], node.path = path := by
    induction root using Node.induction with
    | step root ih =>
        intro node member
        rw [Node.relabel_eq, mem_preorder_root, relabel_eq_map, mem_preorder] at member
        rcases member with rfl | ⟨moved, listed, own⟩
        · rfl
        · rcases List.mem_map.mp listed with ⟨child, below, rfl⟩
          exact ih child below node ((mem_preorder_root node _).mpr own)
  intro node member
  rw [relabel_eq_map, mem_preorder] at member
  rcases member with ⟨moved, listed, own⟩
  rcases List.mem_map.mp listed with ⟨root, _, rfl⟩
  exact each root node ((mem_preorder_root node _).mpr own)

def AtLevel (level : Int) (forest : List Node) : Prop :=
  ∀ address node, nodeAt? forest address = some node → node.level + 1 = level + address.length

theorem atLevel_iff_roots (level : Int) (forest : List Node) :
    AtLevel level forest ↔
      ∀ node ∈ forest, node.level = level ∧ AtLevel (level + 1) node.children := by
  constructor
  · intro all node member
    rcases List.mem_iff_getElem?.mp member with ⟨index, found⟩
    constructor
    · have own := all [index] node found
      simp only [List.length_singleton] at own
      omega
    · intro address below inside
      cases address with
      | nil => cases inside
      | cons next rest =>
          have there : nodeAt? forest (index :: next :: rest) = some below := by
            simp only [nodeAt?, found]
            exact inside
          have deeper := all (index :: next :: rest) below there
          simp only [List.length_cons] at deeper ⊢
          omega
  · intro roots address node found
    cases address with
    | nil => cases found
    | cons index rest =>
        cases rest with
        | nil =>
            have own := (roots node (List.mem_of_getElem? found)).1
            simp only [List.length_singleton]
            omega
        | cons next rest =>
            rcases Option.bind_eq_some_iff.mp found with ⟨root, there, inside⟩
            have below := (roots root (List.mem_of_getElem? there)).2 (next :: rest) node inside
            simp only [List.length_cons] at below ⊢
            omega

theorem atLevel_nil (level : Int) : AtLevel level [] := by
  rw [atLevel_iff_roots]
  nofun

theorem atLevel_singleton (level : Int) (node : Node) :
    AtLevel level [node] ↔ node.level = level ∧ AtLevel (level + 1) node.children := by
  rw [atLevel_iff_roots, List.forall_mem_singleton]

theorem atLevel_leaves (level : Int) (leaves : List Node)
    (each : ∀ leaf ∈ leaves, leaf.level = level ∧ leaf.children = []) : AtLevel level leaves := by
  rw [atLevel_iff_roots]
  intro leaf member
  rw [(each leaf member).2]
  exact ⟨(each leaf member).1, atLevel_nil (level + 1)⟩

theorem mem_preorder_below (forest : List Node) (node below : Node) (member : node ∈ preorder forest)
    (under : below ∈ preorder node.children) : below ∈ preorder forest := by
  have each (root : Node) : node ∈ preorder [root] → below ∈ preorder [root] := by
    induction root using Node.induction with
    | step root ih =>
        intro inside
        rw [mem_preorder_root] at inside ⊢
        right
        rcases inside with rfl | deeper
        · exact under
        · rcases (mem_preorder node root.children).mp deeper with ⟨child, listed, own⟩
          have found := ih child listed ((mem_preorder_root node child).mpr own)
          rw [mem_preorder]
          exact ⟨child, listed, (mem_preorder_root below child).mp found⟩
  rcases (mem_preorder node forest).mp member with ⟨root, listed, own⟩
  have found := each root ((mem_preorder_root node root).mpr own)
  rw [mem_preorder]
  exact ⟨root, listed, (mem_preorder_root below root).mp found⟩

def FilesLabelled (forest : List Node) : Prop :=
  ∀ file ∈ preorder forest, file.kind = .file → ∀ node ∈ preorder file.children,
    node.path = file.path

theorem filesLabelled_of_path (path : Text) (forest : List Node)
    (same : ∀ node ∈ preorder forest, node.path = path) : FilesLabelled forest := by
  intro file member _ node below
  have inside := mem_preorder_below forest file node member below
  rw [same file member, same node inside]

theorem filesLabelled_iff_roots (forest : List Node) :
    FilesLabelled forest ↔ ∀ root ∈ forest, FilesLabelled [root] := by
  simp only [FilesLabelled]
  constructor
  · intro all root listed file member
    apply all file
    rw [mem_preorder]
    exact ⟨root, listed, (mem_preorder_root file root).mp member⟩
  · intro roots file member
    rcases (mem_preorder file forest).mp member with ⟨root, listed, own⟩
    exact roots root listed file ((mem_preorder_root file root).mpr own)

end Outliner
