import Outliner.Proofs.Files.Found
import Outliner.Proofs.Json.Formation
import Outliner.Proofs.Json.Mirror
import Outliner.Proofs.Script.Transport

/-!
Labels of outlines. The level and the path that an outline is asked for only label its nodes. So in
the tree of a scan every level is the distance from the root, and what is in a file carries the path
of the file.
-/

namespace Outliner

namespace Json

variable (path : Text) (level : Int)

theorem level_node (entry : Entry) : (entry.node path level).level = level := by
  cases entry with
  | member name value =>
      simp only [Entry.node, Entry.header]
      split <;> rfl
  | item index value => rfl
  | whole value => rfl

theorem header_moved (entry : Entry) (shift : Int) (target : Text) :
    entry.header target (level + shift) =
      { entry.header path level with path := target, level := level + shift } := by
  cases entry with
  | member name value =>
      simp only [Entry.header]
      split <;> rfl
  | item index value => rfl
  | whole value => rfl

theorem relabel_node (entry : Entry) (shift : Int) (target : Text)
    (below : relabel shift target (entry.value.parts path (level + 1)) =
      entry.value.parts target (level + 1 + shift)) :
    (entry.node path level).relabel shift target = entry.node target (level + shift) := by
  have deeper : level + 1 + shift = level + shift + 1 := by omega
  have own := level_node path level entry
  rw [Entry.node] at own
  rw [Node.relabel_eq, Entry.node, Entry.node, header_moved path level entry shift target, below,
    deeper, own]

theorem relabel_parts (shift : Int) (target : Text) (value : Value) :
    relabel shift target (value.parts path level) = value.parts target (level + shift) := by
  induction value using Value.induction generalizing level with
  | step value ih =>
      rw [parts_eq_entries, parts_eq_entries, relabel_eq_map, List.map_map]
      apply List.map_congr_left
      intro entry member
      exact relabel_node path level entry shift target (ih entry member (level + 1))

theorem relabel_mirror (shift : Int) (target : Text) (value : Value) :
    relabel shift target (mirror value level path) = mirror value (level + shift) target := by
  rw [mirror_eq_entries, mirror_eq_entries, relabel_eq_map, List.map_map]
  apply List.map_congr_left
  intro entry _
  exact relabel_node path level entry shift target
    (relabel_parts path (level + 1) shift target entry.value)

theorem relabel_outline (document : Text) (other : Int) (target : Text) :
    outline document other target =
      relabel (other - level) target (outline document level path) := by
  have reached : level + (other - level) = other := by omega
  cases decoded : decode document with
  | ok value =>
      rw [outline_of_decode value _ _ document decoded, outline_of_decode value _ _ document decoded,
        relabel_mirror, reached]
  | error fault =>
      simp only [outline_of_fault document _ _ fault decoded, errorForest, relabel, Node.relabel_eq,
        reached]

theorem path_of_mem_outline (document : Text) :
    ∀ node ∈ preorder (outline document level path), node.path = path := by
  rw [relabel_outline path level document level path]
  exact path_of_relabelled _ _ _

theorem atLevel_outline (document : Text) : AtLevel level (outline document level path) := by
  cases decoded : decode document with
  | ok value =>
      rw [outline_of_decode value level path document decoded]
      intro address node found
      rw [nodeAt?_mirror] at found
      rcases Option.map_eq_some_iff.mp found with ⟨entry, _, rfl⟩
      rw [level_node]
      omega
  | error fault =>
      rw [outline_of_fault document level path fault decoded]
      apply atLevel_leaves
      intro leaf member
      rw [List.mem_singleton.mp member]
      exact ⟨rfl, rfl⟩

end Json

def Labelled (level : Int) (forest : List Node) : Prop :=
  AtLevel level forest ∧ FilesLabelled forest

theorem labelled_of_roots (level : Int) (forest : List Node)
    (each : ∀ node ∈ forest, Labelled level [node]) : Labelled level forest := by
  constructor
  · rw [atLevel_iff_roots]
    intro node member
    exact (atLevel_singleton level node).mp (each node member).1
  · rw [filesLabelled_iff_roots]
    intro node member
    exact (each node member).2

section Files

variable (options : Script.Options) (path : Path) (level : Int)

theorem atLevel_format (format : Format) (text address : Text) :
    AtLevel level (format.outline text options address level) := by
  cases format with
  | script => exact Script.atLevel_extract options ⟨address, level⟩ (Text.lines text)
  | json => exact Json.atLevel_outline address level text

theorem path_of_mem_format (format : Format) (text address : Text) :
    ∀ node ∈ preorder (format.outline text options address level), node.path = address := by
  cases format with
  | script => exact Script.path_of_mem_extract options ⟨address, level⟩ (Text.lines text)
  | json => exact Json.path_of_mem_outline address level text

theorem labelled_fileNode (children : List Node) (levels : AtLevel (level + 1) children)
    (paths : ∀ node ∈ preorder children, node.path = path.toText) :
    Labelled level [fileNode path level children] := by
  constructor
  · rw [atLevel_singleton]
    exact ⟨rfl, levels⟩
  · apply filesLabelled_of_path path.toText
    intro node member
    rcases (mem_preorder_root node _).mp member with rfl | below
    · rfl
    · exact paths node below

theorem labelled_outlineRead (contents : Except Trouble (List UInt8)) :
    Labelled level [(outlineRead options path level contents).1] := by
  have empty : Labelled level [fileNode path level []] :=
    labelled_fileNode path level [] (atLevel_nil (level + 1)) nofun
  unfold outlineRead
  split
  · exact empty
  · exact empty
  · next format bytes _ =>
      apply labelled_fileNode
      · exact atLevel_format options (level + 1) format _ path.toText
      · exact path_of_mem_format options (level + 1) format _ path.toText

end Files

section Folders

variable (rules : ScanRules) (path : Path) (level : Int)

theorem labelled_folderNode (children : List Node) (below : Labelled (level + 1) children) :
    Labelled level [folderNode path level children] := by
  constructor
  · rw [atLevel_singleton]
    exact ⟨rfl, below.1⟩
  · intro file member own
    rcases (mem_preorder_root file _).mp member with rfl | inside
    · cases own
    · exact below.2 file inside own

theorem labelled_childrenOf (entries : List (Text × Entry))
    (each : ∀ named ∈ entries, ∀ node, (foundAt rules path level named).node = some node →
      Labelled level [node]) :
    Labelled level (childrenOf (foundIn rules path level entries)) := by
  apply labelled_of_roots
  intro node member
  rcases (mem_childrenOf rules level path entries node).mp member with ⟨named, listed, made⟩
  exact each named listed node made

/-- What a scan makes of an entry is labelled from its level on, by induction on the directory
tree. -/
theorem labelled_found (entry : Entry) (node : Node)
    (made : (entry.found rules path level).node = some node) : Labelled level [node] := by
  induction entry using Entry.induction generalizing path level node with
  | regular entry contents regular =>
      obtain ⟨_, rfl⟩ := (node_found_regular rules path level entry contents regular node).mp made
      exact labelled_outlineRead rules.options path level contents
  | unlistable trouble =>
      rw [node_found_unlistable] at made
      cases made
  | dir entries ih =>
      obtain ⟨_, _, rfl⟩ := (node_found_dir rules path level entries node).mp made
      apply labelled_folderNode
      apply labelled_childrenOf
      intro named listed child found
      exact ih named listed (path.child named.1) (level + 1) child found

theorem labelled_scanDirectory (root : Entry) :
    Labelled 0 [(scanDirectory root rules path).1] := by
  have bare : Labelled 0 [folderNode path 0 []] := by
    apply labelled_folderNode
    apply labelled_of_roots
    nofun
  unfold scanDirectory
  cases root.list path with
  | error trouble => exact bare
  | ok entries =>
      simp only [folderNode?_eq]
      split
      · exact bare
      · apply labelled_folderNode
        apply labelled_childrenOf
        intro named _ node made
        exact labelled_found rules (path.child named.1) 1 named.2 node made

end Folders

theorem level_of_labelled (tree : Node) (labelled : Labelled 0 [tree]) (address : List Nat)
    (node : Node) (found : nodeAt? [tree] (0 :: address) = some node) :
    node.level = address.length := by
  have own := labelled.1 (0 :: address) node found
  simp only [List.length_cons] at own
  omega

/-- Level and path only label an outline: of the same script, or of the same document, two outlines
differ in nothing else. In the tree of a scan each node has its distance from the root as its level,
and each node in a file has the path of the file. A scan has no tree only for a path that cannot be
one. -/
theorem outlines_differ_in_labels (lines : List Text) (options : Script.Options)
    (place target : Script.Place) (document path address : Text) (level other : Int)
    (root : Entry) (rules : ScanRules) (start : Path) :
    Script.extract lines options target =
      relabel (target.level - place.level) target.path (Script.extract lines options place) ∧
    Json.outline document other address =
      relabel (other - level) address (Json.outline document level path) ∧
    match scan root rules start with
    | .ok (tree, _) =>
      (∀ address node, nodeAt? [tree] (0 :: address) = some node → node.level = address.length) ∧
      ∀ file ∈ preorder [tree], file.kind = .file → ∀ node ∈ preorder file.children,
        node.path = file.path
    | .error trouble => trouble = .badPath ∨ trouble = .tooLong := by
  refine ⟨Script.relabel_extract options place lines target,
    Json.relabel_outline path level document other address, ?_⟩
  rcases scan_cases root rules start with refused | refused | read | listed
  · rw [refused]
    exact Or.inl rfl
  · rw [refused]
    exact Or.inr rfl
  · have labelled := labelled_outlineRead rules.options start 0 (root.read start)
    rw [read]
    exact ⟨level_of_labelled _ labelled, labelled.2⟩
  · have labelled := labelled_scanDirectory rules start root
    rw [listed]
    exact ⟨level_of_labelled _ labelled, labelled.2⟩

end Outliner
