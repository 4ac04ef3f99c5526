import Outliner.Proofs.Files.Found
import Outliner.Proofs.Json.Formation
import Outliner.Proofs.Script.Formation

/-!
Every outline is well-formed, whether of a directory tree, a file, a script or a JSON document: each
node holds children of the kinds that go with its own, and as many as its name or its summary says.
-/

namespace Outliner

section Files

variable (options : Script.Options) (path : Path) (level : Int)

theorem wellFormed_fileNode (children : List Node) (content : IsFileContent children)
    (below : WellFormed children) : WellFormed [fileNode path level children] := by
  rw [wellFormed_cons]
  exact ⟨Node.sound_of_fits _ rfl rfl content, below, wellFormed_nil⟩

theorem wellFormed_emptyFile : WellFormed [fileNode path level []] := by
  apply wellFormed_fileNode
  · exact Or.inl nofun
  · exact wellFormed_nil

theorem wellFormed_format (format : Format) (text address : Text) :
    WellFormed (format.outline text options address level) := by
  cases format with
  | script => exact Script.wellFormed_extract options ⟨address, level⟩ (Text.lines text)
  | json => exact Json.wellFormed_outline text level address

theorem isFileContent_format (format : Format) (text address : Text) :
    IsFileContent (format.outline text options address level) := by
  cases format with
  | script => exact Or.inl (Script.ofKinds_extract options ⟨address, level⟩ (Text.lines text))
  | json => exact Json.isFileContent_outline text level address

theorem wellFormed_outlineRead (contents : Except Trouble (List UInt8)) :
    WellFormed [(outlineRead options path level contents).1] := by
  unfold outlineRead
  split
  · exact wellFormed_emptyFile path level
  · exact wellFormed_emptyFile path level
  · next format bytes _ =>
      apply wellFormed_fileNode
      · exact isFileContent_format options (level + 1) format _ path.toText
      · exact wellFormed_format options (level + 1) format _ path.toText

end Files

section Folders

variable (rules : ScanRules) (path : Path) (level : Int)

theorem wellFormed_folderNode (children : List Node) (kinds : OfKinds [.folder, .file] children)
    (below : WellFormed children) : WellFormed [folderNode path level children] := by
  rw [wellFormed_cons]
  exact ⟨Node.sound_of_fits _ rfl rfl kinds, below, wellFormed_nil⟩

theorem ofKinds_childrenOf (entries : List (Text × Entry)) :
    OfKinds [.folder, .file] (childrenOf (foundIn rules path level entries)) := by
  intro node member
  obtain ⟨named, _, made⟩ := (mem_childrenOf rules level path entries node).mp member
  rw [kind_found rules (path.child named.1) level named.2 node made]
  split <;> simp

theorem wellFormed_childrenOf (entries : List (Text × Entry))
    (each : ∀ named ∈ entries, ∀ node, (foundAt rules path level named).node = some node →
      WellFormed [node]) :
    WellFormed (childrenOf (foundIn rules path level entries)) := by
  rw [wellFormed_iff_roots]
  intro node member
  obtain ⟨named, listed, made⟩ := (mem_childrenOf rules level path entries node).mp member
  have whole := each named listed node made
  rw [wellFormed_cons] at whole
  exact ⟨whole.1, whole.2.1⟩

/-- What a scan makes of an entry is well-formed, by induction on the directory tree. -/
theorem wellFormed_found (entry : Entry) (node : Node)
    (made : (entry.found rules path level).node = some node) : WellFormed [node] := by
  induction entry using Entry.induction generalizing path level node with
  | regular entry contents regular =>
      obtain ⟨_, rfl⟩ := (node_found_regular rules path level entry contents regular node).mp made
      exact wellFormed_outlineRead rules.options path level contents
  | unlistable trouble =>
      rw [node_found_unlistable] at made
      cases made
  | dir entries ih =>
      obtain ⟨_, _, rfl⟩ := (node_found_dir rules path level entries node).mp made
      apply wellFormed_folderNode
      · exact ofKinds_childrenOf rules path (level + 1) entries
      · apply wellFormed_childrenOf
        intro named listed child found
        exact ih named listed (path.child named.1) (level + 1) child found

theorem wellFormed_scanDirectory (root : Entry) :
    WellFormed [(scanDirectory root rules path).1] := by
  have bare : WellFormed [folderNode path 0 []] :=
    wellFormed_folderNode path 0 [] nofun wellFormed_nil
  unfold scanDirectory
  cases root.list path with
  | error trouble => exact bare
  | ok entries =>
      simp only [folderNode?_eq]
      split
      · exact bare
      · apply wellFormed_folderNode
        · exact ofKinds_childrenOf rules path 1 entries
        · apply wellFormed_childrenOf
          intro named _ node made
          exact wellFormed_found rules (path.child named.1) 1 named.2 node made

end Folders

/-- Every outline is well-formed: of whatever a path leads to, of a file, of a script and of a JSON
document. A scan has no outline only for a path that cannot be one. -/
theorem outlines_wellFormed (root : Entry) (rules : ScanRules) (options : Script.Options)
    (path : Path) (level : Int) (lines : List Text) (place : Script.Place)
    (document address : Text) :
    (match scan root rules path with
      | .ok (tree, _) => WellFormed [tree]
      | .error trouble => trouble = .badPath ∨ trouble = .tooLong) ∧
    WellFormed [(outlineFile root options path level).1] ∧
    WellFormed (Script.extract lines options place) ∧
    WellFormed (Json.outline document level address) := by
  refine ⟨?_, wellFormed_outlineRead options path level (root.read path),
    Script.wellFormed_extract options place lines, Json.wellFormed_outline document level address⟩
  rcases scan_cases root rules path with refused | refused | read | listed
  · rw [refused]
    exact Or.inl rfl
  · rw [refused]
    exact Or.inr rfl
  · rw [read]
    exact wellFormed_outlineRead rules.options path 0 (root.read path)
  · rw [listed]
    exact wellFormed_scanDirectory rules path root

end Outliner
