import Outliner.Proofs.Browser.Endings
import Outliner.Proofs.Outline.Toggle

/-!
Selecting a row by its number. The visible rows are edited in one place, right after the selected
row, and the same number takes the edit back.
-/

namespace Outliner.Browser

variable (tree : Node) (line : Text) (index : Nat) (row : Row)

theorem turn_row (numbered : Numbers line (index + 1)) (shown : (rows tree)[index]? = some row)
    (held : row.node.children ≠ []) :
    [turn tree line] = modifyAt Node.toggle row.address [tree] := by
  have hasChildren : row.node.hasChildren = true := by simpa [Node.hasChildren] using held
  rw [turn, ofLine_row line (index + 1) numbered, choose_row tree index _ row shown,
    if_pos hasChildren, singleton_modifyAt]

theorem turn_turn_row (again : Text) (numbered : Numbers line (index + 1))
    (repeated : Numbers again (index + 1)) (shown : (rows tree)[index]? = some row)
    (held : row.node.children ≠ []) : turn (turn tree line) again = tree := by
  have flipped := turn_row tree line index row numbered shown held
  rcases rows_up_to [tree] 0 index row shown index (Nat.le_refl index) row shown with
    ⟨after, found, _, place, own, _⟩
  rw [← flipped] at found
  have still : after.node.children ≠ [] := by
    intro empty
    have none : row.node.children.length = 0 := by rw [← own.width, empty, List.length_nil]
    exact held (List.eq_nil_of_length_eq_zero none)
  have back := turn_row (turn tree line) again index after repeated found still
  rw [place, flipped, modifyAt_modifyAt] at back
  injection back

/-- Flipping the flag of a visible row that has children edits the list of visible rows in one place.
Up to that row all keep their depths, their addresses and all fields of their nodes, but the one flag.
What follows it are the rows of its children and then the rows that followed before, if it was
collapsed; if it was expanded, the deeper rows right after it are gone. Flipping the flag on the row
of that number again gives the first forest, and so do two lines with its number in the browser. -/
theorem selecting_edits_rows_in_place (forest : List Node) (depth : Int) (index : Nat) (row : Row)
    (shown : (visibleRows forest depth)[index]? = some row) (held : row.node.children ≠ []) :
    let flipped := modifyAt Node.toggle row.address forest
    let old := visibleRows forest depth
    let new := visibleRows flipped depth
    (∀ position ≤ index, ∀ other ∈ old[position]?, ∃ after ∈ new[position]?,
      after.depth = other.depth ∧ after.address = other.address ∧
      after.node.AgreesWith other.node ∧
      after.node.expanded =
        if position = index then !other.node.expanded else other.node.expanded) ∧
    (row.node.expanded = false → new.drop (index + 1) =
      (visibleRows row.node.children (row.depth + 1)).map (Row.below row.address) ++
        old.drop (index + 1)) ∧
    (row.node.expanded = true → new.drop (index + 1) =
      (old.drop (index + 1)).dropWhile fun other => decide (row.depth < other.depth)) ∧
    (∀ again ∈ new[index]?, modifyAt Node.toggle again.address flipped = forest) ∧
    ∀ tree line again, forest = [tree] → depth = 0 →
      Numbers line (index + 1) → Numbers again (index + 1) →
      [turn tree line] = flipped ∧ turn (turn tree line) again = tree ∧
      rows (turn (turn tree line) again) = rows tree := by
  refine ⟨?_, rows_after_collapsed forest depth index row shown,
    rows_after_expanded forest depth index row shown, ?_, ?_⟩
  · intro position early other known
    exact rows_up_to forest depth index row shown position early other known
  · intro again found
    rcases rows_up_to forest depth index row shown index (Nat.le_refl index) row shown with
      ⟨after, there, _, place, _⟩
    have same : some after = some again := there.symm.trans found
    injection same with same
    rw [← same, place, modifyAt_modifyAt]
  · intro tree line again only top numbered repeated
    subst only top
    have back := turn_turn_row tree line index row again numbered repeated shown held
    refine ⟨turn_row tree line index row numbered shown held, back, ?_⟩
    rw [back]

/-- A shelf with a closed box, in which a bag stands open. -/
def shelfTree : Node :=
  let leaf (name : String) : Node := { name := name.toList, kind := .property }
  let bag : Node :=
    { name := "bag".toList, kind := .object, expanded := true, children := [leaf "pin"] }
  let box : Node := { name := "box".toList, kind := .object, children := [bag, leaf "cup"] }
  { name := "shelf".toList, kind := .object, expanded := true, children := [box, leaf "lamp"] }

def boxRow : Row :=
  ⟨1, [0, 0], shelfTree.children.headD shelfTree⟩

theorem selecting_boxRow :
    (rows shelfTree)[1]? = some boxRow ∧ boxRow.node.children ≠ [] ∧
      (rows (turn shelfTree " 2".toList)).map (fun row => (row.depth, row.node.name)) =
        [(0, "shelf"), (1, "box"), (2, "bag"), (3, "pin"), (2, "cup"), (1, "lamp")].map
          (fun shown => (shown.1, shown.2.toList)) ∧
      turn (turn shelfTree " 2".toList) "٢".toList = shelfTree := by
  have shown : (rows shelfTree)[1]? = some boxRow := rfl
  have held : boxRow.node.children ≠ [] := List.cons_ne_nil _ _
  have first : Numbers " 2".toList 2 :=
    ⟨⟨by decide, List.all_eq_true.mp (by decide)⟩, by decide⟩
  have second : Numbers "٢".toList 2 :=
    ⟨⟨by decide, List.all_eq_true.mp (by decide)⟩, by decide⟩
  have edited := selecting_edits_rows_in_place [shelfTree] 0 1 boxRow shown held
  have back := edited.2.2.2.2 shelfTree _ _ rfl rfl first second
  refine ⟨shown, held, ?_, back.2.1⟩
  rw [rows, back.1]
  rfl

end Outliner.Browser
