import Outliner.Proofs.Outline.Addresses

namespace Outliner

theorem Node.toggle_toggle (node : Node) : node.toggle.toggle = node := by
  cases node
  simp [Node.toggle]

/-- Flipping a flag twice changes nothing, by induction on the address. -/
theorem modifyAt_modifyAt (address : List Nat) (forest : List Node) :
    modifyAt Node.toggle address (modifyAt Node.toggle address forest) = forest := by
  induction address generalizing forest with
  | nil => rfl
  | cons index address ih =>
      have twice (node : Node) : toggleBelow address (toggleBelow address node) = node := by
        cases address with
        | nil => exact node.toggle_toggle
        | cons next address =>
            exact node.with_children _ (ih node.children).symm
      rw [modifyAt_cons, modifyAt_cons]
      apply List.ext_getElem?
      intro position
      rw [List.getElem?_modify, List.getElem?_modify]
      cases forest[position]? with
      | none => rfl
      | some node =>
          by_cases here : index = position
          · simp [here, twice]
          · simp [here]

/-- A row of a forest in which the flag at an address is flipped: the nodes on the way to the address
change with it. -/
def Row.toggledAt (target : List Nat) (row : Row) : Row :=
  if row.address <+: target then
    { row with node := toggleBelow (target.drop row.address.length) row.node }
  else row

theorem agreesWith_toggleBelow (address : List Nat) (node : Node) :
    (toggleBelow address node).AgreesWith node := by
  cases address with
  | nil => exact ⟨rfl, rfl, rfl, rfl, rfl, rfl, rfl⟩
  | cons index address =>
      exact ⟨rfl, rfl, rfl, rfl, rfl, rfl, length_modifyAt (index :: address) node.children⟩

section ToggledRows

variable (row : Row) (target : List Nat)

theorem Row.depth_toggledAt : (row.toggledAt target).depth = row.depth := by
  rw [Row.toggledAt]
  split <;> rfl

theorem Row.address_toggledAt : (row.toggledAt target).address = row.address := by
  rw [Row.toggledAt]
  split <;> rfl

theorem Row.agreesWith_toggledAt : (row.toggledAt target).node.AgreesWith row.node := by
  rw [Row.toggledAt]
  split
  · exact agreesWith_toggleBelow _ row.node
  · exact ⟨rfl, rfl, rfl, rfl, rfl, rfl, rfl⟩

theorem Row.expanded_toggledAt (apart : row.address ≠ target) :
    (row.toggledAt target).node.expanded = row.node.expanded := by
  rw [Row.toggledAt]
  split
  · next above =>
      rcases above with ⟨rest, rfl⟩
      cases rest with
      | nil => exact absurd (List.append_nil row.address).symm apart
      | cons index rest => rw [List.drop_left]; rfl
  · rfl

end ToggledRows

/-- A row of the forest below an address, as a row of the whole. -/
def Row.below (parent : List Nat) (row : Row) : Row :=
  { row with address := parent ++ row.address }

mutual

theorem Node.rowsBy_below (enter : Node → Bool) (parent : List Nat) (depth : Int)
    (address : List Nat) (node : Node) :
    node.rowsBy enter depth (parent ++ address) =
      (node.rowsBy enter depth address).map (Row.below parent) := by
  cases node with
  | mk name kind path level expanded lines children itemKind =>
      simp only [Node.rowsBy, List.map_cons]
      congr 1
      split
      · exact Outliner.rowsBy_below enter parent (depth + 1) address 0 children
      · rfl
termination_by structural node

theorem rowsBy_below (enter : Node → Bool) (parent : List Nat) (depth : Int)
    (address : List Nat) (first : Nat) (forest : List Node) :
    rowsBy enter depth (parent ++ address) first forest =
      (rowsBy enter depth address first forest).map (Row.below parent) := by
  cases forest with
  | nil => rfl
  | cons node rest =>
      rw [rowsBy, rowsBy, List.map_append, List.append_assoc,
        Node.rowsBy_below enter parent depth (address ++ [first]) node,
        rowsBy_below enter parent depth address (first + 1) rest]
termination_by structural forest

end

/-- The row of a node, followed by those below it if it is expanded. -/
def Row.shown (row : Row) : List Row :=
  row.node.rowsBy Node.expanded row.depth row.address

structure CutAround (row : Row) (old new front back : List Row) : Prop where
  old : old = front ++ (row.shown ++ back)
  new : new = front.map (Row.toggledAt row.address) ++
    (Row.shown { row with node := row.node.toggle } ++ back)
  rises : ∀ next ∈ back.head?, next.depth ≤ row.depth

section Siblings

variable (enter : Node → Bool) (depth : Int) (parent : List Nat)

theorem rowsBy_append (first : Nat) (front back : List Node) :
    rowsBy enter depth parent first (front ++ back) =
      rowsBy enter depth parent first front ++
        rowsBy enter depth parent (first + front.length) back := by
  induction front generalizing first with
  | nil => rfl
  | cons node rest ih =>
      rw [List.cons_append, rowsBy, rowsBy, ih, List.append_assoc, List.length_cons,
        Nat.add_right_comm, Nat.add_assoc]

theorem depth_head_rowsBy (first : Nat) (forest : List Node) :
    ∀ row ∈ (rowsBy enter depth parent first forest).head?, row.depth = depth := by
  cases forest with
  | nil => nofun
  | cons node rest =>
      intro row member
      rw [rowsBy, Node.rowsBy_eq, List.cons_append, List.head?_cons, Option.mem_some_iff] at member
      rw [← member]

theorem toggledAt_siblings (first index : Nat) (rest : List Nat) (siblings : List Node)
    (earlier : first + siblings.length ≤ index) :
    (rowsBy enter depth parent first siblings).map (Row.toggledAt (parent ++ index :: rest)) =
      rowsBy enter depth parent first siblings := by
  apply (List.map_congr_left ?_).trans (List.map_id _)
  intro row member
  rcases (mem_rowsBy enter depth parent first siblings row).mp member with
    ⟨position, node, found, inside⟩
  rcases (Node.mem_rowsBy_iff enter _ _ node row).mp inside with ⟨below, place, _⟩
  have within := (List.getElem?_eq_some_iff.mp found).1
  have apart : ¬ row.address <+: parent ++ index :: rest := by
    rw [place, List.append_assoc, List.prefix_append_right_inj, List.singleton_append,
      List.cons_prefix_cons]
    omega
  rw [Row.toggledAt, if_neg apart, id]

end Siblings

theorem Row.shown_eq (row : Row) : row.shown = row ::
    if row.node.expanded then
      rowsBy Node.expanded (row.depth + 1) row.address 0 row.node.children
    else [] := by
  rw [Row.shown, Node.rowsBy_eq]

theorem exists_around {α : Type} (items : List α) (index : Nat) (item : α)
    (found : items[index]? = some item) :
    ∃ front back, items = front ++ item :: back ∧ front.length = index := by
  rcases List.getElem?_eq_some_iff.mp found with ⟨within, same⟩
  refine ⟨items.take index, items.drop (index + 1), ?_, ?_⟩
  · rw [← same, List.getElem_cons_drop, List.take_append_drop]
  · exact List.length_take_of_le (Nat.le_of_lt within)

/-- The rows of siblings, cut around the row that an address of expanded nodes leads to. By induction
on the steps of the way: each goes one list of siblings further down. -/
theorem exists_cut (rest : List Nat) (index first : Nat) (depth : Int) (parent : List Nat)
    (forest : List Node) (node : Node)
    (reached : forest[index]?.bind (Node.reach? Node.expanded rest) = some node) :
    ∃ front back, CutAround ⟨depth + rest.length, parent ++ (first + index) :: rest, node⟩
      (rowsBy Node.expanded depth parent first forest)
      (rowsBy Node.expanded depth parent first (modifyAt Node.toggle (index :: rest) forest))
      front back := by
  induction rest generalizing index first depth parent forest with
  | nil =>
      cases found : forest[index]? with
      | none => simp [found] at reached
      | some top =>
          rw [found] at reached
          injection reached with same
          subst same
          rcases exists_around forest index top found with ⟨earlier, later, rfl, rfl⟩
          refine ⟨rowsBy Node.expanded depth parent first earlier,
            rowsBy Node.expanded depth parent (first + earlier.length + 1) later, ?_, ?_, ?_⟩
          · rw [rowsBy_append, rowsBy, Row.shown]
            simp
          · rw [modifyAt_cons, modify_append_cons, rowsBy_append, rowsBy, Row.shown,
              toggledAt_siblings _ _ _ _ _ _ _ (Nat.le_refl _)]
            simp [toggleBelow]
          · intro next member
            rw [depth_head_rowsBy _ _ _ _ _ next member]
            simp
  | cons next rest ih =>
      cases found : forest[index]? with
      | none => simp [found] at reached
      | some top =>
          rw [found, Option.bind_some, Node.reach?] at reached
          split at reached
          · next expanded =>
              rcases exists_around forest index top found with ⟨earlier, later, rfl, rfl⟩
              rcases ih next 0 (depth + 1) (parent ++ [first + earlier.length]) top.children reached
                with ⟨front, back, cut⟩
              have place : parent ++ (first + earlier.length) :: next :: rest =
                  parent ++ [first + earlier.length] ++ (0 + next) :: rest := by simp
              have deep : depth + ((next :: rest).length : Int) = depth + 1 + rest.length := by
                rw [List.length_cons]
                omega
              have onTheWay : Row.toggledAt (parent ++ [first + earlier.length] ++ (0 + next) :: rest)
                  ⟨depth, parent ++ [first + earlier.length], top⟩ =
                  ⟨depth, parent ++ [first + earlier.length], toggleBelow (next :: rest) top⟩ := by
                rw [Row.toggledAt, if_pos (List.prefix_append _ _), List.drop_left, Nat.zero_add]
              have stays := toggledAt_siblings Node.expanded depth parent first
                (first + earlier.length) (next :: rest) earlier (Nat.le_refl _)
              rw [place] at stays
              rw [place, deep]
              refine ⟨rowsBy Node.expanded depth parent first earlier ++
                  ⟨depth, parent ++ [first + earlier.length], top⟩ :: front,
                back ++ rowsBy Node.expanded depth parent (first + earlier.length + 1) later,
                ?_, ?_, ?_⟩
              · rw [rowsBy_append, rowsBy, Node.rowsBy_eq, if_pos expanded, cut.old]
                simp only [List.append_assoc, List.cons_append]
              · rw [modifyAt_cons, modify_append_cons, rowsBy_append, rowsBy, Node.rowsBy_eq,
                  List.map_append, stays, List.map_cons, onTheWay]
                simp only [toggleBelow, expanded, if_true, cut.new, List.append_assoc,
                  List.cons_append]
              · intro row member
                rw [List.head?_append] at member
                cases last : back.head? with
                | some other =>
                    rw [last] at member
                    injection member with same
                    rw [← same]
                    exact cut.rises other last
                | none =>
                    rw [last, Option.none_or] at member
                    rw [depth_head_rowsBy _ _ _ _ _ row member]
                    change depth ≤ depth + 1 + (rest.length : Int)
                    omega
          · cases reached

theorem drop_past {α : Type} (front : List α) (item : α) (rest : List α) :
    (front ++ item :: rest).drop (front.length + 1) = rest := by
  simp

section Rows

variable (forest : List Node) (depth : Int) (index : Nat) (row : Row)
  (shown : (visibleRows forest depth)[index]? = some row)
include shown

theorem exists_cut_visibleRows :
    ∃ front back, front.length = index ∧ CutAround row (visibleRows forest depth)
      (visibleRows (modifyAt Node.toggle row.address forest) depth) front back := by
  rcases (mem_rowsBy_iff Node.expanded depth forest row).mp (List.mem_of_getElem? shown) with
    ⟨first, rest, place, deep, reached⟩
  rcases exists_cut rest first 0 depth [] forest row.node reached with ⟨front, back, cut⟩
  have same : (⟨depth + rest.length, [] ++ (0 + first) :: rest, row.node⟩ : Row) = row := by
    rw [← deep, List.nil_append, Nat.zero_add, ← place]
  rw [same, ← place] at cut
  refine ⟨front, back, ?_, cut⟩
  -- The row stands at one number only, since the addresses of the rows increase.
  have own : (visibleRows forest depth)[front.length]? = some row := by
    rw [visibleRows, cut.old, List.getElem?_append_right (Nat.le_refl _), Nat.sub_self,
      Row.shown_eq]
    rfl
  have within : index < (visibleRows forest depth).length := (List.getElem?_eq_some_iff.mp shown).1
  have once := (increasing_rowsBy Node.expanded depth [] 0 forest).nodup
  exact ((List.getElem?_inj within once).mp (shown.trans own.symm)).symm

theorem rows_up_to (position : Nat) (early : position ≤ index) (other : Row)
    (known : (visibleRows forest depth)[position]? = some other) :
    ∃ after, (visibleRows (modifyAt Node.toggle row.address forest) depth)[position]? = some after ∧
      after.depth = other.depth ∧ after.address = other.address ∧
      after.node.AgreesWith other.node ∧
      after.node.expanded =
        if position = index then !other.node.expanded else other.node.expanded := by
  rcases exists_cut_visibleRows forest depth index row shown with ⟨front, back, rfl, cut⟩
  rcases Nat.lt_or_eq_of_le early with before | rfl
  · have there : front[position]? = some other := by
      rw [cut.old, List.getElem?_append_left before] at known
      exact known
    have apart : other.address ≠ row.address := by
      intro same
      have increasing := increasing_rowsBy Node.expanded depth [] 0 forest
      rw [Increasing, ← visibleRows, cut.old, Row.shown_eq, List.pairwise_append] at increasing
      have less := increasing.2.2 other (List.mem_of_getElem? there) row (by simp)
      rw [same] at less
      exact List.lt_irrefl row.address less
    refine ⟨other.toggledAt row.address, ?_, other.depth_toggledAt row.address,
      other.address_toggledAt row.address, other.agreesWith_toggledAt row.address, ?_⟩
    · rw [cut.new, List.getElem?_append_left (by simpa using before), List.getElem?_map, there]
      rfl
    · rw [other.expanded_toggledAt row.address apart, if_neg (Nat.ne_of_lt before)]
  · rw [shown] at known
    injection known with same
    subst same
    refine ⟨{ row with node := row.node.toggle }, ?_, rfl, rfl,
      agreesWith_toggleBelow [] row.node, ?_⟩
    · rw [cut.new, Row.shown_eq, List.getElem?_append_right (by simp)]
      simp
    · rw [if_pos rfl]
      rfl

theorem rows_after_collapsed (collapsed : row.node.expanded = false) :
    (visibleRows (modifyAt Node.toggle row.address forest) depth).drop (index + 1) =
      (visibleRows row.node.children (row.depth + 1)).map (Row.below row.address) ++
        (visibleRows forest depth).drop (index + 1) := by
  rcases exists_cut_visibleRows forest depth index row shown with ⟨front, back, rfl, cut⟩
  have before : (visibleRows forest depth).drop (front.length + 1) = back := by
    rw [cut.old, Row.shown_eq, collapsed]
    exact drop_past front row back
  have inserted := rowsBy_below Node.expanded row.address (row.depth + 1) [] 0 row.node.children
  rw [List.append_nil] at inserted
  calc
    _ = rowsBy Node.expanded (row.depth + 1) row.address 0 row.node.children ++ back := by
      have opened : row.node.toggle.expanded = true := by simp [Node.toggle, collapsed]
      have past := drop_past (front.map (Row.toggledAt row.address))
        { row with node := row.node.toggle }
        (rowsBy Node.expanded (row.depth + 1) row.address 0 row.node.children ++ back)
      rw [List.length_map] at past
      rw [cut.new, Row.shown_eq, if_pos opened]
      exact past
    _ = _ := by
      rw [inserted, before]
      rfl

theorem rows_after_expanded (expanded : row.node.expanded = true) :
    (visibleRows (modifyAt Node.toggle row.address forest) depth).drop (index + 1) =
      ((visibleRows forest depth).drop (index + 1)).dropWhile fun other =>
        decide (row.depth < other.depth) := by
  rcases exists_cut_visibleRows forest depth index row shown with ⟨front, back, rfl, cut⟩
  have before : (visibleRows forest depth).drop (front.length + 1) =
      rowsBy Node.expanded (row.depth + 1) row.address 0 row.node.children ++ back := by
    rw [cut.old, Row.shown_eq, if_pos expanded]
    exact drop_past front row _
  have deeper : ∀ other ∈ rowsBy Node.expanded (row.depth + 1) row.address 0 row.node.children,
      decide (row.depth < other.depth) = true := by
    intro other member
    have below := depth_le_of_mem_rowsBy Node.expanded _ _ _ _ other member
    exact decide_eq_true (by omega)
  calc
    _ = back := by
      have closed : row.node.toggle.expanded = false := by simp [Node.toggle, expanded]
      have past := drop_past (front.map (Row.toggledAt row.address))
        { row with node := row.node.toggle } back
      rw [List.length_map] at past
      rw [cut.new, Row.shown_eq, closed]
      exact past
    _ = back.dropWhile (fun other => decide (row.depth < other.depth)) := by
      cases rest : back with
      | nil => rfl
      | cons next others =>
          have rises := cut.rises next (by rw [rest]; rfl)
          rw [List.dropWhile_cons_of_neg (by simpa using rises)]
    _ = _ := by rw [before, List.dropWhile_append_of_pos deeper]

end Rows

end Outliner
