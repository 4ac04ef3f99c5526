import Outliner.Outline.Expansion
import Outliner.Proofs.Outline.Forest

namespace Outliner

def Node.reach? (enter : Node → Bool) : List Nat → Node → Option Node
  | [], node => some node
  | index :: address, node =>
    if enter node then node.children[index]?.bind (reach? enter address) else none

section Addresses

variable (enter : Node → Bool)

theorem Node.reach?_append (address : List Nat) (index : Nat) (node : Node) :
    node.reach? enter (address ++ [index]) =
      (node.reach? enter address).bind fun found =>
        if enter found then found.children[index]? else none := by
  induction address generalizing node with
  | nil =>
      rw [List.nil_append, reach?, reach?, Option.bind_some]
      cases node.children[index]? <;> rfl
  | cons first rest ih =>
      rw [List.cons_append, reach?, reach?]
      split
      · rw [Option.bind_assoc]
        congr 1
        funext child
        exact ih child
      · rfl

theorem Node.rowsBy_eq (depth : Int) (address : List Nat) (node : Node) :
    node.rowsBy enter depth address = ⟨depth, address, node⟩ ::
      if enter node then Outliner.rowsBy enter (depth + 1) address 0 node.children else [] := by
  cases node
  rfl

theorem mem_rowsBy (depth : Int) (parent : List Nat) (first : Nat) (forest : List Node)
    (row : Row) :
    row ∈ rowsBy enter depth parent first forest ↔
      ∃ (index : Nat) (node : Node), forest[index]? = some node ∧
        row ∈ node.rowsBy enter depth (parent ++ [first + index]) := by
  induction forest generalizing first with
  | nil => simp [rowsBy]
  | cons node rest ih =>
      rw [rowsBy, List.mem_append, ih (first + 1)]
      constructor
      · rintro (here | ⟨index, other, found, later⟩)
        · exact ⟨0, node, rfl, here⟩
        · refine ⟨index + 1, other, found, ?_⟩
          rwa [show first + (index + 1) = first + 1 + index by omega]
      · rintro ⟨index, other, found, member⟩
        cases index with
        | zero =>
            injection found with same
            rw [← same] at member
            exact Or.inl member
        | succ index =>
            refine Or.inr ⟨index, other, found, ?_⟩
            rwa [show first + 1 + index = first + (index + 1) by omega]

/-- A row below a node stands at an address that the walk reaches, by induction on the node. -/
theorem Node.mem_rowsBy_iff (depth : Int) (address : List Nat) (node : Node) (row : Row) :
    row ∈ node.rowsBy enter depth address ↔ ∃ rest, row.address = address ++ rest ∧
      row.depth = depth + rest.length ∧ node.reach? enter rest = some row.node := by
  induction node using Node.induction generalizing depth address with
  | step node ih =>
      rw [rowsBy_eq, List.mem_cons]
      constructor
      · rintro (rfl | below)
        · exact ⟨[], by simp, by simp, rfl⟩
        · split at below
          · next entered =>
              obtain ⟨index, child, found, member⟩ := (mem_rowsBy enter _ _ _ _ row).mp below
              obtain ⟨rest, place, depth, reached⟩ :=
                (ih child (List.mem_of_getElem? found) _ _).mp member
              refine ⟨index :: rest, ?_, ?_, ?_⟩
              · simpa using place
              · rw [depth, List.length_cons]
                omega
              · rw [reach?, if_pos entered, found]
                exact reached
          · cases below
      · rintro ⟨rest, place, depth, reached⟩
        cases rest with
        | nil =>
            injection reached with same
            obtain ⟨_, _, _⟩ := row
            simp_all
        | cons index rest =>
            rw [reach?] at reached
            split at reached
            · next entered =>
                obtain ⟨child, found, reached⟩ := Option.bind_eq_some_iff.mp reached
                refine Or.inr ?_
                rw [if_pos entered, mem_rowsBy]
                refine ⟨index, child, found, ?_⟩
                rw [ih child (List.mem_of_getElem? found)]
                refine ⟨rest, ?_, ?_, reached⟩
                · simpa using place
                · rw [depth, List.length_cons]
                  omega
            · cases reached

theorem depth_le_of_mem_rowsBy (depth : Int) (parent : List Nat) (first : Nat) (forest : List Node)
    (row : Row) (member : row ∈ rowsBy enter depth parent first forest) : depth ≤ row.depth := by
  obtain ⟨index, node, _, inside⟩ := (mem_rowsBy enter depth parent first forest row).mp member
  obtain ⟨rest, _, own, _⟩ := (Node.mem_rowsBy_iff enter _ _ node row).mp inside
  omega

theorem mem_rowsBy_iff (depth : Int) (forest : List Node) (row : Row) :
    row ∈ rowsBy enter depth [] 0 forest ↔ ∃ index rest, row.address = index :: rest ∧
      row.depth = depth + rest.length ∧
      forest[index]?.bind (Node.reach? enter rest) = some row.node := by
  rw [mem_rowsBy]
  constructor
  · rintro ⟨index, node, found, member⟩
    obtain ⟨rest, place, depth, reached⟩ := (Node.mem_rowsBy_iff enter _ _ node row).mp member
    refine ⟨index, rest, ?_, depth, ?_⟩
    · simpa using place
    · rw [found]
      exact reached
  · rintro ⟨index, rest, place, depth, reached⟩
    obtain ⟨node, found, reached⟩ := Option.bind_eq_some_iff.mp reached
    refine ⟨index, node, found,
      (Node.mem_rowsBy_iff enter _ _ node row).mpr ⟨rest, ?_, depth, reached⟩⟩
    simpa using place

theorem mem_rowsBy_child (depth : Int) (forest : List Node) (row other : Row) (index : Nat)
    (member : row ∈ rowsBy enter depth [] 0 forest)
    (place : other.address = row.address ++ [index]) :
    other ∈ rowsBy enter depth [] 0 forest ↔ enter row.node = true ∧
      row.node.children[index]? = some other.node ∧ other.depth = row.depth + 1 := by
  obtain ⟨first, rest, own, rowDepth, reached⟩ := (mem_rowsBy_iff enter depth forest row).mp member
  obtain ⟨root, found, reached⟩ := Option.bind_eq_some_iff.mp reached
  have below : forest[first]?.bind (Node.reach? enter (rest ++ [index])) =
      if enter row.node then row.node.children[index]? else none := by
    rw [found, Option.bind_some, Node.reach?_append, reached, Option.bind_some]
  rw [mem_rowsBy_iff]
  constructor
  · rintro ⟨start, more, there, depth, inside⟩
    rw [place, own, List.cons_append, List.cons.injEq] at there
    obtain ⟨rfl, rfl⟩ := there
    rw [below] at inside
    split at inside
    · next entered =>
        refine ⟨entered, inside, ?_⟩
        rw [depth, rowDepth, List.length_append]
        simp
        omega
    · cases inside
  · rintro ⟨entered, child, depth⟩
    refine ⟨first, rest ++ [index], ?_, ?_, ?_⟩
    · rw [place, own, List.cons_append]
    · rw [depth, rowDepth, List.length_append]
      simp
      omega
    · rw [below, if_pos entered, child]

end Addresses

/-- Siblings that are left to list: their depth, the address of their parent and the index of the
next one. -/
structure Frame where
  depth : Int
  parent : List Nat
  index : Nat
  siblings : List Node

namespace Frame

def enter (depth : Int) (parent : List Nat) (index : Nat) (node : Node) (siblings : List Node)
    (rest : List Frame) : List Frame :=
  let later := ⟨depth, parent, index + 1, siblings⟩ :: rest
  if node.expanded && node.hasChildren then
    ⟨depth + 1, parent ++ [index], 0, node.children⟩ :: later
  else later

noncomputable def load : List Frame → Nat
  | [] => 0
  | frame :: rest => sizeOf frame.siblings + load rest

theorem load_enter (depth : Int) (parent : List Nat) (index : Nat) (node : Node)
    (siblings : List Node) (rest : List Frame) :
    load (enter depth parent index node siblings rest) <
      load (⟨depth, parent, index, node :: siblings⟩ :: rest) := by
  have below : sizeOf node.children < sizeOf node := by
    cases node
    simp only [Node.mk.sizeOf_spec]
    omega
  rw [enter]
  split
  · simp only [load, List.cons.sizeOf_spec]
    omega
  · simp only [load, List.cons.sizeOf_spec]
    omega

/-- The rows of a walk that takes the next sibling of the frame on top, and drops a frame that has
none left. -/
def rows : List Frame → List Row
  | [] => []
  | ⟨_, _, _, []⟩ :: rest => rows rest
  | ⟨depth, parent, index, node :: siblings⟩ :: rest =>
    ⟨depth, parent ++ [index], node⟩ :: rows (enter depth parent index node siblings rest)
termination_by frames => load frames
decreasing_by
  · simp [load]
  · exact load_enter depth parent index node siblings rest

theorem rows_eq_flatMap (frames : List Frame) :
    rows frames = frames.flatMap fun frame =>
      rowsBy Node.expanded frame.depth frame.parent frame.index frame.siblings := by
  fun_induction rows frames with
  | case1 => rfl
  | case2 rest depth parent index ih => rw [ih, List.flatMap_cons, rowsBy, List.nil_append]
  | case3 depth parent index node siblings rest ih =>
      rw [ih, List.flatMap_cons, rowsBy, Node.rowsBy_eq, enter]
      cases node.expanded with
      | false => simp
      | true =>
          cases empty : node.children with
          | nil => simp [Node.hasChildren, empty, rowsBy]
          | cons child others => simp [Node.hasChildren, empty]

theorem rows_of_forest (forest : List Node) (depth : Int) :
    rows [⟨depth, [], 0, forest⟩] = visibleRows forest depth := by
  rw [rows_eq_flatMap, List.flatMap_singleton, visibleRows]

end Frame

end Outliner
