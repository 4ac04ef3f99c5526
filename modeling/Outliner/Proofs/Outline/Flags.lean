import Outliner.Proofs.Outline.Visible

namespace Outliner

/-- Whether the node at an address is expanded. -/
def flagAt? (forest : List Node) (address : List Nat) : Option Bool :=
  (nodeAt? forest address).map Node.expanded

def Alike (forest other : List Node) : Prop :=
  setExpanded false forest = setExpanded false other

theorem Node.setExpanded_eq (value : Bool) (node : Node) :
    node.setExpanded value =
      { node with expanded := value, children := Outliner.setExpanded value node.children } := by
  cases node
  rfl

theorem setExpanded_eq_map (value : Bool) (forest : List Node) :
    setExpanded value forest = forest.map (Node.setExpanded value) := by
  induction forest with
  | nil => rfl
  | cons node rest ih => rw [setExpanded, ih, List.map_cons]

theorem Node.setExpanded_setExpanded (value other : Bool) (node : Node) :
    (node.setExpanded other).setExpanded value = node.setExpanded value := by
  induction node using Node.induction with
  | step node ih =>
      have below : Outliner.setExpanded value (Outliner.setExpanded other node.children) =
          Outliner.setExpanded value node.children := by
        rw [setExpanded_eq_map, setExpanded_eq_map, setExpanded_eq_map, List.map_map]
        apply List.map_congr_left
        intro child member
        exact ih child member
      simp only [Node.setExpanded_eq, below]

theorem alike_setExpanded (value : Bool) (forest : List Node) :
    Alike (setExpanded value forest) forest := by
  rw [Alike, setExpanded_eq_map, setExpanded_eq_map, setExpanded_eq_map, List.map_map]
  apply List.map_congr_left
  intro node _
  exact node.setExpanded_setExpanded false value

theorem Alike.trans {first second third : List Node} (left : Alike first second)
    (right : Alike second third) : Alike first third :=
  Eq.trans left right

theorem alike_root (root : Node) (value : Bool) (below : List Node)
    (same : Alike below root.children) :
    Alike [{ root with expanded := value, children := below }] [root] := by
  have inside : setExpanded false below = setExpanded false root.children := same
  simp only [Alike, setExpanded, Node.setExpanded_eq, inside]

theorem nodeAt?_cons_cons (forest : List Node) (index next : Nat) (address : List Nat) :
    nodeAt? forest (index :: next :: address) =
      forest[index]?.bind fun node => nodeAt? node.children (next :: address) := rfl

theorem nodeAt?_setExpanded (value : Bool) (forest : List Node) (address : List Nat) :
    nodeAt? (setExpanded value forest) address =
      (nodeAt? forest address).map (Node.setExpanded value) := by
  induction address generalizing forest with
  | nil => rfl
  | cons index address ih =>
      have there : (setExpanded value forest)[index]? =
          forest[index]?.map (Node.setExpanded value) := by
        rw [setExpanded_eq_map, List.getElem?_map]
      cases address with
      | nil => exact there
      | cons next address =>
          rw [nodeAt?_cons_cons, nodeAt?_cons_cons, there]
          cases forest[index]? with
          | none => rfl
          | some node =>
              simp only [Option.map_some, Option.bind_some, Node.setExpanded_eq value node]
              exact ih node.children

theorem flagAt?_setExpanded (value : Bool) (forest : List Node) (address : List Nat) :
    flagAt? (setExpanded value forest) address = (flagAt? forest address).map fun _ => value := by
  rw [flagAt?, flagAt?, nodeAt?_setExpanded, Option.map_map, Option.map_map]
  congr 1
  funext node
  simp [Node.setExpanded_eq]

/-- Whether the node at an address below a node is expanded; the node itself is at the empty one. -/
def Node.flagAt? (node : Node) : List Nat → Option Bool
  | [] => some node.expanded
  | address => Outliner.flagAt? node.children address

theorem flagAt?_nil (forest : List Node) : flagAt? forest [] = none := rfl

theorem flagAt?_cons (forest : List Node) (index : Nat) (address : List Nat) :
    flagAt? forest (index :: address) = forest[index]?.bind fun node => node.flagAt? address := by
  cases address with
  | nil =>
      rw [flagAt?, nodeAt?]
      cases forest[index]? <;> rfl
  | cons next address =>
      rw [flagAt?, nodeAt?_cons_cons]
      cases forest[index]? <;> rfl

section Toggle

def toggleBelow : List Nat → Node → Node
  | [], node => node.toggle
  | address, node => { node with children := modifyAt Node.toggle address node.children }

theorem modifyAt_cons (index : Nat) (address : List Nat) (forest : List Node) :
    modifyAt Node.toggle (index :: address) forest = forest.modify index (toggleBelow address) := by
  cases address <;> rfl

theorem map_modify_of_same {α β : Type} (f : α → β) (change : α → α) (index : Nat) (items : List α)
    (same : ∀ item, f (change item) = f item) :
    (items.modify index change).map f = items.map f := by
  apply List.ext_getElem?
  intro position
  rw [List.getElem?_map, List.getElem?_map, List.getElem?_modify]
  cases items[position]? with
  | none => rfl
  | some item =>
      by_cases here : index = position
      · simp [here, same]
      · simp [here]

theorem alike_modifyAt (address : List Nat) (forest : List Node) :
    Alike (modifyAt Node.toggle address forest) forest := by
  induction address generalizing forest with
  | nil => rfl
  | cons index address ih =>
      simp only [Alike, setExpanded_eq_map, modifyAt_cons]
      apply map_modify_of_same
      intro node
      cases address with
      | nil => simp only [toggleBelow, Node.toggle, Node.setExpanded_eq]
      | cons next address =>
          have below := ih node.children
          rw [Alike] at below
          simp only [toggleBelow, Node.setExpanded_eq, below]

theorem length_modifyAt (address : List Nat) (forest : List Node) :
    (modifyAt Node.toggle address forest).length = forest.length := by
  have same := congrArg List.length (alike_modifyAt address forest)
  simpa [setExpanded_eq_map] using same

theorem flagAt?_modify (change : Node → Node) (index position : Nat) (address : List Nat)
    (forest : List Node) :
    flagAt? (forest.modify index change) (position :: address) =
      forest[position]?.bind fun node =>
        (if index = position then change node else node).flagAt? address := by
  rw [flagAt?_cons, List.getElem?_modify]
  cases forest[position]? with
  | none => rfl
  | some node => rfl

/-- Flipping a flag changes no other, by induction on the address that is flipped. -/
theorem flagAt?_modifyAt (address other : List Nat) (forest : List Node) :
    flagAt? (modifyAt Node.toggle address forest) other =
      if other = address then (flagAt? forest other).map not else flagAt? forest other := by
  induction address generalizing forest other with
  | nil =>
      have untouched : modifyAt Node.toggle [] forest = forest := rfl
      rw [untouched]
      split
      · next here => rw [here, flagAt?_nil]; rfl
      · rfl
  | cons index address ih =>
      cases other with
      | nil => simp [flagAt?_nil]
      | cons position other =>
          have below (node : Node) : (toggleBelow address node).flagAt? other =
              if other = address then (node.flagAt? other).map not else node.flagAt? other := by
            cases address with
            | nil => cases other <;> rfl
            | cons next address =>
                cases other with
                | nil => rfl
                | cons step other => exact ih (step :: other) node.children
          rw [modifyAt_cons, flagAt?_modify, flagAt?_cons]
          cases forest[position]? with
          | none => simp
          | some node =>
              by_cases here : index = position
              · simp [here, below]
              · simp [here, Ne.symm here]

end Toggle

theorem nodeAt?_of_reach? (isOpen : Node → Bool) (rest : List Nat) (index : Nat)
    (forest : List Node) (target : Node)
    (reached : forest[index]?.bind (Node.reach? isOpen rest) = some target) :
    nodeAt? forest (index :: rest) = some target := by
  induction rest generalizing index forest with
  | nil =>
      cases found : forest[index]? with
      | none => simp [found] at reached
      | some node =>
          simp only [found, Option.bind_some, Node.reach?] at reached
          simp only [nodeAt?, found, reached]
  | cons next rest ih =>
      cases found : forest[index]? with
      | none => simp [found] at reached
      | some node =>
          simp only [found, Option.bind_some, Node.reach?] at reached
          split at reached
          · rw [nodeAt?_cons_cons, found, Option.bind_some]
            exact ih next node.children reached
          · cases reached

theorem nodeAt?_of_mem_visibleRows (forest : List Node) (depth : Int) (row : Row)
    (member : row ∈ visibleRows forest depth) : nodeAt? forest row.address = some row.node := by
  rcases (mem_rowsBy_iff Node.expanded depth forest row).mp member with
    ⟨index, rest, place, _, reached⟩
  rw [place]
  exact nodeAt?_of_reach? Node.expanded rest index forest row.node reached

end Outliner
