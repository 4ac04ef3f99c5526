import Outliner.Outline.Row

namespace Outliner

mutual

def Node.setExpanded (value : Bool) : Node → Node
  | ⟨name, kind, path, level, _, lines, children, itemKind⟩ =>
    ⟨name, kind, path, level, value, lines, setExpanded value children, itemKind⟩
termination_by structural node => node

def setExpanded (value : Bool) : List Node → List Node
  | [] => []
  | node :: rest => node.setExpanded value :: setExpanded value rest
termination_by structural nodes => nodes

end

def Node.toggle (node : Node) : Node :=
  { node with expanded := !node.expanded }

/-- Changes the node at an address and leaves a forest without such a node as it is. -/
def modifyAt (change : Node → Node) : List Nat → List Node → List Node
  | [], forest => forest
  | [index], forest => forest.modify index change
  | index :: address, forest =>
    forest.modify index fun node => { node with children := modifyAt change address node.children }

def modifyRow? (change : Node → Node) (row : Nat) (forest : List Node) : Option (List Node) :=
  (visibleRows forest 0)[row]?.map fun found => modifyAt change found.address forest

end Outliner
