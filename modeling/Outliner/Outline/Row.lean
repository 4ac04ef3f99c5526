import Outliner.Outline.Node

namespace Outliner

structure Row where
  depth : Int
  address : List Nat
  node : Node

mutual

def Node.rowsBy (enter : Node → Bool) (depth : Int) (address : List Nat) : Node → List Row
  | ⟨name, kind, path, level, expanded, lines, children, itemKind⟩ =>
    let node : Node := ⟨name, kind, path, level, expanded, lines, children, itemKind⟩
    ⟨depth, address, node⟩ ::
      if enter node then rowsBy enter (depth + 1) address 0 children else []
termination_by structural node => node

def rowsBy (enter : Node → Bool) (depth : Int) (parent : List Nat) : Nat → List Node → List Row
  | _, [] => []
  | index, node :: rest =>
    node.rowsBy enter depth (parent ++ [index]) ++ rowsBy enter depth parent (index + 1) rest
termination_by structural _ nodes => nodes

end

def allRows (forest : List Node) : List Row :=
  rowsBy (fun _ => true) 0 [] 0 forest

def visibleRows (forest : List Node) (depth : Int) : List Row :=
  rowsBy Node.expanded depth [] 0 forest

def preorder (forest : List Node) : List Node :=
  (allRows forest).map Row.node

end Outliner
