import Outliner.Outline.Kind

namespace Outliner

/-- One structural element. `lines` holds source lines of a function, or the summary of a composite
value. `itemKind` is the kind of leaf that a container groups. -/
structure Node where
  name : Text
  kind : Kind
  path : Text := []
  level : Int := 0
  expanded : Bool := false
  lines : List Text := []
  children : List Node := []
  itemKind : Option Kind := none
deriving BEq, Repr

namespace Node

def hasChildren (node : Node) : Bool :=
  !node.children.isEmpty

def container? (node : Node) (itemKind : Kind) : Option Node :=
  node.children.find? fun child => child.kind == .container && child.itemKind == some itemKind

end Node

def errorForest (message : Text) (level : Int) (path : Text) : List Node :=
  [⟨message, .error, path, level, false, [], [], none⟩]

end Outliner
