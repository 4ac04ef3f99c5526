import Outliner.Display.Label
import Outliner.Display.Wrap

/-!
Printed trees. A node that is collapsed or too deep shows the number of its children instead of
them.
-/

namespace Outliner.Display

inductive Branch where
  | mk (label : Text) (children : List Branch)

mutual

def branch (expandAll : Bool) (maxDepth : Option Int) (depth : Int) : Node → Branch
  | ⟨name, kind, path, level, expanded, lines, children, itemKind⟩ =>
    let node : Node := ⟨name, kind, path, level, expanded, lines, children, itemKind⟩
    let isOpen := (expandAll || expanded) && maxDepth.all (depth < ·)
    if isOpen || children.isEmpty then
      .mk node.label (branches expandAll maxDepth (depth + 1) children)
    else
      .mk (node.label ++ ' ' :: dim ("(+".toList ++ Text.ofNat children.length ++ ")".toList)) []
termination_by structural node => node

def branches (expandAll : Bool) (maxDepth : Option Int) (depth : Int) : List Node → List Branch
  | [] => []
  | node :: rest =>
    branch expandAll maxDepth depth node :: branches expandAll maxDepth depth rest
termination_by structural nodes => nodes

end

def tree (forest : List Node) (title : Text) (expandAll : Bool) (maxDepth : Option Int) : Branch :=
  .mk (styled "bold".toList (Markup.escape title)) (branches expandAll maxDepth 1 forest)

mutual

def Branch.labels (depth : Nat) : Branch → List (Nat × Text)
  | .mk label children => (depth, label) :: labelsOfAll (depth + 1) children
termination_by structural branch => branch

def labelsOfAll (depth : Nat) : List Branch → List (Nat × Text)
  | [] => []
  | branch :: rest => branch.labels depth ++ labelsOfAll depth rest
termination_by structural branches => branches

end

def guideWidth : Nat := 4

def guided (width : Nat) (indent first later label : Text) : List Text :=
  match wrapLines (width - indent.length - guideWidth) (Markup.shown label) with
  | [] => []
  | line :: rest => (indent ++ first ++ line) :: rest.map (indent ++ later ++ ·)

mutual

def Branch.lines (width : Nat) (indent : Text) (isLast : Bool) : Branch → List Text
  | .mk label children =>
    let first := if isLast then "└── ".toList else "├── ".toList
    let later := if isLast then "    ".toList else "│   ".toList
    guided width indent first later label ++ linesOfAll width (indent ++ later) children
termination_by structural branch => branch

def linesOfAll (width : Nat) (indent : Text) : List Branch → List Text
  | [] => []
  | branch :: rest => branch.lines width indent rest.isEmpty ++ linesOfAll width indent rest
termination_by structural branches => branches

end

def Branch.screen (width : Nat) : Branch → List Text
  | .mk label children => wrapLines width (Markup.shown label) ++ linesOfAll width [] children

def fitDepth (width labelWidth : Int) : Int :=
  max 1 ((width - labelWidth).fdiv guideWidth)

def labelWidth : Int := 24

def printTree (width : Nat) (forest : List Node) (title : Text) (expandAll : Bool) : Text :=
  printed ((tree forest title expandAll (some (fitDepth width labelWidth))).screen width)

def printOutline (width : Nat) (root : Node) (expandAll : Bool) : Text :=
  printTree width root.children root.name expandAll

end Outliner.Display
