import Outliner.Text.Cell

namespace Outliner.Text

def joiner : Char := '\u200D'

def pictureMark : Char := '\uFE0F'

def isBinding (c : Char) : Bool :=
  c == joiner || c == pictureMark

def addedCells (last : Option Char) : Nat :=
  if last.any isWidened then 1 else 0

/-- The cells of the rest of a text. The flag tells whether its first character is joined to those
before it; `last` is the character that was measured last. -/
def cellsFrom : Bool → Option Char → Text → Nat
  | _, _, [] => 0
  | true, last, _ :: rest => cellsFrom false last rest
  | false, last, c :: rest =>
    if c == joiner then cellsFrom true last rest
    else if c == pictureMark then addedCells last + cellsFrom false none rest
    else if charCells c == 0 then cellsFrom false last rest
    else charCells c + cellsFrom false (some c) rest

def cells (text : Text) : Nat :=
  cellsFrom false none text

structure Cluster where
  text : Text
  cells : Nat
deriving DecidableEq, Repr

namespace Cluster

def extend (cluster : Cluster) (c : Char) (added : Nat) : Cluster :=
  ⟨cluster.text ++ [c], cluster.cells + added⟩

def splitFrom : Cluster → Bool → Option Char → Text → List Cluster
  | cluster, _, _, [] => [cluster]
  | cluster, true, last, c :: rest => splitFrom (cluster.extend c 0) false last rest
  | cluster, false, last, c :: rest =>
    if c == joiner then splitFrom (cluster.extend c 0) true last rest
    else if c == pictureMark then splitFrom (cluster.extend c (addedCells last)) false none rest
    else if charCells c == 0 then splitFrom (cluster.extend c 0) false last rest
    else cluster :: splitFrom ⟨[c], charCells c⟩ false (some c) rest

end Cluster

def clusters : Text → List Cluster
  | [] => []
  | c :: rest =>
    Cluster.splitFrom ⟨[c], charCells c⟩ false (if charCells c == 0 then none else some c) rest

end Outliner.Text
