import Outliner.Browser.Choice
import Outliner.Display.Panel
import Outliner.Display.Tree
import Outliner.Outline.Expansion

namespace Outliner.Browser

inductive Ending where
  | goodbye
  | notNumber
  | endOfInput
deriving DecidableEq, Repr

def opened (root : Node) : Node :=
  { root with expanded := true }

def heading (width : Nat) (root : Node) : Text :=
  Display.panel width
    (Display.styled "bold cyan".toList ("🗂  ".toList ++ Markup.escape root.name) ++ '\n' ::
      Display.dim "number: toggle   a: expand all   c: collapse all   q: quit".toList)

def rows (root : Node) : List Row :=
  visibleRows [root] 0

def marker (node : Node) : Char :=
  if !node.hasChildren then ' ' else if node.expanded then '▾' else '▸'

def rowMarkup (number : Nat) (row : Row) : Text :=
  Display.dim ((Text.ofNat number).leftpad 4 ' ') ++ ' ' ::
    List.replicate (2 * row.depth.toNat) ' ' ++ marker row.node :: ' ' :: row.node.label

def screen (width : Nat) (root : Node) : Text :=
  let shown := (rows root).mapIdx fun index row => Display.print width (rowMarkup (index + 1) row)
  Display.print width [] ++ shown.flatten ++
    Text.join ['\n'] (Display.wrapLines width { text := "\nRow (q): ".toList })

/-- The tree after a choice. A row without children stays as it is. -/
def choose (root : Node) : Choice → Node
  | .expandAll => root.setExpanded true
  | .collapseAll => { root with children := setExpanded false root.children }
  | .row number _ =>
    match number with
    | 0 => root
    | index + 1 =>
      match (rows root)[index]? with
      | some row =>
        if row.node.hasChildren then
          (modifyAt Node.toggle row.address [root]).headD root
        else root
      | none => root
  | _ => root

def unknownChoice (width : Nat) (text : Text) : Text :=
  Display.print width
    (Display.styled "red".toList ("Unknown choice: ".toList ++ Markup.escape text))

def reply (width : Nat) (root : Node) : Choice → Text
  | .quit => Display.print width (Display.styled "cyan".toList "Goodbye!".toList)
  | .unknown text => unknownChoice width text
  | .row number text =>
    match number with
    | 0 => unknownChoice width text
    | index + 1 =>
      match (rows root)[index]? with
      | some row =>
        if row.node.hasChildren then []
        else Display.print width
          (Display.styled "yellow".toList "Nothing to expand on that row.".toList)
      | none => unknownChoice width text
  | _ => []

def ending? : Choice → Option Ending
  | .quit => some .goodbye
  | .notNumber => some .notNumber
  | _ => none

structure Ended where
  output : Text
  ending : Ending
  root : Node

def run (width : Nat) (root : Node) : List Text → Ended
  | [] => ⟨screen width root, .endOfInput, root⟩
  | line :: rest =>
    let choice := Choice.ofLine line
    let shown := screen width root ++ reply width root choice
    match ending? choice with
    | some ending => ⟨shown, ending, root⟩
    | none =>
      let later := run width (choose root choice) rest
      { later with output := shown ++ later.output }

def inputLines (input : Text) : List Text :=
  let pieces := Text.cutAt '\n' input
  if pieces.getLast? == some [] then pieces.dropLast else pieces

def browse (width : Nat) (root : Node) (input : Text) : Ended :=
  let start := opened root
  let ended := run width start (inputLines input)
  { ended with output := heading width start ++ ended.output }

end Outliner.Browser
