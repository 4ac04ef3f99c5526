import Outliner.Display.Wrap
import Outliner.Text.Line

namespace Outliner.Display

def filled (width : Nat) (runs : List Text) : List Text :=
  runs ++ [List.replicate (width - runCells runs) ' ']

/-- A line of a box, given the cells between its borders. A blank stands on either side of what it
shows. -/
def boxLine (room : Nat) (runs : List Text) : List Text :=
  ['│'] :: clipRuns room ([' '] :: filled (room - 2) runs ++ [[' ']]) ++ [['│']]

def longest (text : Text) : Nat :=
  ((Text.lines text).map Text.cells).foldl max 0

def boxLines (width : Nat) (markup : Text) : List (List Text) :=
  let shown := Markup.shown markup
  let room := if width < 5 then width - 2 else min (longest shown.text + 2) (width - 2)
  let rule := List.replicate room '─'
  [[['╭'] ++ rule ++ ['╮']]] ++ (wrapRuns (room - 2) shown).map (boxLine room) ++
    [[['╰'] ++ rule ++ ['╯']]]

/-- Markup in a box, as printed. A screen without width shows nothing. -/
def panel (width : Nat) (markup : Text) : Text :=
  if width == 0 then []
  else printed ((boxLines width markup).map fun runs => (clipRuns width runs).flatten)

end Outliner.Display
