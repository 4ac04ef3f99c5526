import Outliner.Script.Parameter

namespace Outliner.Script.ParamBlock

def bindsKeyword (c : Char) : Bool :=
  Text.isWord c || c == '$' || c == '-'

/-- What follows the opening parenthesis of the first block in a text, of which the character before
it is known. -/
def openingAfter? : Option Char → Text → Option Text
  | _, [] => none
  | previous, c :: rest =>
    let here :=
      if previous.any bindsKeyword then none
      else match (afterKeyword? "param".toList (c :: rest)).map Text.stripStart with
        | some ('(' :: inside) => some inside
        | _ => none
    match here with
    | some inside => some inside
    | none => openingAfter? (some c) rest

def opening? (line : Text) : Option Text :=
  openingAfter? none line

def isOn (line : Text) : Bool :=
  (opening? line).isSome

/-- The part of a segment inside the block and the number of parentheses still open after it, when
`depth` are open before it. -/
def inside : Nat → Text → Text × Nat
  | depth, [] => ([], depth)
  | depth, c :: rest =>
    if c == '(' then
      let (part, open_) := inside (depth + 1) rest
      (c :: part, open_)
    else if c == ')' then
      if depth ≤ 1 then ([], 0)
      else
        let (part, open_) := inside (depth - 1) rest
        (c :: part, open_)
    else
      let (part, open_) := inside depth rest
      (c :: part, open_)

/-- The parameters in the segments of a block and the number of segments before the one that closes
it; the last one if none does. -/
def collect : Nat → Text → List Text → List Parameter × Nat
  | depth, segment, later =>
    let (part, open_) := inside depth segment
    match open_, later with
    | 0, _ => (Parameter.parseList part, 0)
    | _, [] => (Parameter.parseList part, 0)
    | open_, next :: others =>
      let (parameters, count) := collect open_ (Text.strip next) others
      (Parameter.parseList part ++ parameters, count + 1)
termination_by structural _ _ later => later

/-- The parameters of the block that opens on the first of some lines, and the number of lines
before the one that closes it. -/
def read (lines : List Text) : List Parameter × Nat :=
  match lines with
  | [] => ([], 0)
  | first :: later =>
    match opening? (Text.strip first) with
    | some segment => collect 1 segment later
    | none => ([], 0)

/-- The parameters of the block that opens on the line with the given index, and the index of the
line that closes it. Past the last line there is no block, and the index is that of the last
line. -/
def scan (lines : List Text) (start : Nat) : List Parameter × Int :=
  if start < lines.length then
    let (parameters, count) := read (lines.drop start)
    (parameters, (start + count : Nat))
  else ([], (lines.length : Int) - 1)

end Outliner.Script.ParamBlock
