import Outliner.Text.Basic

namespace Outliner.Toml

/-- Cuts a first piece at single quotes. As long as such a string is open, the pieces that follow
belong to it. -/
def singleQuoted : List Text → List Text → List Text × List Text
  | pieces, [] => (pieces, [])
  | pieces, next :: rest =>
    if pieces.length % 2 == 0 then
      let last := pieces.getLast?.getD [] ++ '"' :: next
      singleQuoted (pieces.dropLast ++ Text.cutAt '\'' last) rest
    else (pieces, next :: rest)
termination_by structural _ rest => rest

/-- The pieces of a line between its quotes. Single quotes count up to the first double quote
only. -/
def quotePieces (line : Text) : List Text :=
  let after : List Text → List Text
    | [] => []
    | first :: rest => Text.cutAt '\'' first ++ rest
  match Text.cutAt '"' line with
  | first :: second :: rest =>
    if first.contains '\'' then
      let (pieces, left) := singleQuoted (Text.cutAt '\'' first) (second :: rest)
      pieces ++ after left
    else after (first :: second :: rest)
  | pieces => after pieces

/-- The number of cuts at a separator up to the first one that is not quoted. The flag tells whether
the first piece is quoted. -/
def cutsToPlain (separator : Text) : Bool → List Text → Nat
  | _, [] => 1
  | quoted, piece :: rest =>
    let count := (Text.cutAtText separator piece).length - 1
    if !quoted && 0 < count then 1 else count + cutsToPlain separator (!quoted) rest

def cutTimes (separator : Text) (count : Nat) (line : Text) : List Text :=
  Text.limitCuts separator count (Text.cutAtText separator line)

end Outliner.Toml
