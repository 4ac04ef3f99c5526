import Outliner.Text.Basic

namespace Outliner.Script

/-- The depth of braces, and whether one has been opened. -/
structure Braces where
  depth : Int := 0
  opened : Bool := false
deriving DecidableEq, Repr

namespace Braces

/-- Counts the braces of a line. The flag tells that the block closes on it; what follows the
closing brace is not counted. Closing braces before the first opening one are not counted either. -/
def feed (braces : Braces) : Text → Braces × Bool
  | [] => (braces, false)
  | c :: rest =>
    if c == '{' then feed ⟨braces.depth + 1, true⟩ rest
    else if c == '}' && braces.opened then
      if braces.depth == 1 then (⟨0, true⟩, true)
      else feed ⟨braces.depth - 1, true⟩ rest
    else feed braces rest

def extent (braces : Braces) : List Text → Nat
  | [] => 0
  | line :: later =>
    match braces.feed (Text.strip line) with
    | (_, true) => 1
    | (fed, false) => extent fed later + 1

end Braces

end Outliner.Script
