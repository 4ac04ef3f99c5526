import Outliner.Text.Basic

namespace Outliner.Text

/-- A character that ends a line: the controls from line feed to carriage return, the file, group
and record separators, the next line control, and the two separators made for the purpose. -/
def isLineEnd (c : Char) : Bool :=
  let n := c.toNat
  (0xA ≤ n && n ≤ 0xD) || (0x1C ≤ n && n ≤ 0x1E) || n == 0x85 || n == 0x2028 || n == 0x2029

/-- The lines that follow when `current`, held in reverse, has been read of the first of them. A
carriage return and a line feed end a line together, and nothing follows a final line end. -/
def linesFrom : Text → Text → List Text
  | [], [] => []
  | current, [] => [current.reverse]
  | current, '\r' :: '\n' :: rest => current.reverse :: linesFrom [] rest
  | current, c :: rest =>
    if isLineEnd c then current.reverse :: linesFrom [] rest
    else linesFrom (c :: current) rest

/-- The lines of a text, without their ends. -/
def lines (text : Text) : List Text :=
  linesFrom [] text

def unifyNewlines : Text → Text
  | [] => []
  | '\r' :: '\n' :: rest => '\n' :: unifyNewlines rest
  | c :: rest => (if c == '\r' then '\n' else c) :: unifyNewlines rest

end Outliner.Text
