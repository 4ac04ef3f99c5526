import Outliner.Text.LowerCase
import Outliner.Text.Numeral

namespace Outliner

inductive Choice where
  | quit
  | expandAll
  | collapseAll
  | row (number : Nat) (text : Text)
  | notNumber
  | unknown (text : Text)
deriving DecidableEq, Repr

namespace Choice

def number? (digits : Text) : Option Nat :=
  if Text.digitLimit < digits.length then none
  else digits.foldlM (fun value c => (Text.decimalValue? c).map (10 * value + ·)) 0

def quitWords : List Text := ["q", "quit", "exit"].map String.toList

/-- The choice of a line without the blanks around it, in lower case. -/
def ofWord (word : Text) : Choice :=
  if quitWords.contains word then quit
  else if word == ['a'] then expandAll
  else if word == ['c'] then collapseAll
  else if !word.isEmpty && word.all Text.isDigit then
    match number? word with
    | some number => row number word
    | none => notNumber
  else unknown word

/-- The choice of a line. An empty one asks to quit. -/
def ofLine (line : Text) : Choice :=
  if line.isEmpty then quit else ofWord (Text.lower (Text.strip line))

end Choice

end Outliner
