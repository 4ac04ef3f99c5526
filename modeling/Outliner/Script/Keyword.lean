import Outliner.Text.Numeral

namespace Outliner.Script

/-- Whether a character is a small letter of the basic alphabet or one of its case variants. The
dotted capital and the dotless small i, the long s and the Kelvin sign are such variants. -/
def foldsTo (letter c : Char) : Bool :=
  c == letter || c == letter.toUpper ||
    (letter == 'i' && (c == '\u0130' || c == '\u0131')) ||
    (letter == 's' && c == '\u017F') ||
    (letter == 'k' && c == '\u212A')

def afterKeyword? : Text → Text → Option Text
  | [], text => some text
  | _ :: _, [] => none
  | letter :: keyword, c :: rest =>
    if foldsTo letter c then afterKeyword? keyword rest else none

def afterKeywordSpace? (keyword text : Text) : Option Text :=
  match afterKeyword? keyword text with
  | some (c :: rest) => if Text.isSpace c then some (Text.stripStart rest) else none
  | _ => none

def isBasicLetter (c : Char) : Bool :=
  c.isAlpha || c == '\u0130' || c == '\u0131' || c == '\u017F' || c == '\u212A'

end Outliner.Script
