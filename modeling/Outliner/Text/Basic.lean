namespace Outliner

abbrev Text := List Char

namespace Text

def inRanges : List (Nat × Nat) → Nat → Bool
  | [], _ => false
  | (first, last) :: rest, n => first ≤ n && (n ≤ last || inRanges rest n)

/-- Closed ranges of whitespace, ascending. The information separators count, the zero width space
and the byte order mark do not. -/
def spaceRanges : List (Nat × Nat) := [
  (0x9, 0xD), (0x1C, 0x20), (0x85, 0x85), (0xA0, 0xA0), (0x1680, 0x1680), (0x2000, 0x200A),
  (0x2028, 0x2029), (0x202F, 0x202F), (0x205F, 0x205F), (0x3000, 0x3000)]

def isSpace (c : Char) : Bool :=
  inRanges spaceRanges c.toNat

def dropEndWhile (p : Char → Bool) (text : Text) : Text :=
  (text.reverse.dropWhile p).reverse

def stripStart (text : Text) : Text :=
  text.dropWhile isSpace

def stripEnd (text : Text) : Text :=
  dropEndWhile isSpace text

def strip (text : Text) : Text :=
  stripEnd (stripStart text)

/-- The pieces between the occurrences of a character, of which there is one more than
occurrences. -/
def cutAt (separator : Char) : Text → List Text
  | [] => [[]]
  | c :: rest =>
    if c == separator then [] :: cutAt separator rest
    else match cutAt separator rest with
      | [] => [[c]]
      | piece :: pieces => (c :: piece) :: pieces

/-- Splits at occurrences of `separator`, found from the left without overlap. The first argument
counts the characters of the last occurrence that are still to be passed over. -/
def cutAtTextFrom (separator : Text) : Nat → Text → List Text
  | _, [] => [[]]
  | passing + 1, _ :: rest => cutAtTextFrom separator passing rest
  | 0, c :: rest =>
    if separator.isPrefixOf (c :: rest) then
      [] :: cutAtTextFrom separator (separator.length - 1) rest
    else match cutAtTextFrom separator 0 rest with
      | [] => [[c]]
      | piece :: pieces => (c :: piece) :: pieces

def cutAtText (separator text : Text) : List Text :=
  cutAtTextFrom separator 0 text

def join (separator : Text) (pieces : List Text) : Text :=
  separator.intercalate pieces

/-- Keeps the first `count` cuts of a split and undoes the others. -/
def limitCuts (separator : Text) (count : Nat) (pieces : List Text) : List Text :=
  if pieces.length ≤ count + 1 then pieces
  else pieces.take count ++ [join separator (pieces.drop count)]

/-- Replaces every occurrence of a non-empty text, found from the left without overlap. -/
def replaceAll (old new text : Text) : Text :=
  join new (cutAtText old text)

def words : Text → List Text
  | [] => []
  | c :: rest =>
    if isSpace c then words rest
    else match rest with
      | [] => [[c]]
      | d :: _ =>
        if isSpace d then [c] :: words rest
        else match words rest with
          | [] => [[c]]
          | word :: others => (c :: word) :: others

def after? : Text → Text → Option Text
  | [], text => some text
  | _ :: _, [] => none
  | p :: start, c :: rest => if p == c then after? start rest else none

def isAtMost : Text → Text → Bool
  | [], _ => true
  | _ :: _, [] => false
  | a :: rest, b :: others => a.toNat < b.toNat || a == b && isAtMost rest others

def occursIn (part : Text) : Text → Bool
  | [] => part.isEmpty
  | c :: rest => part.isPrefixOf (c :: rest) || occursIn part rest

def afterFirst? (mark : Char) (text : Text) : Option Text :=
  match text.dropWhile (· != mark) with
  | [] => none
  | _ :: rest => some rest

def beforeLast? (mark : Char) (text : Text) : Option Text :=
  (afterFirst? mark text.reverse).map List.reverse

def ofNat (n : Nat) : Text :=
  Nat.toDigits 10 n

def ofInt : Int → Text
  | .ofNat n => ofNat n
  | .negSucc n => '-' :: ofNat (n + 1)

def hexValue? (c : Char) : Option Nat :=
  if '0' ≤ c && c ≤ '9' then some (c.toNat - '0'.toNat)
  else if 'a' ≤ c && c ≤ 'f' then some (c.toNat - 'a'.toNat + 10)
  else if 'A' ≤ c && c ≤ 'F' then some (c.toNat - 'A'.toNat + 10)
  else none

def hex (width n : Nat) : Text :=
  (Nat.toDigits 16 n).leftpad width '0'

def isAsciiDigit (c : Char) : Bool :=
  '0' ≤ c && c ≤ '9'

def groupedDigits? (text : Text) : Option Text :=
  let groups := cutAt '_' text
  if groups.all fun group => !group.isEmpty && group.all isAsciiDigit then some groups.flatten
  else none

/-- The most decimal digits of an integer that is read or written. -/
def digitLimit : Nat := 4300

def ofInt? (value : Int) : Option Text :=
  if (ofNat value.natAbs).length ≤ digitLimit then some (ofInt value) else none

def digitsValue (digits : Text) : Nat :=
  digits.foldl (fun value c => 10 * value + (c.toNat - '0'.toNat)) 0

end Text

end Outliner
