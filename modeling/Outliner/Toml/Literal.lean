import Outliner.Text.Numeral
import Outliner.Text.LowerCase
import Outliner.Toml.Value

namespace Outliner.Toml

def inner (text : Text) : Text :=
  (text.drop 1).dropLast

def endsOddBackslashes (text : Text) : Bool :=
  (text.reverse.takeWhile (· == '\\')).length % 2 == 1

/-- Refuses text after the closing quote. The pieces are those between the quotes after the first
one; `ended` tells whether the string has been closed, and `run` counts quotes in a row. -/
def nothingAfterClose (triple : Bool) : Bool → Nat → List Text → Except Fault Unit
  | _, _, [] => .ok ()
  | ended, run, piece :: rest =>
    if piece.isEmpty then
      if triple then nothingAfterClose triple ended (run + 1) rest
      else nothingAfterClose triple true run rest
    else if endsOddBackslashes piece then nothingAfterClose triple ended run rest
    else if ended then .error .malformed
    else if !triple || 1 < run then nothingAfterClose triple true run rest
    else nothingAfterClose triple ended 0 rest

def checkClosed (quote : Char) (literal : Text) : Except Fault Unit :=
  match Text.cutAt quote (literal.drop 1) with
  | [] :: [] :: rest => nothingAfterClose true false 0 rest
  | pieces => nothingAfterClose false false 0 pieces

def escapes : List (Char × Char) := [
  ('0', '\x00'), ('b', '\x08'), ('f', '\x0C'), ('n', '\n'), ('r', '\r'), ('t', '\t'), ('"', '"')]

/-- Refuses unknown escapes. The pieces are those after the backslashes; an empty one is a backslash
that is escaped or escapes. -/
def checkEscapes : Bool → List Text → Except Fault Unit
  | _, [] => .ok ()
  | backslash, [] :: rest => checkEscapes (!backslash) rest
  | backslash, (c :: _) :: rest =>
    if (escapes.lookup c).isNone && c != 'u' && c != 'U' && !backslash then .error .malformed
    else checkEscapes false rest

/-- The character of an escape by number. Surrogates have none and give the replacement
character. -/
def charOfHex (digits : Text) : Except Fault Char :=
  let number := digits.foldl (fun n c => 16 * n + (Text.hexValue? c).getD 0) 0
  if 0x7FFFFFFF < number then .error .tooLarge
  else if 0x10FFFF < number then .error .malformed
  else if 0xD800 ≤ number && number ≤ 0xDFFF then .ok '\uFFFD'
  else .ok (Char.ofNat number)

def checkHex (digits : Text) : Except Fault Unit :=
  if digits.any fun c => (Text.hexValue? c).isNone then .error .malformed
  else match digits with
    | [] => .error .cutShort
    | 'd' :: rest =>
      match rest with
      | [] => .error .cutShort
      | c :: _ => if '0' ≤ c && c ≤ '7' then .ok () else .error .malformed
    | _ => .ok ()

/-- Reads escapes by number, given the pieces that follow their marks. A mark after an odd number of
backslashes is no escape. -/
def readNumbered (mark : Text) (width : Nat) : Bool → Text → List Text → Except Fault Text
  | _, done, [] => .ok done
  | true, done, piece :: rest =>
    readNumbered mark width (endsOddBackslashes piece) (done ++ mark ++ piece) rest
  | false, done, piece :: rest => do
    let digits := Text.lower (piece.take width)
    checkHex digits
    let c ← charOfHex digits
    readNumbered mark width false (done ++ c :: piece.drop digits.length) rest

def replaceNumbered (mark : Text) (width : Nat) (literal : Text) : Except Fault Text :=
  match Text.cutAtText mark literal with
  | first :: second :: rest =>
    readNumbered mark width (endsOddBackslashes first) first (second :: rest)
  | _ => .ok literal

def unescape : Text → Except Fault Text
  | [] => .ok []
  | '\\' :: c :: rest =>
    match escapes.lookup c with
    | some meant => (unescape rest).map (meant :: ·)
    | none =>
      if c == '\\' then (unescape rest).map ('\\' :: ·)
      else if c == 'u' || c == 'U' then (unescape rest).map fun text => '\\' :: c :: text
      else .error .malformed
  | c :: rest => (unescape rest).map (c :: ·)

/-- A literal without its quotes, of which there are three on each side if it starts so. -/
def unquote (quote : Char) (literal : Text) : Text :=
  match literal with
  | _ :: b :: rest =>
    if b == quote && rest.head?.all (· == b) then inner (inner (inner literal)) else inner literal
  | _ => []

def stringValue (quote : Char) (literal : Text) : Except Fault Text := do
  checkClosed quote literal
  if quote == '"' then
    checkEscapes false ((Text.cutAt '\\' literal).drop 1)
    let short ← replaceNumbered "\\u".toList 4 literal
    let long ← replaceNumbered "\\U".toList 8 short
    let plain ← unescape long
    return unquote quote plain
  else return unquote quote literal

def isStrictNumber (text : Text) : Bool :=
  let number := Text.strip text
  let checkUnsigned := fun (digits : Text) => !Text.occursIn "__".toList digits
  match number with
  | [] => false
  | [c] => c != '_'
  | first :: second :: rest =>
    first != '_' && number.getLast? != some '_' &&
      !Text.occursIn "_.".toList number && !Text.occursIn "._".toList number &&
      !(first == '0' && second != '.' && second != 'o' && second != 'b' && second != 'x') &&
      if first == '+' || first == '-' then
        !(second == '0' && rest.head?.any (· != '.')) && checkUnsigned (second :: rest)
      else checkUnsigned number

/-- Whether a character may stand around the digits of a number: whitespace, the information
separators apart. -/
def isNumberBlank (c : Char) : Bool :=
  Text.isSpace c && !(0x1C ≤ c.toNat && c.toNat ≤ 0x1F)

def stripNumber (text : Text) : Text :=
  Text.dropEndWhile isNumberBlank (text.dropWhile isNumberBlank)

def asciiDigits (text : Text) : Text :=
  text.map fun c =>
    match Text.decimalValue? c with
    | some value => Char.ofNat ('0'.toNat + value)
    | none => c

def optionalDigits? (text : Text) : Option Text :=
  if text.isEmpty then some [] else Text.groupedDigits? text

def signed : Text → Bool × Text
  | '-' :: rest => (true, rest)
  | '+' :: rest => (false, rest)
  | rest => (false, rest)

def isExponentMark (c : Char) : Bool :=
  c == 'e' || c == 'E'

def exponentValue? (text : Text) : Option Int :=
  match text with
  | [] => some 0
  | _ :: written =>
    let (negative, digits) := signed written
    (Text.groupedDigits? digits).map fun digits =>
      let size : Int := Text.digitsValue digits
      if negative then -size else size

def realValue? (text : Text) : Option Binary64 := do
  let (negative, unsigned) := signed (asciiDigits (stripNumber text))
  let name := Text.lower unsigned
  if name == "nan".toList then return .nan
  if name == "inf".toList || name == "infinity".toList then return .infinity negative
  let mantissa := unsigned.takeWhile fun c => !isExponentMark c
  let power ← exponentValue? (unsigned.dropWhile fun c => !isExponentMark c)
  let (wholeText, fractionText) := match Text.cutAt '.' mantissa with
    | [whole] => (whole, some [])
    | [whole, fraction] => (whole, some fraction)
    | _ => ([], none)
  let whole ← optionalDigits? wholeText
  let fraction ← optionalDigits? (← fractionText)
  if whole.isEmpty && fraction.isEmpty then none
  else return .ofDecimal negative (Text.digitsValue (whole ++ fraction)) (power - fraction.length)

def baseValue? (base : Nat) (digits : Text) : Option Nat :=
  if digits.isEmpty then none
  else digits.foldlM (fun n c => do
    let digit ← Text.hexValue? c
    if digit < base then some (base * n + digit) else none) 0

/-- An integer with an optional sign, in base ten without superfluous zeros or in another base with
its mark. -/
def integerValue? (text : Text) : Option Int := do
  let (negative, unsigned) := signed (asciiDigits (stripNumber text))
  let size ← match unsigned with
    | '0' :: mark :: digits =>
      if mark == 'x' || mark == 'X' then baseValue? 16 digits
      else if mark == 'o' || mark == 'O' then baseValue? 8 digits
      else if mark == 'b' || mark == 'B' then baseValue? 2 digits
      else if (mark :: digits).all (· == '0') then some 0
      else none
    | digits => if Text.digitLimit < digits.length then none else baseValue? 10 digits
  return if negative then -(size : Int) else size

def isTrueWord (text : Text) : Bool :=
  text == "true".toList

def isFalseWord (text : Text) : Bool :=
  text == "false".toList

/-- A number without its sign and underscores: a real if it has a point or an exponent. -/
def unsignedNumber (number : Text) : Except Fault Value :=
  let orMalformed := fun (value : Option Value) => match value with
    | some value => Except.ok value
    | none => .error Fault.malformed
  let hasPoint := number.contains '.'
  if hasPoint || (!number.contains 'x' && number.any isExponentMark) then
    if hasPoint && (Text.afterFirst? '.' number).any List.isEmpty then .error .malformed
    else if !number.head?.any Text.isAsciiDigit then .error .malformed
    else orMalformed ((realValue? number).map Value.real)
  else if Text.lower number == "inf".toList || Text.lower number == "nan".toList then
    orMalformed ((realValue? number).map Value.real)
  else orMalformed ((integerValue? number).map Value.integer)

/-- A number with its sign. A negative number is the difference from zero. -/
def numberValue (number : Text) : Except Fault Value :=
  let clean := fun (digits : Text) => digits.filter (· != '_')
  match number with
  | '-' :: rest => do
    match ← unsignedNumber (clean rest) with
    | .integer value => return .integer (-value)
    | .real value => return .real value.negate
    | value => return value
  | '+' :: rest => unsignedNumber (clean rest)
  | rest => unsignedNumber (clean rest)

end Outliner.Toml
