import Outliner.Json.Fault
import Outliner.Json.Value

/-!
Decoding of JSON documents. Beyond the standard, the names of not-a-number and of the infinities are
values, and a surrogate without its partner is accepted.
-/

namespace Outliner.Json

structure Cursor where
  position : Nat
  rest : Text

def isBlank (c : Char) : Bool :=
  c == ' ' || c == '\t' || c == '\n' || c == '\r'

def Cursor.advance (cursor : Cursor) (count : Nat) : Cursor :=
  ⟨cursor.position + count, cursor.rest.drop count⟩

def Cursor.skipBlank (cursor : Cursor) : Cursor :=
  cursor.advance (cursor.rest.takeWhile isBlank).length

def Cursor.fail {α : Type} (cursor : Cursor) (cause : Cause) : Except Fault α :=
  .error (.malformed cause cursor.position)

abbrev Reader := Cursor → Except Fault (Value × Cursor)

def shortEscape? : Char → Option Char
  | '"' => some '"'
  | '\\' => some '\\'
  | '/' => some '/'
  | 'b' => some '\x08'
  | 'f' => some '\x0C'
  | 'n' => some '\n'
  | 'r' => some '\r'
  | 't' => some '\t'
  | _ => none

def hexUnit? (a b c d : Char) : Option Nat := do
  let a ← Text.hexValue? a
  let b ← Text.hexValue? b
  let c ← Text.hexValue? c
  let d ← Text.hexValue? d
  return ((a * 16 + b) * 16 + c) * 16 + d

def isHighSurrogate (unit : Nat) : Bool :=
  0xD800 ≤ unit && unit ≤ 0xDBFF

def isLowSurrogate (unit : Nat) : Bool :=
  0xDC00 ≤ unit && unit ≤ 0xDFFF

def joinSurrogates (high low : Nat) : Char :=
  Char.ofNat (0x10000 + (high - 0xD800) * 0x400 + (low - 0xDC00))

/-- What a string is made of: characters, and surrogates without their partners. -/
inductive Point where
  | char (c : Char)
  | surrogate (unit : Nat)
deriving DecidableEq, Repr

/-- The character that shows a point. A surrogate is none, and has one for private use instead. -/
def Point.toChar : Point → Char
  | char c => c
  | surrogate unit => Char.ofNat (0x100000 + unit)

def shown (points : List Point) : Text :=
  points.map Point.toChar

def unitPoint (unit : Nat) : Point :=
  if isHighSurrogate unit || isLowSurrogate unit then .surrogate unit else .char (Char.ofNat unit)

def prepend (point : Point) (result : Except Fault (List Point × Cursor)) :
    Except Fault (List Point × Cursor) :=
  result.map fun (points, cursor) => (point :: points, cursor)

/-- The point of an escape by number, with the number of characters after the backslash that it
takes. The text starts after the letter, which is at `position`. Two escapes of a surrogate pair are
one character. After the digits of an escape at least one more character has to follow. -/
def numberedEscape (position : Nat) : Text → Except Fault (Point × Nat)
  | a :: b :: c :: d :: next :: later =>
    match hexUnit? a b c d with
    | none => .error (.malformed .badUnicodeEscape position)
    | some unit =>
      match isHighSurrogate unit, next, later with
      | true, '\\', 'u' :: e :: f :: g :: h :: _ :: _ =>
        match hexUnit? e f g h with
        | none => .error (.malformed .badUnicodeEscape (position + 6))
        | some low =>
          if isLowSurrogate low then .ok (.char (joinSurrogates unit low), 11)
          else .ok (unitPoint unit, 5)
      | _, _, _ => .ok (unitPoint unit, 5)
  | _ => .error (.malformed .badUnicodeEscape position)

/-- The point that an escape stands for, with the number of characters after the backslash that
it takes. The string starts at `start` and the backslash is at `position`. -/
def escape (start position : Nat) : Text → Except Fault (Point × Nat)
  | [] => .error (.malformed .unterminatedString start)
  | 'u' :: rest => numberedEscape (position + 1) rest
  | c :: _ =>
    match shortEscape? c with
    | some meant => .ok (.char meant, 1)
    | none => .error (.malformed .badEscape position)

/-- The rest of a string whose opening quote is at `start`, read from a position on. The second
argument counts the characters of the last escape that are still to be passed over. -/
def stringFrom (start : Nat) : Nat → Nat → Text → Except Fault (List Point × Cursor)
  | _, _, [] => .error (.malformed .unterminatedString start)
  | passing + 1, position, _ :: rest => stringFrom start passing (position + 1) rest
  | 0, position, c :: rest =>
    if c == '"' then .ok ([], ⟨position + 1, rest⟩)
    else if c == '\\' then
      match escape start position rest with
      | .ok (meant, size) => prepend meant (stringFrom start size (position + 1) rest)
      | .error fault => .error fault
    else if c.toNat ≤ 0x1F then .error (.malformed .controlCharacter position)
    else prepend (.char c) (stringFrom start 0 (position + 1) rest)

def string (cursor : Cursor) : Except Fault (List Point × Cursor) :=
  stringFrom (cursor.position - 1) 0 cursor.position cursor.rest

structure Number where
  negative : Bool
  whole : Text
  fraction : Text
  exponent : Option Int

/-- The exponent at the start of a text, and the rest; nothing without a digit. -/
def exponent? : Text → Option (Int × Text)
  | mark :: rest =>
    if mark == 'e' || mark == 'E' then
      let (negative, digits) := match rest with
        | '-' :: later => (true, later)
        | '+' :: later => (false, later)
        | later => (false, later)
      match digits.takeWhile Text.isAsciiDigit with
      | [] => none
      | written =>
        let size : Int := Text.digitsValue written
        some (if negative then -size else size, digits.dropWhile Text.isAsciiDigit)
    else none
  | [] => none

def fraction : Text → Text × Text
  | '.' :: rest =>
    match rest.takeWhile Text.isAsciiDigit with
    | [] => ([], '.' :: rest)
    | digits => (digits, rest.dropWhile Text.isAsciiDigit)
  | text => ([], text)

def whole? : Text → Option (Text × Text)
  | '0' :: rest => some (['0'], rest)
  | c :: rest =>
    if Text.isAsciiDigit c then
      some (c :: rest.takeWhile Text.isAsciiDigit, rest.dropWhile Text.isAsciiDigit)
    else none
  | [] => none

def number? (text : Text) : Option (Number × Text) := do
  let (negative, unsigned) := match text with
    | '-' :: rest => (true, rest)
    | rest => (false, rest)
  let (whole, afterWhole) ← whole? unsigned
  let (digits, afterFraction) := fraction afterWhole
  match exponent? afterFraction with
  | some (power, rest) => return (⟨negative, whole, digits, some power⟩, rest)
  | none => return (⟨negative, whole, digits, none⟩, afterFraction)

/-- The value of a number. Only one without fraction and exponent is an integer. -/
def Number.value (number : Number) : Except Fault Value :=
  match number.fraction, number.exponent with
  | [], none =>
    if Text.digitLimit < number.whole.length then .error (.tooManyDigits number.whole.length)
    else
      let size : Int := Text.digitsValue number.whole
      .ok (.integer (if number.negative then -size else size))
  | fraction, power =>
    .ok (.real (.ofDecimal number.negative (Text.digitsValue (number.whole ++ fraction))
      (power.getD 0 - fraction.length)))

def wordValues : List (Text × Value) := [
  ("null".toList, .null), ("true".toList, .bool true), ("false".toList, .bool false),
  ("NaN".toList, .real .nan), ("Infinity".toList, .real (.infinity false)),
  ("-Infinity".toList, .real (.infinity true))]

def word? (text : Text) : Option (Value × Nat) :=
  (wordValues.find? fun (word, _) => word.isPrefixOf text).map fun (word, value) =>
    (value, word.length)

def simpleValue (cursor : Cursor) : Except Fault (Value × Cursor) :=
  match word? cursor.rest with
  | some (value, size) => .ok (value, cursor.advance size)
  | none =>
    match number? cursor.rest with
    | some (number, rest) => do
      let value ← number.value
      return (value, ⟨cursor.position + (cursor.rest.length - rest.length), rest⟩)
    | none => cursor.fail .expectingValue

/-- The items of an array from the first one on, each read by `item`. Every item takes a character,
so that there are at most `count` of them. -/
def itemsFrom (item : Reader) : Nat → Cursor → Except Fault (List Value × Cursor)
  | 0, cursor => cursor.fail .expectingValue
  | count + 1, cursor => do
    let (value, afterValue) ← item cursor
    let cursor := afterValue.skipBlank
    match cursor.rest with
    | ']' :: _ => return ([value], cursor.advance 1)
    | ',' :: _ =>
      let (values, last) ← itemsFrom item count (cursor.advance 1).skipBlank
      return (value :: values, last)
    | _ => cursor.fail .expectingComma

def arrayRest (item : Reader) (cursor : Cursor) : Except Fault (Value × Cursor) :=
  let cursor := cursor.skipBlank
  match cursor.rest with
  | ']' :: _ => .ok (.array [], cursor.advance 1)
  | _ => do
    let (values, last) ← itemsFrom item cursor.rest.length cursor
    return (.array values, last)

def membersFrom (item : Reader) :
    Nat → Cursor → Except Fault (List (List Point × Value) × Cursor)
  | 0, cursor => cursor.fail .expectingName
  | count + 1, cursor =>
    match cursor.rest with
    | '"' :: _ => do
      let (name, afterName) ← string (cursor.advance 1)
      let cursor := afterName.skipBlank
      match cursor.rest with
      | ':' :: _ =>
        let (value, afterValue) ← item (cursor.advance 1).skipBlank
        let cursor := afterValue.skipBlank
        match cursor.rest with
        | '}' :: _ => return ([(name, value)], cursor.advance 1)
        | ',' :: _ =>
          let (members, last) ← membersFrom item count (cursor.advance 1).skipBlank
          return ((name, value) :: members, last)
        | _ => cursor.fail .expectingComma
      | _ => cursor.fail .expectingColon
    | _ => cursor.fail .expectingName

def objectRest (item : Reader) (cursor : Cursor) : Except Fault (Value × Cursor) :=
  let cursor := cursor.skipBlank
  match cursor.rest with
  | '}' :: _ => .ok (.object [], cursor.advance 1)
  | _ => do
    let (members, last) ← membersFrom item cursor.rest.length cursor
    return (.object ((collapse members).map fun (name, value) => (shown name, value)), last)

def value : Nat → Reader
  | depth, cursor =>
    match cursor.rest, depth with
    | '"' :: _, _ => do
      let (points, last) ← string (cursor.advance 1)
      return (.text (shown points), last)
    | '[' :: _, 0 => .error (.tooDeep .array)
    | '{' :: _, 0 => .error (.tooDeep .object)
    | '[' :: _, depth + 1 => arrayRest (value depth) (cursor.advance 1)
    | '{' :: _, depth + 1 => objectRest (value depth) (cursor.advance 1)
    | _, _ => simpleValue cursor
termination_by structural depth => depth

def depthLimit : Nat := 990

/-- The value of a document, which nothing but blanks may surround. -/
def decode (document : Text) : Except Fault Value :=
  let start : Cursor := ⟨0, document⟩
  match document with
  | '\uFEFF' :: _ => start.fail .byteOrderMark
  | _ => do
    let (result, last) ← value depthLimit start.skipBlank
    let cursor := last.skipBlank
    if cursor.rest.isEmpty then return result
    else cursor.fail .extraData

end Outliner.Json
