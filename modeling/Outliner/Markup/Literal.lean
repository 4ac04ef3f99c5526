import Outliner.Text.Line
import Outliner.Text.Numeral

namespace Outliner.Markup

inductive Lexeme where
  | number (imaginary : Bool)
  | text (isBytes : Bool)
  | constant
  | setWord
  | mark (c : Char)
deriving DecidableEq, Repr

def isDigitOrBar (c : Char) : Bool :=
  Text.isAsciiDigit c || c == '_'

def afterExponent? (text : Text) : Option Text :=
  match text with
  | c :: rest =>
    if c == 'e' || c == 'E' then
      let written := match rest with
        | '+' :: later | '-' :: later => later
        | later => later
      (Text.groupedDigits? (written.takeWhile isDigitOrBar)).map fun _ =>
        written.dropWhile isDigitOrBar
    else some text
  | [] => some []

/-- Whether the digits of a whole number are written without superfluous zeros. -/
def isPlainWhole (digits : Text) : Bool :=
  digits.length ≤ Text.digitLimit && (digits.head? != some '0' || digits.all (· == '0'))

def decimalAt? (text : Text) : Option (Bool × Text) := do
  let written := text.takeWhile isDigitOrBar
  let whole ← if written.isEmpty then some [] else Text.groupedDigits? written
  let afterWhole := text.dropWhile isDigitOrBar
  let afterFraction ← match afterWhole with
    | '.' :: rest =>
      let fraction := rest.takeWhile isDigitOrBar
      if fraction.isEmpty then (if whole.isEmpty then none else some rest)
      else (Text.groupedDigits? fraction).map fun _ => rest.dropWhile isDigitOrBar
    | rest => if whole.isEmpty then none else some rest
  let afterPower ← afterExponent? afterFraction
  match afterPower with
  | c :: rest =>
    if c == 'j' || c == 'J' then return (true, rest)
    else if afterPower.length == afterWhole.length && !isPlainWhole whole then none
    else return (false, afterPower)
  | [] => if afterWhole.isEmpty && !isPlainWhole whole then none else return (false, [])

def afterDigits? (base : Nat) (text : Text) : Option Text :=
  let isInside := fun (c : Char) => c == '_' || (Text.hexValue? c).any (· < base)
  let written := text.takeWhile isInside
  let groups := Text.cutAt '_' (if written.head? == some '_' then written.drop 1 else written)
  if groups.any List.isEmpty then none else some (text.dropWhile isInside)

def numberAt? (text : Text) : Option (Bool × Text) := do
  let (imaginary, rest) ← match text with
    | '0' :: c :: digits =>
      if c == 'x' || c == 'X' then (afterDigits? 16 digits).map ((false, ·))
      else if c == 'o' || c == 'O' then (afterDigits? 8 digits).map ((false, ·))
      else if c == 'b' || c == 'B' then (afterDigits? 2 digits).map ((false, ·))
      else decimalAt? text
    | _ => decimalAt? text
  if rest.head?.any Text.isWord then none else some (imaginary, rest)

def startsHex (count : Nat) (text : Text) : Bool :=
  let digits := text.take count
  digits.length == count && digits.all (fun c => (Text.hexValue? c).isSome) &&
    digits.foldl (fun n c => 16 * n + (Text.hexValue? c).getD 0) 0 ≤ 0x10FFFF

/-- Whether an escape is whole, given its letter and what follows. Bytes have no escapes for
characters, and names of characters are not known. -/
def isWholeEscape (isBytes : Bool) (letter : Char) (rest : Text) : Bool :=
  if letter == 'x' then startsHex 2 rest
  else if isBytes then true
  else if letter == 'u' then startsHex 4 rest
  else if letter == 'U' then startsHex 8 rest
  else letter != 'N'

def afterQuoted? (closing : Text) (isRaw isBytes : Bool) : Nat → Text → Option Text
  | _, [] => none
  | passing + 1, _ :: rest => afterQuoted? closing isRaw isBytes passing rest
  | 0, c :: rest =>
    if c == '\\' then
      match rest with
      | [] => none
      | letter :: later =>
        if isBytes && 127 < letter.toNat then none
        else if isRaw || isWholeEscape isBytes letter later then
          afterQuoted? closing isRaw isBytes 1 rest
        else none
    else match Text.after? closing (c :: rest) with
      | some later => some later
      | none =>
        if c == '\n' && closing.length == 1 then none
        else if isBytes && 127 < c.toNat then none
        else afterQuoted? closing isRaw isBytes 0 rest

def quotedAt? (letters : Text) (text : Text) : Option (Bool × Text) := do
  let isBytes := letters.any (· == 'b')
  if !(["", "r", "u", "b", "br", "rb"].map String.toList).contains letters then none
  let quote ← text.head?
  let closing := if text.take 3 == [quote, quote, quote] then [quote, quote, quote] else [quote]
  let rest ← afterQuoted? closing (letters.any (· == 'r')) isBytes 0 (text.drop closing.length)
  return (isBytes, rest)

def isQuoteMark (c : Char) : Bool :=
  c == '"' || c == '\''

/-- The letters that may stand for those of the set word: of full width, in mathematical alphabets,
raised and lowered. -/
def setLetters : List (Char × List Nat) := [
  ('s', [0x17F, 0x2E2, 0x209B, 0xFF53, 0x1D42C, 0x1D460, 0x1D494, 0x1D4C8, 0x1D4FC, 0x1D530,
    0x1D564, 0x1D598, 0x1D5CC, 0x1D600, 0x1D634, 0x1D668, 0x1D69C]),
  ('e', [0x1D49, 0x2091, 0x212F, 0x2147, 0xFF45, 0x1D41E, 0x1D452, 0x1D486, 0x1D4EE, 0x1D522,
    0x1D556, 0x1D58A, 0x1D5BE, 0x1D5F2, 0x1D626, 0x1D65A, 0x1D68E]),
  ('t', [0x1D57, 0x209C, 0xFF54, 0x1D42D, 0x1D461, 0x1D495, 0x1D4C9, 0x1D4FD, 0x1D531, 0x1D565,
    0x1D599, 0x1D5CD, 0x1D601, 0x1D635, 0x1D669, 0x1D69D])]

def isSetWord (word : Text) : Bool :=
  word.length == setLetters.length &&
    (word.zip setLetters).all fun (c, letter, others) => c == letter || others.contains c.toNat

def wordAt? (text : Text) : Option (Lexeme × Text) :=
  let word := text.takeWhile Text.isWord
  let rest := text.dropWhile Text.isWord
  if rest.head?.any isQuoteMark then
    (quotedAt? (word.map Char.toLower) rest).map fun (isBytes, later) => (.text isBytes, later)
  else if (["True", "False", "None"].map String.toList).contains word then some (.constant, rest)
  else if isSetWord word then some (.setWord, rest)
  else none

def bracketLimit : Nat := 200

def lexemeAt? (text : Text) : Option (Lexeme × Text) :=
  match text with
  | [] => none
  | c :: rest =>
    if Text.isAsciiDigit c || (c == '.' && rest.head?.any Text.isAsciiDigit) then
      (numberAt? text).map fun (imaginary, later) => (.number imaginary, later)
    else if c == '.' then (Text.after? "...".toList text).map fun later => (.constant, later)
    else if isQuoteMark c then
      (quotedAt? [] text).map fun (isBytes, later) => (.text isBytes, later)
    else if "()\x7b\x7d,:+-".toList.contains c then some (.mark c, rest)
    else wordAt? text

inductive Margin where
  /-- Before the first lexeme: whether blanks stand before it, on its line and before the end of a
  line that goes on. -/
  | before (blanks earlier : Bool)
  | inside
  | past
deriving DecidableEq, Repr

namespace Margin

def afterBlank (margin : Margin) (c : Char) : Margin :=
  match margin with
  | before _ earlier => before (c != '\x0C') earlier
  | other => other

def afterBreak (margin : Margin) (depth : Nat) : Margin :=
  match margin with
  | before _ _ => before false false
  | inside => if depth == 0 then past else inside
  | past => past

def afterContinued : Margin → Margin
  | before blanks earlier => before blanks (earlier || blanks)
  | other => other

def isOpen : Margin → Bool
  | before blanks earlier => !blanks && !earlier
  | inside => true
  | past => false

end Margin

/-- The lexemes of a text, given the number of brackets that are open and the place on the lines.
A backslash at the end of a line lets it go on. -/
def lexemes? : Nat → Nat → Margin → Text → Option (List Lexeme)
  | _, _, _, [] => some []
  | 0, _, _, _ => none
  | fuel + 1, depth, margin, c :: rest =>
    if c == ' ' || c == '\t' || c == '\x0C' then lexemes? fuel depth (margin.afterBlank c) rest
    else if c == '#' then lexemes? fuel depth margin (rest.dropWhile (· != '\n'))
    else if c == '\n' then lexemes? fuel depth (margin.afterBreak depth) rest
    else if c == '\\' then
      match rest with
      | '\n' :: d :: later => lexemes? fuel depth margin.afterContinued (d :: later)
      | _ => none
    else match margin.isOpen, lexemeAt? (c :: rest) with
      | true, some (lexeme, later) =>
        let inside :=
          if lexeme == .mark '(' || lexeme == .mark '\x7b' then depth + 1
          else if lexeme == .mark ')' || lexeme == .mark '\x7d' then depth - 1
          else depth
        if bracketLimit < inside then none
        else (lexemes? fuel inside .inside later).map (lexeme :: ·)
      | _, _ => none

inductive Shape where
  | number (imaginary : Bool)
  | signed (imaginary : Bool)
  | fixed
  | changeable
deriving DecidableEq, Repr

abbrev Reads (α : Type) := List Lexeme → Option (α × List Lexeme)

/-- Reads items with commas between them up to a closing bracket. The flag tells that no item stands
right before the bracket. -/
def itemsUpTo {α : Type} (read : Reads α) (closing : Char) : Nat → Reads (List α × Bool)
  | 0, _ => none
  | fuel + 1, lexemes =>
    if lexemes.head? == some (.mark closing) then some (([], true), lexemes.drop 1)
    else match read lexemes with
      | some (item, .mark c :: rest) =>
        if c == closing then some (([item], false), rest)
        else if c == ',' then
          (itemsUpTo read closing fuel rest).map fun ((items, ended), later) =>
            ((item :: items, ended), later)
        else none
      | _ => none

def entryOf (read : Reads Shape) : Reads (Shape × Bool) := fun lexemes => do
  let (key, rest) ← read lexemes
  match rest with
  | .mark ':' :: later =>
    let (_, others) ← read later
    return ((key, true), others)
  | _ => return ((key, false), rest)

/-- The shape of what round brackets hold: one literal in brackets is that literal. -/
def tupleShape : List Shape × Bool → Shape
  | ([shape], false) => shape
  | (shapes, _) => if shapes.contains .changeable then .changeable else .fixed

/-- Reads a literal without a sign, given what reads one inside it. -/
def unsignedOf (read : Reads Shape) : Reads Shape := fun lexemes =>
  match lexemes with
  | .number imaginary :: rest => some (.number imaginary, rest)
  | .constant :: rest => some (.fixed, rest)
  | .text isBytes :: rest =>
    let others := rest.dropWhile (· == .text isBytes)
    if others.head? == some (.text !isBytes) then none else some (.fixed, others)
  | .setWord :: .mark '(' :: .mark ')' :: rest => some (.changeable, rest)
  | .mark '(' :: rest =>
    (itemsUpTo read ')' (rest.length + 1) rest).map fun (items, later) => (tupleShape items, later)
  | .mark '\x7b' :: rest => do
    let ((entries, _), later) ← itemsUpTo (entryOf read) '\x7d' (rest.length + 1) rest
    let isFixed := entries.all fun (shape, _) => shape != .changeable
    let isAlike := entries.all (·.2) || entries.all (!·.2)
    if isFixed && isAlike then some (.changeable, later) else none
  | _ => none

/-- Reads a literal with an optional sign, which only a number may have. -/
def signedOf (read : Reads Shape) : Reads Shape := fun lexemes =>
  match lexemes with
  | .mark '+' :: rest | .mark '-' :: rest =>
    match unsignedOf read rest with
    | some (.number imaginary, later) => some (.signed imaginary, later)
    | _ => none
  | _ => unsignedOf read lexemes

def isReal (shape : Shape) : Bool :=
  shape == .number false || shape == .signed false

def readLiteral : Nat → Reads Shape
  | 0, _ => none
  | fuel + 1, lexemes => do
    let (left, rest) ← signedOf (readLiteral fuel) lexemes
    match rest with
    | .mark '+' :: later | .mark '-' :: later =>
      match unsignedOf (readLiteral fuel) later with
      | some (.number true, others) => if isReal left then some (.fixed, others) else none
      | _ => none
    | _ => return (left, rest)

def isLiteral (text : Text) : Bool :=
  !text.contains '\x00' &&
    match lexemes? (text.length + 1) 0 (.before false false) (Text.unifyNewlines text) with
    | none | some [] => false
    | some lexemes =>
      let enclosed := .mark '(' :: lexemes ++ [.mark ')']
      match unsignedOf (readLiteral (lexemes.length + 1)) enclosed with
      | some (_, []) => true
      | _ => false

/-- Whether a text gives the arguments of an action: its name with literals in brackets after it, or
only literals. -/
def areArguments (text : Text) : Bool :=
  let given := Text.strip text
  let arguments := given.dropWhile fun c => Text.isWord c || c == '.'
  if arguments.isEmpty then true
  else if arguments.head? == some '(' && arguments.getLast? == some ')' &&
      !arguments.contains '\n' then isLiteral arguments
  else isLiteral given

end Outliner.Markup
