import Outliner.Toml.Element
import Outliner.Toml.Piece
import Outliner.Toml.Timestamp

/-!
Assignments: the key, the value and the table that takes them. What reads a value is a parameter,
because values hold assignments in turn.
-/

namespace Outliner.Toml

abbrev ValueReader := Bool → Text → Except Fault Value

structure Assignment where
  key : Text
  value : Text
  strict : Bool

def Assignment.make (key : List Text) (value : Text) (strict : Bool) : Assignment where
  key := Text.strip (Text.join ['='] key)
  value := Text.strip value
  strict := strict

def isSettled (value : Text) : Except Fault Bool :=
  match value with
  | [] => .ok true
  | first :: _ =>
    if first == ' ' || first == '\t' || isQuote first || first == '[' || first == '\x7b' ||
        isTrueWord (Text.strip value) || isFalseWord (Text.strip value) ||
        (realValue? value).isSome then .ok true
    else (dateAt value).map Option.isSome

/-- Gives pieces between signs of equality to the key until the value is settled. The last piece is
tried as it stands too. -/
def settle (strict : Bool) (key : List Text) (piece value : Text) :
    List Text → Except Fault Assignment
  | [] => do
    if ← isSettled value then return Assignment.make key value strict
    else if ← isSettled piece then
      return Assignment.make key piece (strict && isStrictNumber piece)
    else .error .malformed
  | next :: rest => do
    if ← isSettled value then return Assignment.make key value strict
    else
      let moved := Text.join ['='] (next :: rest)
      settle (strict && isStrictNumber moved) (key ++ [piece]) next moved rest

def Assignment.ofLine (line : Text) : Except Fault Assignment :=
  let pieces := Text.cutAt '=' line
  let cuts := min (cutsToPlain ['='] false (quotePieces line)) (pieces.length - 1)
  match pieces.drop cuts with
  | [] => .error .malformed
  | piece :: rest =>
    let value := Text.join ['='] (piece :: rest)
    let clean :=
      if value.head?.any Text.isAsciiDigit then value.filter (· != '_') else value
    settle (isStrictNumber value) (pieces.take cuts) piece clean rest

def dottedNames : Bool → List Text → List Text
  | _, [] => []
  | true, part :: rest => part :: dottedNames false rest
  | false, part :: rest => (Text.cutAt '.' part).map Text.strip ++ dottedNames true rest

/-- The names of the tables that a key leads through, and the name of its entry. Only a key that is
one quoted name may have escapes, whichever quotes it has. -/
def keyNames (key : Text) : Except Fault (List Text × Text) :=
  if key.contains '.' then
    let names :=
      if key.any isQuote then dottedNames false (quotePieces key) else Text.cutAt '.' key
    let trimmed := (names.reverse.dropWhile List.isEmpty).reverse
    match trimmed.getLast? with
    | none => .error .cutShort
    | some last => .ok (trimmed.dropLast.filter (!·.isEmpty), Text.strip last)
  else match key.head?, key.getLast? with
    | some first, some last =>
      if first == last && isQuote first then (unescape (inner key)).map ([], ·) else .ok ([], key)
    | _, _ => .error .cutShort

structure Pending where
  key : Text
  text : Text
  joined : Bool

def Pending.endLine (key text : Text) : Pending :=
  if endsOddBackslashes text then ⟨key, text.dropLast, true⟩ else ⟨key, text ++ ['\n'], false⟩

/-- Puts pieces between commas before a last one until it starts with a quote. The pieces come last
first. -/
def lastString (last : Text) : List Text → Except Fault Text
  | [] => .ok last
  | before :: rest =>
    match last with
    | [] => .error .cutShort
    | first :: _ =>
      if isQuote first then .ok last else lastString (before ++ ',' :: last) rest

def openString (value : Text) : Except Fault Text :=
  if value.head? == some '[' && value.getLast? != some ']' && isTextArray value then
    match (Text.cutAt ',' (Text.strip (value.drop 1))).reverse with
    | [] => .ok []
    | last :: before => lastString last before
  else .ok value

def isOpen (value : Text) : Except Fault Bool := do
  if value.length < 3 then return false
  let text ← openString value
  match text with
  | [] => .error .cutShort
  | first :: rest =>
    if !isQuote first then return false
    match rest with
    | [] => .error .cutShort
    | second :: others =>
      if second != first then return false
      match others with
      | [] => .error .cutShort
      | third :: _ =>
        if third != first then return false
        return !(5 < text.length && (text.reverse.take 3).all (· == first))

def within {α : Type} (change : Value → Except Fault (Value × α)) :
    List Text → Value → Except Fault (Value × α)
  | [], value => change value
  | name :: rest, .table entries => do
    let (changed, result) ← within change rest ((Table.get? name entries).getD (.table []))
    return (.table (Table.insert name changed entries), result)
  | _ :: _, _ => .error .notTable

def addEntry (key : Text) (value : Value) : Value → Except Fault Value
  | .table entries =>
    if Table.has key entries then .error .malformed
    else .ok (.table (Table.insert key value entries))
  | _ => .error .malformed

def assign (read : ValueReader) (line : Text) (target : Value) :
    Except Fault (Value × Option Pending) := do
  let assignment ← Assignment.ofLine line
  let (names, key) ← keyNames assignment.key
  within (fun table => do
    if ← isOpen assignment.value then
      let _ ← addEntry key (.bool true) table
      if key.isEmpty then .error .nameless
      return (table, some (Pending.endLine key assignment.value))
    let value ← read assignment.strict assignment.value
    return (← addEntry key value table, none)) names target

def assignAll (read : ValueReader) : List Text → Value → Except Fault Value
  | [], target => .ok target
  | line :: rest, target => do
    let (changed, pending) ← assign read line target
    if pending.isSome then return changed else assignAll read rest changed

end Outliner.Toml
