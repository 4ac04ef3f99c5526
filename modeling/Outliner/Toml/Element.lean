import Outliner.Toml.Literal

namespace Outliner.Toml

def isQuote (c : Char) : Bool :=
  c == '"' || c == '\''

def startsQuoted (text : Text) : Bool :=
  text.head?.any isQuote

def isTextArray (array : Text) : Bool :=
  startsQuoted (Text.strip (inner array))

def isBounded : Text → Bool
  | [] => true
  | first :: rest =>
    match rest.reverse with
    | [] => true
    | last :: before => last == first && (before.takeWhile (· == '\\')).length % 2 == 0

def isTripleOpen (piece : Text) : Bool :=
  match piece, piece.reverse with
  | a :: b :: c :: _, _ :: y :: z :: _ => a == b && b == c && y != a && z != a
  | _, _ => false

def endsInString (piece : Text) : Bool :=
  let text := Text.strip piece
  !isBounded text || isTripleOpen text

def joinStringsFrom (current : Text) : List Text → Except Fault (List Text)
  | [] => if endsInString current then .error .cutShort else .ok [current]
  | next :: rest =>
    if endsInString current then joinStringsFrom (current ++ ',' :: next) rest
    else if rest.isEmpty then .ok [current, next]
    else (joinStringsFrom next rest).map (current :: ·)

def joinStrings : List Text → Except Fault (List Text)
  | first :: second :: rest => joinStringsFrom first (second :: rest)
  | pieces => .ok pieces

inductive TablePhase where
  | inside (reversed : Text) (depth : Nat) (inString : Bool)
  | closed
  | between

def tablesFrom : TablePhase → Text → List Text
  | _, [] => []
  | .closed, _ :: rest => tablesFrom .between rest
  | .between, c :: rest =>
    if c == '\x7b' then tablesFrom (.inside [c] 1 false) rest else tablesFrom .between rest
  | .inside reversed depth inString, c :: rest =>
    let quoted :=
      if isQuote c then !inString || (reversed.takeWhile (· == '\\')).length % 2 == 1
      else inString
    let opened := if !quoted && c == '\x7b' then depth + 1 else depth
    if quoted || c != '\x7d' then tablesFrom (.inside (c :: reversed) opened quoted) rest
    else if 1 < opened then tablesFrom (.inside (c :: reversed) (opened - 1) quoted) rest
    else (c :: reversed).reverse :: tablesFrom .closed rest

def tables : Text → List Text
  | [] => []
  | c :: rest => tablesFrom (.inside [c] (if c == '\x7b' then 1 else 0) false) rest

def nestedPieces (depth : Int) : Text → List Text
  | [] => [[]]
  | c :: rest =>
    if c == ',' && depth == 0 then [] :: nestedPieces depth rest
    else
      let after := if c == '[' then depth + 1 else if c == ']' then depth - 1 else depth
      match nestedPieces after rest with
      | [] => [[c]]
      | piece :: pieces => (c :: piece) :: pieces

def elements (array : Text) : Except Fault (List Text) :=
  let contents := inner array
  let beforeArray := contents.takeWhile (· != '[')
  if contents.contains '[' && (Text.strip beforeArray).isEmpty then .ok (nestedPieces 0 contents)
  else if (Text.strip contents).head? == some '\x7b' then .ok (tables contents)
  else if isTextArray array then joinStrings (Text.cutAt ',' contents)
  else .ok (Text.cutAt ',' contents)

def isWholeEntry (entry : Text) : Except Fault Bool :=
  match Text.afterFirst? '=' entry with
  | none => .error .malformed
  | some rest =>
    let value := Text.strip rest
    match value.head?, value.getLast? with
    | some first, some last =>
      .ok (first == last && isQuote first || first == '-' || Text.isAsciiDigit first ||
        isTrueWord value || isFalseWord value || first == '[' && last == ']' ||
        first == '\x7b' && last == '\x7d')
    | _, _ => .error .cutShort

def joinEntriesFrom (current : Text) : List Text → Except Fault (List Text)
  | [] => do
    if ← isWholeEntry current then return [current] else .error .malformed
  | next :: rest => do
    if ← isWholeEntry current then return current :: (← joinEntriesFrom next rest)
    else joinEntriesFrom (current ++ ',' :: next) rest

def inlineEntries (table : Text) : Except Fault (List Text) :=
  match Text.cutAt ',' (inner table) with
  | [] => .ok []
  | first :: rest =>
    if rest.isEmpty && (Text.strip first).isEmpty then .ok [] else joinEntriesFrom first rest

end Outliner.Toml
