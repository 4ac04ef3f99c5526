import Outliner.Toml.Header
import Outliner.Toml.Layout

namespace Outliner.Toml

def Value.sameType : Value → Value → Bool
  | .text _, .text _ => true
  | .integer _, .integer _ => true
  | .real _, .real _ => true
  | .bool _, .bool _ => true
  | .moment a, .moment b => a.sameType b
  | .array _, .array _ => true
  | .table _, .table _ => true
  | _, _ => false

/-- Reads the elements of an array, which are all of the type of the first one. -/
def readElements (read : ValueReader) : Option Value → List Text → Except Fault (List Value)
  | _, [] => .ok []
  | first, piece :: rest =>
    let text := Text.strip piece
    if text.isEmpty then readElements read first rest
    else do
      let value ← read true text
      if first.any (!·.sameType value) then .error .malformed
      else return value :: (← readElements read (some (first.getD value)) rest)

def readNested : Nat → ValueReader
  | 0, _, _ => .error .malformed
  | depth + 1, strict, text =>
    match text with
    | [] => .error .malformed
    | first :: _ =>
      if isTrueWord text then .ok (.bool true)
      else if isFalseWord text then .ok (.bool false)
      else if isTrueWord (Text.lower text) || isFalseWord (Text.lower text) then
        .error .malformed
      else if isQuote first then (stringValue first text).map .text
      else if first == '[' then do
        let pieces ← elements text
        return .array (← readElements (readNested depth) none pieces)
      else if first == '\x7b' then do
        assignAll (readNested depth) (← inlineEntries text) (.table [])
      else match clockAt? text with
        | some (some clock) => .ok (.moment (.clock clock))
        | some none => .error .malformed
        | none => do
          match ← dateAt text with
          | some moment => return .moment moment
          | none => if strict then numberValue text else .error .malformed

def readValue (strict : Bool) (text : Text) : Except Fault Value :=
  readNested (text.length + 1) strict text

structure Document where
  value : Value := .table []
  place : List Step := []
  implicit : List Text := []
  pending : Option Pending := none

namespace Document

def closes (text line : Text) : Except Fault Bool :=
  match text.head? with
  | none => .ok false
  | some '[' =>
    match line.getLast? with
    | none => .error .cutShort
    | some last => .ok (last == ']')
  | some quote => .ok (2 < line.length && (line.reverse.take 3).all (· == quote))

def setEntry (key : Text) (value : Value) (document : Document) : Except Fault Document := do
  let (changed, ()) ← modifyAt (fun target => match target with
    | .table entries => .ok (.table (Table.insert key value entries), ())
    | _ => .error .notTable) document.place document.value
  return { document with value := changed }

def goOn (pending : Pending) (line : Text) (document : Document) : Except Fault Document := do
  let text := pending.text ++ line
  if ← closes text line then
    let value ← readValue true text
    return { ← document.setEntry pending.key value with pending := none }
  else return { document with pending := some (Pending.endLine pending.key text) }

/-- Takes a line that starts with something of its own. Lines without a meaning are passed over. -/
def takeLine (line : Text) (document : Document) : Except Fault Document :=
  match line.head? with
  | none => .ok document
  | some '[' => do
    let header ← Header.ofLine line
    let opened ← Header.openBelow header.isArray header.names document.value document.implicit
    return { document with
      value := opened.value, place := opened.steps, implicit := opened.implicit }
  | some '\x7b' =>
    if line.getLast? != some '\x7d' then .error .malformed
    else do
      let entries ← inlineEntries line
      let (changed, ()) ← modifyAt (fun target =>
        (assignAll readValue entries target).map (·, ())) document.place document.value
      return { document with value := changed }
  | some _ =>
    if line.contains '=' then do
      let (changed, pending) ← modifyAt (assign readValue line) document.place document.value
      return { document with value := changed, pending := pending }
    else .ok document

/-- Takes a line. Blanks around it count only inside of a string of several lines. -/
def step (document : Document) (line : Text) : Except Fault Document :=
  match document.pending with
  | none => document.takeLine (Text.strip line)
  | some pending =>
    let text :=
      if pending.joined || !pending.text.contains '\n' then Text.strip line else line
    if text.isEmpty && pending.joined then .ok document
    else document.goOn pending text

end Document

def parse (document : Text) : Except Fault Table := do
  let text ← layout document
  let last ← (Text.cutAt '\n' text).foldlM Document.step {}
  match last.value with
  | .table entries => return entries
  | _ => .error .notTable

end Outliner.Toml
