import Outliner.Toml.Assignment

namespace Outliner.Toml

def isBareChar (c : Char) : Bool :=
  'a' ≤ c && c ≤ 'z' || 'A' ≤ c && c ≤ 'Z' || Text.isAsciiDigit c || c == '_' || c == '-'

def isBareName (name : Text) : Bool :=
  !name.isEmpty && name.all isBareChar

def isEnclosed (text : Text) : Bool :=
  1 < text.length && text.head? == text.getLast?

/-- The names between the dots of a header. A quoted name that holds dots is joined again; the
first argument is the part of it that has been read. -/
def headerNamesFrom : Option Text → List Text → Except Fault (List Text)
  | none, [] => .ok []
  | some _, [] => .error .malformed
  | none, part :: rest =>
    let name := Text.strip part
    if startsQuoted name then
      if isEnclosed name then (headerNamesFrom none rest).map (inner name :: ·)
      else headerNamesFrom (some name) rest
    else if isBareName name then (headerNamesFrom none rest).map (name :: ·)
    else .error .malformed
  | some before, part :: rest =>
    let joined := before ++ '.' :: part
    let name := Text.strip joined
    if isEnclosed name then (headerNamesFrom none rest).map (inner name :: ·)
    else headerNamesFrom (some joined) rest

structure Header where
  names : List Text
  isArray : Bool

/-- Reads a header without its opening brackets. -/
def Header.ofBody (isArray : Bool) (body : Text) : Except Fault Header := do
  let closing := if isArray then "]]".toList else "]".toList
  let cuts := cutsToPlain closing false (quotePieces body)
  let parts := cutTimes closing cuts body
  if parts.length < cuts + 1 || !(Text.strip (parts.getLast?.getD [])).isEmpty then
    .error .malformed
  else
    let names ← headerNamesFrom none (Text.cutAt '.' (Text.join closing parts.dropLast))
    return ⟨names, isArray⟩

def Header.ofLine (line : Text) : Except Fault Header :=
  match line.drop 1 with
  | [] => .error .malformed
  | '[' :: body => Header.ofBody true body
  | body => Header.ofBody false body

inductive Step where
  | entry (name : Text)
  | last
deriving DecidableEq, Repr

def modifyAt {α : Type} (change : Value → Except Fault (Value × α)) :
    List Step → Value → Except Fault (Value × α)
  | [], value => change value
  | .entry name :: steps, .table entries =>
    match Table.get? name entries with
    | none => .error .notTable
    | some value => do
      let (changed, result) ← modifyAt change steps value
      return (.table (Table.insert name changed entries), result)
  | .last :: steps, .array items =>
    match items.getLast? with
    | none => .error .cutShort
    | some value => do
      let (changed, result) ← modifyAt change steps value
      return (.array (items.dropLast ++ [changed]), result)
  | _ :: _, _ => .error .notTable

/-- A document with the place of a header in it and the names of tables that stand for headers to
come. -/
structure Opened where
  value : Value
  steps : List Step
  implicit : List Text

def Header.fresh (isLast isArray : Bool) : Value :=
  if isLast && isArray then .array [.table []] else .table []

/-- What a header finds under a name that is there: the value to go on with. A table may have a
header of its own only if it has stood for a header to come. -/
def Header.reopen (isArray : Bool) (name : Text) (implicit : List Text) (found : Value) :
    Except Fault (Value × List Text) :=
  if implicit.contains name then
    if isArray then .error .malformed else .ok (found, implicit.erase name)
  else if isArray then
    match found with
    | .array items => .ok (.array (items ++ [.table []]), implicit)
    | _ => .error .notArray
  else .error .malformed

def Header.openBelow (isArray : Bool) : List Text → Value → List Text → Except Fault Opened
  | [], value, implicit => .ok ⟨value, [], implicit⟩
  | name :: rest, value, implicit =>
    -- A header of an array goes on from the last element of every array on its way.
    let goOn := fun (found : Value) (implicit : List Text) => do
      if !isArray then
        let opened ← openBelow isArray rest found implicit
        return { opened with steps := .entry name :: opened.steps }
      match found with
      | .array items =>
        match items.getLast? with
        | none => .error .cutShort
        | some last => do
          let opened ← openBelow isArray rest last implicit
          return { opened with
            value := .array (items.dropLast ++ [opened.value])
            steps := .entry name :: .last :: opened.steps }
      | .text [] => .error .cutShort
      | .table _ | .text _ => do
        let opened ← openBelow isArray rest found implicit
        return { opened with steps := .entry name :: opened.steps }
      | _ => .error .notTable
    let into := fun (entries : Table) (opened : Opened) =>
      { opened with value := Value.table (Table.insert name opened.value entries) }
    if name.isEmpty then .error .malformed
    else match value with
      | .table entries =>
        match Table.get? name entries with
        | some found => do
          let (kept, implicit) ←
            if rest.isEmpty then reopen isArray name implicit found else .ok (found, implicit)
          return into entries (← goOn kept implicit)
        | none => do
          let implicit := if rest.isEmpty then implicit else implicit ++ [name]
          return into entries (← goOn (fresh rest.isEmpty isArray) implicit)
      | .array items =>
        match items.getLast? with
        | none => .error .cutShort
        | some (.table entries) => do
          let found := (Table.get? name entries).getD (fresh rest.isEmpty isArray)
          let opened := into entries (← goOn found implicit)
          return { opened with
            value := .array (items.dropLast ++ [opened.value])
            steps := .last :: opened.steps }
        | some _ => .error .notTable
      | .text [] => .error .cutShort
      | _ => .error .notTable

end Outliner.Toml
