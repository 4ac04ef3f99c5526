import Outliner.Toml.Header

/-!
The text of a document. The entries of a table come first, then its arrays of tables; tables in
tables follow level by level, each under a header of its own.
-/

namespace Outliner.Toml

/-- Joins what stands before a mark of an escape by number with what follows it. The mark becomes
a letter or starts a longer escape, by the number of backslashes before it. -/
def joinNumbered (before after : Text) : Text :=
  let halved := Text.replaceAll "\\\\".toList "\\".toList before
  let run := ((halved.drop 1).reverse.takeWhile (· == '\\')).length
  let isLetter := halved.getLast? != some '\\' || run % 2 == 1
  halved ++ (if isLetter then "x".toList else "u00".toList) ++ after

/-- Joins the pieces between marks of escapes by number. A text that starts with such an escape has
no written form. -/
def joinAllNumbered : Text → List Text → Except Fault Text
  | first, [] => .ok first
  | [], [_] => .error .cutShort
  | [], second :: third :: rest =>
    if second.isEmpty then .error .cutShort else joinAllNumbered (joinNumbered second third) rest
  | c :: first, second :: rest => joinAllNumbered (joinNumbered (c :: first) second) rest

def renderText (text : Text) : Except Fault Text := do
  let shown := Text.quoted text
  let contents := inner shown
  let escaped :=
    if shown.head? == some '\'' then
      Text.replaceAll "\"".toList "\\\"".toList (Text.replaceAll "\\'".toList "'".toList contents)
    else contents
  match Text.cutAtText "\\x".toList escaped with
  | [] => return "\"\"".toList
  | first :: rest => return '"' :: (← joinAllNumbered first rest) ++ ['"']

/-- A key, in quotes unless it is a plain name. -/
def renderKey (key : Text) : Except Fault Text :=
  let plain := if key.getLast? == some '\n' then key.dropLast else key
  if isBareName plain then .ok key else renderText key

/-- A number with a point or an exponent, of which a first zero is left out. -/
def renderReal (value : Binary64) : Text :=
  Text.replaceAll "e-0".toList "e-".toList (Text.replaceAll "e+0".toList "e+".toList value.toText)

def renderItems (items : List Text) : Text :=
  "[".toList ++ items.flatMap (fun item => ' ' :: item ++ [',']) ++ "]".toList

mutual

/-- A value on one line. Of a table inside of an array, only the keys are written. -/
def Value.render : Value → Except Fault Text
  | .text value => renderText value
  | .integer value => required (Text.ofInt? value)
  | .real value => .ok (renderReal value)
  | .bool value => .ok (if value then "true".toList else "false".toList)
  | .moment value => required value.render?
  | .array items => (renderAll items).map renderItems
  | .table entries => (entries.mapM (renderText ·.1)).map renderItems
termination_by structural value => value

def renderAll : List Value → Except Fault (List Text)
  | [] => .ok []
  | value :: rest => do
    let first ← value.render
    return first :: (← renderAll rest)
termination_by structural items => items

end

abbrev Sections := List (Text × Table)

def Sections.insert (name : Text) (table : Table) : Sections → Sections
  | [] => [(name, table)]
  | (other, old) :: rest =>
    if other == name then (name, table) :: rest else (other, old) :: insert name table rest

abbrev BodyWriter := Text → Table → Except Fault (Text × Sections)

def dotted (before name : Text) : Text :=
  if before.isEmpty then name else before ++ '.' :: name

def header (name : Text) : Text :=
  '[' :: name ++ "]\n".toList

def Value.isTable : Value → Bool
  | .table _ => true
  | _ => false

/-- Writes the tables below a table of an array, level by level. -/
def renderBelow (body : BodyWriter) (element : Text) :
    Nat → Text → Sections → Except Fault Text
  | 0, done, _ => .ok done
  | levels + 1, done, sections =>
    if sections.isEmpty then .ok done
    else do
      let (written, next) ← sections.foldlM (fun (written, next) (name, table) => do
        let (text, below) ← body (dotted element name) table
        let grown :=
          if text.isEmpty then written else written ++ header (dotted element name) ++ text
        let deeper := below.foldl (fun next (inside, table) =>
          Sections.insert (dotted name inside) table next) next
        return (grown, deeper)) (done, ([] : Sections))
      renderBelow body element levels written next

def Value.elementEntries : Value → Except Fault Table
  | .table entries => .ok entries
  | .text [] => .ok []
  | .array [] => .ok []
  | _ => .error .notTable

def renderElement (body : BodyWriter) (levels : Nat) (name : Text) (element : Value) :
    Except Fault Text := do
  let (text, sections) ← body name (← element.elementEntries)
  let top := "[[".toList ++ name ++ "]]\n".toList
  let isNested := text.head? == some '['
  let below ← renderBelow body name levels (if isNested then '\n' :: text else ['\n']) sections
  return top ++ (if isNested then [] else text) ++ below

structure Body where
  entries : Text := []
  arrays : Text := []
  sections : Sections := []

def addToBody (body : BodyWriter) (levels : Nat) (name : Text) (done : Body)
    (entry : Text × Value) : Except Fault Body := do
  let key ← renderKey entry.1
  match entry.2 with
  | .table entries => return { done with sections := Sections.insert key entries done.sections }
  | .array items =>
    if items.any Value.isTable then
      let texts ← items.mapM (renderElement body levels (dotted name key))
      return { done with arrays := done.arrays ++ texts.flatten }
    else
      let text ← (Value.array items).render
      return { done with entries := done.entries ++ key ++ " = ".toList ++ text ++ ['\n'] }
  | value =>
    let text ← value.render
    return { done with entries := done.entries ++ key ++ " = ".toList ++ text ++ ['\n'] }

def renderBody : Nat → BodyWriter
  | 0, _, _ => .ok ([], [])
  | levels + 1, name, table => do
    let body ← table.foldlM (addToBody (renderBody levels) levels name) {}
    return (body.entries ++ body.arrays, body.sections)

/-- Writes tables under their headers, level by level. A blank line stands before each header. A
table that only holds tables has none. -/
def renderSections (body : BodyWriter) : Nat → Text → Sections → Except Fault Text
  | 0, done, _ => .ok done
  | levels + 1, done, sections =>
    if sections.isEmpty then .ok done
    else do
      let (written, next) ← sections.foldlM (fun (written, next) (name, table) => do
        let (text, below) ← body name table
        let isSeparate := written.isEmpty || (written.reverse.take 2) == ['\n', '\n']
        let grown :=
          if text.isEmpty && !below.isEmpty then written
          else (if isSeparate then written else written ++ ['\n']) ++ header name ++ text
        let deeper := below.foldl (fun next (inside, table) =>
          Sections.insert (dotted name inside) table next) next
        return (grown, deeper)) (done, ([] : Sections))
      renderSections body levels written next

mutual

def Value.depth : Value → Nat
  | .array items => depthOfItems items + 1
  | .table entries => depthOfEntries entries + 1
  | _ => 1
termination_by structural value => value

def depthOfItems : List Value → Nat
  | [] => 0
  | value :: rest => max value.depth (depthOfItems rest)
termination_by structural items => items

def depthOfEntries : List (Text × Value) → Nat
  | [] => 0
  | (_, value) :: rest => max value.depth (depthOfEntries rest)
termination_by structural entries => entries

end

def render (table : Table) : Except Fault Text := do
  let levels := depthOfEntries table + 1
  let (text, sections) ← renderBody levels [] table
  renderSections (renderBody levels) levels text sections

end Outliner.Toml
