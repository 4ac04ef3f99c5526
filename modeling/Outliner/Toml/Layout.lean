import Outliner.Text.Numeral
import Outliner.Toml.Value

/-!
The layout of a document: a pass that blanks comments, joins the lines of an array into one, and
refuses lines without a proper key and strings that do not end.
-/

namespace Outliner.Toml

inductive KeyPhase where
  | outside
  | name
  | afterName
deriving DecidableEq, Repr

structure Layout where
  before : Text := []
  phase : KeyPhase := .outside
  dotted : Bool := false
  quote : Option Char := none
  multiline : Bool := false
  arrays : Int := 0
  inHeader : Bool := false
  inArrayHeader : Bool := false
  atLineStart : Bool := true
  inComment : Bool := false

namespace Layout

def push (state : Layout) (c : Char) : Layout :=
  { state with before := c :: state.before }

def isNameChar (c : Char) : Bool :=
  Text.isAlphanumeric c || c == '_' || c == '-'

def oddBackslashes (text : Text) : Bool :=
  (text.takeWhile (· == '\\')).length % 2 == 1

def lookAhead (state : Layout) (rest : Text) : Except Fault Layout :=
  match rest with
  | [] => .error .cutShort
  | next :: _ =>
    if Text.isSpace next || next == '.' then .ok state
    else .ok { state with phase := .name }

def keyStep (state : Layout) (c : Char) (rest : Text) : Except Fault (Layout × Bool) :=
  if c == '\n' then .error .malformed
  else if state.quote.isSome then
    if state.quote == some c && !oddBackslashes state.before then
      .ok ({ state with phase := .afterName, quote := none }, false)
    else .ok (state, false)
  else
    let ended : Except Fault (Layout × Bool) :=
      if c == '=' then .ok ({ state with phase := .outside, dotted := false }, true)
      else .error .malformed
    match state.phase with
    | .outside => .ok (state, true)
    | .name =>
      if Text.isSpace c then .ok ({ state with phase := .afterName }, false)
      else if c == '.' then .ok ({ state with dotted := true }, false)
      else if isNameChar c then .ok (state, false)
      else if state.dotted && state.before.head? == some '.' && (c == '"' || c == '\'') then
        .ok ({ state with quote := some c }, false)
      else ended
    | .afterName =>
      if Text.isSpace c then
        if state.dotted then (lookAhead state rest).map (·, false) else .ok (state, false)
      else if c == '.' then (lookAhead { state with dotted := true } rest).map (·, false)
      else ended

/-- Opens or closes a string at a quote. Three quotes in a row open or close a string of several
lines. Looking back from the start of the document goes on at its end. -/
def quoteStep (state : Layout) (c : Char) (rest : Text) : Layout :=
  let back := state.before ++ (c :: rest).reverse
  let run := (back.takeWhile (· == c)).length
  let triple := 2 ≤ run
  let escaped := c == '"' &&
    if triple then oddBackslashes (back.drop 2) else run == 0 && oddBackslashes back
  if escaped then state
  else if triple then
    { state with multiline := !state.multiline, quote := if state.multiline then none else some c }
  else { state with quote := if state.quote.isSome then none else some c }

def bracketStep (state : Layout) (c : Char) (rest : Text) : Layout :=
  if state.quote.isSome then state
  else if c == '[' then
    if state.inHeader || state.inArrayHeader then state
    else if state.atLineStart then
      if rest.head? == some '[' then { state with inArrayHeader := true }
      else { state with inHeader := true }
    else { state with arrays := state.arrays + 1 }
  else if c == ']' then
    if state.inHeader then { state with inHeader := false }
    else if state.inArrayHeader then
      if state.before.head? == some ']' then { state with inArrayHeader := false } else state
    else { state with arrays := state.arrays - 1 }
  else state

/-- The end of a line. Inside an array it becomes a blank. Right after the quotes that open a string
of several lines it is dropped, by moving the quotes. -/
def newlineStep (state : Layout) : Except Fault Layout :=
  if state.quote.isSome || state.multiline then
    if !state.multiline then .error .malformed
    else match state.before with
      | a :: b :: rest =>
        if (a == '\'' || a == '"') && a == b then
          match rest with
          | d :: others =>
            let moved := if d == a then ' ' else d
            .ok { state with before := a :: a :: b :: moved :: others }
          | [] => .ok { state with before := [a, a, b] }
        else .ok (state.push '\n')
      | _ => .ok (state.push '\n')
  else if state.arrays != 0 then .ok (state.push ' ')
  else .ok { state with before := '\n' :: state.before, atLineStart := true }

def startStep (state : Layout) (c : Char) : Except Fault Layout :=
  if state.atLineStart && c != ' ' && c != '\t' then
    if state.inHeader || state.inArrayHeader then .ok { state with atLineStart := false }
    else if c == '=' then .error .malformed
    else .ok { state with atLineStart := false, phase := .name }
  else .ok state

def plainStep (state : Layout) (c : Char) (rest : Text) : Except Fault Layout :=
  if c == '\n' then newlineStep state
  else
    let quoted :=
      if (c == '\'' && state.quote != some '"') || (c == '"' && state.quote != some '\'') then
        quoteStep state c rest
      else state
    if c == '#' && quoted.quote.isNone && !quoted.inHeader && !quoted.inArrayHeader then
      .ok { quoted.push ' ' with inComment := true }
    else do
      let started ← startStep (bracketStep quoted c rest) c
      return started.push c

def step (state : Layout) (c : Char) (rest : Text) : Except Fault Layout :=
  if state.inComment then
    if c == '\n' then newlineStep { state with inComment := false } else .ok (state.push ' ')
  else if state.phase == .outside then plainStep state c rest
  else do
    let (next, ended) ← keyStep state c rest
    if ended then plainStep next c rest else return next.push c

def run : Layout → Text → Except Fault Layout
  | state, [] => .ok state
  | state, c :: rest => do
    let next ← state.step c rest
    run next rest

end Layout

def layout (document : Text) : Except Fault Text := do
  let last ← Layout.run {} document
  if last.phase != .outside || last.quote.isSome then .error .malformed
  else return last.before.reverse

end Outliner.Toml
