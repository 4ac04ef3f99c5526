import Outliner.Display.Highlight
import Outliner.Markup.Render
import Outliner.Text.Cluster

/-!
Lines for a screen of a given width. Words go on a line as long as they fit without the blanks
after them, and a word that fits on no line is cut.
-/

namespace Outliner.Display

open Markup (Spanned)

def tabWidth : Nat := 8

/-- The blanks for a tab after a piece that starts at a stop: one, and more up to the next stop. -/
def tabBlanks (piece : Text) : Nat :=
  1 + (tabWidth - Text.cells (piece ++ [' ']) % tabWidth) % tabWidth

def expandTab (part : Spanned) : Spanned :=
  if part.text.getLast? == some '\t' then
    let piece := part.text.dropLast
    let count := tabBlanks piece
    ⟨piece ++ List.replicate count ' ', part.spans.map (·.stretch part.text.length (count - 1))⟩
  else part

def expandTabs (line : Spanned) : Spanned :=
  if line.text.contains '\t' then
    let lengths := (Text.cutAt '\t' line.text).map fun piece => piece.length + 1
    Spanned.concat ((line.slices 0 lengths).map expandTab)
  else line

/-- The words of a line with the blanks after them; the first one also has those before it. The flag
tells whether a word has begun. -/
def spacedWordsFrom (begun : Bool) : Text → List Text
  | [] => []
  | c :: rest =>
    match spacedWordsFrom (begun || !Text.isSpace c) rest with
    | [] => [[c]]
    | word :: more =>
      if begun && Text.isSpace c && word.head?.any (!Text.isSpace ·) then [c] :: word :: more
      else (c :: word) :: more

def spacedWords (line : Text) : List Text :=
  spacedWordsFrom false line

/-- Puts clusters into parts that take at most `width` cells each, given the part begun last and its
cells. A cluster that is too wide has a part of its own, and the last part takes some cell. -/
def chopFrom (width : Nat) : Text → Nat → List Text.Cluster → List Text
  | part, size, [] => if size == 0 then [] else [part]
  | part, size, cluster :: rest =>
    if width < size + cluster.cells then
      part :: chopFrom width cluster.text cluster.cells rest
    else chopFrom width (part ++ cluster.text) (size + cluster.cells) rest

def chop (width : Nat) (text : Text) : List Text :=
  chopFrom width [] 0 (Text.clusters text)

structure Filling where
  done : List Text := []
  current : Text := []
  column : Nat := 0
  position : Nat := 0

namespace Filling

def append (filling : Filling) (text : Text) : Filling :=
  { filling with
    current := filling.current ++ text
    column := filling.column + Text.cells text
    position := filling.position + text.length }

def appendFree (filling : Filling) (text : Text) : Filling :=
  { filling with
    current := filling.current ++ text
    position := filling.position + text.length }

def startLine (filling : Filling) (text : Text) : Filling :=
  { done := if filling.position == 0 then filling.done else filling.current :: filling.done
    current := text
    column := Text.cells text
    position := filling.position + text.length }

def addWord (width : Nat) (filling : Filling) (word : Text) : Filling :=
  let size := Text.cells (Text.stripEnd word)
  if filling.column + size ≤ width then filling.append word
  else if width < size then
    match chop width word with
    | [] => filling.appendFree word
    | parts => parts.foldl startLine filling
  else filling.startLine word

def lines (filling : Filling) : List Text :=
  (filling.current :: filling.done).reverse

end Filling

/-- The lengths of the lines that a line without tabs is broken into. -/
def lineLengths (width : Nat) (line : Text) : List Nat :=
  ((spacedWords line).foldl (Filling.addWord width) {}).lines.map List.length

/-- The length of a line without those blanks at its end that make it longer than `width`. -/
def keptLength (width : Nat) (line : Text) : Nat :=
  let blanks := line.length - (Text.stripEnd line).length
  line.length - min blanks (line.length - width)

/-- The start of a line that takes exactly `width` cells; a cluster that would be cut becomes a
blank. -/
def crop (width : Nat) : List Text.Cluster → Text
  | [] => List.replicate width ' '
  | cluster :: rest =>
    if cluster.cells ≤ width then cluster.text ++ crop (width - cluster.cells) rest
    else List.replicate width ' '

def clip (width : Nat) (line : Text) : Text :=
  if Text.cells line ≤ width then line else crop width (Text.clusters line)

def runCells (runs : List Text) : Nat :=
  runs.foldl (fun sum run => sum + Text.cells run) 0

def fillWith (width : Nat) : List Text → List Text
  | [] => []
  | run :: rest =>
    let size := Text.cells run
    if size < width then run :: fillWith (width - size) rest else [clip width run]

def clipRuns (width : Nat) (runs : List Text) : List Text :=
  if runCells runs ≤ width then runs else fillWith width runs

/-- A line without the blanks and the characters at its end that do not fit. -/
def fit (width : Nat) (line : Spanned) : Spanned :=
  let kept := line.retext (line.text.take (keptLength width line.text))
  kept.retext (clip width kept.text)

/-- The lines of a screen of the given width that a text fills. Without any width there are none. -/
def wrap (width : Nat) (text : Spanned) : List Spanned :=
  if width == 0 then []
  else text.lines.flatMap fun line =>
    let expanded := expandTabs line
    (expanded.divide (lineLengths width expanded.text)).map (fit width)

/-- The runs of the lines that a text fills. Every run is measured by itself, so that a joiner at
the end of a run joins nothing there. -/
def wrapRuns (width : Nat) (text : Spanned) : List (List Text) :=
  (wrap width text).map fun line => clipRuns width line.runs

def wrapLines (width : Nat) (text : Spanned) : List Text :=
  (wrapRuns width text).map List.flatten

def printed (lines : List Text) : Text :=
  lines.flatMap (· ++ ['\n'])

/-- Markup as printed on a screen of the given width. What stands out in it by itself is
highlighted. -/
def tryPrint (width : Nat) (markup : Text) : Except Markup.Fault Text := do
  let text := highlight (← Markup.render markup)
  (wrap width text).forM Spanned.checkStyles
  return printed (wrapLines width text)

/-- Markup without faults, as printed. -/
def print (width : Nat) (markup : Text) : Text :=
  printed (wrapLines width (highlight (Markup.shown markup)))

end Outliner.Display
