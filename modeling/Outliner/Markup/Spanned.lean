import Outliner.Text.Basic

/-!
Texts with spans: stretches in a style. Spans may overlap. A span can be empty as long as its text
stays whole; what is cut out of a text has only the parts of spans that hold some character.
-/

namespace Outliner.Markup

structure Span where
  start : Nat
  stop : Nat
  style : Text := []
deriving DecidableEq, Repr

namespace Span

def between? (first last : Nat) (span : Span) : Option Span :=
  let start := max first span.start
  let stop := min last span.stop
  if start < stop then some { span with start := start - first, stop := stop - first } else none

def before? (last : Nat) (span : Span) : Option Span :=
  if span.start < last then some { span with stop := min last span.stop } else none

def shift (distance : Nat) (span : Span) : Span :=
  { span with start := span.start + distance, stop := span.stop + distance }

def stretch (last added : Nat) (span : Span) : Span :=
  if last ≤ span.stop then { span with stop := span.stop + added } else span

end Span

structure Spanned where
  text : Text := []
  spans : List Span := []
deriving DecidableEq, Repr

namespace Spanned

def slice (text : Spanned) (start length : Nat) : Spanned :=
  ⟨(text.text.drop start).take length, text.spans.filterMap (·.between? start (start + length))⟩

def slices (text : Spanned) : Nat → List Nat → List Spanned
  | _, [] => []
  | start, length :: rest => text.slice start length :: text.slices (start + length) rest

/-- Divides a text into parts of the given lengths. A single part is the text itself. -/
def divide (text : Spanned) (lengths : List Nat) : List Spanned :=
  if lengths.length ≤ 1 then [text] else text.slices 0 lengths

def linesAt (text : Spanned) : Nat → List Text → List Spanned
  | _, [] => []
  | start, line :: rest =>
    text.slice start line.length :: text.linesAt (start + line.length + 1) rest

def lines (text : Spanned) : List Spanned :=
  if text.text.contains '\n' then text.linesAt 0 (Text.cutAt '\n' text.text) else [text]

def append (first second : Spanned) : Spanned :=
  ⟨first.text ++ second.text, first.spans ++ second.spans.map (·.shift first.text.length)⟩

def concat (parts : List Spanned) : Spanned :=
  parts.foldl append {}

/-- Another text in the place of a text. If it is shorter, the spans end where it ends. -/
def retext (text : Spanned) (new : Text) : Spanned :=
  ⟨new,
    if new.length < text.text.length then text.spans.filterMap (·.before? new.length)
    else text.spans⟩

def isEdge (text : Spanned) (position : Nat) : Bool :=
  text.spans.any fun span => span.start == position || span.stop == position

def cutAtEdges (isEdge : Nat → Bool) : Nat → Text → List Text
  | _, [] => []
  | position, c :: rest =>
    match cutAtEdges isEdge (position + 1) rest with
    | [] => [[c]]
    | run :: runs =>
      if isEdge (position + 1) then [c] :: run :: runs else (c :: run) :: runs

def runs (text : Spanned) : List Text :=
  cutAtEdges text.isEdge 0 text.text

end Spanned

end Outliner.Markup
