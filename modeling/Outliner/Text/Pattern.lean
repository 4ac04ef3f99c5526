import Outliner.Text.Numeral

/-!
Patterns of text. A pattern tries its ways one after the other, takes the first one after which the
rest of the pattern fits too, and remembers which stretches of the text its marked parts took.
-/

namespace Outliner.Text

inductive Pattern where
  | nothing
  | char (accepts : Char → Bool)
  | notAfter (rejects : Char → Bool)
  /-- Fits where a word starts or ends, or only where none does. -/
  | wordEdge (isEdge : Bool)
  | andThen (first second : Pattern)
  | orElse (first second : Pattern)
  | many (isGreedy : Bool) (least : Nat) (most : Option Nat) (body : Pattern)
  | mark (body : Pattern)

namespace Pattern

def one (c : Char) : Pattern :=
  char (· == c)

def oneOf (chars : String) : Pattern :=
  char chars.toList.contains

def literal (text : String) : Pattern :=
  text.toList.foldr (fun c rest => andThen (one c) rest) nothing

def sequence (parts : List Pattern) : Pattern :=
  parts.foldr andThen nothing

def firstOf (choices : List Pattern) : Pattern :=
  choices.foldr orElse (char fun _ => false)

def optional (body : Pattern) : Pattern :=
  many true 0 (some 1) body

def most (body : Pattern) : Pattern :=
  many true 0 none body

def mostOnce (body : Pattern) : Pattern :=
  many true 1 none body

def fewest (body : Pattern) : Pattern :=
  many false 0 none body

def between (least most : Nat) (body : Pattern) : Pattern :=
  many true least (some most) body

def times (count : Nat) (body : Pattern) : Pattern :=
  between count count body

structure Place where
  before : Option Char
  position : Nat
  rest : Text
  marks : List (Nat × Nat) := []

/-- Goes on from a place, if the rest of a pattern fits there. -/
abbrev Next := Place → Option Place

def Place.isWordEdge (place : Place) : Bool :=
  place.before.any isWord != place.rest.head?.any isWord

/-- Fits a step again and again, at least `least` times and at most as often as the second number
tells. -/
def repeatedly (step : Next → Next) (isGreedy : Bool) (next : Next) : Nat → Nat → Next
  | least, 0, place => if least == 0 then next place else none
  | least, most + 1, place =>
    if 0 < least then step (repeatedly step isGreedy next (least - 1) most) place
    else if isGreedy then
      match step (repeatedly step isGreedy next 0 most) place with
      | some last => some last
      | none => next place
    else match next place with
      | some last => some last
      | none => step (repeatedly step isGreedy next 0 most) place

/-- Fits a pattern at a place, and what comes next after it. -/
def fit : Pattern → Next → Next
  | nothing, next, place => next place
  | char accepts, next, place =>
    match place.rest with
    | c :: rest =>
      if accepts c then
        next { place with before := some c, position := place.position + 1, rest }
      else none
    | [] => none
  | notAfter rejects, next, place => if place.before.any rejects then none else next place
  | wordEdge isEdge, next, place => if place.isWordEdge == isEdge then next place else none
  | andThen first second, next, place => fit first (fit second next) place
  | orElse first second, next, place =>
    match fit first next place with
    | some last => some last
    | none => fit second next place
  | many isGreedy least most body, next, place =>
    repeatedly (fit body) isGreedy next least (most.getD place.rest.length) place
  | mark body, next, place =>
    fit body (fun last =>
      next { last with marks := (place.position, last.position) :: last.marks }) place

/-- What the marked parts take, wherever a pattern fits, from the left without overlap. The first
argument counts the characters that the last fit took and that are still to be passed over. -/
def marksFrom (pattern : Pattern) : Nat → Option Char → Nat → Text → List (Nat × Nat)
  | _, _, _, [] => []
  | passing + 1, _, position, c :: rest =>
    marksFrom pattern passing (some c) (position + 1) rest
  | 0, before, position, c :: rest =>
    match fit pattern some { before, position, rest := c :: rest } with
    | none => marksFrom pattern 0 (some c) (position + 1) rest
    | some last =>
      last.marks.reverse ++
        marksFrom pattern (last.position - position - 1) (some c) (position + 1) rest

def marks (pattern : Pattern) (text : Text) : List (Nat × Nat) :=
  marksFrom pattern 0 none 0 text

end Pattern

end Outliner.Text
