import Outliner.Text.LowerCase

/-!
Paths. Empty parts and those of a single dot disappear when a path is read; parts of two dots stay.
-/

namespace Outliner

structure Path where
  anchor : Text := []
  parts : List Text := []
deriving DecidableEq, Repr

namespace Path

/-- The anchor of a path: nothing, one slash, or exactly two. -/
def anchorOf : Text → Text
  | '/' :: '/' :: '/' :: _ => ['/']
  | '/' :: '/' :: _ => ['/', '/']
  | '/' :: _ => ['/']
  | _ => []

def ofText (text : Text) : Path where
  anchor := anchorOf text
  parts := (Text.cutAt '/' text).filter fun part => !part.isEmpty && part != ['.']

def toText (path : Path) : Text :=
  match path.anchor ++ Text.join ['/'] path.parts with
  | [] => ['.']
  | text => text

def byteLength (text : Text) : Nat :=
  text.foldl (fun size c => size + c.utf8Size) 0

def nameLimit : Nat := 255

def pathLimit : Nat := 4095

/-- The last part; a path without parts has an empty name. -/
def name (path : Path) : Text :=
  path.parts.getLast?.getD []

/-- The name of what a path leads to, or the path itself if it has no name. -/
def title (path : Path) : Text :=
  if path.name.isEmpty then path.toText else path.name

def anchorName : Text := "./".toList

def way (path : Path) : List Text :=
  if path.anchor.isEmpty then path.parts else anchorName :: path.parts

/-- Where a part of a path leads from a place, whose names are listed from the last one on. Two dots
lead back. -/
def stepFrom (reached : List Text) (part : Text) : List Text :=
  if part == ['.', '.'] then reached.drop 1 else part :: reached

/-- The names that lead to a path's file without any way back. -/
def straight (path : Path) : List Text :=
  (path.way.foldl stepFrom []).reverse

def child (path : Path) (name : Text) : Path :=
  { path with parts := path.parts ++ [name] }

def parent (path : Path) : Path :=
  { path with parts := path.parts.dropLast }

/-- The last dot of a name and what follows it. A dot at the start or at the end makes no suffix. -/
def suffixOf (name : Text) : Text :=
  match Text.beforeLast? '.' name with
  | some (_ :: stem) =>
    let suffix := name.drop (stem.length + 1)
    if suffix == ['.'] then [] else suffix
  | _ => []

/-- The suffix in lower case, by which files are told apart. -/
def suffix (path : Path) : Text :=
  Text.lower (suffixOf path.name)

end Path

end Outliner
