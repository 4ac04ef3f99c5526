import Outliner.Files.Path

/-!
File trees and what is done with them: looking up, reading, listing and writing.
-/

namespace Outliner

inductive Trouble where
  | notFound
  | isDirectory
  | notDirectory
  | alreadyExists
  | badPath
  | tooLong
  | malformed
deriving DecidableEq, Repr

/-- A file with its bytes, or a directory with its entries. Either may be there and fail to be
opened. -/
inductive Entry where
  | file (bytes : List UInt8)
  | dir (entries : List (Text × Entry))
  | unreadable (trouble : Trouble)
  | unlistable (trouble : Trouble)

namespace Entry

def lookup? (name : Text) : List (Text × Entry) → Option Entry
  | [] => none
  | (other, entry) :: rest => if other == name then some entry else lookup? name rest

def insert (name : Text) (entry : Entry) : List (Text × Entry) → List (Text × Entry)
  | [] => [(name, entry)]
  | (other, old) :: rest =>
    if other == name then (name, entry) :: rest else (other, old) :: insert name entry rest

def remove (name : Text) (entries : List (Text × Entry)) : List (Text × Entry) :=
  entries.filter (·.1 != name)

/-- Follows the parts of a path. Two dots lead back to the directory before, of which the nearest
comes first. -/
def walk : List Entry → Entry → List Text → Except Trouble Entry
  | _, entry, [] => .ok entry
  | _, .file _, _ :: _ => .error .notDirectory
  | _, .unreadable _, _ :: _ => .error .notDirectory
  | _, .unlistable trouble, _ :: _ => .error trouble
  | before, .dir entries, part :: rest =>
    if part == ['.', '.'] then
      match before with
      | [] => walk [] (.dir entries) rest
      | up :: others => walk others up rest
    else if Path.nameLimit < Path.byteLength part then .error .tooLong
    else match lookup? part entries with
      | none => .error .notFound
      | some entry => walk (.dir entries :: before) entry rest

def resolve (root : Entry) (path : Path) : Except Trouble Entry :=
  if path.parts.any (·.contains '\x00') then .error .badPath
  else if Path.pathLimit < Path.byteLength path.toText then .error .tooLong
  else walk [] root path.way

def isRegular : Entry → Bool
  | file _ => true
  | unreadable _ => true
  | _ => false

def isPresent (root : Entry) (path : Path) : Bool :=
  (root.resolve path).isOk

def read (root : Entry) (path : Path) : Except Trouble (List UInt8) :=
  match root.resolve path with
  | .ok (.file bytes) => .ok bytes
  | .ok (.dir _) => .error .isDirectory
  | .ok (.unreadable trouble) => .error trouble
  | .ok (.unlistable trouble) => .error trouble
  | .error trouble => .error trouble

def list (root : Entry) (path : Path) : Except Trouble (List (Text × Entry)) :=
  match root.resolve path with
  | .ok (.dir entries) => .ok entries
  | .ok (.unlistable trouble) => .error trouble
  | .ok _ => .error .notDirectory
  | .error trouble => .error trouble

def place (new : Entry) : List Text → Entry → Except Trouble Entry
  | [], _ => .ok new
  | _ :: _, .file _ => .error .notDirectory
  | _ :: _, .unreadable _ => .error .notDirectory
  | _ :: _, .unlistable trouble => .error trouble
  | name :: rest, .dir entries => do
    let changed ← place new rest ((lookup? name entries).getD (.dir []))
    return .dir (insert name changed entries)

def makeDirs : List Text → Entry → Except Trouble Entry
  | [], .dir entries => .ok (.dir entries)
  | _, .unlistable trouble => .error trouble
  | [], _ => .error .alreadyExists
  | _ :: _, .file _ => .error .notDirectory
  | _ :: _, .unreadable _ => .error .notDirectory
  | name :: rest, .dir entries => do
    let changed ← makeDirs rest ((lookup? name entries).getD (.dir []))
    return .dir (insert name changed entries)

/-- Makes the directories of a way that goes on from a place. It can pass directories only. -/
def makeWay : List Text → List Text → Entry → Except Trouble Entry
  | reached, [], root => makeDirs reached.reverse root
  | reached, part :: rest, root =>
    match makeDirs reached.reverse root with
    | .ok ready => makeWay (Path.stepFrom reached part) rest ready
    | .error .alreadyExists => .error .notDirectory
    | .error trouble => .error trouble

def write (root : Entry) (path : Path) (bytes : List UInt8) : Except Trouble Entry := do
  let ready ← makeWay [] path.parent.way root
  match ready.resolve path with
  | .ok (.dir _) => .error .isDirectory
  | .ok (.unlistable _) => .error .isDirectory
  | .ok (.unreadable trouble) => .error trouble
  | .ok (.file _) => place (.file bytes) path.straight ready
  | .error .notFound => place (.file bytes) path.straight ready
  | .error trouble => .error trouble

def erase : List Text → Entry → Entry
  | [], entry => entry
  | _, .file bytes => .file bytes
  | _, .unreadable trouble => .unreadable trouble
  | _, .unlistable trouble => .unlistable trouble
  | [name], .dir entries => .dir (remove name entries)
  | name :: rest, .dir entries =>
    match lookup? name entries with
    | some entry => .dir (insert name (erase rest entry) entries)
    | none => .dir entries

def delete (root : Entry) (path : Path) : Except Trouble Entry :=
  match root.read path with
  | .ok _ => .ok (erase path.way root)
  | .error trouble => .error trouble

end Entry

end Outliner
