import Outliner.Number.Shortest

namespace Outliner.Json

inductive Value where
  | null
  | bool (value : Bool)
  | integer (value : Int)
  | real (value : Binary64)
  | text (value : Text)
  | array (items : List Value)
  | object (members : List (Text × Value))

namespace Value

def isComposite : Value → Bool
  | array _ => true
  | object _ => true
  | _ => false

/-- A scalar as text; a text stands for itself. An integer with too many digits has none. -/
def scalarText? : Value → Option Text
  | null => some "null".toList
  | bool true => some "true".toList
  | bool false => some "false".toList
  | integer value => Text.ofInt? value
  | real value => some value.toText
  | text value => some value
  | array _ => none
  | object _ => none

def summary : Value → Text
  | array items => "Array with ".toList ++ Text.ofNat items.length ++ " items".toList
  | object members =>
    "Object with ".toList ++ Text.ofNat members.length ++ " properties".toList
  | _ => []

end Value

section Members

variable {Name : Type} [DecidableEq Name]

/-- Adds a member. A repeated name keeps its first place and takes the last value. -/
def put (name : Name) (value : Value) : List (Name × Value) → List (Name × Value)
  | [] => [(name, value)]
  | (other, old) :: rest =>
    if other = name then (name, value) :: rest else (other, old) :: put name value rest

def collapse (members : List (Name × Value)) : List (Name × Value) :=
  members.foldl (fun kept (name, value) => put name value kept) []

end Members

end Outliner.Json
