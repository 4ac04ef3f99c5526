import Outliner.Json.Decode
import Outliner.Outline.Node

namespace Outliner.Json

def Value.scalarText (value : Value) : Text :=
  value.scalarText?.getD []

def memberNode (path : Text) (level : Int) (name : Text) (value : Value) (below : List Node) :
    Node :=
  if value.isComposite then
    { name, kind := .object, path, level, lines := [value.summary], children := below }
  else
    { name := name ++ ": ".toList ++ value.scalarText, kind := .property, path, level }

def itemNode (path : Text) (level : Int) (index : Nat) (value : Value) (below : List Node) : Node :=
  { name := '[' :: Text.ofNat index ++ "]".toList, kind := .arrayItem, path, level
    lines := [if value.isComposite then value.summary else value.scalarText], children := below }

mutual

def Value.parts (path : Text) (level : Int) : Value → List Node
  | .array items => itemNodes path level 0 items
  | .object members => memberNodes path level members
  | _ => []
termination_by structural value => value

/-- The nodes of items, of which the first has the given index. -/
def itemNodes (path : Text) (level : Int) : Nat → List Value → List Node
  | _, [] => []
  | index, value :: rest =>
    itemNode path level index value (value.parts path (level + 1)) ::
      itemNodes path level (index + 1) rest
termination_by structural _ items => items

def memberNodes (path : Text) (level : Int) : List (Text × Value) → List Node
  | [] => []
  | (name, value) :: rest =>
    memberNode path level name value (value.parts path (level + 1)) ::
      memberNodes path level rest
termination_by structural members => members

end

mutual

def Value.isWritable : Value → Bool
  | .array items => itemsWritable items
  | .object members => membersWritable members
  | value => value.scalarText?.isSome
termination_by structural value => value

def itemsWritable : List Value → Bool
  | [] => true
  | value :: rest => value.isWritable && itemsWritable rest
termination_by structural items => items

def membersWritable : List (Text × Value) → Bool
  | [] => true
  | (_, value) :: rest => value.isWritable && membersWritable rest
termination_by structural members => members

end

/-- The outline of a value whose scalars have texts. The roots have the given level, and a scalar is
a single property. -/
def mirror (value : Value) (level : Int) (path : Text) : List Node :=
  if value.isComposite then value.parts path level
  else [{ name := "value: ".toList ++ value.scalarText, kind := .property, path, level }]

/-- The outline of a value, unless an integer in it is too long to be written. -/
def extract (value : Value) (level : Int) (path : Text) : Except Fault (List Node) :=
  if value.isWritable then .ok (mirror value level path) else .error .unwritable

/-- The outline of a document; one that cannot be decoded has a single error. What is decoded can
also be written. -/
def outline (document : Text) (level : Int) (path : Text) : List Node :=
  match decode document >>= fun value => extract value level path with
  | .ok forest => forest
  | .error fault => errorForest ("Invalid JSON: ".toList ++ fault.message document) level path

end Outliner.Json
