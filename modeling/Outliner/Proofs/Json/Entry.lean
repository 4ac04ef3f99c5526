import Outliner.Json.Outline
import Outliner.Proofs.Outline.Forest

namespace Outliner.Json

/-- A part of a document: a member of an object, an item of an array, or a scalar that is the whole
document. -/
inductive Entry where
  | member (name : Text) (value : Value)
  | item (index : Nat) (value : Value)
  | whole (value : Value)

/-- What an outline says of a value: its summary, or the scalar. -/
def Value.line (value : Value) : Text :=
  if value.isComposite then value.summary else value.scalarText

namespace Entry

def value : Entry → Value
  | member _ value => value
  | item _ value => value
  | whole value => value

/-- The node of an entry without what is below it. -/
def header (path : Text) (level : Int) : Entry → Node
  | member name value =>
    if value.isComposite then { name, kind := .object, path, level, lines := [value.line] }
    else { name := name ++ ": ".toList ++ value.line, kind := .property, path, level }
  | item index value =>
    { name := '[' :: Text.ofNat index ++ "]".toList, kind := .arrayItem, path, level
      lines := [value.line] }
  | whole value => { name := "value: ".toList ++ value.line, kind := .property, path, level }

def node (path : Text) (level : Int) (entry : Entry) : Node :=
  { entry.header path level with children := entry.value.parts path (level + 1) }

theorem children_header (path : Text) (level : Int) (entry : Entry) :
    (entry.header path level).children = [] := by
  cases entry with
  | member name value =>
      simp only [header]
      split <;> rfl
  | item index value => rfl
  | whole value => rfl

end Entry

namespace Value

/-- The entries of a composite; a scalar has none. -/
def entries : Value → List Entry
  | object members => members.map fun member => .member member.1 member.2
  | array items => items.zipIdx.map fun item => .item item.2 item.1
  | _ => []

def topEntries (value : Value) : List Entry :=
  if value.isComposite then value.entries else [.whole value]

theorem topEntries_of_composite (value : Value) (composite : value.isComposite = true) :
    value.topEntries = value.entries := by
  rw [topEntries, if_pos composite]

theorem topEntries_of_scalar (value : Value) (scalar : value.isComposite = false) :
    value.topEntries = [.whole value] := by
  rw [topEntries, scalar]
  rfl

def entryAt? (value : Value) : List Nat → Option Entry
  | [] => none
  | [index] => value.entries[index]?
  | index :: address => value.entries[index]?.bind fun entry => entry.value.entryAt? address

/-- The entry of a document at an address; a scalar document has one entry, itself. -/
def partAt? (value : Value) (address : List Nat) : Option Entry :=
  if value.isComposite then value.entryAt? address
  else if address = [0] then some (.whole value) else none

theorem sizeOf_entry_lt (value : Value) (entry : Entry) (member : entry ∈ value.entries) :
    sizeOf entry.value < sizeOf value := by
  cases value with
  | array items =>
      obtain ⟨⟨item, index⟩, listed, rfl⟩ := List.mem_map.mp member
      have smaller : sizeOf item < sizeOf items :=
        List.sizeOf_lt_of_mem (List.fst_mem_of_mem_zipIdx listed)
      simp only [Entry.value, array.sizeOf_spec]
      omega
  | object members =>
      obtain ⟨⟨name, inner⟩, listed, rfl⟩ := List.mem_map.mp member
      have smaller := List.sizeOf_lt_of_mem listed
      simp only [Prod.mk.sizeOf_spec] at smaller
      simp only [Entry.value, object.sizeOf_spec]
      omega
  | _ => cases member

theorem induction {motive : Value → Prop}
    (step : ∀ value, (∀ entry ∈ value.entries, motive entry.value) → motive value)
    (value : Value) : motive value :=
  step value fun entry _ => Value.induction step entry.value
termination_by sizeOf value
decreasing_by exact sizeOf_entry_lt value entry ‹_›

end Value

theorem parts_of_scalar (path : Text) (level : Int) (value : Value)
    (scalar : value.isComposite = false) : value.parts path level = [] := by
  cases value with
  | array items => cases scalar
  | object members => cases scalar
  | null => rfl
  | bool value => rfl
  | integer value => rfl
  | real value => rfl
  | text value => rfl

theorem node_of_scalar (path : Text) (level : Int) (entry : Entry)
    (scalar : entry.value.isComposite = false) :
    entry.node path level = entry.header path level := by
  rw [Entry.node, parts_of_scalar path (level + 1) entry.value scalar]
  exact (entry.header path level).with_children [] (entry.children_header path level)

theorem itemNode_eq (path : Text) (level : Int) (index : Nat) (value : Value) :
    itemNode path level index value (value.parts path (level + 1)) =
      (Entry.item index value).node path level := by
  rfl

theorem memberNode_eq (path : Text) (level : Int) (name : Text) (value : Value) :
    memberNode path level name value (value.parts path (level + 1)) =
      (Entry.member name value).node path level := by
  simp only [memberNode, Entry.node, Entry.header, Entry.value, Value.line]
  cases composite : value.isComposite with
  | true => rfl
  | false =>
      rw [parts_of_scalar path (level + 1) value composite]
      rfl

theorem itemNodes_eq (path : Text) (level : Int) (first : Nat) (items : List Value) :
    itemNodes path level first items =
      (items.zipIdx first).map fun item => (Entry.item item.2 item.1).node path level := by
  induction items generalizing first with
  | nil => rfl
  | cons value rest ih =>
      rw [itemNodes, itemNode_eq, ih (first + 1), List.zipIdx_cons, List.map_cons]

theorem memberNodes_eq (path : Text) (level : Int) (members : List (Text × Value)) :
    memberNodes path level members =
      members.map fun member => (Entry.member member.1 member.2).node path level := by
  induction members with
  | nil => rfl
  | cons member rest ih =>
      obtain ⟨name, value⟩ := member
      rw [memberNodes, memberNode_eq, ih, List.map_cons]

theorem parts_eq_entries (path : Text) (level : Int) (value : Value) :
    value.parts path level = value.entries.map (Entry.node path level) := by
  cases value with
  | array items =>
      rw [Value.parts, itemNodes_eq, Value.entries, List.map_map]
      rfl
  | object members =>
      rw [Value.parts, memberNodes_eq, Value.entries, List.map_map]
      rfl
  | null => rfl
  | bool value => rfl
  | integer value => rfl
  | real value => rfl
  | text value => rfl

theorem mirror_eq_entries (path : Text) (level : Int) (value : Value) :
    mirror value level path = value.topEntries.map (Entry.node path level) := by
  rw [mirror]
  cases composite : value.isComposite with
  | true => rw [if_pos rfl, value.topEntries_of_composite composite, parts_eq_entries]
  | false =>
      rw [value.topEntries_of_scalar composite, List.map_singleton,
        node_of_scalar path level (.whole value) composite, Entry.header, Value.line, composite]
      rfl

theorem mirror_of_composite (path : Text) (level : Int) (value : Value)
    (composite : value.isComposite = true) :
    mirror value level path = value.parts path level := by
  rw [mirror, if_pos composite]

end Outliner.Json
