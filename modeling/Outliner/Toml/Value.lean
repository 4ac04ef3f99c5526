import Outliner.Number.Shortest
import Outliner.Text.Quoted
import Outliner.Toml.Moment

namespace Outliner.Toml

inductive Fault where
  | malformed
  | cutShort
  | notTable
  | notArray
  | tooLarge
  | nameless
  /-- A value has no text: a moment a day or more away from universal time, or an integer with too
  many digits. -/
  | badOffset
deriving DecidableEq, Repr

inductive Value where
  | text (value : Text)
  | integer (value : Int)
  | real (value : Binary64)
  | bool (value : Bool)
  | moment (value : Moment)
  | array (items : List Value)
  | table (entries : List (Text × Value))

abbrev Table := List (Text × Value)

namespace Table

def get? (key : Text) : Table → Option Value
  | [] => none
  | (other, value) :: rest => if other == key then some value else get? key rest

def has (key : Text) (table : Table) : Bool :=
  (get? key table).isSome

def insert (key : Text) (value : Value) : Table → Table
  | [] => [(key, value)]
  | (other, old) :: rest =>
    if other == key then (key, value) :: rest else (other, old) :: insert key value rest

def erase (key : Text) (table : Table) : Table :=
  table.filter (·.1 != key)

end Table

mutual

def Value.shown : Value → Option Text
  | .text value => some (Text.quoted value)
  | .integer value => Text.ofInt? value
  | .real value => some value.toText
  | .bool true => some "True".toList
  | .bool false => some "False".toList
  | .moment value => some value.shown
  | .array items => (shownItems items).map fun texts =>
    "[".toList ++ Text.join ", ".toList texts ++ "]".toList
  | .table entries => (shownEntries entries).map fun texts =>
    "\x7b".toList ++ Text.join ", ".toList texts ++ "\x7d".toList
termination_by structural value => value

def shownItems : List Value → Option (List Text)
  | [] => some []
  | value :: rest => do return (← value.shown) :: (← shownItems rest)
termination_by structural items => items

def shownEntries : List (Text × Value) → Option (List Text)
  | [] => some []
  | (key, value) :: rest => do
    return (Text.quoted key ++ ": ".toList ++ (← value.shown)) :: (← shownEntries rest)
termination_by structural entries => entries

end

def required (text : Option Text) : Except Fault Text :=
  match text with
  | some text => .ok text
  | none => .error .badOffset

/-- A value as text: a text stands for itself, a moment is written out, any other value is as it is
shown. -/
def Value.asText : Value → Except Fault Text
  | .text value => .ok value
  | .moment value => required (value.toText? ' ')
  | value => required value.shown

end Outliner.Toml
