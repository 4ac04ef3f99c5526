import Outliner.Toml.Value

namespace Outliner.Toml

mutual

def Value.same : Value → Value → Bool
  | .text first, .text second => first == second
  | .integer first, .integer second => first == second
  | .real first, .real second => first == second
  | .bool first, .bool second => first == second
  | .moment first, .moment second => first == second
  | .array first, .array second => sameItems first second
  | .table first, .table second => sameEntries first second
  | _, _ => false
termination_by structural value => value

def sameItems : List Value → List Value → Bool
  | [], [] => true
  | first :: rest, second :: others => first.same second && sameItems rest others
  | _, _ => false
termination_by structural items => items

def sameEntries : List (Text × Value) → List (Text × Value) → Bool
  | [], [] => true
  | (key, first) :: rest, (other, second) :: others =>
    key == other && first.same second && sameEntries rest others
  | _, _ => false
termination_by structural entries => entries

end

mutual

theorem Value.same_iff (value other : Value) : value.same other = true ↔ value = other := by
  cases value with
  | array items =>
      cases other with
      | array others => simp [Value.same, sameItems_iff items others]
      | _ => simp [Value.same]
  | table entries =>
      cases other with
      | table others => simp [Value.same, sameEntries_iff entries others]
      | _ => simp [Value.same]
  | _ => cases other <;> simp [Value.same]
termination_by structural value

theorem sameItems_iff (items others : List Value) :
    sameItems items others = true ↔ items = others := by
  cases items with
  | nil => cases others <;> simp [sameItems]
  | cons first rest =>
      cases others with
      | nil => simp [sameItems]
      | cons second others => simp [sameItems, first.same_iff second, sameItems_iff rest others]
termination_by structural items

theorem sameEntries_iff (entries others : List (Text × Value)) :
    sameEntries entries others = true ↔ entries = others := by
  cases entries with
  | nil => cases others <;> simp [sameEntries]
  | cons entry rest =>
      cases others with
      | nil => simp [sameEntries]
      | cons other others =>
          obtain ⟨key, first⟩ := entry
          obtain ⟨name, second⟩ := other
          simp [sameEntries, first.same_iff second, sameEntries_iff rest others]
termination_by structural entries

end

instance : DecidableEq Value := fun value other =>
  decidable_of_iff _ (value.same_iff other)

end Outliner.Toml
