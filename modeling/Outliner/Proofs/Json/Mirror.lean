import Outliner.Proofs.Json.Walk
import Outliner.Proofs.Outline.WellFormed

/-!
The outline of a JSON value as its mirror: an address leads to a node exactly where it leads to a
member or an item of the value, and the node says which one.
-/

namespace Outliner

/-- A node without what is below it. -/
def Node.header (node : Node) : Node :=
  { node with children := [] }

namespace Json

theorem nodeAt?_parts (path : Text) (level : Int) (value : Value) (address : List Nat) :
    nodeAt? (value.parts path level) address =
      (value.entryAt? address).map (Entry.node path (level + address.length - 1)) := by
  induction address generalizing level value with
  | nil => rfl
  | cons index address ih =>
      cases address with
      | nil =>
          rw [nodeAt?, Value.entryAt?, parts_eq_entries, List.getElem?_map]
          simp
      | cons next address =>
          simp only [nodeAt?, Value.entryAt?, parts_eq_entries, List.getElem?_map]
          cases value.entries[index]? with
          | none => rfl
          | some entry =>
              have deeper : level + 1 + ((next :: address).length : Int) - 1 =
                  level + ((index :: next :: address).length : Int) - 1 := by
                simp only [List.length_cons]
                omega
              simp only [Option.map_some, Option.bind_some]
              rw [← deeper, ← ih (level + 1) entry.value]
              rfl

theorem nodeAt?_mirror (value : Value) (level : Int) (path : Text) (address : List Nat) :
    nodeAt? (mirror value level path) address =
      (value.partAt? address).map (Entry.node path (level + address.length - 1)) := by
  rw [Value.partAt?]
  cases composite : value.isComposite with
  | true =>
      rw [mirror_of_composite path level value composite]
      exact nodeAt?_parts path level value address
  | false =>
      rw [mirror_eq_entries, value.topEntries_of_scalar composite]
      have childless : ((Entry.whole value).node path level).children = [] :=
        parts_of_scalar path (level + 1) value composite
      cases address with
      | nil => rfl
      | cons index below =>
          cases below with
          | nil => cases index <;> simp [nodeAt?]
          | cons next further =>
              cases index with
              | zero =>
                  change nodeAt? ((Entry.whole value).node path level).children (next :: further) =
                    none
                  rw [childless]
                  cases further <;> rfl
              | succ index => simp [nodeAt?]

/-- A scalar as it is written in JSON, but for the quotes of a text; of a composite, its kind and the
number of its parts. -/
def Value.written : Value → Text
  | null => "null".toList
  | bool value => (if value then "true" else "false").toList
  | integer value => (toString value).toList
  | real value => value.toText
  | text value => value
  | array items => arraySummary items.length
  | object members => objectSummary members.length

/-- What the node of an entry shows, apart from what is below it. -/
def Entry.shown (path : Text) (level : Int) : Entry → Node
  | member key value =>
    if value.isComposite then { name := key, kind := .object, path, level, lines := [value.written] }
    else { name := key ++ ": ".toList ++ value.written, kind := .property, path, level }
  | item index value =>
    { name := ("[" ++ toString index ++ "]").toList, kind := .arrayItem, path, level
      lines := [value.written] }
  | whole value => { name := "value: ".toList ++ value.written, kind := .property, path, level }

theorem toList_toString_nat (n : Nat) : (toString n).toList = Text.ofNat n := by
  rw [Nat.toString_eq_ofList_toDigits, String.toList_ofList, Text.ofNat]

theorem toList_toString_int (n : Int) : (toString n).toList = Text.ofInt n := by
  cases n with
  | ofNat n => exact toList_toString_nat n
  | negSucc n =>
      show ("-" ++ toString (n + 1)).toList = '-' :: Text.ofNat (n + 1)
      rw [String.toList_append, toList_toString_nat]
      rfl

theorem line_eq_written (value : Value)
    (writable : (value.isComposite || value.scalarText?.isSome) = true) :
    value.line = value.written := by
  cases value with
  | integer n =>
      have shown : Text.ofInt? n = some (Text.ofInt n) := by
        change (Text.ofInt? n).isSome = true at writable
        rw [Text.ofInt?] at writable ⊢
        split at writable
        · next short => rw [if_pos short]
        · cases writable
      show (Text.ofInt? n).getD [] = (toString n).toList
      rw [shown, Option.getD_some, toList_toString_int]
  | bool value => cases value <;> rfl
  | _ => rfl

theorem header_eq_shown (path : Text) (level : Int) (entry : Entry)
    (writable : entry.isWritable = true) : entry.header path level = entry.shown path level := by
  cases entry with
  | member key value => rw [Entry.header, Entry.shown, line_eq_written value writable]
  | item index value =>
      have name : ("[" ++ toString index ++ "]").toList = '[' :: Text.ofNat index ++ "]".toList := by
        rw [String.toList_append, String.toList_append, toList_toString_nat]
        rfl
      rw [Entry.header, Entry.shown, name, line_eq_written value writable]
  | whole value => rw [Entry.header, Entry.shown, line_eq_written value writable]

theorem header_node (path : Text) (level : Int) (entry : Entry) :
    (entry.node path level).header = entry.header path level :=
  (entry.header path level).with_children [] (entry.children_header path level)

theorem length_children_node (path : Text) (level : Int) (entry : Entry) :
    (entry.node path level).children.length = entry.value.entries.length := by
  rw [Entry.node, parts_eq_entries, List.length_map]

/-- An outline mirrors its value, unless an integer in the value has more than 4300 digits: then there
is no outline, and no document with that value. The walk with a stack ends with the outline, and there
is a node at an address exactly where there is an entry of the value. The node shows that entry, at
the level of the address, and has a child for each entry below. -/
theorem extract_addresses (value : Value) (level : Int) (path : Text) :
    (Walk.start value level).run path = extract value level path ∧
    (value.HasLongInteger ∧ extract value level path = .error .unwritable ∧
        (∀ document, decode document ≠ .ok value) ∨
      ¬value.HasLongInteger ∧ ∃ forest, extract value level path = .ok forest ∧
        ∀ address, (nodeAt? forest address).map (fun node => (node.header, node.children.length)) =
          (value.partAt? address).map fun entry =>
            (entry.shown path (level + address.length - 1), entry.value.entries.length)) := by
  refine ⟨Walk.run_start value level path, ?_⟩
  rcases extract_cases value level path with failed | ⟨short, mirrored⟩
  · exact Or.inl failed
  · refine Or.inr ⟨short, _, mirrored, ?_⟩
    intro address
    rw [nodeAt?_mirror, Option.map_map]
    cases found : value.partAt? address with
    | none => rfl
    | some entry =>
        have writable := isWritable_partAt? value ((isWritable_iff value).mpr short) address entry
          found
        rw [Option.map_some, Option.map_some, Function.comp_apply, header_node,
          length_children_node, header_eq_shown path _ entry writable]

end Json

end Outliner
