import Mathlib.Data.List.Basic
import Mathlib.Data.List.Induction
import Outliner.Json.Decode

namespace Outliner.Json

/-- Members without repetition: the names in the order in which they first appear, each with the
value that it is given last. -/
def settled {α : Type} (members : List (Text × α)) : List (Text × α) :=
  (members.map Prod.fst).eraseDups.filterMap fun name =>
    (members.reverse.lookup name).map fun value => (name, value)

inductive Document where
  | null
  | bool (value : Bool)
  | integer (value : Int) (short : (Text.ofNat value.natAbs).length ≤ 4300)
  | text (value : Text)
  | array (items : List Document)
  | object (members : List (Text × Document))

namespace Document

mutual

def depth : Document → Nat
  | array items => itemsDepth items + 1
  | object members => membersDepth members + 1
  | _ => 0
termination_by structural document => document

def itemsDepth : List Document → Nat
  | [] => 0
  | item :: rest => max item.depth (itemsDepth rest)
termination_by structural items => items

def membersDepth : List (Text × Document) → Nat
  | [] => 0
  | (_, item) :: rest => max item.depth (membersDepth rest)
termination_by structural members => members

end

mutual

def value : Document → Value
  | null => .null
  | bool value => .bool value
  | integer value _ => .integer value
  | text value => .text value
  | array items => .array (itemValues items)
  | object members => .object (settled (memberValues members))
termination_by structural document => document

def itemValues : List Document → List Value
  | [] => []
  | item :: rest => item.value :: itemValues rest
termination_by structural items => items

def memberValues : List (Text × Document) → List (Text × Value)
  | [] => []
  | (name, item) :: rest => (name, item.value) :: memberValues rest
termination_by structural members => members

end

theorem itemValues_eq_map (items : List Document) : itemValues items = items.map value := by
  induction items with
  | nil => rfl
  | cons item rest ih => rw [itemValues, ih, List.map_cons]

theorem memberValues_eq_map (members : List (Text × Document)) :
    memberValues members = members.map fun member => (member.1, member.2.value) := by
  induction members with
  | nil => rfl
  | cons member rest ih => rw [memberValues, ih, List.map_cons]

theorem depth_le_itemsDepth (items : List Document) (item : Document) (member : item ∈ items) :
    item.depth ≤ itemsDepth items := by
  induction items with
  | nil => exact nomatch member
  | cons first rest ih =>
      rw [itemsDepth]
      rcases List.mem_cons.mp member with rfl | later
      · exact Nat.le_max_left _ _
      · exact Nat.le_trans (ih later) (Nat.le_max_right _ _)

theorem membersDepth_eq_itemsDepth (members : List (Text × Document)) :
    membersDepth members = itemsDepth (members.map Prod.snd) := by
  induction members with
  | nil => rfl
  | cons member rest ih => rw [membersDepth, ih, List.map_cons, itemsDepth]

end Document

/-- What may stand between two tokens. -/
def Blanks (text : Text) : Prop :=
  ∀ c ∈ text, c ∈ [' ', '\t', '\n', '\r']

instance (text : Text) : Decidable (Blanks text) :=
  List.decidableBAll _ text

def HexDigit (value : Nat) (c : Char) : Prop :=
  "0123456789abcdef".toList[value]? = some c ∨ "0123456789ABCDEF".toList[value]? = some c

instance (value : Nat) (c : Char) : Decidable (HexDigit value c) :=
  inferInstanceAs (Decidable (_ ∨ _))

def HexUnit (unit : Nat) (a b c d : Char) : Prop :=
  HexDigit (unit / 0x1000) a ∧ HexDigit (unit / 0x100 % 0x10) b ∧
    HexDigit (unit / 0x10 % 0x10) c ∧ HexDigit (unit % 0x10) d

instance (unit : Nat) (a b c d : Char) : Decidable (HexUnit unit a b c d) :=
  inferInstanceAs (Decidable (_ ∧ _ ∧ _ ∧ _))

def shortForms : List (Char × Char) :=
  [('"', '"'), ('\\', '\\'), ('/', '/'), ('b', '\x08'), ('f', '\x0C'), ('n', '\n'), ('r', '\r'),
    ('t', '\t')]

inductive CharForm : Char → Text → Prop where
  | raw {c : Char} : c ≠ '"' → c ≠ '\\' → 0x20 ≤ c.toNat → CharForm c [c]
  | short {letter c : Char} : (letter, c) ∈ shortForms → CharForm c ['\\', letter]
  | unit {c a₁ a₂ a₃ a₄ : Char} : HexUnit c.toNat a₁ a₂ a₃ a₄ →
      CharForm c ['\\', 'u', a₁, a₂, a₃, a₄]
  | pair {c a₁ a₂ a₃ a₄ b₁ b₂ b₃ b₄ : Char} : 0x10000 ≤ c.toNat →
      HexUnit (0xD800 + (c.toNat - 0x10000) / 0x400) a₁ a₂ a₃ a₄ →
      HexUnit (0xDC00 + (c.toNat - 0x10000) % 0x400) b₁ b₂ b₃ b₄ →
      CharForm c ['\\', 'u', a₁, a₂, a₃, a₄, '\\', 'u', b₁, b₂, b₃, b₄]

inductive Spelled : Text → Text → Prop where
  | nil : Spelled [] []
  | cons {c : Char} {text form written : Text} :
      CharForm c form → Spelled text written → Spelled (c :: text) (form ++ written)

/-- At least one part, with a comma between two of them and blanks at will. Blanks before the first
part are not included. -/
inductive Listed {α : Type} (written : α → Text → Prop) : List α → Text → Prop where
  | last {part : α} {text after : Text} :
      written part text → Blanks after → Listed written [part] (text ++ after)
  | more {part : α} {parts : List α} {text after before rest : Text} :
      written part text → Blanks after → Blanks before → Listed written parts rest →
      Listed written (part :: parts) (text ++ (after ++ ',' :: (before ++ rest)))

mutual

inductive Written : Document → Text → Prop where
  | null : Written .null "null".toList
  | true : Written (.bool true) "true".toList
  | false : Written (.bool false) "false".toList
  | natural (size : Nat) (short : (Text.ofNat (size : Int).natAbs).length ≤ 4300) :
      Written (.integer size short) (Text.ofNat size)
  | negative (size : Nat) (short : (Text.ofNat (-size : Int).natAbs).length ≤ 4300) :
      Written (.integer (-size) short) ('-' :: Text.ofNat size)
  | text {value written : Text} :
      Spelled value written → Written (.text value) ('"' :: (written ++ ['"']))
  | emptyArray {blanks : Text} : Blanks blanks → Written (.array []) ('[' :: (blanks ++ [']']))
  | array {items : List Document} {before inner : Text} :
      Blanks before → Listed Written items inner →
      Written (.array items) ('[' :: (before ++ (inner ++ [']'])))
  | emptyObject {blanks : Text} :
      Blanks blanks → Written (.object []) ('\x7b' :: (blanks ++ ['\x7d']))
  | object {members : List (Text × Document)} {before inner : Text} :
      Blanks before → Listed WrittenMember members inner →
      Written (.object members) ('\x7b' :: (before ++ (inner ++ ['\x7d'])))

inductive WrittenMember : Text × Document → Text → Prop where
  | mk {name spelled between before text : Text} {document : Document} :
      Spelled name spelled → Blanks between → Blanks before → Written document text →
      WrittenMember (name, document)
        ('"' :: (spelled ++ '"' :: (between ++ ':' :: (before ++ text))))

end

/-- A rendering of a document as a whole text. -/
def Document.Renders (document : Document) (text : Text) : Prop :=
  ∃ before inner after, Blanks before ∧ Written document inner ∧ Blanks after ∧
    text = before ++ (inner ++ after)

theorem eraseDups_concat (names : List Text) (name : Text) :
    (names ++ [name]).eraseDups = names.eraseDups ++ if name ∈ names then [] else [name] := by
  rw [List.eraseDups_append]
  by_cases known : name ∈ names
  · simp [List.removeAll, known]
  · simp [List.removeAll, known]
    rfl

theorem nodup_eraseDups (names : List Text) : names.eraseDups.Nodup := by
  induction names using List.reverseRecOn with
  | nil => exact List.nodup_nil
  | append_singleton names name ih =>
      rw [eraseDups_concat]
      split
      · rwa [List.append_nil]
      · next fresh =>
          refine List.nodup_append.mpr ⟨ih, by simp, ?_⟩
          intro other among single only same
          rw [same, List.mem_singleton.mp only] at among
          exact fresh (List.mem_eraseDups.mp among)

theorem put_filterMap (name : Text) (value : Value) (names : List Text) (distinct : names.Nodup)
    (old : Text → Option Value) (given : ∀ other ∈ names, (old other).isSome) :
    put name value (names.filterMap fun other => (old other).map fun v => (other, v)) =
      (names ++ if name ∈ names then [] else [name]).filterMap fun other =>
        (if other = name then some value else old other).map fun v => (other, v) := by
  induction names with
  | nil => simp [put]
  | cons first rest ih =>
      rw [List.nodup_cons] at distinct
      rw [List.forall_mem_cons] at given
      rcases Option.isSome_iff_exists.mp given.1 with ⟨held, found⟩
      by_cases same : first = name
      · subst same
        simp only [List.filterMap_cons, found, Option.map_some, put, if_true,
          List.mem_cons, true_or, List.append_nil]
        congr 1
        apply List.filterMap_congr
        intro other among
        rw [if_neg (ne_of_mem_of_not_mem among distinct.1)]
      · have apart : name ≠ first := fun equal => same equal.symm
        simp [put, found, same, apart, ih distinct.2 given.2]

theorem settled_concat (members : List (Text × Value)) (name : Text) (value : Value) :
    settled (members ++ [(name, value)]) = put name value (settled members) := by
  have given : ∀ other ∈ (members.map Prod.fst).eraseDups,
      (members.reverse.lookup other).isSome := by
    intro other among
    rcases List.mem_map.mp (List.mem_eraseDups.mp among) with ⟨member, held, named⟩
    exact List.lookup_isSome_iff.mpr ⟨member, List.mem_reverse.mpr held, by simp [named]⟩
  have looked : ∀ other, (members ++ [(name, value)]).reverse.lookup other =
      if other = name then some value else members.reverse.lookup other := by
    intro other
    rw [List.reverse_append, List.reverse_singleton, List.singleton_append, List.lookup_cons]
    by_cases same : other = name
    · rw [if_pos same, same, beq_self_eq_true]
    · rw [if_neg same, beq_false_of_ne same]
  rw [settled, settled, put_filterMap name value _ (nodup_eraseDups _) _ given, List.map_append,
    List.map_singleton, eraseDups_concat]
  simp only [looked, List.mem_eraseDups]

theorem collapse_eq_settled (members : List (Text × Value)) :
    collapse members = settled members := by
  induction members using List.reverseRecOn with
  | nil => rfl
  | append_singleton members member ih =>
      rw [collapse, List.foldl_append, ← collapse, ih, settled_concat]
      rfl

end Outliner.Json
