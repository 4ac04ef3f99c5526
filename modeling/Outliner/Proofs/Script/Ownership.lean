import Outliner.Script.Extract

namespace Outliner.Script

def Braces.pass? (braces : Braces) (line : Text) : Option Braces :=
  match braces.feed line with
  | (_, true) => none
  | (fed, false) => some fed

def Braces.through? (braces : Braces) : List Text → Option Braces
  | [] => some braces
  | line :: later => (braces.pass? (Text.strip line)).bind fun fed => fed.through? later

/-- The name of the class that a line starts. -/
def classAt? (lines : List Text) (index : Nat) : Option Text :=
  lines[index]?.bind fun raw => classStart? (Text.strip raw)

def lastClass? (lines : List Text) : Nat → Option Nat
  | 0 => none
  | index + 1 => if (classAt? lines index).isSome then some index else lastClass? lines index

/-- The last class before a line and the count of its braces there, if the block has not closed on
the lines from the class up to the line. -/
def openBlock? (lines : List Text) (index : Nat) : Option (Nat × Braces) :=
  (lastClass? lines index).bind fun first =>
    (Braces.through? {} ((lines.take index).drop first)).map fun braces => (first, braces)

/-- The class that owns a line. -/
def owner? (lines : List Text) (index : Nat) : Option Nat :=
  (openBlock? lines index).map Prod.fst

theorem through?_append (braces : Braces) (front back : List Text) :
    braces.through? (front ++ back) = (braces.through? front).bind fun fed => fed.through? back := by
  induction front generalizing braces with
  | nil => rfl
  | cons line front ih =>
      simp only [List.cons_append, Braces.through?]
      cases braces.pass? (Text.strip line) with
      | none => rfl
      | some fed => exact ih fed

theorem lastClass?_lt (lines : List Text) (index first : Nat)
    (last : lastClass? lines index = some first) : first < index := by
  induction index with
  | zero => cases last
  | succ index ih =>
      rw [lastClass?] at last
      split at last
      · injection last with same
        omega
      · have := ih last
        omega

theorem lastClass?_of_le (lines : List Text) (first index later : Nat) (after : first < index)
    (bound : index ≤ later) (last : lastClass? lines later = some first) :
    lastClass? lines index = some first := by
  induction later with
  | zero => omega
  | succ later ih =>
      rcases Nat.lt_or_ge later index with reached | before
      · have same : index = later + 1 := by omega
        rw [same]
        exact last
      · rw [lastClass?] at last
        split at last
        · injection last with same
          omega
        · exact ih before last

theorem owner?_eq_some_iff (lines : List Text) (index first : Nat) :
    owner? lines index = some first ↔
      lastClass? lines index = some first ∧
        (Braces.through? {} ((lines.take index).drop first)).isSome := by
  simp only [owner?, openBlock?, Option.map_eq_some_iff, Option.bind_eq_some_iff,
    Option.isSome_iff_exists]
  constructor
  · rintro ⟨_, ⟨_, last, braces, passed, rfl⟩, rfl⟩
    exact ⟨last, braces, passed⟩
  · rintro ⟨last, braces, passed⟩
    exact ⟨(first, braces), ⟨first, last, braces, passed, rfl⟩, rfl⟩

theorem owner?_lt (lines : List Text) (index first : Nat) (owned : owner? lines index = some first) :
    first < index :=
  lastClass?_lt lines index first ((owner?_eq_some_iff lines index first).mp owned).1

theorem owner?_of_le (lines : List Text) (first index later : Nat) (after : first < index)
    (bound : index ≤ later) (owned : owner? lines later = some first) :
    owner? lines index = some first := by
  obtain ⟨last, passed⟩ := (owner?_eq_some_iff lines later first).mp owned
  refine (owner?_eq_some_iff lines index first).mpr
    ⟨lastClass?_of_le lines first index later after bound last, ?_⟩
  have front : (lines.take index).drop first =
      ((lines.take later).drop first).take (index - first) := by
    rw [List.take_drop, List.take_take]
    congr 2
    omega
  rw [← List.take_append_drop (index - first) ((lines.take later).drop first),
    through?_append, ← front] at passed
  cases step : Braces.through? {} ((lines.take index).drop first) with
  | none => simp [step] at passed
  | some fed => rfl

theorem openBlock?_succ (lines : List Text) (index : Nat) (raw : Text)
    (found : lines[index]? = some raw) :
    openBlock? lines (index + 1) =
      (if (classStart? (Text.strip raw)).isSome then some (index, {})
        else openBlock? lines index).bind fun block =>
          (block.2.pass? (Text.strip raw)).map fun fed => (block.1, fed) := by
  have here : classAt? lines index = classStart? (Text.strip raw) := by simp [classAt?, found]
  have inside : index < lines.length := (List.getElem?_eq_some_iff.mp found).1
  have taken : lines.take (index + 1) = lines.take index ++ [raw] := by
    rw [List.take_add_one, found]
    rfl
  have size : (lines.take index).length = index := by simp; omega
  simp only [openBlock?, lastClass?, here, taken]
  split
  · simp only [Option.bind_some, List.drop_append, size, Nat.sub_self, List.drop_zero]
    rw [List.drop_eq_nil_of_le (Nat.le_of_eq size)]
    simp only [List.nil_append, Braces.through?]
    cases Braces.pass? {} (Text.strip raw) <;> rfl
  · cases last : lastClass? lines index with
    | none => rfl
    | some first =>
        have before := lastClass?_lt lines index first last
        simp only [Option.bind_some]
        rw [List.drop_append_of_le_length (by omega), through?_append]
        cases Braces.through? {} ((lines.take index).drop first) with
        | none => rfl
        | some braces =>
            simp only [Option.bind_some, Option.map_some, Braces.through?]
            cases braces.pass? (Text.strip raw) <;> rfl

theorem owner?_succ_class (lines : List Text) (index : Nat) (name : Text)
    (here : classAt? lines index = some name) :
    owner? lines (index + 1) = none ∨ owner? lines (index + 1) = some index := by
  obtain ⟨raw, found, start⟩ := Option.bind_eq_some_iff.mp here
  have block := openBlock?_succ lines index raw found
  simp only [start, Option.isSome_some, if_true, Option.bind_some] at block
  rw [owner?, block]
  cases Braces.pass? {} (Text.strip raw) with
  | none => exact Or.inl rfl
  | some fed => exact Or.inr rfl

theorem owner?_succ_plain (lines : List Text) (index : Nat) (inside : index < lines.length)
    (plain : classAt? lines index = none) :
    owner? lines (index + 1) = none ∨ owner? lines (index + 1) = owner? lines index := by
  have found : lines[index]? = some lines[index] := List.getElem?_eq_getElem inside
  have start : classStart? (Text.strip lines[index]) = none := by
    simpa [classAt?, found] using plain
  have block := openBlock?_succ lines index lines[index] found
  simp only [start, Option.isSome_none, Bool.false_eq_true, if_false] at block
  rw [owner?, owner?, block]
  cases openBlock? lines index with
  | none => exact Or.inl rfl
  | some open_ =>
      simp only [Option.bind_some]
      cases open_.2.pass? (Text.strip lines[index]) with
      | none => exact Or.inl rfl
      | some fed => exact Or.inr rfl

end Outliner.Script
