import Outliner.Proofs.Script.Composition
import Outliner.Proofs.Script.ParameterList
import Outliner.Proofs.Text.Strip

/-!
The layout of parameter blocks. A block reads the same parameters whether its declarations stand on
one line or on a line each.
-/

namespace Outliner.Script

open Text (Blank Stops)

section Balance

variable (opening closing : Char)

theorem balanced_padded_iff (before text after : Text) (first : opening ∉ before ∧ closing ∉ before)
    (last : opening ∉ after ∧ closing ∉ after) :
    Balanced opening closing (before ++ text ++ after) ↔ Balanced opening closing text := by
  have apart (mark : Char) (front : mark ∉ before) (back : mark ∉ after) (count : Nat) :
      ((before ++ text ++ after).take count).count mark =
        (text.take (count - before.length)).count mark := by
    have noneBefore : (before.take count).count mark = 0 :=
      List.count_eq_zero_of_not_mem fun member => front (List.mem_of_mem_take member)
    have noneAfter (more : Nat) : (after.take more).count mark = 0 :=
      List.count_eq_zero_of_not_mem fun member => back (List.mem_of_mem_take member)
    rw [List.append_assoc, List.take_append, List.take_append, List.count_append,
      List.count_append, noneBefore, noneAfter, Nat.zero_add, Nat.add_zero]
  have whole (mark : Char) (front : mark ∉ before) (back : mark ∉ after) :
      (before ++ text ++ after).count mark = text.count mark := by
    rw [List.count_append, List.count_append, List.count_eq_zero_of_not_mem front,
      List.count_eq_zero_of_not_mem back, Nat.zero_add, Nat.add_zero]
  constructor
  · intro balanced
    constructor
    · rw [← whole opening first.1 last.1, ← whole closing first.2 last.2]
      exact balanced.even
    · intro count
      have reach := balanced.opened (before.length + count)
      rwa [apart opening first.1 last.1, apart closing first.2 last.2,
        Nat.add_sub_cancel_left] at reach
  · intro balanced
    constructor
    · rw [whole opening first.1 last.1, whole closing first.2 last.2]
      exact balanced.even
    · intro count
      rw [apart opening first.1 last.1, apart closing first.2 last.2]
      exact balanced.opened _

theorem balanced_strip (text : Text) (solid : Text.isSpace opening = false)
    (solidToo : Text.isSpace closing = false) (balanced : Balanced opening closing text) :
    Balanced opening closing (Text.strip text) := by
  obtain ⟨before, after, whole, blank, blankAfter⟩ := Text.exists_blanks_around text
  rw [whole, balanced_padded_iff] at balanced
  · exact balanced
  · exact ⟨not_mem_of_blank opening before blank solid,
      not_mem_of_blank closing before blank solidToo⟩
  · exact ⟨not_mem_of_blank opening after blankAfter solid,
      not_mem_of_blank closing after blankAfter solidToo⟩

end Balance

/-- A line that holds a text after any indentation. -/
def IsIndented (text line : Text) : Prop :=
  ∃ gap, Blank gap ∧ line = gap ++ text

namespace ParamBlock

def separated : List Text → List Text
  | [] => []
  | [last] => [last]
  | first :: next :: later => (first ++ [',']) :: separated (next :: later)

/-- A block on one line. -/
def onOneLine (declarations : List Text) : Text :=
  "param(".toList ++ Text.join [','] declarations ++ [')']

/-- A block with a line for each declaration. -/
def onManyLines (declarations : List Text) : List Text :=
  "param(".toList :: separated declarations ++ [[')']]

theorem inside_open (depth : Nat) (text rest : Text)
    (opened : ∀ count, (text.take count).count ')' < depth + (text.take count).count '(') :
    inside depth (text ++ rest) =
      (text ++ (inside (depth + text.count '(' - text.count ')') rest).1,
        (inside (depth + text.count '(' - text.count ')') rest).2) := by
  induction text generalizing depth with
  | nil => rfl
  | cons c later ih =>
      have here := opened 1
      have after (count : Nat) := opened (count + 1)
      simp only [List.take_succ_cons, List.take_zero] at here after
      rw [List.cons_append, inside]
      by_cases opens : c = '('
      · subst opens
        have inner := ih (depth + 1) fun count => by
          have := after count
          simp at this
          omega
        have level : depth + 1 + later.count '(' - later.count ')' =
            depth + ('(' :: later).count '(' - ('(' :: later).count ')' := by
          simp
          omega
        simp [inner, level]
      · by_cases closes : c = ')'
        · subst closes
          have deep : 1 < depth := by simpa using here
          have inner := ih (depth - 1) fun count => by
            have := after count
            simp at this
            omega
          have level : depth - 1 + later.count '(' - later.count ')' =
              depth + (')' :: later).count '(' - (')' :: later).count ')' := by
            simp
            omega
          simp [inner, level, Nat.not_le.mpr deep]
        · have inner := ih depth fun count => by simpa [opens, closes] using after count
          simp [inner, opens, closes]

theorem inside_balanced (text rest : Text) (balanced : Balanced '(' ')' text) :
    inside 1 (text ++ rest) = (text ++ (inside 1 rest).1, (inside 1 rest).2) := by
  have opened (count : Nat) :
      (text.take count).count ')' < 1 + (text.take count).count '(' := by
    have := balanced.opened count
    omega
  have level : 1 + text.count '(' - text.count ')' = 1 := by
    rw [balanced.even]
    omega
  rw [inside_open 1 text rest opened, level]

theorem inside_whole (text : Text) (balanced : Balanced '(' ')' text) :
    inside 1 text = (text, 1) := by
  have whole := inside_balanced text [] balanced
  rwa [List.append_nil, inside, List.append_nil] at whole

theorem inside_join (declarations : List Text) (rest : Text)
    (balanced : ∀ declaration ∈ declarations, Balanced '(' ')' declaration) :
    inside 1 (Text.join [','] declarations ++ rest) =
      (Text.join [','] declarations ++ (inside 1 rest).1, (inside 1 rest).2) := by
  induction declarations with
  | nil => rfl
  | cons first others ih =>
      rw [List.forall_mem_cons] at balanced
      cases others with
      | nil =>
          rw [Text.join, List.intercalate_singleton]
          exact inside_balanced first rest balanced.1
      | cons next later =>
          have tail := ih balanced.2
          have joined : Text.join [','] (first :: next :: later) =
              first ++ ',' :: Text.join [','] (next :: later) := by
            rw [Text.join, List.intercalate_cons_cons, ← Text.join]
            simp
          have comma (text : Text) :
              inside 1 (',' :: text) = (',' :: (inside 1 text).1, (inside 1 text).2) := rfl
          rw [joined, List.append_assoc, List.cons_append, inside_balanced first _ balanced.1,
            comma, tail]
          simp

section Lines

theorem strip_indented (text line : Text) (indented : IsIndented text line) :
    Text.strip line = Text.strip text := by
  obtain ⟨gap, blank, rfl⟩ := indented
  induction gap with
  | nil => rfl
  | cons c later ih =>
      rw [Blank, List.forall_mem_cons] at blank
      rw [List.cons_append, Text.strip_cons_blank c _ blank.1]
      exact ih blank.2

theorem separated_cons (first : Text) (others : List Text) :
    ∃ after, separated (first :: others) = (first ++ after) :: separated others ∧
      (after = [] ∨ after = [',']) := by
  cases others with
  | nil => exact ⟨[], by simp [separated], Or.inl rfl⟩
  | cons next later => exact ⟨[','], rfl, Or.inr rfl⟩

theorem length_separated (declarations : List Text) :
    (separated declarations).length = declarations.length := by
  induction declarations with
  | nil => rfl
  | cons first others ih =>
      obtain ⟨after, split, _⟩ := separated_cons first others
      rw [split, List.length_cons, List.length_cons, ih]

theorem balanced_separated (declarations : List Text)
    (balanced : ∀ declaration ∈ declarations, Balanced '(' ')' declaration) :
    ∀ text ∈ separated declarations, Balanced '(' ')' text := by
  induction declarations with
  | nil => nofun
  | cons first others ih =>
      rw [List.forall_mem_cons] at balanced
      obtain ⟨after, split, comma⟩ := separated_cons first others
      rw [split, List.forall_mem_cons]
      refine ⟨?_, ih balanced.2⟩
      have bare : '(' ∉ after ∧ ')' ∉ after := by
        rcases comma with rfl | rfl
        · decide
        · decide
      exact (balanced_padded_iff '(' ')' [] first after ⟨nofun, nofun⟩ bare).mpr balanced.1

theorem parseList_separated (declarations : List Text)
    (closed : ∀ declaration ∈ declarations, ClosesGroups declaration) :
    (separated declarations).flatMap Parameter.parseList =
      declarations.flatMap Parameter.parseList := by
  induction declarations with
  | nil => rfl
  | cons first others ih =>
      rw [List.forall_mem_cons] at closed
      obtain ⟨after, split, comma⟩ := separated_cons first others
      have own : Parameter.parseList (first ++ after) = Parameter.parseList first := by
        rcases comma with rfl | rfl
        · rw [List.append_nil]
        · rw [parseList_comma first [] closed.1, parseList_nil, List.append_nil]
      rw [split, List.flatMap_cons, List.flatMap_cons, own, ih closed.2]

theorem collect_lines (segment : Text) (texts lines : List Text) (closing : Text)
    (after : List Text) (balanced : Balanced '(' ')' segment)
    (laid : List.Forall₂ IsIndented texts lines)
    (each : ∀ text ∈ texts, Balanced '(' ')' text) (ends : IsIndented [')'] closing) :
    collect 1 segment (lines ++ closing :: after) =
      (Parameter.parseList segment ++ texts.flatMap Parameter.parseList, texts.length + 1) := by
  have open_ (text : Text) (balanced : Balanced '(' ')' text) : (inside 1 text).2 ≠ 0 := by
    rw [inside_whole text balanced]
    exact Nat.one_ne_zero
  induction laid generalizing segment with
  | nil =>
      have last : Text.strip closing = [')'] := strip_indented _ closing ends
      have shut : (inside 1 [')']).2 = 0 := rfl
      rw [List.nil_append, collect_cons 1 segment closing after (open_ segment balanced),
        inside_whole segment balanced, last, collect_of_zero 1 [')'] after shut]
      rfl
  | @cons text line texts lines here later ih =>
      rw [List.forall_mem_cons] at each
      have stripped := strip_indented text line here
      have inner := balanced_strip '(' ')' text (by decide) (by decide) each.1
      rw [← stripped] at inner
      rw [List.cons_append, collect_cons 1 segment line _ (open_ segment balanced),
        inside_whole segment balanced, ih (Text.strip line) inner each.2, stripped, parseList_strip]
      rfl

theorem exists_lines (declarations lines : List Text)
    (laid : List.Forall₂ IsIndented (onManyLines declarations) lines) :
    ∃ first middle ending, lines = first :: middle ++ [ending] ∧
      IsIndented "param(".toList first ∧ List.Forall₂ IsIndented (separated declarations) middle ∧
      IsIndented [')'] ending := by
  rw [onManyLines, List.cons_append] at laid
  obtain ⟨first, rest, opening, later, rfl⟩ := List.forall₂_cons_left_iff.mp laid
  have middle := (List.forall₂_take_append rest _ _ later.flip).flip
  have last := (List.forall₂_drop_append rest _ _ later.flip).flip
  obtain ⟨ending, others, closing, none_left, whole⟩ := List.forall₂_cons_left_iff.mp last
  rw [List.forall₂_nil_left_iff.mp none_left] at whole
  refine ⟨first, _, ending, ?_, opening, middle, closing⟩
  rw [List.cons_append, ← whole, List.take_append_drop]

theorem opening?_block (rest : Text) : opening? ("param(".toList ++ rest) = some rest := rfl

theorem scan_at (before after : List Text) (line segment : Text)
    (opens : opening? (Text.strip line) = some segment) :
    scan (before ++ line :: after) before.length =
      ((collect 1 segment after).1,
        ((before.length + (collect 1 segment after).2 : Nat) : Int)) := by
  have short : before.length < (before ++ line :: after).length := by simp
  rw [scan, if_pos short, List.drop_left]
  simp only [read, opens]

end Lines

section Layouts

variable (declarations before after : List Text)
  (balanced : ∀ declaration ∈ declarations,
    Balanced '[' ']' declaration ∧ Balanced '(' ')' declaration)

include balanced

theorem scan_onOneLine (line : Text) (indented : IsIndented (onOneLine declarations) line) :
    scan (before ++ line :: after) before.length =
      (declarations.flatMap Parameter.parseList, (before.length : Int)) := by
  have shape : onOneLine declarations =
      'p' :: ("aram(".toList ++ Text.join [','] declarations) ++ [')'] := rfl
  have stripped : Text.strip line = onOneLine declarations := by
    rw [strip_indented _ line indented, shape]
    exact Text.strip_enclosed 'p' ')' _ (by decide) (by decide)
  have opens : opening? (Text.strip line) = some (Text.join [','] declarations ++ [')']) := by
    have split : onOneLine declarations =
        "param(".toList ++ (Text.join [','] declarations ++ [')']) := List.append_assoc _ _ _
    rw [stripped, split]
    exact opening?_block _
  have part : inside 1 (Text.join [','] declarations ++ [')']) =
      (Text.join [','] declarations, 0) := by
    rw [inside_join declarations [')'] fun declaration member => (balanced declaration member).2]
    simp [inside]
  have whole := parseList_join [] nofun declarations
    fun declaration member => (balanced declaration member).1.closesGroups
  calc
    _ = ((collect 1 (Text.join [','] declarations ++ [')']) after).1,
        ((before.length + (collect 1 (Text.join [','] declarations ++ [')']) after).2 : Nat) :
          Int)) :=
      scan_at before after line _ opens
    _ = (Parameter.parseList (Text.join [','] declarations), (before.length : Int)) := by
      rw [collect_of_zero 1 _ after (by rw [part]), part]
      rfl
    _ = _ := by rw [whole]

theorem scan_onManyLines (lines : List Text)
    (laid : List.Forall₂ IsIndented (onManyLines declarations) lines) :
    scan (before ++ lines ++ after) before.length =
      (declarations.flatMap Parameter.parseList,
        ((before.length + declarations.length + 1 : Nat) : Int)) := by
  obtain ⟨first, middle, ending, rfl, opening, inner, closing⟩ :=
    exists_lines declarations lines laid
  have stripped : Text.strip first = "param(".toList := strip_indented _ first opening
  have opens : opening? (Text.strip first) = some [] := by
    rw [stripped]
    exact opening?_block []
  have segments := collect_lines [] (separated declarations) middle ending after (by decide) inner
    (balanced_separated declarations fun declaration member => (balanced declaration member).2)
    closing
  have whole := parseList_separated declarations
    fun declaration member => (balanced declaration member).1.closesGroups
  have split : before ++ (first :: middle ++ [ending]) ++ after =
      before ++ first :: (middle ++ ending :: after) := by simp
  rw [split, scan_at before _ first [] opens, segments, whole, length_separated, parseList_nil]
  rfl

end Layouts

/-- The layout of a parameter block does not matter. If the brackets and the parentheses of each
declaration are balanced, a block on one line and a block with a line for each declaration have the
same parameters, those of one declaration after the other, and are found to end on the line of
their closing parenthesis. -/
theorem scan_layouts (declarations before after : List Text)
    (balanced : ∀ declaration ∈ declarations,
      Balanced '[' ']' declaration ∧ Balanced '(' ')' declaration) :
    (∀ line, IsIndented (onOneLine declarations) line →
      scan (before ++ line :: after) before.length =
        (declarations.flatMap Parameter.parseList, (before.length : Int))) ∧
    ∀ lines, List.Forall₂ IsIndented (onManyLines declarations) lines →
      scan (before ++ lines ++ after) before.length =
        (declarations.flatMap Parameter.parseList,
          ((before.length + declarations.length + 1 : Nat) : Int)) :=
  ⟨scan_onOneLine declarations before after balanced,
    scan_onManyLines declarations before after balanced⟩

/-- Two declarations with groups of both kinds. -/
def kindAndSize : List Text :=
  ["[ValidateSet('a','b')][Bag[int]]$Kind = (1)".toList, "$Size".toList]

/-- Both layouts of a block, indented and followed by another line, have its two parameters. -/
theorem scan_kindAndSize :
    (∀ declaration ∈ kindAndSize,
      Balanced '[' ']' declaration ∧ Balanced '(' ')' declaration) ∧
    scan [' ' :: onOneLine kindAndSize, "$a = 1".toList] 0 =
      (kindAndSize.flatMap Parameter.parseList, 0) ∧
    scan ((onManyLines kindAndSize).map ([' ', '\t'] ++ ·) ++ ["$a = 1".toList]) 0 =
      (kindAndSize.flatMap Parameter.parseList, 3) := by
  have balanced : ∀ declaration ∈ kindAndSize,
      Balanced '[' ']' declaration ∧ Balanced '(' ')' declaration := by decide
  have laid : List.Forall₂ IsIndented (onManyLines kindAndSize)
      ((onManyLines kindAndSize).map ([' ', '\t'] ++ ·)) :=
    List.forall₂_map_right_iff.mpr
      (List.forall₂_same.mpr fun text _ => ⟨[' ', '\t'], by decide, rfl⟩)
  have layouts := scan_layouts kindAndSize [] ["$a = 1".toList] balanced
  exact ⟨balanced, layouts.1 _ ⟨[' '], by decide, rfl⟩, layouts.2 _ laid⟩

end ParamBlock

end Outliner.Script
