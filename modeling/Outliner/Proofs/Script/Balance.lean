import Mathlib.Data.List.Induction
import Mathlib.Data.List.TakeWhile
import Outliner.Proofs.Script.Ownership

namespace Outliner.Script

def surplus (text : Text) : Int :=
  text.count '{' - text.count '}'

def braceCount (read : Text) : Int :=
  surplus (read.dropWhile (· != '{'))

def IsClosed (read : Text) : Prop :=
  '{' ∈ read ∧ braceCount read = 0

instance (read : Text) : Decidable (IsClosed read) :=
  inferInstanceAs (Decidable ('{' ∈ read ∧ braceCount read = 0))

def closing? (text : Text) : Option Nat :=
  (List.range text.length).find? fun place => IsClosed (text.take (place + 1))

theorem surplus_append (front back : Text) :
    surplus (front ++ back) = surplus front + surplus back := by
  simp only [surplus, List.count_append]
  omega

theorem braceCount_of_not_mem (read : Text) (unopened : '{' ∉ read) : braceCount read = 0 := by
  have dropped : read.dropWhile (· != '{') = [] := by
    rw [List.dropWhile_eq_nil_iff]
    intro c member
    simpa using fun same : c = '{' => unopened (same ▸ member)
  rw [braceCount, dropped]
  rfl

theorem braceCount_append (front back : Text) (opened : '{' ∈ front) :
    braceCount (front ++ back) = braceCount front + surplus back := by
  have kept : (front.dropWhile (· != '{')).isEmpty = false := by
    rw [Bool.eq_false_iff, ne_eq, List.isEmpty_iff, List.dropWhile_eq_nil_iff]
    intro each
    simpa using each '{' opened
  rw [braceCount, List.dropWhile_append, kept, if_neg (by decide), surplus_append, braceCount]

theorem braceCount_opening (front rest : Text) :
    braceCount (front ++ '{' :: rest) = braceCount front + surplus ('{' :: rest) := by
  by_cases opened : '{' ∈ front
  · exact braceCount_append front _ opened
  · have passed : ∀ c ∈ front, (c != '{') = true := by
      intro c member
      simpa using fun same : c = '{' => opened (same ▸ member)
    rw [braceCount_of_not_mem front opened, Int.zero_add, braceCount,
      List.dropWhile_append_of_pos passed]
    rfl

theorem braceCount_inner (head front rest : Text) (unopened : '{' ∉ front) :
    braceCount (head ++ (front ++ '{' :: rest)) =
      braceCount (head ++ front) + braceCount (front ++ '{' :: rest) := by
  calc
    _ = braceCount (head ++ front) + surplus ('{' :: rest) := by
      rw [← List.append_assoc, braceCount_opening]
    _ = braceCount (head ++ front) + braceCount (front ++ '{' :: rest) := by
      rw [braceCount_opening front, braceCount_of_not_mem front unopened, Int.zero_add]

theorem braceCount_concat_other (read : Text) (c : Char) (other : c ≠ '{')
    (uncounted : c = '}' → '{' ∉ read) : braceCount (read ++ [c]) = braceCount read := by
  by_cases opened : '{' ∈ read
  · have plain : c ≠ '}' := fun closing => uncounted closing opened
    rw [braceCount_append read _ opened]
    simp [surplus, other, plain]
  · rw [braceCount_of_not_mem read opened, braceCount_of_not_mem]
    simp [opened, Ne.symm other]

structure Braces.Tracks (braces : Braces) (read : Text) : Prop where
  depth : braces.depth = braceCount read
  opened : braces.opened = true ↔ '{' ∈ read
  positive : braces.opened = true → 0 < braces.depth

theorem tracks_nil : Braces.Tracks {} [] := ⟨rfl, by simp, nofun⟩

section Steps

variable (braces : Braces) (read : Text)

theorem feed_opening : braces.feed ['{'] = (⟨braces.depth + 1, true⟩, false) := rfl

theorem feed_closing (opened : braces.opened = true) :
    braces.feed ['}'] =
      if braces.depth = 1 then (⟨0, true⟩, true) else (⟨braces.depth - 1, true⟩, false) := by
  simp [Braces.feed, opened]

theorem feed_other (c : Char) (other : c ≠ '{') (uncounted : c = '}' → braces.opened = false) :
    braces.feed [c] = (braces, false) := by
  by_cases closing : c = '}'
  · simp [Braces.feed, closing, uncounted closing]
  · simp [Braces.feed, other, closing]

variable (tracks : braces.Tracks read)

include tracks

theorem Braces.Tracks.depth_nonneg : 0 ≤ braces.depth := by
  by_cases opened : braces.opened = true
  · exact Int.le_of_lt (tracks.positive opened)
  · have unopened : '{' ∉ read := fun member => opened (tracks.opened.mpr member)
    exact Int.le_of_eq ((tracks.depth.trans (braceCount_of_not_mem read unopened)).symm)

theorem Braces.Tracks.not_isClosed : ¬ IsClosed read := by
  rintro ⟨opened, zero⟩
  have positive := tracks.positive (tracks.opened.mpr opened)
  rw [tracks.depth, zero] at positive
  exact absurd positive (by decide)

theorem Braces.Tracks.feed_char (c : Char) :
    (braces.feed [c]).2 = false ∧ (braces.feed [c]).1.Tracks (read ++ [c]) ∨
      (braces.feed [c]).2 = true ∧ (braces.feed [c]).1.depth = 0 ∧ IsClosed (read ++ [c]) := by
  by_cases opening : c = '{'
  · subst opening
    refine Or.inl ⟨rfl, ?_, by simp [feed_opening], ?_⟩
    · rw [feed_opening, braceCount_opening, tracks.depth]
      rfl
    · intro _
      have := tracks.depth_nonneg
      change 0 < braces.depth + 1
      omega
  · by_cases counted : c = '}' ∧ braces.opened = true
    · obtain ⟨rfl, opened⟩ := counted
      have member := tracks.opened.mp opened
      have count : braceCount (read ++ ['}']) = braces.depth - 1 := by
        rw [braceCount_append read _ member, tracks.depth]
        rfl
      rw [feed_closing braces opened]
      split
      · next last =>
          refine Or.inr ⟨rfl, rfl, List.mem_append_left _ member, ?_⟩
          rw [count, last]
          rfl
      · next more =>
          have positive := tracks.positive opened
          refine Or.inl ⟨rfl, count.symm, by simp [member], ?_⟩
          intro _
          change 0 < braces.depth - 1
          omega
    · have uncounted : c = '}' → braces.opened = false := by
        intro closing
        simpa [closing] using counted
      rw [feed_other braces c opening uncounted]
      refine Or.inl ⟨rfl, ?_, ?_, tracks.positive⟩
      · rw [tracks.depth, braceCount_concat_other read c opening]
        intro closing
        rw [← tracks.opened, uncounted closing]
        exact Bool.false_ne_true
      · simp [tracks.opened, Ne.symm opening]

end Steps

section Runs

theorem feed_append (braces : Braces) (front back : Text) :
    braces.feed (front ++ back) =
      if (braces.feed front).2 then braces.feed front else (braces.feed front).1.feed back := by
  induction front generalizing braces with
  | nil => rfl
  | cons c rest ih =>
      rw [List.cons_append, Braces.feed, Braces.feed]
      split
      · exact ih _
      · split
        · split
          · rfl
          · exact ih _
        · exact ih _

theorem feed_front (braces : Braces) (front back : Text)
    (passes : (braces.feed (front ++ back)).2 = false) : (braces.feed front).2 = false := by
  rw [feed_append] at passes
  split at passes
  · next stopped =>
      rw [stopped] at passes
      cases passes
  · next going => exact Bool.eq_false_iff.mpr going

theorem feed_concat (braces : Braces) (front : Text) (c : Char)
    (passes : (braces.feed front).2 = false) :
    braces.feed (front ++ [c]) = (braces.feed front).1.feed [c] := by
  rw [feed_append, passes]
  rfl

/-- What one character keeps, a whole text does, by induction on the text. -/
theorem Braces.Tracks.feed (braces : Braces) (read line : Text) (tracks : braces.Tracks read)
    (passes : (braces.feed line).2 = false) : (braces.feed line).1.Tracks (read ++ line) := by
  induction line using List.reverseRecOn with
  | nil =>
      rw [List.append_nil]
      exact tracks
  | append_singleton front c ih =>
      have going := feed_front braces front [c] passes
      have before := ih going
      rw [feed_concat braces front c going] at passes ⊢
      rw [← List.append_assoc]
      rcases before.feed_char _ _ c with ⟨_, after⟩ | ⟨stopped, _⟩
      · exact after
      · rw [stopped] at passes
        cases passes

theorem Braces.Tracks.depth_concat (braces : Braces) (read front : Text) (c : Char)
    (tracks : braces.Tracks read) (passes : (braces.feed front).2 = false) :
    (braces.feed (front ++ [c])).1.depth = braceCount (read ++ front ++ [c]) ∧
      0 ≤ (braces.feed (front ++ [c])).1.depth := by
  rw [feed_concat braces front c passes]
  rcases (tracks.feed braces read front passes).feed_char _ _ c with ⟨_, after⟩ | ⟨_, zero, closed⟩
  · exact ⟨after.depth, after.depth_nonneg⟩
  · rw [zero, closed.2]
    exact ⟨rfl, Int.le_refl 0⟩

end Runs

section Closing

variable (text : Text)

theorem exists_stop (count : Nat) (stopped : (Braces.feed {} (text.take count)).2 = true) :
    ∃ place < count, place < text.length ∧ (Braces.feed {} (text.take place)).2 = false ∧
      (Braces.feed {} (text.take (place + 1))).2 = true := by
  induction count with
  | zero => cases stopped
  | succ count ih =>
      cases before : (Braces.feed {} (text.take count)).2 with
      | true =>
          obtain ⟨place, bound, rest⟩ := ih before
          exact ⟨place, Nat.lt_succ_of_lt bound, rest⟩
      | false =>
          have inside : count < text.length := by
            by_contra past
            rw [List.take_of_length_le (by omega)] at stopped before
            rw [stopped] at before
            cases before
          exact ⟨count, Nat.lt_succ_self count, inside, before, stopped⟩

theorem isClosed_of_stop (place : Nat) (inside : place < text.length)
    (going : (Braces.feed {} (text.take place)).2 = false)
    (stopped : (Braces.feed {} (text.take (place + 1))).2 = true) :
    IsClosed (text.take (place + 1)) := by
  have tracks := tracks_nil.feed {} [] (text.take place) going
  rw [List.take_add_one, List.getElem?_eq_getElem inside, Option.toList_some] at stopped ⊢
  rw [feed_concat {} _ _ going] at stopped
  rcases tracks.feed_char _ _ text[place] with ⟨open_, _⟩ | ⟨_, _, closed⟩
  · rw [open_] at stopped
    cases stopped
  · exact closed

theorem not_isClosed_of_going (count : Nat)
    (going : (Braces.feed {} (text.take count)).2 = false) : ¬ IsClosed (text.take count) :=
  (tracks_nil.feed {} [] (text.take count) going).not_isClosed

theorem going_of_le (count more : Nat) (bound : count ≤ more)
    (going : (Braces.feed {} (text.take more)).2 = false) :
    (Braces.feed {} (text.take count)).2 = false := by
  have front : (text.take more).take count = text.take count := by
    rw [List.take_take, Nat.min_eq_left bound]
  rw [← List.take_append_drop count (text.take more), front] at going
  exact feed_front {} _ _ going

theorem closing?_eq_some_iff (place : Nat) :
    closing? text = some place ↔ place < text.length ∧
      (Braces.feed {} (text.take place)).2 = false ∧
      (Braces.feed {} (text.take (place + 1))).2 = true := by
  rw [closing?, List.find?_range_eq_some]
  simp only [decide_eq_true_eq, List.mem_range, Bool.not_eq_true', decide_eq_false_iff_not]
  constructor
  · rintro ⟨closed, inside, first⟩
    refine ⟨inside, ?_, ?_⟩
    · rw [Bool.eq_false_iff]
      intro stopped
      obtain ⟨earlier, bound, inner, going, stop⟩ := exists_stop text place stopped
      exact first earlier bound (isClosed_of_stop text earlier inner going stop)
    · by_contra going
      exact not_isClosed_of_going text (place + 1) (Bool.eq_false_iff.mpr going) closed
  · rintro ⟨inside, going, stopped⟩
    refine ⟨isClosed_of_stop text place inside going stopped, inside, ?_⟩
    intro earlier bound
    exact not_isClosed_of_going text (earlier + 1) (going_of_le text _ place bound going)

theorem stops_within_iff (count : Nat) :
    (Braces.feed {} (text.take count)).2 = true ↔
      ∃ place < count, closing? text = some place := by
  constructor
  · intro stopped
    obtain ⟨place, bound, stop⟩ := exists_stop text count stopped
    exact ⟨place, bound, (closing?_eq_some_iff text place).mpr stop⟩
  · rintro ⟨place, bound, found⟩
    have stopped := ((closing?_eq_some_iff text place).mp found).2.2
    by_contra going
    rw [going_of_le text _ count bound (Bool.eq_false_iff.mpr going)] at stopped
    cases stopped

end Closing

theorem stops_of_closed (head inner : Text) (opens : '{' ∈ inner)
    (zero : braceCount (head ++ inner) = 0)
    (going : ∀ front, front <+: head ++ inner → front.length < (head ++ inner).length →
      (Braces.feed {} front).2 = false) : (Braces.feed {} inner).2 = true := by
  by_contra open_
  have tracks := tracks_nil.feed {} [] inner (Bool.eq_false_iff.mpr open_)
  have positive := tracks.positive (tracks.opened.mpr opens)
  rw [tracks.depth, List.nil_append] at positive
  obtain ⟨front, back, cut, first⟩ := List.eq_append_cons_of_mem opens
  have outer := going (head ++ front) ⟨'{' :: back, by rw [cut, List.append_assoc]⟩ (by simp [cut])
  have held := tracks_nil.feed {} [] _ outer
  have nonneg := held.depth_nonneg
  rw [held.depth, List.nil_append] at nonneg
  rw [cut, braceCount_inner head front back first, ← cut] at zero
  omega

theorem closes_within (head rest : Text) (place brace : Nat)
    (closed : closing? (head ++ rest) = some place) (after : head.length ≤ brace)
    (before : brace < place) (opening : (head ++ rest)[brace]? = some '{') :
    ∃ own, closing? rest = some own ∧ head.length + own ≤ place := by
  obtain ⟨inside, going, stopped⟩ := (closing?_eq_some_iff _ place).mp closed
  have zero := (isClosed_of_stop _ place inside going stopped).2
  have reach : (head ++ rest).take (place + 1) = head ++ rest.take (place + 1 - head.length) := by
    rw [List.take_append, List.take_of_length_le (by omega)]
  have opens : '{' ∈ rest.take (place + 1 - head.length) := by
    rw [List.getElem?_append_right after] at opening
    apply List.mem_of_getElem? (i := brace - head.length)
    rw [List.getElem?_take_of_lt (by omega), opening]
  have passes (front : Text) (part : front <+: (head ++ rest).take (place + 1))
      (short : front.length < ((head ++ rest).take (place + 1)).length) :
      (Braces.feed {} front).2 = false := by
    rw [List.length_take] at short
    rw [List.prefix_iff_eq_take.mp (part.trans (List.take_prefix _ _))]
    exact going_of_le _ front.length place (by omega) going
  rw [reach] at zero passes
  obtain ⟨own, bound, found⟩ :=
    (stops_within_iff rest _).mp (stops_of_closed head _ opens zero passes)
  exact ⟨own, found, by omega⟩

end Outliner.Script
