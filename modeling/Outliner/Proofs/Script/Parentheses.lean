import Outliner.Proofs.Script.BlockLayout
import Outliner.Proofs.Script.Grammar

/-!
Where a parameter block opens and where it closes. It opens at the first keyword of its line that
nothing binds and that a parenthesis follows. From there on its parentheses are counted, and it
closes at the first place where the count is at zero; nothing after that place has a part in it.
-/

namespace Outliner.Script.ParamBlock

open Text (Blank Stops)

structure Opens (front word gap : Text) : Prop where
  free : ∀ c ∈ front.getLast?, bindsKeyword c = false
  spelled : Spells "param".toList word
  blank : Blank gap

def IsLead (line lead : Text) : Prop :=
  ∃ front word gap, lead = front ++ word ++ gap ++ ['('] ∧ lead <+: line ∧ Opens front word gap ∧
    ∀ other another blanks, other ++ another ++ blanks ++ ['('] <+: line →
      Opens other another blanks → front.length ≤ other.length

def openingHere? (previous : Option Char) (text : Text) : Option Text :=
  if previous.any bindsKeyword then none
  else match (afterKeyword? "param".toList text).map Text.stripStart with
    | some ('(' :: inside) => some inside
    | _ => none

section Opening

theorem openingHere?_eq_some_iff (previous : Option Char) (text inside : Text) :
    openingHere? previous text = some inside ↔ (∀ c ∈ previous, bindsKeyword c = false) ∧
      ∃ word gap, text = word ++ gap ++ '(' :: inside ∧ Spells "param".toList word ∧ Blank gap := by
  have free : previous.any bindsKeyword = false ↔ ∀ c ∈ previous, bindsKeyword c = false := by
    cases previous <;> simp
  rw [openingHere?, ← free]
  constructor
  · intro found
    split at found
    · cases found
    · next unbound =>
        refine ⟨Bool.eq_false_iff.mpr unbound, ?_⟩
        split at found
        · next inner reached =>
            injection found with same
            subst same
            rcases Option.map_eq_some_iff.mp reached with ⟨rest, after, stripped⟩
            rcases (afterKeyword?_eq_some_iff _ text rest).mp after with ⟨word, whole, spelled⟩
            rcases Text.exists_blank_front rest with ⟨gap, split, blank, _⟩
            rw [stripped] at split
            exact ⟨word, gap, by rw [whole, split, List.append_assoc], spelled, blank⟩
        · cases found
  · rintro ⟨unbound, word, gap, rfl, spelled, blank⟩
    have after := (afterKeyword?_eq_some_iff "param".toList _ (gap ++ '(' :: inside)).mpr
      ⟨word, List.append_assoc _ _ _, spelled⟩
    have stripped : Text.stripStart (gap ++ '(' :: inside) = '(' :: inside :=
      Text.stripStart_run gap _ blank (Text.stops_cons _ _ '(' (by decide))
    rw [unbound, after, Option.map_some, stripped]
    rfl

theorem openingAfter?_cons (previous : Option Char) (c : Char) (rest : Text) :
    openingAfter? previous (c :: rest) =
      (openingHere? previous (c :: rest)).or (openingAfter? (some c) rest) := by
  rw [openingAfter?]
  split
  · next inside found =>
      have here : openingHere? previous (c :: rest) = some inside := found
      rw [here]
      rfl
  · next missing =>
      have here : openingHere? previous (c :: rest) = none := missing
      rw [here]
      rfl

theorem getLast?_cons_or (c : Char) (front : Text) (previous : Option Char) :
    (c :: front).getLast?.or previous = front.getLast?.or (some c) := by
  rw [List.getLast?_cons]
  cases front.getLast? <;> rfl

/-- The opening that is found is the first one, by induction on the text. -/
theorem openingAfter?_eq_some_iff (previous : Option Char) (text segment : Text) :
    openingAfter? previous text = some segment ↔ ∃ front rest, text = front ++ rest ∧
      openingHere? (front.getLast?.or previous) rest = some segment ∧
      ∀ early late, front = early ++ late → late ≠ [] →
        openingHere? (early.getLast?.or previous) (late ++ rest) = none := by
  induction text generalizing previous with
  | nil =>
      constructor
      · intro found
        cases found
      · rintro ⟨front, rest, whole, here, _⟩
        rw [(List.append_eq_nil_iff.mp whole.symm).2] at here
        rcases (openingHere?_eq_some_iff _ _ _).mp here with ⟨_, word, gap, empty, _⟩
        simp at empty
  | cons c text ih =>
      rw [openingAfter?_cons, Option.or_eq_some_iff, ih]
      constructor
      · rintro (here | ⟨missing, front, rest, rfl, found, first⟩)
        · refine ⟨[], c :: text, rfl, by simpa using here, ?_⟩
          intro early late whole held
          exact absurd (List.append_eq_nil_iff.mp whole.symm).2 held
        · refine ⟨c :: front, rest, rfl, by rw [getLast?_cons_or]; exact found, ?_⟩
          intro early late whole held
          cases early with
          | nil =>
              rw [List.nil_append] at whole
              rw [← whole]
              exact missing
          | cons d early =>
              rw [List.cons_append, List.cons.injEq] at whole
              rw [← whole.1, getLast?_cons_or]
              exact first early late whole.2 held
      · rintro ⟨front, rest, whole, found, first⟩
        cases front with
        | nil =>
            rw [List.nil_append] at whole
            rw [whole]
            exact Or.inl (by simpa using found)
        | cons d front =>
            rw [List.cons_append, List.cons.injEq] at whole
            rcases whole with ⟨rfl, rfl⟩
            refine Or.inr ⟨first [] (c :: front) rfl (List.cons_ne_nil c front), front, rest, rfl,
              ?_, ?_⟩
            · rw [← getLast?_cons_or]
              exact found
            · intro early late split held
              rw [← getLast?_cons_or]
              exact first (c :: early) late (by rw [split, List.cons_append]) held

theorem opening?_eq_some_iff (line segment : Text) :
    opening? line = some segment ↔ ∃ lead, line = lead ++ segment ∧ IsLead line lead := by
  have opening (front word gap rest : Text) :
      front ++ word ++ gap ++ ['('] ++ rest = front ++ (word ++ gap ++ '(' :: rest) := by simp
  rw [opening?, openingAfter?_eq_some_iff]
  simp only [Option.or_none, openingHere?_eq_some_iff]
  constructor
  · rintro ⟨front, _, rfl, ⟨free, word, gap, rfl, spelled, blank⟩, first⟩
    refine ⟨_, (opening front word gap segment).symm, front, word, gap, rfl, ?_,
      ⟨free, spelled, blank⟩, ?_⟩
    · rw [← opening]
      exact List.prefix_append _ _
    · rintro other another blanks ⟨rest, whole⟩ opens
      by_contra short
      rw [opening] at whole
      have early : other <+: front := List.prefix_of_prefix_length_le
        ⟨_, whole⟩ (List.prefix_append front _) (Nat.le_of_lt (Nat.lt_of_not_le short))
      rcases early with ⟨late, rfl⟩
      rw [List.append_assoc other late, List.append_cancel_left_eq] at whole
      have missing := first other late rfl (by rintro rfl; simp at short)
      rw [← whole] at missing
      have here := (openingHere?_eq_some_iff other.getLast? _ rest).mpr
        ⟨opens.free, another, blanks, rfl, opens.spelled, opens.blank⟩
      rw [missing] at here
      cases here
  · rintro ⟨_, rfl, front, word, gap, rfl, _, opens, first⟩
    refine ⟨front, _, opening front word gap segment,
      ⟨opens.free, word, gap, rfl, opens.spelled, opens.blank⟩, ?_⟩
    intro early late whole held
    rw [Option.eq_none_iff_forall_ne_some]
    intro inside here
    rcases (openingHere?_eq_some_iff _ _ inside).mp here with
      ⟨free, another, blanks, split, spelled, blank⟩
    have reach :
        early ++ another ++ blanks ++ ['('] <+: front ++ word ++ gap ++ ['('] ++ segment := by
      refine ⟨inside, ?_⟩
      rw [opening, opening front, whole, List.append_assoc early late, split]
    have bound := first early another blanks reach ⟨free, spelled, blank⟩
    rw [whole, List.length_append] at bound
    exact held (List.eq_nil_of_length_eq_zero (by omega))

theorem not_mem_of_spells (keyword word : Text) (c : Char) (spelled : Spells keyword word)
    (apart : keyword.all (!foldsTo · c) = true) : c ∉ word := by
  induction spelled with
  | nil => exact List.not_mem_nil
  | @cons letter d keyword word folds _ ih =>
      rw [List.all_cons, Bool.and_eq_true, Bool.not_eq_true'] at apart
      rw [List.mem_cons, not_or]
      refine ⟨?_, ih apart.2⟩
      rintro rfl
      rw [apart.1] at folds
      cases folds

theorem Opens.not_mem (front word gap : Text) (opens : Opens front word gap) :
    '(' ∉ word ++ gap := by
  rw [List.mem_append, not_or]
  exact ⟨not_mem_of_spells _ word '(' opens.spelled (by decide),
    not_mem_of_blank '(' gap opens.blank (by decide)⟩

theorem IsLead.extended (lead segment other : Text) (isLead : IsLead (lead ++ segment) lead) :
    IsLead (lead ++ other) lead := by
  rcases isLead with ⟨front, word, gap, rfl, _, opens, first⟩
  refine ⟨front, word, gap, rfl, List.prefix_append _ _, opens, ?_⟩
  intro early another blanks reach further
  by_cases within :
      (early ++ another ++ blanks ++ ['(']).length ≤ (front ++ word ++ gap ++ ['(']).length
  · have inner := List.prefix_of_prefix_length_le reach (List.prefix_append _ _) within
    exact first early another blanks (inner.trans (List.prefix_append _ _)) further
  · -- The first parenthesis would stand inside of the other keyword and its blanks.
    by_contra short
    have beyond : front ++ word ++ gap ++ ['('] <+: early ++ another ++ blanks := by
      apply List.prefix_of_prefix_length_le (List.prefix_append _ other)
        ((List.prefix_append _ ['(']).trans reach)
      simp only [List.length_append, List.length_singleton] at within ⊢
      omega
    rcases beyond with ⟨rest, whole⟩
    have own : early <+: early ++ another ++ blanks :=
      ⟨another ++ blanks, (List.append_assoc _ _ _).symm⟩
    have outer : front <+: early ++ another ++ blanks :=
      ⟨word ++ gap ++ ['('] ++ rest, by rw [← whole]; simp⟩
    rcases List.prefix_of_prefix_length_le own outer (by omega) with ⟨late, rfl⟩
    have same : late ++ word ++ gap ++ '(' :: rest = another ++ blanks := by
      simpa using whole
    apply further.not_mem
    rw [← same]
    simp

end Opening

def openCount (read : Text) : Int :=
  1 + read.count '(' - read.count ')'

def closingPlace? (read segment : Text) : Option Nat :=
  (List.range segment.length).find? fun place =>
    openCount (read ++ segment.take (place + 1)) == 0

def part (read segment : Text) : Text :=
  (closingPlace? read segment).elim segment segment.take

section Count

theorem openCount_append (read text : Text) :
    openCount (read ++ text) = openCount read + text.count '(' - text.count ')' := by
  simp only [openCount, List.count_append]
  omega

theorem closingPlace?_cons (read : Text) (c : Char) (rest : Text) :
    closingPlace? read (c :: rest) =
      if openCount (read ++ [c]) = 0 then some 0
      else (closingPlace? (read ++ [c]) rest).map (· + 1) := by
  have later (place : Nat) : read ++ c :: rest.take (place + 1) =
      read ++ [c] ++ rest.take (place + 1) := by simp
  rw [closingPlace?, closingPlace?, List.length_cons, List.range_succ_eq_map, List.find?_cons,
    List.find?_map]
  simp only [Function.comp_def, Nat.succ_eq_add_one, Nat.zero_add, List.take_succ_cons,
    List.take_zero, later]
  by_cases zero : openCount (read ++ [c]) = 0
  · rw [if_pos zero, beq_iff_eq.mpr zero]
  · rw [if_neg zero, beq_eq_false_iff_ne.mpr zero]

theorem closingPlace?_eq_some_iff (read segment : Text) (place : Nat) :
    closingPlace? read segment = some place ↔ place < segment.length ∧
      openCount (read ++ segment.take (place + 1)) = 0 ∧
      ∀ earlier < place, openCount (read ++ segment.take (earlier + 1)) ≠ 0 := by
  rw [closingPlace?, List.find?_range_eq_some]
  simp only [beq_iff_eq, List.mem_range, Bool.not_eq_true', beq_eq_false_iff_ne]
  tauto

theorem exists_closing (read segment : Text) (place : Nat) (open_ : 0 < openCount read)
    (closing : closingPlace? read segment = some place) :
    ∃ front c, segment.take (place + 1) = front ++ [c] ∧ Text.isSpace c = false := by
  rcases (closingPlace?_eq_some_iff read segment place).mp closing with ⟨inside, zero, first⟩
  have before : openCount (read ++ segment.take place) ≠ 0 := by
    cases place with
    | zero =>
        rw [List.take_zero, List.append_nil]
        omega
    | succ place => exact first place (Nat.lt_succ_self place)
  have split : segment.take (place + 1) = segment.take place ++ [segment[place]] := by
    rw [List.take_add_one, List.getElem?_eq_getElem inside, Option.toList_some]
  refine ⟨_, _, split, ?_⟩
  rw [split, ← List.append_assoc, openCount_append] at zero
  rw [Bool.eq_false_iff]
  intro blank
  have opening := Text.isSpace_ne _ '(' blank (by decide)
  have closing := Text.isSpace_ne _ ')' blank (by decide)
  simp [opening, closing] at zero
  exact before zero

theorem closingPlace?_append (read segment other : Text) (place : Nat)
    (closing : closingPlace? read segment = some place) :
    closingPlace? read (segment.take (place + 1) ++ other) = some place := by
  rcases (closingPlace?_eq_some_iff read segment place).mp closing with ⟨inside, zero, first⟩
  have front (count : Nat) (bound : count ≤ place) :
      (segment.take (place + 1) ++ other).take (count + 1) = segment.take (count + 1) := by
    rw [List.take_append_of_le_length (by rw [List.length_take]; omega), List.take_take,
      Nat.min_eq_left (by omega)]
  rw [closingPlace?_eq_some_iff]
  refine ⟨by rw [List.length_append, List.length_take]; omega, ?_, ?_⟩
  · rw [front place (Nat.le_refl place)]
    exact zero
  · intro earlier bound
    rw [front earlier (Nat.le_of_lt bound)]
    exact first earlier bound

theorem inside_cons (depth : Nat) (c : Char) (rest : Text) :
    inside depth (c :: rest) =
      if c = ')' ∧ depth ≤ 1 then ([], 0)
      else (c :: (inside (depth + [c].count '(' - [c].count ')') rest).1,
        (inside (depth + [c].count '(' - [c].count ')') rest).2) := by
  rw [inside]
  by_cases opens : c = '('
  · subst opens
    simp
  · by_cases closes : c = ')'
    · subst closes
      by_cases last : depth ≤ 1
      · simp [last]
      · simp [last]
    · simp [opens, closes]

theorem inside_cases (depth : Nat) (read segment : Text) (level : openCount read = depth)
    (open_ : 0 < depth) :
    (∃ place, closingPlace? read segment = some place ∧
      inside depth segment = (segment.take place, 0)) ∨
    closingPlace? read segment = none ∧ ∃ left : Nat, 0 < left ∧
      openCount (read ++ segment) = left ∧ inside depth segment = (segment, left) := by
  induction segment generalizing depth read with
  | nil =>
      refine Or.inr ⟨rfl, depth, open_, ?_, rfl⟩
      rw [List.append_nil]
      exact level
  | cons c rest ih =>
      have count := openCount_append read [c]
      rw [level] at count
      rw [closingPlace?_cons, inside_cons]
      by_cases last : c = ')' ∧ depth ≤ 1
      · have zero : openCount (read ++ [c]) = 0 := by
          rw [count, last.1]
          simp
          omega
        rw [if_pos last, if_pos zero]
        exact Or.inl ⟨0, rfl, rfl⟩
      · have more : 0 < depth + [c].count '(' - [c].count ')' := by
          by_cases closes : c = ')'
          · subst closes
            simp at last ⊢
            omega
          · simp [List.count_singleton, closes]
            omega
        have next : openCount (read ++ [c]) = (depth + [c].count '(' - [c].count ')' : Nat) := by
          omega
        rw [if_neg last, if_neg (by omega), List.append_cons read c rest]
        rcases ih _ (read ++ [c]) next more with ⟨place, closing, taken⟩ | ⟨missing, left, rest⟩
        · rw [closing, taken]
          exact Or.inl ⟨place + 1, rfl, rfl⟩
        · rw [missing, rest.2.2]
          exact Or.inr ⟨rfl, left, rest.1, rest.2.1, rfl⟩

end Count

section Segments

variable (read : Text) (segments : List Text)

def readBefore (index : Nat) : Text :=
  read ++ (segments.take index).flatten

/-- The count comes to zero on a segment. -/
def ClosesOn (index : Nat) : Prop :=
  ∃ segment place, segments[index]? = some segment ∧
    closingPlace? (readBefore read segments index) segment = some place

/-- The first segment on which the count comes to zero, or the last one of all if there is none. -/
structure IsLast (last : Nat) : Prop where
  inside : last < segments.length
  first : ∀ earlier < last, ¬ClosesOn read segments earlier
  closes : ClosesOn read segments last ∨ last + 1 = segments.length

def partAt (index : Nat) : Text :=
  segments[index]?.elim [] (part (readBefore read segments index))

/-- The parameters in the parts of the segments up to one of them. -/
def parametersUpTo (last : Nat) : List Parameter :=
  (List.range (last + 1)).flatMap fun index => Parameter.parseList (partAt read segments index)

theorem IsLast.unique (last other : Nat) (isLast : IsLast read segments last)
    (isOther : IsLast read segments other) : last = other := by
  have notBefore (index more : Nat) (here : IsLast read segments index)
      (there : IsLast read segments more) : ¬index < more := by
    intro before
    have bound := there.inside
    rcases here.closes with closes | ending
    · exact there.first index before closes
    · omega
  have := notBefore last other isLast isOther
  have := notBefore other last isOther isLast
  omega

variable (segment : Text)

theorem readBefore_succ (index : Nat) :
    readBefore read (segment :: segments) (index + 1) =
      readBefore (read ++ segment) segments index := by
  rw [readBefore, readBefore, List.take_succ_cons, List.flatten_cons, List.append_assoc]

theorem closesOn_zero :
    ClosesOn read (segment :: segments) 0 ↔ ∃ place, closingPlace? read segment = some place := by
  simp [ClosesOn, readBefore]

theorem closesOn_succ (index : Nat) :
    ClosesOn read (segment :: segments) (index + 1) ↔
      ClosesOn (read ++ segment) segments index := by
  simp only [ClosesOn, List.getElem?_cons_succ, readBefore_succ]

theorem partAt_zero : partAt read (segment :: segments) 0 = part read segment := by
  simp [partAt, readBefore]

theorem partAt_succ (index : Nat) :
    partAt read (segment :: segments) (index + 1) = partAt (read ++ segment) segments index := by
  simp only [partAt, List.getElem?_cons_succ, readBefore_succ]

theorem parametersUpTo_zero :
    parametersUpTo read (segment :: segments) 0 = Parameter.parseList (part read segment) := by
  simp [parametersUpTo, partAt_zero]

theorem parametersUpTo_succ (last : Nat) :
    parametersUpTo read (segment :: segments) (last + 1) =
      Parameter.parseList (part read segment) ++
        parametersUpTo (read ++ segment) segments last := by
  rw [parametersUpTo, List.range_succ_eq_map, List.flatMap_cons, List.flatMap_map, partAt_zero]
  simp only [Nat.succ_eq_add_one, partAt_succ, ← parametersUpTo.eq_1]

theorem IsLast.zero (place : Nat) (closing : closingPlace? read segment = some place) :
    IsLast read (segment :: segments) 0 :=
  ⟨Nat.succ_pos _, nofun, Or.inl ((closesOn_zero read segments segment).mpr ⟨place, closing⟩)⟩

theorem IsLast.succ (last : Nat) (missing : closingPlace? read segment = none)
    (isLast : IsLast (read ++ segment) segments last) :
    IsLast read (segment :: segments) (last + 1) := by
  refine ⟨Nat.succ_lt_succ isLast.inside, ?_, ?_⟩
  · intro earlier bound
    cases earlier with
    | zero => simp [closesOn_zero, missing]
    | succ earlier =>
        rw [closesOn_succ]
        exact isLast.first earlier (Nat.lt_of_succ_lt_succ bound)
  · rw [closesOn_succ, List.length_cons]
    exact isLast.closes.imp_right (congrArg (· + 1))

theorem IsLast.changed (last place : Nat) (tail : Text) (more : List Text)
    (isLast : IsLast read segments last) (found : segments[last]? = some segment)
    (closing : closingPlace? (readBefore read segments last) segment = some place) :
    IsLast read (segments.take last ++ (segment.take (place + 1) ++ tail) :: more) last ∧
      parametersUpTo read (segments.take last ++ (segment.take (place + 1) ++ tail) :: more) last =
        parametersUpTo read segments last := by
  have size : (segments.take last).length = last := by
    rw [List.length_take, Nat.min_eq_left (Nat.le_of_lt isLast.inside)]
  generalize same : segments.take last ++ (segment.take (place + 1) ++ tail) :: more = others
  have own : others[last]? = some (segment.take (place + 1) ++ tail) := by
    rw [← same, List.getElem?_append_right (Nat.le_of_eq size), size, Nat.sub_self]
    rfl
  have before (index : Nat) (bound : index ≤ last) :
      readBefore read others index = readBefore read segments index := by
    rw [readBefore, readBefore, ← same, List.take_append_of_le_length (by omega), List.take_take,
      Nat.min_eq_left bound]
  have earlier (index : Nat) (bound : index < last) : others[index]? = segments[index]? := by
    rw [← same, List.getElem?_append_left (by omega), List.getElem?_take_of_lt bound]
  have further := closingPlace?_append _ segment tail place closing
  refine ⟨⟨?_, ?_, ?_⟩, ?_⟩
  · exact (List.getElem?_eq_some_iff.mp own).1
  · intro index bound
    rw [ClosesOn, earlier index bound, before index (Nat.le_of_lt bound)]
    exact isLast.first index bound
  · refine Or.inl ⟨_, place, own, ?_⟩
    rw [before last (Nat.le_refl last)]
    exact further
  · rw [parametersUpTo, parametersUpTo]
    apply List.flatMap_congr
    intro index member
    congr 1
    rcases Nat.lt_or_eq_of_le (Nat.le_of_lt_succ (List.mem_range.mp member)) with bound | rfl
    · rw [partAt, partAt, earlier index bound, before index (Nat.le_of_lt bound)]
    · rw [partAt, partAt, own, found, before index (Nat.le_refl index), Option.elim_some,
        Option.elim_some, part, part, closing, further, Option.elim_some, Option.elim_some,
        List.take_append_of_le_length, List.take_take, Nat.min_eq_left (Nat.le_succ place)]
      rw [List.length_take]
      have := ((closingPlace?_eq_some_iff _ _ place).mp closing).1
      omega

end Segments

theorem collect_nil (depth : Nat) (segment : Text) :
    collect depth segment [] = (Parameter.parseList (inside depth segment).1, 0) := by
  rw [collect]
  rcases inside depth segment with ⟨inner, _ | left⟩ <;> rfl

/-- The segments of a block are read up to the one on which the count comes to zero, by induction on
the lines that follow. -/
theorem collect_counts (depth : Nat) (read segment : Text) (later : List Text)
    (level : openCount read = depth) (open_ : 0 < depth) :
    IsLast read (segment :: later.map Text.strip) (collect depth segment later).2 ∧
      (collect depth segment later).1 =
        parametersUpTo read (segment :: later.map Text.strip) (collect depth segment later).2 := by
  induction later generalizing depth read segment with
  | nil =>
      rw [collect_nil]
      simp only [List.map_nil, parametersUpTo_zero, part]
      rcases inside_cases depth read segment level open_ with
        ⟨place, closing, taken⟩ | ⟨missing, left, _, _, whole⟩
      · rw [taken, closing]
        exact ⟨IsLast.zero read [] segment place closing, rfl⟩
      · rw [whole, missing]
        exact ⟨⟨Nat.one_pos, nofun, Or.inr rfl⟩, rfl⟩
  | cons next others ih =>
      rcases inside_cases depth read segment level open_ with
        ⟨place, closing, taken⟩ | ⟨missing, left, some_, count, whole⟩
      · have zero : (inside depth segment).2 = 0 := by rw [taken]
        rw [collect_of_zero depth segment _ zero, taken, parametersUpTo_zero, part, closing]
        exact ⟨IsLast.zero read _ segment place closing, rfl⟩
      · have more : (inside depth segment).2 ≠ 0 := by
          rw [whole]
          exact Nat.ne_of_gt some_
        rcases ih left (read ++ segment) (Text.strip next) count some_ with ⟨isLast, parameters⟩
        rw [collect_cons depth segment next others more, whole, List.map_cons,
          parametersUpTo_succ, part, missing, ← parameters]
        exact ⟨isLast.succ read _ segment _ missing, rfl⟩

/-- Before the count comes to zero it is positive, by induction on the segments. -/
theorem openCount_readBefore (read : Text) (segments : List Text) (index : Nat)
    (open_ : 0 < openCount read) (going : ∀ earlier < index, ¬ClosesOn read segments earlier) :
    0 < openCount (readBefore read segments index) := by
  induction index with
  | zero => simpa [readBefore] using open_
  | succ index ih =>
      have positive := ih fun earlier bound => going earlier (Nat.lt_succ_of_lt bound)
      cases found : segments[index]? with
      | none =>
          have past := List.getElem?_eq_none_iff.mp found
          rw [readBefore, List.take_of_length_le past] at positive
          rw [readBefore, List.take_of_length_le (Nat.le_succ_of_le past)]
          exact positive
      | some segment =>
          have next : readBefore read segments (index + 1) =
              readBefore read segments index ++ segment := by
            rw [readBefore, readBefore, List.take_add_one, found]
            simp
          rw [next]
          rcases inside_cases (openCount (readBefore read segments index)).toNat
            (readBefore read segments index) segment (by omega) (by omega) with
            ⟨place, closing, _⟩ | ⟨_, left, some_, count, _⟩
          · exact absurd ⟨segment, place, found, closing⟩ (going index (Nat.lt_succ_self index))
          · omega

theorem strip_prefix (line : Text) : Text.strip line <+: Text.stripStart line := by
  rw [Text.strip, Text.stripEnd, Text.dropEndWhile, ← List.reverse_suffix, List.reverse_reverse]
  exact List.dropWhile_suffix Text.isSpace

theorem strip_kept (kept other front : Text) (c : Char) (solid : Text.isSpace c = false)
    (ending : Text.stripStart kept = front ++ [c]) :
    ∃ tail, Text.strip (kept ++ other) = Text.stripStart kept ++ tail := by
  have held : (kept.dropWhile Text.isSpace).isEmpty = false := by
    rw [← Text.stripStart, ending]
    simp
  have start : Text.stripStart (kept ++ other) = Text.stripStart kept ++ other := by
    rw [Text.stripStart, List.dropWhile_append, held]
    rfl
  rw [Text.strip, start, ending, Text.stripEnd, Text.dropEndWhile, List.reverse_append,
    List.reverse_concat, List.dropWhile_append]
  split
  · refine ⟨[], ?_⟩
    rw [List.dropWhile_cons_of_neg (by simp [solid])]
    simp
  · refine ⟨(other.reverse.dropWhile Text.isSpace).reverse, ?_⟩
    simp

/-- What a block is read from: what stands on its first line after the opening parenthesis, and the
stripped lines after it. -/
def AreSegments (lines : List Text) (start : Nat) (lead : Text) (segments : List Text) : Prop :=
  ∃ line segment, lines[start]? = some line ∧ Text.strip line = lead ++ segment ∧
    IsLead (Text.strip line) lead ∧ segments = segment :: (lines.drop (start + 1)).map Text.strip

/-- What stands on the last line of a block up to its closing parenthesis. -/
def EndsAt (lead : Text) (segments : List Text) (last : Nat) (kept : Text) : Prop :=
  ∃ segment place, segments[last]? = some segment ∧
    closingPlace? (readBefore [] segments last) segment = some place ∧
    Text.stripStart kept = (if last = 0 then lead else []) ++ segment.take (place + 1)

section Blocks

variable (lines : List Text) (start : Nat) (lead : Text) (segments : List Text)

theorem exists_segments (line : Text) (found : lines[start]? = some line)
    (opens : isOn (Text.strip line) = true) :
    ∃ lead segments, AreSegments lines start lead segments := by
  rcases Option.isSome_iff_exists.mp opens with ⟨segment, opening⟩
  rcases (opening?_eq_some_iff _ segment).mp opening with ⟨lead, whole, isLead⟩
  exact ⟨lead, _, line, segment, found, whole, isLead, rfl⟩

variable (cut : AreSegments lines start lead segments)
include cut

theorem AreSegments.length : start + segments.length = lines.length := by
  rcases cut with ⟨line, segment, found, _, _, rfl⟩
  have inside := (List.getElem?_eq_some_iff.mp found).1
  rw [List.length_cons, List.length_map, List.length_drop]
  omega

theorem AreSegments.exists_last : ∃ last, IsLast [] segments last := by
  rcases cut with ⟨line, segment, _, _, _, rfl⟩
  exact ⟨_, (collect_counts 1 [] segment (lines.drop (start + 1)) rfl Nat.one_pos).1⟩

theorem AreSegments.scan (last : Nat) (isLast : IsLast [] segments last) :
    scan lines start = (parametersUpTo [] segments last, ((start + last : Nat) : Int)) := by
  rcases cut with ⟨line, segment, found, whole, isLead, rfl⟩
  have opening := (opening?_eq_some_iff _ segment).mpr ⟨lead, whole, isLead⟩
  rcases collect_counts 1 [] segment (lines.drop (start + 1)) rfl Nat.one_pos with ⟨own, parameters⟩
  rcases List.getElem?_eq_some_iff.mp found with ⟨inside, rfl⟩
  rw [ParamBlock.scan, if_pos inside, List.drop_eq_getElem_cons inside]
  simp only [read, opening]
  rw [parameters, own.unique _ _ _ last isLast]

theorem AreSegments.getElem? (index : Nat) (segment : Text)
    (found : segments[index]? = some segment) :
    ∃ line, lines[start + index]? = some line ∧
      Text.strip line = (if index = 0 then lead else []) ++ segment := by
  rcases cut with ⟨line, first, here, whole, _, rfl⟩
  cases index with
  | zero =>
      injection found with same
      subst same
      exact ⟨line, here, whole⟩
  | succ index =>
      rw [List.getElem?_cons_succ, List.getElem?_map, List.getElem?_drop] at found
      rcases Option.map_eq_some_iff.mp found with ⟨other, there, same⟩
      refine ⟨other, ?_, same⟩
      rw [← there]
      congr 1
      omega

theorem AreSegments.exists_ending (last : Nat) (closes : ClosesOn [] segments last) :
    ∃ kept rest, lines[start + last]? = some (kept ++ rest) ∧ EndsAt lead segments last kept := by
  rcases closes with ⟨segment, place, found, closing⟩
  rcases cut.getElem? lines start lead segments last segment found with ⟨line, there, stripped⟩
  rcases Text.exists_blank_front line with ⟨gap, whole, blank, stops⟩
  rcases strip_prefix line with ⟨rest, front⟩
  have split : Text.stripStart line = (if last = 0 then lead else []) ++ segment.take (place + 1) ++
      (segment.drop (place + 1) ++ rest) := by
    rw [← front, stripped, List.append_assoc, List.append_assoc,
      ← List.append_assoc (segment.take (place + 1)), List.take_append_drop]
  refine ⟨gap ++ ((if last = 0 then lead else []) ++ segment.take (place + 1)),
    segment.drop (place + 1) ++ rest, ?_, segment, place, found, closing, ?_⟩
  · rw [there, List.append_assoc gap, ← split, ← whole]
  · apply Text.stripStart_run gap _ blank
    intro c first
    apply stops c
    rw [split, List.head?_append, first]
    rfl

theorem AreSegments.changed (last : Nat) (kept other : Text) (later : List Text)
    (isLast : IsLast [] segments last) (ending : EndsAt lead segments last kept) :
    ∃ segment place tail, segments[last]? = some segment ∧
      closingPlace? (readBefore [] segments last) segment = some place ∧
      AreSegments (lines.take (start + last) ++ (kept ++ other) :: later) start lead
        (segments.take last ++ (segment.take (place + 1) ++ tail) :: later.map Text.strip) := by
  rcases ending with ⟨segment, place, found, closing, ending⟩
  have positive := openCount_readBefore [] segments last (by decide) isLast.first
  rcases exists_closing _ segment place positive closing with ⟨front, c, shape, solid⟩
  have shown : Text.stripStart kept = ((if last = 0 then lead else []) ++ front) ++ [c] := by
    rw [ending, shape, List.append_assoc]
  rcases strip_kept kept other _ c solid shown with ⟨tail, stripped⟩
  refine ⟨segment, place, tail, found, closing, ?_⟩
  rw [ending] at stripped
  have size := cut.length
  have inside := isLast.inside
  rcases cut with ⟨line, first, here, whole, isLead, rfl⟩
  have bound : start < lines.length := (List.getElem?_eq_some_iff.mp here).1
  have front : (lines.take (start + last)).length = start + last := by
    rw [List.length_take]
    omega
  -- On the first line the opening stands before what is kept, so that it has to be found again.
  cases last with
  | zero =>
      injection found with same
      subst same
      rw [if_pos rfl, List.append_assoc] at stripped
      rw [whole] at isLead
      rw [Nat.add_zero] at front ⊢
      refine ⟨kept ++ other, first.take (place + 1) ++ tail, ?_, stripped, ?_, ?_⟩
      · rw [List.getElem?_append_right (Nat.le_of_eq front), front, Nat.sub_self]
        rfl
      · rw [stripped]
        exact isLead.extended lead first _
      · have rest : (lines.take start ++ (kept ++ other) :: later).drop (start + 1) = later := by
          rw [List.drop_append, front, List.drop_eq_nil_of_le (by omega), Nat.add_sub_cancel_left]
          rfl
        rw [rest]
        rfl
  | succ last =>
      rw [if_neg (Nat.succ_ne_zero last), List.nil_append] at stripped
      refine ⟨line, first, ?_, whole, isLead, ?_⟩
      · rw [List.getElem?_append_left (by omega), List.getElem?_take_of_lt (by omega), here]
      · rw [List.drop_append_of_le_length (by omega), List.drop_take, List.map_append,
          List.map_cons, stripped, List.take_succ_cons, List.map_take]
        have count : start + (last + 1) - (start + 1) = last := by omega
        rw [count]
        rfl

end Blocks

/-- A parameter block closes at the first place where the count of its parentheses, which starts at
one after the opening parenthesis, comes to zero, and ends with the last line if there is none. Its
parameters are those in the parts of its lines between the two parentheses, line by line, and what
stands after the closing one has nothing to do with either. -/
theorem scan_counts_parentheses (line : Text) (lines : List Text) (start : Nat)
    (found : lines[start]? = some line) (opens : isOn (Text.strip line) = true) :
    ∃ lead segments last, AreSegments lines start lead segments ∧ IsLast [] segments last ∧
      scan lines start = (parametersUpTo [] segments last, ((start + last : Nat) : Int)) ∧
      start + last ≤ lines.length - 1 ∧
      (ClosesOn [] segments last → ∃ kept rest, lines[start + last]? = some (kept ++ rest) ∧
        EndsAt lead segments last kept) ∧
      ∀ kept, EndsAt lead segments last kept → ∀ other later,
        scan (lines.take (start + last) ++ (kept ++ other) :: later) start = scan lines start := by
  rcases exists_segments lines start line found opens with ⟨lead, segments, cut⟩
  rcases cut.exists_last with ⟨last, isLast⟩
  have scanned := cut.scan lines start lead segments last isLast
  have size := cut.length
  have inside := isLast.inside
  refine ⟨lead, segments, last, cut, isLast, scanned, by omega,
    cut.exists_ending lines start lead segments last, ?_⟩
  intro kept ending other later
  rcases cut.changed lines start lead segments last kept other later isLast ending with
    ⟨segment, place, tail, held, closing, changed⟩
  rcases isLast.changed [] segments segment last place tail (later.map Text.strip) held closing with
    ⟨same, parameters⟩
  rw [changed.scan _ start lead _ last same, parameters, scanned]

/-- A block that opens after a variable of its name and closes in the middle of the next line. -/
def sizeBlock : List Text :=
  ["# sizes", "  $param(0); Param ( [int]$Size = (1 + 2),", "    $Name) # ) $Later", "$Other"].map
    String.toList

theorem scan_sizeBlock :
    sizeBlock[1]? = some "  $param(0); Param ( [int]$Size = (1 + 2),".toList ∧
      isOn (Text.strip "  $param(0); Param ( [int]$Size = (1 + 2),".toList) = true ∧
      ∃ lead segments, AreSegments sizeBlock 1 lead segments ∧ IsLast [] segments 1 ∧
        parametersUpTo [] segments 1 =
          [⟨"Size".toList, some "int".toList⟩, ⟨"Name".toList, none⟩] ∧
        ∀ kept, EndsAt lead segments 1 kept → ∀ other later,
          scan (sizeBlock.take 2 ++ (kept ++ other) :: later) 1 = scan sizeBlock 1 := by
  have found : sizeBlock[1]? = some "  $param(0); Param ( [int]$Size = (1 + 2),".toList := rfl
  have opens : isOn (Text.strip "  $param(0); Param ( [int]$Size = (1 + 2),".toList) = true := by
    decide +kernel
  have scanned : scan sizeBlock 1 =
      ([⟨"Size".toList, some "int".toList⟩, ⟨"Name".toList, none⟩], 2) := by
    decide +kernel
  rcases scan_counts_parentheses _ sizeBlock 1 found opens with
    ⟨lead, segments, last, cut, isLast, counted, _, _, changed⟩
  have same := counted.symm.trans scanned
  rw [Prod.mk.injEq] at same
  have second : last = 1 := by
    have := same.2
    omega
  subst second
  exact ⟨found, opens, lead, segments, cut, isLast, same.1, changed⟩

end Outliner.Script.ParamBlock
