import Outliner.Proofs.Script.Attributes

namespace Outliner.Script

open Text (Blank Stops)

section Blanks

theorem not_mem_of_blank (mark : Char) (gap : Text) (blank : Blank gap)
    (solid : Text.isSpace mark = false) : mark ∉ gap :=
  fun member => Text.isSpace_ne mark mark (blank mark member) solid rfl

theorem stops_word_of_blank (gap : Text) (blank : Blank gap) : Stops Text.isWord gap := by
  intro c first
  apply Text.isWord_of_isSpace
  exact blank c (List.mem_of_head? first)

end Blanks

section Variables

theorem findVariable?_of_not_mem (text : Text) (absent : '$' ∉ text) :
    findVariable? text = none := by
  induction text with
  | nil => rfl
  | cons c rest ih =>
      rw [List.mem_cons, not_or] at absent
      have other : (c == '$') = false := beq_false_of_ne (Ne.symm absent.1)
      simp [findVariable?, other, ih absent.2]

theorem findVariable?_plain (front rest : Text) (absent : '$' ∉ front) :
    findVariable? (front ++ rest) =
      (findVariable? rest).map fun (before, name) => (front ++ before, name) := by
  induction front with
  | nil =>
      rw [List.nil_append]
      cases findVariable? rest <;> rfl
  | cons c later ih =>
      rw [List.mem_cons, not_or] at absent
      have other : (c == '$') = false := beq_false_of_ne (Ne.symm absent.1)
      simp only [List.cons_append, findVariable?, other, Bool.false_and, Bool.false_eq_true,
        if_false, ih absent.2, Option.map_map]
      rfl

theorem findVariable?_named (name rest : Text) (held : name ≠ []) (word : IsWord name)
    (stops : Stops Text.isWord rest) : findVariable? ('$' :: name ++ rest) = some ([], name) := by
  have run := Text.takeWhile_run Text.isWord name rest word stops
  have some_name : name.isEmpty = false := by simpa using held
  rw [List.cons_append, findVariable?, run]
  simp [some_name]

theorem findVariable?_append (front rest : Text) (stops : Stops Text.isWord rest) :
    findVariable? (front ++ rest) = (findVariable? front).or
      ((findVariable? rest).map fun (before, name) => (front ++ before, name)) := by
  induction front with
  | nil =>
      rw [List.nil_append]
      cases findVariable? rest <;> rfl
  | cons c later ih =>
      have run : (later ++ rest).takeWhile Text.isWord = later.takeWhile Text.isWord := by
        have split : later ++ rest = later.takeWhile Text.isWord ++
            (later.dropWhile Text.isWord ++ rest) := by
          rw [← List.append_assoc, List.takeWhile_append_dropWhile]
        rw [split]
        apply Text.takeWhile_run
        · exact List.all_eq_true.mp List.all_takeWhile
        · cases dropped : later.dropWhile Text.isWord with
          | nil => exact stops
          | cons d others =>
              have outside := Text.stops_dropWhile Text.isWord later
              rw [dropped] at outside
              exact Text.stops_cons _ _ d (outside d rfl)
      rw [List.cons_append, findVariable?, findVariable?, run, ih]
      split
      · rfl
      · cases findVariable? later <;> cases findVariable? rest <;> rfl

theorem findType?_plain (front rest : Text) (absent : '[' ∉ front) :
    findType? (front ++ rest) = findType? rest := by
  induction front with
  | nil => rfl
  | cons c later ih =>
      rw [List.mem_cons, not_or] at absent
      rw [List.cons_append, findType?, group?_of_ne c _ (Ne.symm absent.1)]
      exact ih absent.2

end Variables

section Declarations

variable (part gap : Text) (blank : Blank gap)

include blank

theorem parse?_lead : Parameter.parse? (gap ++ part) = Parameter.parse? part := by
  rw [Parameter.parse?, Parameter.parse?,
    blankAttributes_plain gap part (not_mem_of_blank '[' gap blank (by decide)),
    findVariable?_plain gap _ (not_mem_of_blank '$' gap blank (by decide))]
  cases findVariable? (blankAttributes part) with
  | none => rfl
  | some found =>
      simp only [Option.map_some,
        findType?_plain gap found.1 (not_mem_of_blank '[' gap blank (by decide))]

theorem parse?_trail : Parameter.parse? (part ++ gap) = Parameter.parse? part := by
  rw [Parameter.parse?, Parameter.parse?,
    blankAttributes_append part gap (Or.inl (not_mem_of_blank ']' gap blank (by decide))),
    blankAttributes_of_not_mem gap (not_mem_of_blank '[' gap blank (by decide)),
    findVariable?_append _ gap (stops_word_of_blank gap blank),
    findVariable?_of_not_mem gap (not_mem_of_blank '$' gap blank (by decide)), Option.map_none,
    Option.or_none]

end Declarations

section Lists

theorem parseList_nil : Parameter.parseList [] = [] := by decide

theorem parseList_lead (gap text : Text) (blank : Blank gap) :
    Parameter.parseList (gap ++ text) = Parameter.parseList text := by
  obtain ⟨piece, pieces, cut⟩ := Text.exists_cutAt ',' (blankAttributes text)
  have joined := Text.cutAt_append ',' gap _ piece pieces
    (not_mem_of_blank ',' gap blank (by decide)) cut
  rw [Parameter.parseList, Parameter.parseList,
    blankAttributes_plain gap text (not_mem_of_blank '[' gap blank (by decide)), joined, cut,
    List.filterMap_cons, List.filterMap_cons, parse?_lead piece gap blank]

theorem parseList_trail (text gap : Text) (blank : Blank gap) :
    Parameter.parseList (text ++ gap) = Parameter.parseList text := by
  obtain ⟨pieces, last, cut, _, joined⟩ := Text.exists_cutAt_last ',' (blankAttributes text)
  have whole := joined gap gap []
    (Text.cutAt_whole ',' gap (not_mem_of_blank ',' gap blank (by decide)))
  rw [Parameter.parseList, Parameter.parseList,
    blankAttributes_append text gap (Or.inl (not_mem_of_blank ']' gap blank (by decide))),
    blankAttributes_of_not_mem gap (not_mem_of_blank '[' gap blank (by decide)), whole, cut,
    List.filterMap_append, List.filterMap_append, List.filterMap_cons, List.filterMap_cons,
    parse?_trail last gap blank]

theorem parseList_strip (text : Text) :
    Parameter.parseList (Text.strip text) = Parameter.parseList text := by
  obtain ⟨before, after, whole, blank, blankAfter⟩ := Text.exists_blanks_around text
  generalize Text.strip text = inner at whole
  rw [whole, parseList_trail _ after blankAfter, parseList_lead before inner blank]

theorem parseList_comma (front rest : Text) (closed : ClosesGroups front) :
    Parameter.parseList (front ++ ',' :: rest) =
      Parameter.parseList front ++ Parameter.parseList rest := by
  have next : blankAttributes (',' :: rest) = ',' :: blankAttributes rest :=
    blankAttributes_plain [','] rest (by decide)
  rw [Parameter.parseList, blankAttributes_append front _ (Or.inr closed), next, Text.cutAt_join,
    List.filterMap_append]
  rfl

theorem parseList_join (gap : Text) (blank : Blank gap) (declarations : List Text)
    (closed : ∀ declaration ∈ declarations, ClosesGroups declaration) :
    Parameter.parseList (Text.join (',' :: gap) declarations) =
      declarations.flatMap Parameter.parseList := by
  induction declarations with
  | nil => exact parseList_nil
  | cons first others ih =>
      rw [List.forall_mem_cons] at closed
      have later := ih closed.2
      cases others with
      | nil => simp [Text.join, List.intercalate_singleton]
      | cons next rest =>
          calc
            _ = Parameter.parseList
                (first ++ ',' :: (gap ++ Text.join (',' :: gap) (next :: rest))) := by
              rw [Text.join, List.intercalate_cons_cons, ← Text.join]
              simp
            _ = Parameter.parseList first ++
                Parameter.parseList (Text.join (',' :: gap) (next :: rest)) := by
              rw [parseList_comma first _ closed.1, parseList_lead gap _ blank]
            _ = _ := by rw [later, ← List.flatMap_cons]

theorem parse?_extended (front rest : Text) (settled : ']' ∉ rest ∨ ClosesGroups front)
    (stops : Stops Text.isWord (blankAttributes rest))
    (found : (findVariable? (blankAttributes front)).isSome ∨ '$' ∉ rest) :
    Parameter.parse? (front ++ rest) = Parameter.parse? front := by
  rw [Parameter.parse?, Parameter.parse?, blankAttributes_append front rest settled,
    findVariable?_append _ _ stops]
  cases own : findVariable? (blankAttributes front) with
  | some pair => rfl
  | none =>
      rw [own] at found
      have absent := found.resolve_left nofun
      rw [findVariable?_of_not_mem (blankAttributes rest) fun member =>
        absent (mem_of_mem_blankAttributes '$' rest (by decide) member)]
      rfl

section Extension

variable (mark : Char) (front rest : Text) (solid : Text.isWord mark = false) (plain : mark ≠ '[')
  (apart : mark ≠ ',') (settled : ']' ∉ mark :: rest ∨ ClosesGroups front)

include plain

theorem blankAttributes_mark : blankAttributes (mark :: rest) = mark :: blankAttributes rest :=
  blankAttributes_plain [mark] rest (by simpa using Ne.symm plain)

include apart settled

theorem exists_last_declaration :
    ∃ (declarations : List Text) (last piece : Text) (others : List Text),
    Parameter.parseList front =
      declarations.filterMap Parameter.parse? ++ (Parameter.parse? last).toList ∧
    Parameter.parseList (front ++ mark :: rest) = declarations.filterMap Parameter.parse? ++
      ((Parameter.parse? (last ++ mark :: piece)).toList ++
        others.filterMap Parameter.parse?) ∧
    (']' ∉ mark :: piece ∨ ClosesGroups last) ∧
    ∀ text ∈ (mark :: piece) :: others, '$' ∈ text → '$' ∈ mark :: rest := by
  have start := blankAttributes_mark mark rest plain
  obtain ⟨pieces, last, cut, ending, joined⟩ := Text.exists_cutAt_last ',' (blankAttributes front)
  obtain ⟨piece, others, cutRest⟩ := Text.exists_cutAt ',' (blankAttributes rest)
  have cutMark := Text.cutAt_pass ',' mark _ piece others apart cutRest
  have inside (c : Char) (other : c ≠ ' ') (text : Text) (listed : text ∈ (mark :: piece) :: others)
      (member : c ∈ text) : c ∈ mark :: rest := by
    rw [← cutMark, ← start] at listed
    exact mem_of_mem_blankAttributes c _ other (Text.mem_of_mem_cutAt ',' _ text listed c member)
  refine ⟨pieces, last, piece, others, ?_, ?_, ?_, inside '$' (by decide)⟩
  · rw [Parameter.parseList, cut, List.filterMap_append]
    cases found : Parameter.parse? last <;> simp [found]
  · rw [Parameter.parseList, blankAttributes_append front _ settled, start,
      joined _ _ _ cutMark, List.filterMap_append]
    cases found : Parameter.parse? (last ++ mark :: piece) <;> simp [found]
  · refine settled.imp ?_ fun closed => (closed.blankAttributes).suffix _ last ending
    intro absent member
    exact absent (inside ']' (by decide) _ List.mem_cons_self member)

include solid

theorem parseList_extended :
    Parameter.parseList front <+: Parameter.parseList (front ++ mark :: rest) ∧
      ('$' ∉ mark :: rest →
        Parameter.parseList (front ++ mark :: rest) = Parameter.parseList front) := by
  obtain ⟨declarations, last, piece, others, before, after, settledLast, inside⟩ :=
    exists_last_declaration mark front rest plain apart settled
  have stops : Stops Text.isWord (blankAttributes (mark :: piece)) := by
    rw [blankAttributes_mark mark piece plain]
    exact Text.stops_cons _ _ mark solid
  have own := parse?_extended last (mark :: piece) settledLast stops
  rw [before, after]
  constructor
  · rw [List.prefix_append_right_inj]
    cases found : findVariable? (blankAttributes last) with
    | some pair =>
        rw [own (Or.inl (by rw [found]; rfl))]
        exact List.prefix_append _ _
    | none =>
        have none_found : Parameter.parse? last = none := by rw [Parameter.parse?, found]
        rw [none_found]
        exact List.nil_prefix
  · intro absent
    have bare (text : Text) (listed : text ∈ (mark :: piece) :: others) : '$' ∉ text :=
      fun member => absent (inside text listed member)
    have none_after : others.filterMap Parameter.parse? = [] := by
      rw [List.filterMap_eq_nil_iff]
      intro text listed
      have bareBlanked : '$' ∉ blankAttributes text := fun member =>
        bare text (List.mem_cons_of_mem _ listed)
          (mem_of_mem_blankAttributes '$' text (by decide) member)
      rw [Parameter.parse?, findVariable?_of_not_mem _ bareBlanked]
    rw [own (Or.inr (bare _ List.mem_cons_self)), none_after, List.append_nil]

end Extension

end Lists

end Outliner.Script
