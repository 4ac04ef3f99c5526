import Outliner.Proofs.Text.LowerCase

namespace Outliner.Text

def EndsSolid (text : Text) : Prop :=
  ∀ c, text.getLast? = some c → isSpace c = false

theorem endsSolid_strip (text : Text) : EndsSolid (strip text) := by
  intro c last
  rw [strip, stripEnd, dropEndWhile, List.getLast?_reverse] at last
  have outside := List.head?_dropWhile_not isSpace (stripStart text).reverse
  rw [last] at outside
  simpa using outside

theorem endsSolid_append (front back : Text) (held : back ≠ []) :
    EndsSolid (front ++ back) ↔ EndsSolid back := by
  have same : (front ++ back).getLast? = back.getLast? := by
    rw [List.getLast?_append]
    cases last : back.getLast? with
    | none => exact absurd (List.getLast?_eq_none_iff.mp last) held
    | some c => rfl
  rw [EndsSolid, EndsSolid, same]

theorem endsSolid_of_solid (text : Text) (each : ∀ c ∈ text, isSpace c = false) :
    EndsSolid text := by
  intro c last
  exact each c (List.mem_of_getLast? last)

theorem endsSolid_concat (front : Text) (c : Char) (solid : isSpace c = false) :
    EndsSolid (front ++ [c]) := by
  intro d last
  rw [List.getLast?_concat] at last
  rw [← Option.some.inj last, solid]

theorem strip_of_solid_ends (c : Char) (rest : Text) (first : isSpace c = false)
    (last : EndsSolid (c :: rest)) : strip (c :: rest) = c :: rest := by
  have start : stripStart (c :: rest) = c :: rest := by
    rw [stripStart, List.dropWhile_cons_of_neg (by simp [first])]
  rw [strip, start, stripEnd, dropEndWhile]
  cases reversed : (c :: rest).reverse with
  | nil => simp at reversed
  | cons d others =>
      have ending : (c :: rest).getLast? = some d := by
        rw [← List.head?_reverse, reversed]
        rfl
      rw [List.dropWhile_cons_of_neg (by simp [last d ending]), ← reversed, List.reverse_reverse]

theorem strip_enclosed (first last : Char) (inner : Text) (start : isSpace first = false)
    (ending : isSpace last = false) :
    strip (first :: inner ++ [last]) = first :: inner ++ [last] :=
  strip_of_solid_ends first (inner ++ [last]) start
    (endsSolid_concat (first :: inner) last ending)

theorem strip_cons_blank (c : Char) (rest : Text) (blank : isSpace c = true) :
    strip (c :: rest) = strip rest := by
  rw [strip, strip, stripStart, stripStart, List.dropWhile_cons_of_pos blank]

theorem strip_cons_solid (c : Char) (rest : Text) (first : isSpace c = false) :
    ∃ later, strip (c :: rest) = c :: later := by
  have start : stripStart (c :: rest) = c :: rest := by
    rw [stripStart, List.dropWhile_cons_of_neg (by simp [first])]
  rw [strip, start, stripEnd, dropEndWhile, List.reverse_cons, List.dropWhile_append]
  split
  · rw [List.dropWhile_cons_of_neg (by simp [first])]
    exact ⟨[], rfl⟩
  · rw [List.reverse_append]
    exact ⟨_, rfl⟩

theorem strip_blank (text : Text) (blank : text.all isSpace = true) :
    strip text = [] := by
  induction text with
  | nil => rfl
  | cons c rest ih =>
      rw [List.all_cons, Bool.and_eq_true] at blank
      rw [strip_cons_blank c rest blank.1, ih blank.2]

theorem strip_ne_nil (text : Text) (solid : text.all isSpace = false) :
    strip text ≠ [] := by
  induction text with
  | nil => cases solid
  | cons c rest ih =>
      cases first : isSpace c with
      | true =>
          rw [List.all_cons, first, Bool.true_and] at solid
          rw [strip_cons_blank c rest first]
          exact ih solid
      | false =>
          obtain ⟨later, same⟩ := strip_cons_solid c rest first
          rw [same]
          exact List.cons_ne_nil c later

theorem strip_strip (text : Text) : strip (strip text) = strip text := by
  cases stripped : strip text with
  | nil => rfl
  | cons c rest =>
      have last := endsSolid_strip text
      have start : (stripStart text).head? = some c := by
        have front : strip text <+: stripStart text := by
          rw [strip, stripEnd, dropEndWhile, ← List.reverse_suffix, List.reverse_reverse]
          exact List.dropWhile_suffix isSpace
        rcases front with ⟨back, whole⟩
        rw [← whole, stripped]
        rfl
      have outside := List.head?_dropWhile_not isSpace text
      rw [← stripStart, start] at outside
      rw [stripped] at last
      exact strip_of_solid_ends c rest (by simpa using outside) last

theorem lowerChar_ne_nil (c : Char) : lowerChar c ≠ [] := by
  rw [lowerChar]
  split
  · exact List.cons_ne_nil _ _
  · split
    · exact List.cons_ne_nil _ _
    · exact List.cons_ne_nil _ _

theorem lowerAfter_ne_nil (before : Text) (c : Char) (rest : Text) :
    lowerAfter before (c :: rest) ≠ [] := by
  rw [lowerAfter]
  split
  · exact List.cons_ne_nil _ _
  · intro empty
    exact lowerChar_ne_nil c (List.append_eq_nil_iff.mp empty).1

theorem endsSolid_lowerAfter (before text : Text) (solid : EndsSolid text) :
    EndsSolid (lowerAfter before text) := by
  induction text generalizing before with
  | nil => nofun
  | cons c rest ih =>
      cases rest with
      | nil =>
          have own : isSpace c = false := solid c rfl
          rw [lowerAfter, lowerAfter, List.append_nil]
          apply endsSolid_of_solid
          intro d member
          split at member
          · rw [List.mem_singleton.mp member]
            split
            · decide
            · decide
          · exact isSpace_of_mem_lowerChar c d own member
      | cons next rest =>
          rw [lowerAfter, endsSolid_append _ _ (lowerAfter_ne_nil _ next rest)]
          apply ih
          intro d last
          exact solid d (by rw [List.getLast?_cons_cons]; exact last)

end Outliner.Text
