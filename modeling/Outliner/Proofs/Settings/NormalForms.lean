import Mathlib.Data.List.Basic
import Outliner.Proofs.Settings.Extensions

namespace Outliner

def withDot (text : Text) : Text :=
  if text.head? = some '.' then text else '.' :: text

/-- The normal forms of the texts that are not blank, one for each. -/
def normalForms (texts : List Text) : List Text :=
  (texts.filter fun text => !text.all Text.isSpace).map fun text =>
    withDot (Text.lower (Text.strip text))

theorem normalForms_append (texts more : List Text) :
    normalForms (texts ++ more) = normalForms texts ++ normalForms more := by
  simp only [normalForms, List.filter_append, List.map_append]

theorem normalExtension_blank (text : Text) (blank : text.all Text.isSpace = true) :
    normalExtension text = [] := by
  rw [normalExtension, Text.strip_blank text blank]
  rfl

theorem normalExtension_solid (text : Text) (solid : text.all Text.isSpace = false) :
    normalExtension text = withDot (Text.lower (Text.strip text)) ∧ normalExtension text ≠ [] := by
  have held : Text.lower (Text.strip text) ≠ [] := by
    obtain ⟨c, rest, same⟩ := List.exists_cons_of_ne_nil (Text.strip_ne_nil text solid)
    rw [same]
    exact Text.lowerAfter_ne_nil [] c rest
  rw [normalExtension, withDot]
  split
  · next empty => exact absurd empty held
  · next rest same => exact ⟨by rw [same]; rfl, List.cons_ne_nil _ _⟩
  · next plain =>
      refine ⟨(if_neg ?_).symm, List.cons_ne_nil _ _⟩
      intro dot
      obtain ⟨rest, same⟩ := List.head?_eq_some_iff.mp dot
      exact plain rest same

/-- The elements of a list, each of them once, in the order in which they occur first. -/
structure FirstOccurrences {α : Type} [DecidableEq α] (all firsts : List α) : Prop where
  mem_iff : ∀ item, item ∈ firsts ↔ item ∈ all
  ordered : firsts.Pairwise fun first second => all.idxOf first < all.idxOf second

section FirstOccurrences

variable {α : Type} [DecidableEq α] (all firsts : List α) (item : α)
  (holds : FirstOccurrences all firsts)
include holds

theorem FirstOccurrences.ordered_append (more : List α) :
    firsts.Pairwise fun first second =>
      (all ++ more).idxOf first < (all ++ more).idxOf second := by
  refine holds.ordered.imp_of_mem ?_
  intro first second left right before
  rwa [List.idxOf_append_of_mem ((holds.mem_iff first).mp left),
    List.idxOf_append_of_mem ((holds.mem_iff second).mp right)]

theorem FirstOccurrences.repeated (known : item ∈ firsts) :
    FirstOccurrences (all ++ [item]) firsts := by
  refine ⟨?_, holds.ordered_append all firsts [item]⟩
  intro other
  rw [List.mem_append, List.mem_singleton, holds.mem_iff]
  constructor
  · exact Or.inl
  · rintro (old | rfl)
    · exact old
    · exact (holds.mem_iff other).mp known

theorem FirstOccurrences.fresh (new : item ∉ firsts) :
    FirstOccurrences (all ++ [item]) (firsts ++ [item]) := by
  refine ⟨?_, ?_⟩
  · intro other
    rw [List.mem_append, List.mem_append, holds.mem_iff]
  · rw [List.pairwise_append]
    refine ⟨holds.ordered_append all firsts [item], List.pairwise_singleton _ _, ?_⟩
    intro first left second last
    have old := (holds.mem_iff first).mp left
    rw [List.mem_singleton.mp last, List.idxOf_append_of_mem old,
      List.idxOf_append_of_notMem (mt (holds.mem_iff item).mpr new)]
    exact Nat.lt_add_right _ (List.idxOf_lt_length_of_mem old)

end FirstOccurrences

theorem firstOccurrences_takeExtension (seen : List Text) (done : List Text) (text : Text)
    (holds : FirstOccurrences seen done) :
    FirstOccurrences (seen ++ normalForms [text]) (takeExtension done text) := by
  cases blank : text.all Text.isSpace with
  | true =>
      have none : normalForms [text] = [] := by simp [normalForms, blank]
      rw [none, List.append_nil, takeExtension, normalExtension_blank text blank]
      exact holds
  | false =>
      obtain ⟨same, held⟩ := normalExtension_solid text blank
      have own : normalForms [text] = [normalExtension text] := by
        simp [normalForms, blank, same]
      rw [own, takeExtension]
      split
      · next known =>
          simp only [Bool.or_eq_true, List.isEmpty_iff, held, false_or, List.contains_iff_mem]
            at known
          exact holds.repeated seen done _ known
      · next new =>
          simp only [Bool.or_eq_true, List.isEmpty_iff, held, false_or, List.contains_iff_mem]
            at new
          exact holds.fresh seen done _ new

theorem firstOccurrences_normalizeExtensions (texts : List Text) :
    FirstOccurrences (normalForms texts) (normalizeExtensions texts) := by
  have each (seen done : List Text) (holds : FirstOccurrences seen done) :
      FirstOccurrences (seen ++ normalForms texts) (texts.foldl takeExtension done) := by
    induction texts generalizing seen done with
    | nil =>
        rw [normalForms, List.filter_nil, List.map_nil, List.append_nil]
        exact holds
    | cons text rest ih =>
        have next := ih _ _ (firstOccurrences_takeExtension seen done text holds)
        rwa [List.append_assoc, ← normalForms_append, List.singleton_append] at next
  exact each [] [] ⟨fun _ => Iff.rfl, List.Pairwise.nil⟩

end Outliner
