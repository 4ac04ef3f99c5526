import Outliner.Proofs.Text.LowerCase
import Outliner.Text.Numeral

namespace Outliner.Text

theorem inRanges_eq_true (ranges : List (Nat × Nat)) (n : Nat) (inside : inRanges ranges n = true) :
    ∃ range ∈ ranges, range.1 ≤ n ∧ n ≤ range.2 := by
  induction ranges with
  | nil => cases inside
  | cons range rest ih =>
      simp only [inRanges, Bool.and_eq_true, Bool.or_eq_true, decide_eq_true_eq] at inside
      rcases inside with ⟨low, high | later⟩
      · exact ⟨range, List.mem_cons_self, low, high⟩
      · obtain ⟨other, member, bounds⟩ := ih later
        exact ⟨other, List.mem_cons_of_mem range member, bounds⟩

def CaseRun.avoidsDigits (run : CaseRun) : Bool :=
  digitRanges.all fun range =>
    run.misses range.1 range.2 false &&
      ((run.last + run.shift).toNat < range.1 || range.2 < (run.first + run.shift).toNat)

theorem all_avoid_digits : lowerRuns.all CaseRun.avoidsDigits = true := by decide +kernel

theorem isLower_of_isDigit (c : Char) (digit : isDigit c = true) : IsLower c := by
  obtain ⟨range, member, low, high⟩ := inRanges_eq_true digitRanges c.toNat digit
  apply isLower_of_no_run
  · intro same
    rw [same] at digit
    exact absurd digit (by decide)
  · intro same
    rw [same] at digit
    exact absurd digit (by decide)
  · intro run listed
    have avoids := List.all_eq_true.mp all_avoid_digits run listed
    have apart := List.all_eq_true.mp avoids range member
    simp only [CaseRun.misses, Bool.and_false, Bool.false_and, Bool.or_false, Bool.and_eq_true,
      Bool.or_eq_true, decide_eq_true_eq] at apart
    rw [Bool.eq_false_iff]
    intro held
    simp only [CaseRun.holds, Bool.and_eq_true, decide_eq_true_eq] at held
    omega

theorem isDigit_target (run : CaseRun) (n : Nat) (listed : run ∈ lowerRuns)
    (held : run.holds n = true) : isDigit (Char.ofNat (n + run.shift).toNat) = false := by
  have lands := List.all_eq_true.mp all_land run listed
  have bounds := (target_bounds run n held lands).1
  have avoids := List.all_eq_true.mp all_avoid_digits run listed
  rw [isDigit, toNat_target run n held lands]
  apply inRanges_eq_false
  intro range member
  have apart := List.all_eq_true.mp avoids range member
  simp only [Bool.and_eq_true, Bool.or_eq_true, decide_eq_true_eq] at apart
  omega

theorem exists_not_digit (c : Char) (plain : isDigit c = false) :
    ∃ d ∈ lowerChar c, isDigit d = false := by
  rw [lowerChar]
  split
  · exact ⟨'i', by simp, by decide⟩
  · split
    · next run found =>
        have held := List.find?_some found
        refine ⟨_, List.mem_singleton_self _, ?_⟩
        exact isDigit_target run c.toNat (List.mem_of_find?_eq_some found) held
    · exact ⟨c, List.mem_singleton_self c, plain⟩

theorem digits_of_lowerAfter (before text : Text)
    (digits : ∀ c ∈ lowerAfter before text, isDigit c = true) :
    ∀ c ∈ text, isDigit c = true := by
  induction text generalizing before with
  | nil => nofun
  | cons first rest ih =>
      rw [lowerAfter, List.forall_mem_append] at digits
      rw [List.forall_mem_cons]
      refine ⟨?_, ih (first :: before) digits.2⟩
      have own := digits.1
      split at own
      · have sigma := own _ (List.mem_singleton_self _)
        split at sigma
        · exact absurd sigma (by decide)
        · exact absurd sigma (by decide)
      · cases plain : isDigit first with
        | true => rfl
        | false =>
            obtain ⟨d, member, other⟩ := exists_not_digit first plain
            rw [own d member] at other
            cases other

def IsDigits (text : Text) : Prop :=
  text ≠ [] ∧ ∀ c ∈ text, isDigit c = true

theorem lower_of_isDigits (text : Text) (digits : IsDigits text) : lower text = text := by
  apply lower_of_isLower
  intro c member
  exact isLower_of_isDigit c (digits.2 c member)

theorem isDigits_lower (text : Text) : IsDigits (lower text) ↔ IsDigits text := by
  constructor
  · intro digits
    refine ⟨?_, digits_of_lowerAfter [] text digits.2⟩
    intro empty
    apply digits.1
    rw [empty]
    rfl
  · intro digits
    rw [lower_of_isDigits text digits]
    exact digits

end Outliner.Text
