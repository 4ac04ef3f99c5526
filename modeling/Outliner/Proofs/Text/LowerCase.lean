import Outliner.Text.LowerCase

namespace Outliner.Text

def CaseRun.misses (first last : Nat) (isSparse : Bool) (run : CaseRun) : Bool :=
  last < run.first || run.last < first ||
    run.step == 2 && isSparse && first % 2 != run.first % 2

def CaseRun.lands (run : CaseRun) : Bool :=
  let first := (run.first + run.shift).toNat
  let last := (run.last + run.shift).toNat
  0 ≤ run.first + run.shift && (run.step == 1 || run.step == 2) &&
    (last < 0xD800 || 0xDFFF < first && last < 0x110000) &&
    (last < 0x130 || 0x130 < first) && (last < 0x3A3 || 0x3A3 < first) &&
    spaceRanges.all (fun range => last < range.1 || range.2 < first) &&
    lowerRuns.all (misses first last (run.step == 2 || run.first == run.last))

theorem all_land : lowerRuns.all CaseRun.lands = true := by decide +kernel

def IsLower (c : Char) : Prop :=
  lowerChar c = [c] ∧ c ≠ '\u03A3'

theorem isLower_of_no_run (c : Char) (dotless : c ≠ '\u0130') (sigma : c ≠ '\u03A3')
    (unlisted : ∀ run ∈ lowerRuns, run.holds c.toNat = false) : IsLower c := by
  refine ⟨?_, sigma⟩
  have missing : lowerRuns.find? (·.holds c.toNat) = none := by
    rw [List.find?_eq_none]
    intro run member
    rw [unlisted run member]
    exact Bool.false_ne_true
  rw [lowerChar, if_neg (by simpa using dotless), missing]

theorem inRanges_eq_false (ranges : List (Nat × Nat)) (n : Nat)
    (outside : ∀ range ∈ ranges, n < range.1 ∨ range.2 < n) : inRanges ranges n = false := by
  induction ranges with
  | nil => rfl
  | cons range rest ih =>
      rw [List.forall_mem_cons] at outside
      obtain ⟨first, last⟩ := range
      simp only [inRanges, ih outside.2, Bool.or_false, Bool.and_eq_false_iff,
        decide_eq_false_iff_not]
      omega

section Runs

variable (run : CaseRun) (n : Nat) (held : run.holds n = true) (lands : run.lands = true)
include held lands

theorem target_bounds :
    ((run.first + run.shift).toNat ≤ (n + run.shift).toNat ∧
      (n + run.shift).toNat ≤ (run.last + run.shift).toNat) ∧
    ((run.step == 2 || run.first == run.last) = true →
      (n + run.shift).toNat % 2 = (run.first + run.shift).toNat % 2) := by
  simp only [CaseRun.holds, Bool.and_eq_true, decide_eq_true_eq, beq_iff_eq] at held
  simp only [CaseRun.lands, Bool.and_eq_true, decide_eq_true_eq] at lands
  refine ⟨by omega, ?_⟩
  intro sparse
  simp only [Bool.or_eq_true, beq_iff_eq] at sparse
  rcases sparse with two | single
  · rw [two] at held
    omega
  · omega

theorem target_not_held (other : CaseRun) (member : other ∈ lowerRuns) :
    other.holds (n + run.shift).toNat = false := by
  have bounds := target_bounds run n held lands
  simp only [CaseRun.lands, Bool.and_eq_true, List.all_eq_true] at lands
  have missed := lands.2 other member
  simp only [CaseRun.misses, Bool.or_eq_true, Bool.and_eq_true, decide_eq_true_eq, bne_iff_ne,
    ne_eq, beq_iff_eq] at missed bounds
  rw [Bool.eq_false_iff]
  intro there
  simp only [CaseRun.holds, Bool.and_eq_true, decide_eq_true_eq, beq_iff_eq] at there
  rcases missed with (below | above) | ⟨⟨two, sparse⟩, parity⟩
  · omega
  · omega
  · rw [two] at there
    have same := bounds.2 sparse
    omega

theorem toNat_target : (Char.ofNat (n + run.shift).toNat).toNat = (n + run.shift).toNat := by
  have bounds := (target_bounds run n held lands).1
  simp only [CaseRun.lands, Bool.and_eq_true, Bool.or_eq_true, decide_eq_true_eq] at lands
  have valid : (n + run.shift).toNat.isValidChar := by
    unfold Nat.isValidChar
    omega
  rw [Char.ofNat, dif_pos valid]
  rfl

theorem isLower_target : IsLower (Char.ofNat (n + run.shift).toNat) := by
  have bounds := (target_bounds run n held lands).1
  have code := toNat_target run n held lands
  have unlisted (other : CaseRun) (member : other ∈ lowerRuns) :=
    target_not_held run n held lands other member
  simp only [CaseRun.lands, Bool.and_eq_true, Bool.or_eq_true, decide_eq_true_eq] at lands
  apply isLower_of_no_run
  · intro same
    rw [same] at code
    have dotless : ('\u0130' : Char).toNat = 0x130 := rfl
    omega
  · intro same
    rw [same] at code
    have sigma : ('\u03A3' : Char).toNat = 0x3A3 := rfl
    omega
  · rw [code]
    exact unlisted

theorem isSpace_target : isSpace (Char.ofNat (n + run.shift).toNat) = false := by
  have bounds := (target_bounds run n held lands).1
  rw [isSpace, toNat_target run n held lands]
  simp only [CaseRun.lands, Bool.and_eq_true, List.all_eq_true, Bool.or_eq_true,
    decide_eq_true_eq] at lands
  apply inRanges_eq_false
  intro range member
  have outside := lands.1.2 range member
  omega

end Runs

theorem isLower_of_mem_lowerChar (c d : Char) (sigma : c ≠ '\u03A3') (member : d ∈ lowerChar c) :
    IsLower d := by
  rw [lowerChar] at member
  split at member
  · next dotted =>
      simp only [List.mem_cons, List.not_mem_nil, or_false] at member
      rcases member with rfl | rfl
      · unfold IsLower; decide
      · unfold IsLower; decide
  · next plain =>
      split at member
      · next run found =>
          have held := List.find?_some found
          rw [List.mem_singleton.mp member]
          exact isLower_target run c.toNat held
            (List.all_eq_true.mp all_land run (List.mem_of_find?_eq_some found))
      · next missing =>
          rw [List.mem_singleton.mp member]
          apply isLower_of_no_run c (by simpa using plain) sigma
          intro run listed
          exact Bool.eq_false_iff.mpr (List.find?_eq_none.mp missing run listed)

theorem isSpace_of_mem_lowerChar (c d : Char) (solid : isSpace c = false)
    (member : d ∈ lowerChar c) : isSpace d = false := by
  rw [lowerChar] at member
  split at member
  · simp only [List.mem_cons, List.not_mem_nil, or_false] at member
    rcases member with rfl | rfl
    · decide
    · decide
  · split at member
    · next run found =>
        have held := List.find?_some found
        rw [List.mem_singleton.mp member]
        exact isSpace_target run c.toNat held
          (List.all_eq_true.mp all_land run (List.mem_of_find?_eq_some found))
    · rw [List.mem_singleton.mp member]
      exact solid

theorem isLower_of_mem_lowerAfter (before text : Text) :
    ∀ c ∈ lowerAfter before text, IsLower c := by
  induction text generalizing before with
  | nil => nofun
  | cons first rest ih =>
      intro c member
      rw [lowerAfter, List.mem_append] at member
      rcases member with own | later
      · split at own
        · rw [List.mem_singleton.mp own]
          split
          · unfold IsLower; decide
          · unfold IsLower; decide
        · next plain =>
            exact isLower_of_mem_lowerChar first c (by simpa using plain) own
      · exact ih (first :: before) c later

theorem lowerAfter_of_isLower (before text : Text) (each : ∀ c ∈ text, IsLower c) :
    lowerAfter before text = text := by
  induction text generalizing before with
  | nil => rfl
  | cons c rest ih =>
      rw [List.forall_mem_cons] at each
      rw [lowerAfter, if_neg (by simpa using each.1.2), each.1.1, ih (c :: before) each.2]
      rfl

theorem lower_of_isLower (text : Text) (each : ∀ c ∈ text, IsLower c) : lower text = text :=
  lowerAfter_of_isLower [] text each

theorem isLower_of_mem_lower (text : Text) : ∀ c ∈ lower text, IsLower c :=
  isLower_of_mem_lowerAfter [] text

end Outliner.Text
