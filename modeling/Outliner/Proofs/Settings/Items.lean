import Outliner.Proofs.Text.Strip
import Outliner.Settings.Setting

namespace Outliner

namespace Text

theorem all_above_comma :
    lowerRuns.all (fun run => ','.toNat < (run.first + run.shift).toNat) = true := by
  decide +kernel

theorem comma_not_mem_lowerChar (c : Char) (other : c ≠ ',') : ',' ∉ lowerChar c := by
  rw [lowerChar]
  split
  · decide
  · split
    · next run found =>
        have held := List.find?_some found
        have listed := List.mem_of_find?_eq_some found
        have lands := List.all_eq_true.mp all_land run listed
        have bounds := (target_bounds run c.toNat held lands).1
        have above := List.all_eq_true.mp all_above_comma run listed
        rw [decide_eq_true_eq] at above
        rw [List.mem_singleton]
        intro same
        have code := toNat_target run c.toNat held lands
        rw [← same] at code
        omega
    · rw [List.mem_singleton]
      exact Ne.symm other

theorem comma_not_mem_lowerAfter (before text : Text) (absent : ',' ∉ text) :
    ',' ∉ lowerAfter before text := by
  induction text generalizing before with
  | nil => exact absent
  | cons c rest ih =>
      rw [List.mem_cons, not_or] at absent
      rw [lowerAfter, List.mem_append, not_or]
      refine ⟨?_, ih (c :: before) absent.2⟩
      split
      · split <;> decide
      · exact comma_not_mem_lowerChar c (Ne.symm absent.1)

theorem mem_of_mem_strip (text : Text) (c : Char) (member : c ∈ strip text) : c ∈ text := by
  rw [strip, stripEnd, dropEndWhile, List.mem_reverse] at member
  have kept := (List.dropWhile_suffix _).subset member
  rw [List.mem_reverse] at kept
  exact (List.dropWhile_suffix _).subset kept

theorem mem_of_mem_words (text word : Text) (listed : word ∈ words text) (c : Char)
    (member : c ∈ word) : c ∈ text := by
  induction text generalizing word with
  | nil => cases listed
  | cons d rest ih =>
      have later (word : Text) (listed : word ∈ words rest) (member : c ∈ word) : c ∈ d :: rest :=
        List.mem_cons_of_mem d (ih word listed member)
      have alone (listed : word ∈ [[d]]) : c ∈ d :: rest := by
        rw [List.mem_singleton.mp listed, List.mem_singleton] at member
        exact member ▸ List.mem_cons_self
      rw [words.eq_def] at listed
      simp only at listed
      split at listed
      · exact later word listed member
      · split at listed
        · exact alone listed
        · split at listed
          · rcases List.mem_cons.mp listed with own | other
            · exact alone (List.mem_singleton.mpr own)
            · exact later word other member
          · split at listed
            · exact alone listed
            · next first others cut =>
                rw [cut] at later
                rcases List.mem_cons.mp listed with own | other
                · rw [own] at member
                  rcases List.mem_cons.mp member with same | within
                  · exact same ▸ List.mem_cons_self
                  · exact later first List.mem_cons_self within
                · exact later word (List.mem_cons_of_mem first other) member

end Text

theorem comma_not_mem_normalExtension (text : Text) (absent : ',' ∉ text) :
    ',' ∉ normalExtension text := by
  have stripped : ',' ∉ Text.strip text := fun member => absent (Text.mem_of_mem_strip text ',' member)
  have lowered := Text.comma_not_mem_lowerAfter [] _ stripped
  rw [← Text.lower] at lowered
  rw [normalExtension]
  split
  · nofun
  · next rest same => rwa [same] at lowered
  · rw [List.mem_cons, not_or]
    exact ⟨by decide, lowered⟩

theorem comma_not_mem_normalizeExtensions (extensions : List Text)
    (absent : ∀ text ∈ extensions, ',' ∉ text) :
    ∀ extension ∈ normalizeExtensions extensions, ',' ∉ extension := by
  have each (done : List Text) (clean : ∀ extension ∈ done, ',' ∉ extension) :
      ∀ extension ∈ extensions.foldl (fun done text =>
        let extension := normalExtension text
        if extension.isEmpty || done.contains extension then done else done ++ [extension]) done,
        ',' ∉ extension := by
    induction extensions generalizing done with
    | nil => exact clean
    | cons text rest ih =>
        rw [List.forall_mem_cons] at absent
        rw [List.foldl_cons]
        apply ih absent.2
        intro extension member
        simp only at member
        split at member
        · exact clean extension member
        · rcases List.mem_append.mp member with old | new
          · exact clean extension old
          · rw [List.mem_singleton.mp new]
            exact comma_not_mem_normalExtension text absent.1
  exact each [] nofun

theorem comma_not_mem_listWords (text : Text) :
    ∀ word ∈ SettingValue.listWords text, ',' ∉ word := by
  intro word listed member
  have inside := Text.mem_of_mem_words _ word listed ',' member
  rw [List.mem_map] at inside
  obtain ⟨c, _, mapped⟩ := inside
  split at mapped
  · exact absurd mapped (by decide)
  · next other =>
      rw [mapped] at other
      exact other rfl

theorem items_of_parse (setting : Setting) (text : Text) (items : List Text)
    (parsed : SettingValue.parse setting text = .ok (.list items)) :
    items ≠ [] ∧ ∀ item ∈ items, ',' ∉ item := by
  have listed (given : List Text) (clean : ∀ item ∈ given, ',' ∉ item)
      (read : (if given.isEmpty then Except.error SettingValue.Refusal.needsValue
        else .ok (.list given)) = .ok (SettingValue.list items)) :
      items ≠ [] ∧ ∀ item ∈ items, ',' ∉ item := by
    split at read
    · cases read
    · next held =>
        injection read with same
        injection same with same
        subst same
        exact ⟨by simpa using held, clean⟩
  cases setting with
  | toggle choice =>
      simp only [SettingValue.parse] at parsed
      split at parsed
      · cases parsed
      · split at parsed <;> cases parsed
  | extensions =>
      exact listed _ (comma_not_mem_normalizeExtensions _ (comma_not_mem_listWords text)) parsed
  | skippedDirs => exact listed _ (comma_not_mem_listWords text) parsed

end Outliner
