import Outliner.Proofs.Text.Strip
import Outliner.Settings.Setting

namespace Outliner

def IsNormal (extension : Text) : Prop :=
  extension ≠ [] ∧ normalExtension extension = extension

theorem normalExtension_of_dot (rest : Text) (low : ∀ c ∈ rest, Text.IsLower c)
    (solid : Text.EndsSolid ('.' :: rest)) : IsNormal ('.' :: rest) := by
  refine ⟨List.cons_ne_nil '.' rest, ?_⟩
  have dot : Text.IsLower '.' := by unfold Text.IsLower; decide
  have stripped := Text.strip_of_solid_ends '.' rest (by decide) solid
  have lowered := Text.lower_of_isLower ('.' :: rest) (List.forall_mem_cons.mpr ⟨dot, low⟩)
  rw [normalExtension, stripped, lowered]
  rfl

theorem exists_normalExtension (text : Text) (held : normalExtension text ≠ []) :
    ∃ rest, normalExtension text = '.' :: rest ∧ (∀ c ∈ rest, Text.IsLower c) ∧
      Text.EndsSolid ('.' :: rest) := by
  have low := Text.isLower_of_mem_lower (Text.strip text)
  have solid := Text.endsSolid_lowerAfter [] _ (Text.endsSolid_strip text)
  rw [← Text.lower] at solid
  unfold normalExtension at held ⊢
  split at held
  · exact absurd rfl held
  · next rest same =>
      rw [same] at low solid
      exact ⟨rest, rfl, (List.forall_mem_cons.mp low).2, solid⟩
  · next nonempty _ =>
      exact ⟨_, rfl, low, (Text.endsSolid_append ['.'] _ nonempty).mpr solid⟩

theorem isNormal_normalExtension (text : Text) (held : normalExtension text ≠ []) :
    IsNormal (normalExtension text) := by
  obtain ⟨rest, same, low, solid⟩ := exists_normalExtension text held
  rw [same]
  exact normalExtension_of_dot rest low solid

theorem steps_of_isNormal (extension : Text) (normal : IsNormal extension) :
    extension.head? = some '.' ∧ Text.strip extension = extension ∧
      Text.lower extension = extension := by
  obtain ⟨rest, same, low, solid⟩ :=
    exists_normalExtension extension (by rw [normal.2]; exact normal.1)
  rw [normal.2] at same
  subst same
  have dot : Text.IsLower '.' := by unfold Text.IsLower; decide
  exact ⟨rfl, Text.strip_of_solid_ends '.' rest (by decide) solid,
    Text.lower_of_isLower _ (List.forall_mem_cons.mpr ⟨dot, low⟩)⟩

def takeExtension (done : List Text) (text : Text) : List Text :=
  let extension := normalExtension text
  if extension.isEmpty || done.contains extension then done else done ++ [extension]

theorem normalizeExtensions_eq (extensions : List Text) :
    normalizeExtensions extensions = extensions.foldl takeExtension [] := rfl

theorem takeExtension_normal (done : List Text) (text : Text) (distinct : done.Nodup)
    (normal : ∀ extension ∈ done, IsNormal extension) :
    (takeExtension done text).Nodup ∧
      ∀ extension ∈ takeExtension done text, IsNormal extension := by
  rw [takeExtension]
  split
  · exact ⟨distinct, normal⟩
  · next fresh =>
      simp only [Bool.or_eq_true, List.isEmpty_iff, List.contains_eq_mem, decide_eq_true_eq,
        not_or] at fresh
      constructor
      · rw [List.nodup_append]
        refine ⟨distinct, List.pairwise_singleton _ _, ?_⟩
        intro old member new last same
        rw [List.mem_singleton.mp last] at same
        exact fresh.2 (same ▸ member)
      · intro extension member
        rcases List.mem_append.mp member with old | new
        · exact normal extension old
        · rw [List.mem_singleton.mp new]
          exact isNormal_normalExtension text fresh.1

theorem normalizeExtensions_normal (extensions : List Text) :
    (normalizeExtensions extensions).Nodup ∧
      ∀ extension ∈ normalizeExtensions extensions, IsNormal extension := by
  have each (done : List Text) (distinct : done.Nodup)
      (normal : ∀ extension ∈ done, IsNormal extension) :
      (extensions.foldl takeExtension done).Nodup ∧
        ∀ extension ∈ extensions.foldl takeExtension done, IsNormal extension := by
    induction extensions generalizing done with
    | nil => exact ⟨distinct, normal⟩
    | cons text rest ih =>
        obtain ⟨distinct, normal⟩ := takeExtension_normal done text distinct normal
        exact ih (takeExtension done text) distinct normal
  exact each [] List.nodup_nil nofun

theorem foldl_takeExtension (extensions done : List Text) (distinct : (done ++ extensions).Nodup)
    (normal : ∀ extension ∈ extensions, IsNormal extension) :
    extensions.foldl takeExtension done = done ++ extensions := by
  induction extensions generalizing done with
  | nil => rw [List.foldl_nil, List.append_nil]
  | cons extension rest ih =>
      rw [List.forall_mem_cons] at normal
      have fresh : extension ∉ done := by
        intro member
        rw [List.nodup_append] at distinct
        exact distinct.2.2 extension member extension List.mem_cons_self rfl
      have taken : takeExtension done extension = done ++ [extension] := by
        rw [takeExtension, normal.1.2, if_neg]
        simp [normal.1.1, fresh]
      rw [List.foldl_cons, taken, ih (done ++ [extension]) (by simpa using distinct) normal.2,
        List.append_assoc, List.singleton_append]

theorem normalizeExtensions_normalizeExtensions (extensions : List Text) :
    normalizeExtensions (normalizeExtensions extensions) = normalizeExtensions extensions := by
  obtain ⟨distinct, normal⟩ := normalizeExtensions_normal extensions
  rw [normalizeExtensions_eq (normalizeExtensions extensions)]
  exact foldl_takeExtension _ [] distinct normal

end Outliner
