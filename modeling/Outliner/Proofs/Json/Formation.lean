import Outliner.Proofs.Json.Writable
import Outliner.Proofs.Outline.WellFormed

namespace Outliner.Json

section Parts

variable (path : Text) (level : Int)

theorem summary_parts (value : Value) (composite : value.isComposite = true) :
    OfKinds [.arrayItem] (value.parts path level) ∧
        value.line = arraySummary (value.parts path level).length ∨
      OfKinds [.object, .property] (value.parts path level) ∧
        value.line = objectSummary (value.parts path level).length := by
  cases value with
  | array items =>
      left
      simp only [parts_eq_entries, Value.entries, List.length_map, List.length_zipIdx]
      refine ⟨?_, rfl⟩
      intro node member
      obtain ⟨entry, listed, rfl⟩ := List.mem_map.mp member
      obtain ⟨item, _, rfl⟩ := List.mem_map.mp listed
      exact List.mem_cons_self
  | object members =>
      right
      simp only [parts_eq_entries, Value.entries, List.length_map]
      refine ⟨?_, rfl⟩
      intro node member
      obtain ⟨entry, listed, rfl⟩ := List.mem_map.mp member
      obtain ⟨⟨name, value⟩, _, rfl⟩ := List.mem_map.mp listed
      simp only [Entry.node, Entry.header]
      split <;> simp
  | _ => cases composite

theorem matchesSummary_of_parts (node : Node) (value : Value)
    (composite : value.isComposite = true) (line : node.lines = [value.line])
    (below : node.children = value.parts path level) : node.MatchesSummary := by
  rw [Node.MatchesSummary, below, line]
  rcases summary_parts path level value composite with ⟨kinds, summary⟩ | ⟨kinds, summary⟩
  · exact Or.inl ⟨kinds, congrArg (fun line => [line]) summary⟩
  · exact Or.inr ⟨kinds, congrArg (fun line => [line]) summary⟩

theorem sound_member (name : Text) (value : Value) :
    ((Entry.member name value).node path level).Sound := by
  cases composite : value.isComposite with
  | true =>
      simp only [Entry.node, Entry.header, Entry.value, composite, if_true]
      exact Node.sound_of_fits _ rfl rfl
        (matchesSummary_of_parts path (level + 1) _ value composite rfl rfl)
  | false =>
      have childless := parts_of_scalar path (level + 1) value composite
      simp only [Entry.node, Entry.header, Entry.value, composite, Bool.false_eq_true, if_false]
      exact Node.sound_of_fits _ rfl rfl childless

theorem sound_item (index : Nat) (value : Value) :
    ((Entry.item index value).node path level).Sound := by
  refine Node.sound_of_fits _ rfl rfl ⟨rfl, ?_⟩
  cases composite : value.isComposite with
  | true =>
      right
      exact matchesSummary_of_parts path (level + 1) _ value composite rfl rfl
  | false => exact Or.inl (parts_of_scalar path (level + 1) value composite)

end Parts

theorem sound_entry (path : Text) (level : Int) (value : Value) (entry : Entry)
    (member : entry ∈ value.entries) : (entry.node path level).Sound := by
  cases value with
  | array items =>
      obtain ⟨⟨item, index⟩, _, rfl⟩ := List.mem_map.mp member
      exact sound_item path level index item
  | object members =>
      obtain ⟨⟨name, inner⟩, _, rfl⟩ := List.mem_map.mp member
      exact sound_member path level name inner
  | _ => cases member

theorem wellFormed_parts (path : Text) (level : Int) (value : Value) :
    WellFormed (value.parts path level) := by
  induction value using Value.induction generalizing level with
  | step value ih =>
      rw [parts_eq_entries, wellFormed_iff_roots]
      intro node member
      obtain ⟨entry, listed, rfl⟩ := List.mem_map.mp member
      exact ⟨sound_entry path level value entry listed, ih entry listed (level + 1)⟩

theorem wellFormed_mirror (value : Value) (level : Int) (path : Text) :
    WellFormed (mirror value level path) := by
  rw [mirror]
  split
  · exact wellFormed_parts path level value
  · exact wellFormed_leaf _ (Node.sound_of_fits _ rfl rfl rfl) rfl

theorem wellFormed_outline (document : Text) (level : Int) (path : Text) :
    WellFormed (outline document level path) := by
  cases decoded : decode document with
  | ok value =>
      rw [outline_of_decode value level path document decoded]
      exact wellFormed_mirror value level path
  | error fault =>
      rw [outline_of_fault document level path fault decoded]
      exact wellFormed_leaf _ (Node.sound_of_fits _ rfl rfl rfl) rfl

theorem isFileContent_mirror (value : Value) (level : Int) (path : Text) :
    IsFileContent (mirror value level path) := by
  cases composite : value.isComposite with
  | true =>
      rw [mirror_of_composite path level value composite]
      rcases summary_parts path level value composite with ⟨kinds, _⟩ | ⟨kinds, _⟩
      · exact Or.inr (Or.inr (Or.inl kinds))
      · exact Or.inr (Or.inl kinds)
  | false =>
      right; left
      simp [mirror, composite, OfKinds]

theorem isFileContent_outline (document : Text) (level : Int) (path : Text) :
    IsFileContent (outline document level path) := by
  cases decoded : decode document with
  | ok value =>
      rw [outline_of_decode value level path document decoded]
      exact isFileContent_mirror value level path
  | error fault =>
      rw [outline_of_fault document level path fault decoded]
      refine Or.inr (Or.inr (Or.inr ⟨rfl, ?_⟩))
      simp [errorForest, OfKinds]

end Outliner.Json
