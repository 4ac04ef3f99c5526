import Mathlib.Data.List.Basic
import Outliner.Display.Wrap

namespace Outliner

namespace Markup

namespace Spanned

def styles (text : Spanned) : List Text :=
  text.spans.map Span.style

section Parts

variable (text : Spanned)

theorem styles_filterMap (change : Span → Option Span) (new : Text)
    (keeps : ∀ span changed, change span = some changed → changed.style = span.style) :
    styles ⟨new, text.spans.filterMap change⟩ ⊆ text.styles := by
  intro style member
  obtain ⟨changed, held, rfl⟩ := List.mem_map.mp member
  obtain ⟨span, own, same⟩ := List.mem_filterMap.mp held
  rw [keeps span changed same]
  exact List.mem_map_of_mem own

theorem styles_slice (start length : Nat) : (text.slice start length).styles ⊆ text.styles := by
  apply styles_filterMap
  intro span changed same
  simp only [Span.between?] at same
  split at same
  · rw [← Option.some.inj same]
  · cases same

theorem styles_slices (start : Nat) (lengths : List Nat) :
    ∀ part ∈ text.slices start lengths, part.styles ⊆ text.styles := by
  induction lengths generalizing start with
  | nil => exact fun part member => absurd member List.not_mem_nil
  | cons length rest ih =>
      rw [slices, List.forall_mem_cons]
      exact ⟨text.styles_slice start length, ih (start + length)⟩

theorem styles_divide (lengths : List Nat) :
    ∀ part ∈ text.divide lengths, part.styles ⊆ text.styles := by
  rw [divide]
  split
  · rw [List.forall_mem_singleton]
    exact List.Subset.refl _
  · exact text.styles_slices 0 lengths

theorem styles_linesAt (start : Nat) (pieces : List Text) :
    ∀ line ∈ text.linesAt start pieces, line.styles ⊆ text.styles := by
  induction pieces generalizing start with
  | nil => exact fun line member => absurd member List.not_mem_nil
  | cons piece rest ih =>
      rw [linesAt, List.forall_mem_cons]
      exact ⟨text.styles_slice start piece.length, ih _⟩

theorem styles_lines : ∀ line ∈ text.lines, line.styles ⊆ text.styles := by
  rw [lines]
  split
  · exact text.styles_linesAt 0 _
  · rw [List.forall_mem_singleton]
    exact List.Subset.refl _

theorem styles_retext (new : Text) : (text.retext new).styles ⊆ text.styles := by
  rw [retext]
  split
  · apply styles_filterMap
    intro span changed same
    simp only [Span.before?] at same
    split at same
    · rw [← Option.some.inj same]
    · cases same
  · exact List.Subset.refl _

theorem styles_append (other : Spanned) :
    (text.append other).styles = text.styles ++ other.styles := by
  rw [append, styles, List.map_append, List.map_map]
  rfl

theorem styles_concat (allowed : List Text) (parts : List Spanned)
    (each : ∀ part ∈ parts, part.styles ⊆ allowed) : (concat parts).styles ⊆ allowed := by
  suffices joined : ∀ start : Spanned, start.styles ⊆ allowed →
      (parts.foldl append start).styles ⊆ allowed from joined {} (List.nil_subset _)
  induction parts with
  | nil => exact fun start fits => fits
  | cons part rest ih =>
      rw [List.forall_mem_cons] at each
      intro start fits
      apply ih each.2
      rw [styles_append]
      exact List.append_subset.mpr ⟨fits, each.1⟩

end Parts

end Spanned

end Markup

namespace Display

open Markup (Span Spanned)

section Lines

variable (width : Nat) (text : Spanned)

theorem styles_expandTab : (expandTab text).styles ⊆ text.styles := by
  rw [expandTab]
  split
  · intro style member
    obtain ⟨changed, held, rfl⟩ := List.mem_map.mp member
    obtain ⟨span, own, rfl⟩ := List.mem_map.mp held
    have same : (span.stretch text.text.length (tabBlanks text.text.dropLast - 1)).style =
        span.style := by
      rw [Span.stretch]
      split <;> rfl
    rw [same]
    exact List.mem_map_of_mem own
  · exact List.Subset.refl _

theorem styles_expandTabs : (expandTabs text).styles ⊆ text.styles := by
  rw [expandTabs]
  split
  · apply Spanned.styles_concat
    intro part member
    obtain ⟨piece, own, rfl⟩ := List.mem_map.mp member
    exact List.Subset.trans (styles_expandTab piece) (text.styles_slices 0 _ piece own)
  · exact List.Subset.refl _

theorem styles_fit : (fit width text).styles ⊆ text.styles :=
  List.Subset.trans (Spanned.styles_retext _ _) (text.styles_retext _)

theorem styles_wrap (line : Spanned) (member : line ∈ wrap width text) :
    line.styles ⊆ text.styles := by
  rw [wrap] at member
  split at member
  · cases member
  · obtain ⟨whole, listed, held⟩ := List.mem_flatMap.mp member
    obtain ⟨part, own, rfl⟩ := List.mem_map.mp held
    calc (fit width part).styles
      _ ⊆ part.styles := styles_fit width part
      _ ⊆ (expandTabs whole).styles := (expandTabs whole).styles_divide _ part own
      _ ⊆ whole.styles := styles_expandTabs whole
      _ ⊆ text.styles := text.styles_lines whole listed

end Lines

def IsReadable (style : Text) : Prop :=
  ∃ read, Markup.Style.ofWords {} (Text.words style) = .ok read

theorem forM_ok {α ε : Type} (check : α → Except ε Unit) (items : List α)
    (each : ∀ item ∈ items, check item = .ok ()) : items.forM check = .ok () := by
  induction items with
  | nil => rfl
  | cons item rest ih =>
      rw [List.forall_mem_cons] at each
      show check item >>= (fun _ => rest.forM check) = _
      rw [each.1]
      exact ih each.2

theorem checkStyles_ok (text : Spanned) (readable : ∀ style ∈ text.styles, IsReadable style) :
    text.checkStyles = .ok () := by
  rw [Spanned.styles, List.forall_mem_map] at readable
  apply forM_ok
  intro span member
  obtain ⟨read, same⟩ := readable span member
  rw [same]
  rfl

theorem styles_highlight (text : Spanned) :
    ∀ style ∈ (highlight text).styles, style = [] ∨ style ∈ text.styles := by
  rw [highlight]
  split
  · intro style member
    rw [Spanned.styles, List.map_append, List.mem_append] at member
    refine member.imp_left fun marked => ?_
    obtain ⟨span, own, rfl⟩ := List.mem_map.mp marked
    obtain ⟨⟨start, stop⟩, _, made⟩ := List.mem_filterMap.mp own
    simp only at made
    split at made
    · rw [← Option.some.inj made]
    · cases made
  · exact fun style member => Or.inr member

theorem tryPrint_ok (width : Nat) (markup : Text) (shown : Spanned)
    (rendered : Markup.render markup = .ok shown)
    (readable : ∀ style ∈ shown.styles, IsReadable style) :
    ∃ output, tryPrint width markup = .ok output := by
  have checked : (wrap width (highlight shown)).forM Spanned.checkStyles = .ok () := by
    apply forM_ok
    intro line member
    apply checkStyles_ok
    intro style held
    rcases styles_highlight shown style (styles_wrap width _ line member held) with rfl | own
    · exact ⟨_, rfl⟩
    · exact readable style own
  rw [tryPrint, rendered]
  show ∃ output, ((wrap width (highlight shown)).forM Spanned.checkStyles >>= _) = .ok output
  rw [checked]
  exact ⟨_, rfl⟩

end Display

end Outliner
