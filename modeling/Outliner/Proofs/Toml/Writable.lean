import Outliner.Proofs.Toml.Keys
import Outliner.Proofs.Toml.RoundTrip

namespace Outliner.Toml

theorem Moment.isSome_toText? (separator other : Char) (moment : Moment) :
    (moment.toText? separator).isSome = (moment.toText? other).isSome := by
  cases moment with
  | date day => rfl
  | clock time => rfl
  | full day time offset =>
      cases offset with
      | none => rfl
      | some offset => simp only [toText?, Option.isSome_map]

mutual

def Value.holdsTable : Value → Bool
  | .array items => anyHoldsTable items
  | .table _ => true
  | _ => false
termination_by structural value => value

def anyHoldsTable : List Value → Bool
  | [] => false
  | value :: rest => value.holdsTable || anyHoldsTable rest
termination_by structural items => items

end

theorem isSome_of_required (text : Option Text) (written : Text)
    (given : required text = .ok written) : text.isSome = true := by
  cases text with
  | none => cases given
  | some text => rfl

theorem Value.fault_of_asText (value : Value) (fault : Fault)
    (failed : value.asText = .error fault) : fault = .badOffset := by
  have cause (text : Option Text) (failed : required text = .error fault) : fault = .badOffset := by
    cases text <;> cases failed
    rfl
  cases value with
  | text value => cases failed
  | real value => cases failed
  | moment moment => exact cause _ failed
  | _ => exact cause (Value.shown _) failed

theorem required_of_isSome (text : Option Text) (given : text.isSome = true) :
    ∃ written, required text = .ok written := by
  obtain ⟨written, rfl⟩ := Option.isSome_iff_exists.mp given
  exact ⟨written, rfl⟩

mutual

theorem Value.isSome_shown_of_render (value : Value) (written : Text)
    (rendered : value.render = .ok written) (plain : value.holdsTable = false) :
    value.shown.isSome = true := by
  cases value with
  | integer n => exact isSome_of_required _ written rendered
  | bool value => cases value <;> rfl
  | array items =>
      cases inner : renderAll items with
      | error fault =>
          rw [Value.render, inner] at rendered
          cases rendered
      | ok texts =>
          rw [Value.shown, Option.isSome_map]
          exact isSome_shownItems_of_renderAll items texts inner plain
  | table entries => cases plain
  | _ => rfl
termination_by structural value

theorem isSome_shownItems_of_renderAll (items : List Value) (texts : List Text)
    (rendered : renderAll items = .ok texts) (plain : anyHoldsTable items = false) :
    (shownItems items).isSome = true := by
  cases items with
  | nil => rfl
  | cons value rest =>
      obtain ⟨text, first, rendered⟩ := exists_of_bind rendered
      obtain ⟨others, later, _⟩ := exists_of_bind rendered
      obtain ⟨own, below⟩ := Bool.or_eq_false_iff.mp plain
      obtain ⟨shown, known⟩ := Option.isSome_iff_exists.mp
        (value.isSome_shown_of_render text first own)
      obtain ⟨remaining, listed⟩ := Option.isSome_iff_exists.mp
        (isSome_shownItems_of_renderAll rest others later below)
      rw [shownItems, known, listed]
      rfl
termination_by structural items

end

theorem exists_asText_of_render (value : Value) (written : Text)
    (rendered : value.render = .ok written) (plain : value.holdsTable = false) :
    ∃ text, value.asText = .ok text := by
  have shown := value.isSome_shown_of_render written rendered plain
  cases value with
  | text value => exact ⟨value, rfl⟩
  | moment moment =>
      have known := isSome_of_required _ written rendered
      rw [Moment.render?, Option.isSome_map, Moment.isSome_toText? 'T' ' '] at known
      exact required_of_isSome _ known
  | _ => exact required_of_isSome _ shown

theorem exists_render_of_renderAll (items : List Value) (texts : List Text)
    (rendered : renderAll items = .ok texts) :
    ∀ item ∈ items, ∃ text, item.render = .ok text := by
  induction items generalizing texts with
  | nil => nofun
  | cons item rest ih =>
      obtain ⟨text, first, rendered⟩ := exists_of_bind rendered
      obtain ⟨others, later, _⟩ := exists_of_bind rendered
      rw [List.forall_mem_cons]
      exact ⟨⟨text, first⟩, ih others later⟩

theorem exists_asText_of_elementEntries (value : Value) (entries : Table)
    (taken : value.elementEntries = .ok entries) (plain : value.holdsTable = false) :
    ∃ text, value.asText = .ok text := by
  unfold Value.elementEntries at taken
  split at taken
  · cases plain
  · exact ⟨[], rfl⟩
  · exact ⟨_, rfl⟩
  · cases taken

section Bodies

variable (body : BodyWriter) (levels : Nat) (name : Text)

theorem exists_asText_of_addToBody (done after : Body) (key : Text) (items : List Value)
    (added : addToBody body levels name done (key, .array items) = .ok after) :
    ∀ item ∈ items, item.holdsTable = false → ∃ text, item.asText = .ok text := by
  intro item member plain
  obtain ⟨_, _, added⟩ := exists_of_bind added
  simp only at added
  split at added
  · obtain ⟨texts, each, _⟩ := exists_of_bind added
    obtain ⟨_, element⟩ := exists_ok_of_mapM _ items texts each item member
    obtain ⟨entries, taken, _⟩ := exists_of_bind element
    exact exists_asText_of_elementEntries item entries taken plain
  · obtain ⟨_, written, _⟩ := exists_of_bind added
    cases rendered : renderAll items with
    | error fault =>
        rw [Value.render, rendered] at written
        cases written
    | ok texts =>
        obtain ⟨text, own⟩ := exists_render_of_renderAll items texts rendered item member
        exact exists_asText_of_render item text own plain

theorem exists_asText_of_renderBody (table : Table) (result : Text × Sections)
    (rendered : renderBody (levels + 1) name table = .ok result) (key : Text)
    (items : List Value) (held : (key, .array items) ∈ table) :
    ∀ item ∈ items, item.holdsTable = false → ∃ text, item.asText = .ok text := by
  obtain ⟨final, run, _⟩ := exists_of_bind rendered
  obtain ⟨before, after, added⟩ := exists_step_of_foldlM _ table _ final run _ held
  exact exists_asText_of_addToBody _ levels name before after key items added

end Bodies

section Insert

variable (name other : Text) (table old : Table) (sections : Sections)

theorem Sections.mem_insert_self : (name, table) ∈ Sections.insert name table sections := by
  induction sections with
  | nil => exact List.mem_singleton_self _
  | cons part rest ih =>
      rw [insert]
      split
      · exact List.mem_cons_self
      · exact List.mem_cons_of_mem part ih

theorem Sections.mem_insert_of_ne (apart : other ≠ name) (member : (other, old) ∈ sections) :
    (other, old) ∈ Sections.insert name table sections := by
  induction sections with
  | nil => cases member
  | cons part rest ih =>
      rw [insert]
      rcases List.mem_cons.mp member with rfl | later
      · rw [if_neg (by simpa using apart)]
        exact List.mem_cons_self
      · split
        · exact List.mem_cons_of_mem _ later
        · exact List.mem_cons_of_mem _ (ih later)

end Insert

theorem head_renderText (text written : Text) (rendered : renderText text = .ok written) :
    written.head? = some '"' := by
  rw [renderText] at rendered
  split at rendered
  · cases rendered
    rfl
  · obtain ⟨_, _, rendered⟩ := exists_of_bind rendered
    cases rendered
    rfl

theorem eq_of_renderKey (key name : Text) (bare : isBareName name = true)
    (rendered : renderKey key = .ok name) : key = name := by
  rw [renderKey] at rendered
  generalize (if key.getLast? == some '\n' then key.dropLast else key) = plain at rendered
  split at rendered
  · cases rendered
    rfl
  · have quoted := head_renderText key name rendered
    exact absurd (List.mem_of_head? quoted) (bare_not_mem name bare '"' (by decide))

section Outermost

variable (body : BodyWriter) (levels : Nat) (above name : Text) (bare : isBareName name = true)
  (entries : Table)
include bare

theorem mem_sections_of_added (done after : Body)
    (added : addToBody body levels above done (name, .table entries) = .ok after) :
    (name, entries) ∈ after.sections := by
  obtain ⟨key, named, added⟩ := exists_of_bind added
  rw [renderKey_bare name bare] at named
  cases named
  cases added
  exact Sections.mem_insert_self name entries done.sections

theorem mem_sections_of_other (done after : Body) (entry : Text × Value) (apart : entry.1 ≠ name)
    (added : addToBody body levels above done entry = .ok after)
    (member : (name, entries) ∈ done.sections) : (name, entries) ∈ after.sections := by
  obtain ⟨key, named, added⟩ := exists_of_bind added
  have other : name ≠ key := by
    rintro rfl
    exact apart (eq_of_renderKey entry.1 name bare named)
  split at added
  · cases added
    exact Sections.mem_insert_of_ne key name _ entries done.sections other member
  · split at added
    · obtain ⟨_, _, added⟩ := exists_of_bind added
      cases added
      exact member
    · obtain ⟨_, _, added⟩ := exists_of_bind added
      cases added
      exact member
  · obtain ⟨_, _, added⟩ := exists_of_bind added
    cases added
    exact member

theorem mem_sections_of_renderBody (table : Table) (distinct : (table.map (·.1)).Nodup)
    (held : (name, .table entries) ∈ table) (text : Text) (sections : Sections)
    (rendered : renderBody (levels + 1) above table = .ok (text, sections)) :
    (name, entries) ∈ sections := by
  obtain ⟨front, back, rfl⟩ := List.append_of_mem held
  obtain ⟨final, run, rendered⟩ := exists_of_bind rendered
  cases rendered
  rw [List.foldlM_append] at run
  obtain ⟨before, _, run⟩ := exists_of_bind run
  rw [List.foldlM_cons] at run
  obtain ⟨after, added, later⟩ := exists_of_bind run
  have own := mem_sections_of_added _ levels above name bare entries before after added
  refine foldlM_keeps _ (fun done => (name, entries) ∈ done.sections) back after final own ?_ later
  intro entry member done next kept stepped
  have apart : entry.1 ≠ name := by
    intro same
    rw [List.map_append, List.map_cons, List.nodup_append, List.nodup_cons] at distinct
    exact distinct.2.1.1 (List.mem_map.mpr ⟨entry, member, same⟩)
  exact mem_sections_of_other _ levels above name bare entries done next entry apart stepped kept

end Outermost

theorem exists_body_of_renderSections (body : BodyWriter) (levels : Nat) (before written : Text)
    (sections : Sections)
    (rendered : renderSections body (levels + 1) before sections = .ok written) (name : Text)
    (entries : Table) (member : (name, entries) ∈ sections) :
    ∃ result, body name entries = .ok result := by
  rw [renderSections] at rendered
  split at rendered
  · next none =>
      rw [List.isEmpty_iff.mp none] at member
      cases member
  · obtain ⟨final, run, _⟩ := exists_of_bind rendered
    obtain ⟨_, _, stepped⟩ := exists_step_of_foldlM _ sections _ final run _ member
    obtain ⟨result, own, _⟩ := exists_of_bind stepped
    exact ⟨result, own⟩

theorem exists_asText_of_written (table : Table) (distinct : (table.map (·.1)).Nodup)
    (written : Text) (rendered : render table = .ok written) (name : Text)
    (bare : isBareName name = true) (entries : Table) (held : (name, .table entries) ∈ table)
    (key : Text) (items : List Value) (within : (key, .array items) ∈ entries) :
    ∀ item ∈ items, item.holdsTable = false → ∃ text, item.asText = .ok text := by
  obtain ⟨⟨text, sections⟩, outermost, rendered⟩ := exists_of_bind rendered
  have member := mem_sections_of_renderBody _ [] name bare entries table distinct held text sections
    outermost
  obtain ⟨result, inner⟩ := exists_body_of_renderSections _ _ text written sections rendered name
    entries member
  exact exists_asText_of_renderBody _ name entries result inner key items within

end Outliner.Toml
