import Outliner.Proofs.Fallible
import Outliner.Toml.Document

namespace Outliner.Toml

namespace Table

theorem mem_of_get? (key : Text) (value : Value) (table : Table)
    (found : get? key table = some value) : (key, value) ∈ table := by
  induction table with
  | nil => cases found
  | cons entry rest ih =>
      obtain ⟨own, old⟩ := entry
      rw [get?] at found
      split at found
      · next here =>
          rw [← eq_of_beq here, ← Option.some.inj found]
          exact List.mem_cons_self
      · exact List.mem_cons_of_mem _ (ih found)

section Insert

variable (key : Text) (value : Value) (table : Table)

theorem insert_ne_nil : insert key value table ≠ [] := by
  cases table with
  | nil => exact List.cons_ne_nil _ _
  | cons entry rest =>
      rw [insert]
      split <;> exact List.cons_ne_nil _ _

variable (distinct : (table.map (·.1)).Nodup)
include distinct

theorem mem_insert (entry : Text × Value) (member : entry ∈ insert key value table) :
    entry = (key, value) ∨ entry ∈ table ∧ entry.1 ≠ key := by
  induction table with
  | nil => exact Or.inl (List.mem_singleton.mp member)
  | cons first rest ih =>
      obtain ⟨own, old⟩ := first
      rw [List.map_cons, List.nodup_cons] at distinct
      rw [insert] at member
      split at member
      · next here =>
          rcases List.mem_cons.mp member with new | later
          · exact Or.inl new
          · refine Or.inr ⟨List.mem_cons_of_mem _ later, ?_⟩
            intro same
            apply distinct.1
            rw [eq_of_beq here, ← same]
            exact List.mem_map.mpr ⟨entry, later, rfl⟩
      · next other =>
          rcases List.mem_cons.mp member with same | later
          · subst same
            exact Or.inr ⟨List.mem_cons_self, by simpa using other⟩
          · rcases ih distinct.2 later with new | ⟨old, apart⟩
            · exact Or.inl new
            · exact Or.inr ⟨List.mem_cons_of_mem _ old, apart⟩

theorem nodup_insert : ((insert key value table).map (·.1)).Nodup := by
  induction table with
  | nil => exact by simp [insert]
  | cons first rest ih =>
      obtain ⟨own, old⟩ := first
      have parts := distinct
      rw [List.map_cons, List.nodup_cons] at parts
      rw [insert]
      split
      · next here =>
          rw [eq_of_beq here] at distinct
          exact distinct
      · next other =>
          rw [List.map_cons, List.nodup_cons]
          refine ⟨?_, ih parts.2⟩
          intro member
          obtain ⟨entry, within, same⟩ := List.mem_map.mp member
          rcases mem_insert key value rest parts.2 entry within with rfl | ⟨old, _⟩
          · exact other (by rw [beq_iff_eq]; exact same.symm)
          · exact parts.1 (same ▸ List.mem_map_of_mem old)

end Insert

end Table

def Value.HasDistinctKeys : Value → Prop
  | .table entries => (entries.map (·.1)).Nodup
  | _ => True

def KeepsKeys {α : Type} (change : Value → Except Fault (Value × α)) : Prop :=
  ∀ value changed result, value.HasDistinctKeys → change value = .ok (changed, result) →
    changed.HasDistinctKeys

section Places

variable {α : Type} (change : Value → Except Fault (Value × α)) (keeps : KeepsKeys change)
include keeps

theorem keepsKeys_within (names : List Text) : KeepsKeys (within change names) := by
  intro value changed result distinct done
  cases names with
  | nil => exact keeps value changed result distinct done
  | cons name rest =>
      cases value with
      | table entries =>
          obtain ⟨_, _, done⟩ := exists_of_bind done
          cases done
          exact Table.nodup_insert name _ entries distinct
      | _ => cases done

theorem keepsKeys_modifyAt (steps : List Step) : KeepsKeys (modifyAt change steps) := by
  intro value changed result distinct done
  cases steps with
  | nil => exact keeps value changed result distinct done
  | cons step rest =>
      cases step with
      | entry name =>
          cases value with
          | table entries =>
              rw [modifyAt] at done
              split at done
              · cases done
              · obtain ⟨_, _, done⟩ := exists_of_bind done
                cases done
                exact Table.nodup_insert name _ entries distinct
          | _ => cases done
      | last =>
          cases value with
          | array items =>
              rw [modifyAt] at done
              split at done
              · cases done
              · obtain ⟨_, _, done⟩ := exists_of_bind done
                cases done
                trivial
          | _ => cases done

end Places

theorem distinct_addEntry (key : Text) (value target changed : Value)
    (distinct : target.HasDistinctKeys) (done : addEntry key value target = .ok changed) :
    changed.HasDistinctKeys := by
  cases target with
  | table entries =>
      rw [addEntry] at done
      split at done
      · cases done
      · cases done
        exact Table.nodup_insert key value entries distinct
  | _ => cases done

section Lines

variable (read : ValueReader)

theorem keepsKeys_assign (line : Text) : KeepsKeys (assign read line) := by
  intro value changed result distinct done
  rw [assign] at done
  obtain ⟨assignment, _, done⟩ := exists_of_bind done
  obtain ⟨⟨names, key⟩, _, done⟩ := exists_of_bind done
  refine keepsKeys_within _ ?_ names value changed result distinct done
  intro table changed result distinct done
  obtain ⟨_, _, done⟩ := exists_of_bind done
  split at done
  · -- A value that goes on leaves the table as it is.
    obtain ⟨_, _, done⟩ := exists_of_bind done
    split at done
    · cases done
    · cases done
      exact distinct
  · obtain ⟨value, _, done⟩ := exists_of_bind done
    obtain ⟨added, taken, done⟩ := exists_of_bind done
    cases done
    exact distinct_addEntry key value table _ distinct taken

theorem distinct_assignAll (lines : List Text) (target changed : Value)
    (distinct : target.HasDistinctKeys) (done : assignAll read lines target = .ok changed) :
    changed.HasDistinctKeys := by
  induction lines generalizing target with
  | nil =>
      cases done
      exact distinct
  | cons line rest ih =>
      rw [assignAll] at done
      obtain ⟨⟨next, pending⟩, assigned, later⟩ := exists_of_bind done
      have kept := keepsKeys_assign read line target next pending distinct assigned
      simp only at later
      split at later
      · cases later
        exact kept
      · exact ih next kept later

end Lines

theorem distinct_openBelow (isArray : Bool) (names : List Text) (value : Value)
    (implicit : List Text) (opened : Opened) (distinct : value.HasDistinctKeys)
    (done : Header.openBelow isArray names value implicit = .ok opened) :
    opened.value.HasDistinctKeys := by
  cases names with
  | nil =>
      cases done
      exact distinct
  | cons name rest =>
      unfold Header.openBelow at done
      extract_lets goOn into at done
      split at done
      · cases done
      · split at done
        · -- The name is entered into the table, whether it has been there or not.
          split at done
          · extract_lets enter at done
            have entered (kept : Value × List Text) (done : enter kept = .ok opened) :
                opened.value.HasDistinctKeys := by
              obtain ⟨_, _, done⟩ := exists_of_bind done
              cases done
              exact Table.nodup_insert name _ _ distinct
            split at done
            · obtain ⟨kept, _, done⟩ := exists_of_bind done
              exact entered kept done
            · obtain ⟨kept, _, done⟩ := exists_of_bind done
              exact entered kept done
          · obtain ⟨_, _, done⟩ := exists_of_bind done
            cases done
            exact Table.nodup_insert name _ _ distinct
        · split at done
          · cases done
          · obtain ⟨_, _, done⟩ := exists_of_bind done
            cases done
            trivial
          · cases done
        · cases done
        · cases done

namespace Document

variable (document changed : Document) (distinct : document.value.HasDistinctKeys)
include distinct

theorem distinct_setEntry (key : Text) (value : Value)
    (done : document.setEntry key value = .ok changed) : changed.value.HasDistinctKeys := by
  obtain ⟨_, modified, done⟩ := exists_of_bind done
  cases done
  refine keepsKeys_modifyAt _ ?_ document.place document.value _ _ distinct modified
  intro target changed result distinct done
  cases target with
  | table entries =>
      cases done
      exact Table.nodup_insert key value entries distinct
  | _ => cases done

theorem distinct_goOn (pending : Pending) (line : Text)
    (done : document.goOn pending line = .ok changed) : changed.value.HasDistinctKeys := by
  obtain ⟨_, _, done⟩ := exists_of_bind done
  split at done
  · obtain ⟨value, _, done⟩ := exists_of_bind done
    obtain ⟨next, entered, done⟩ := exists_of_bind done
    cases done
    exact distinct_setEntry document next distinct pending.key value entered
  · cases done
    exact distinct

theorem distinct_takeLine (line : Text) (done : document.takeLine line = .ok changed) :
    changed.value.HasDistinctKeys := by
  rw [takeLine] at done
  split at done
  · cases done
    exact distinct
  · obtain ⟨header, _, done⟩ := exists_of_bind done
    obtain ⟨opened, below, done⟩ := exists_of_bind done
    cases done
    exact distinct_openBelow header.isArray header.names document.value document.implicit opened
      distinct below
  · split at done
    · cases done
    · obtain ⟨entries, _, done⟩ := exists_of_bind done
      obtain ⟨_, modified, done⟩ := exists_of_bind done
      cases done
      refine keepsKeys_modifyAt _ ?_ document.place document.value _ _ distinct modified
      intro target changed result distinct done
      cases assigned : assignAll readValue entries target with
      | error fault =>
          simp only [assigned, Except.map] at done
          cases done
      | ok next =>
          simp only [assigned, Except.map] at done
          cases done
          exact distinct_assignAll readValue entries target _ distinct assigned
  · split at done
    · obtain ⟨_, modified, done⟩ := exists_of_bind done
      cases done
      exact keepsKeys_modifyAt _ (keepsKeys_assign readValue line) document.place document.value
        _ _ distinct modified
    · cases done
      exact distinct

theorem distinct_step (line : Text) (done : document.step line = .ok changed) :
    changed.value.HasDistinctKeys := by
  rw [step] at done
  split at done
  · exact distinct_takeLine document changed distinct _ done
  · next pending _ =>
      generalize (if pending.joined || !pending.text.contains '\n' then Text.strip line
        else line) = text at done
      simp only at done
      split at done
      · cases done
        exact distinct
      · exact distinct_goOn document changed distinct pending text done

end Document

theorem distinct_parse (document : Text) (table : Table) (parsed : parse document = .ok table) :
    (table.map (·.1)).Nodup := by
  obtain ⟨text, _, parsed⟩ := exists_of_bind parsed
  obtain ⟨last, run, parsed⟩ := exists_of_bind parsed
  have kept := foldlM_keeps Document.step (fun document => document.value.HasDistinctKeys)
    _ {} last List.nodup_nil (fun line _ document next distinct done =>
      Document.distinct_step document next distinct line done) run
  split at parsed
  · next entries held =>
      cases parsed
      rw [held] at kept
      exact kept
  · cases parsed

end Outliner.Toml
