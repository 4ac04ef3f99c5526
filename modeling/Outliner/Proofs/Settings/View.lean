import Outliner.Settings.Store

namespace Outliner.Toml

def Value.at? : List Text → Value → Option Value
  | [], value => some value
  | key :: rest, .table entries => (Table.get? key entries).bind (at? rest)
  | _ :: _, _ => none

def Value.leaf? : Value → Option Value
  | .table _ => none
  | value => some value

namespace Table

def view (table : Table) (keys : List Text) : Option (Option Value) :=
  ((Value.table table).at? keys).map Value.leaf?

theorem get?_insert (key other : Text) (value : Value) (table : Table) :
    get? other (insert key value table) = if key = other then some value else get? other table := by
  induction table with
  | nil => simp [insert, get?]
  | cons entry rest ih =>
      obtain ⟨own, old⟩ := entry
      rw [insert]
      by_cases here : own = key
      · subst here
        simp only [beq_self_eq_true, if_true, get?, beq_iff_eq]
        split <;> rfl
      · rw [if_neg (by simpa using here), get?, ih, get?]
        by_cases found : own = other
        · subst found
          simp [Ne.symm here]
        · simp [found]

theorem get?_erase (key other : Text) (table : Table) :
    get? other (erase key table) = if key = other then none else get? other table := by
  induction table with
  | nil => simp [erase, get?]
  | cons entry rest ih =>
      obtain ⟨own, old⟩ := entry
      rw [erase] at ih
      rw [erase, List.filter_cons, get?]
      by_cases here : own = key
      · subst here
        rw [if_neg (by simp), ih]
        by_cases found : own = other
        · simp [found]
        · simp [found]
      · rw [if_pos (by simpa using here), get?, ih]
        by_cases found : own = other
        · subst found
          simp [Ne.symm here]
        · simp [found]

theorem view_cons (table : Table) (key : Text) (rest : List Text) :
    table.view (key :: rest) =
      (table.get? key).bind fun value => (value.at? rest).map Value.leaf? := by
  rw [view, Value.at?]
  cases table.get? key with
  | none => rfl
  | some value => rfl

end Table

end Outliner.Toml

namespace Outliner

inductive Effect where
  | stored (setting : Setting) (value : SettingValue)
  | cleared
  | failed
deriving DecidableEq, Repr

def Section.names : List Text :=
  [parsing.name, scan.name]

def Effect.on (effect : Effect) (view : List Text → Option (Option Toml.Value)) (keys : List Text) :
    Option (Option Toml.Value) :=
  match effect, keys with
  | .stored setting _, [part] => if part = setting.sectionOf.name then some none else view [part]
  | .stored setting value, part :: name :: rest =>
    if part = setting.sectionOf.name ∧ name = setting.name then
      (value.toToml.at? rest).map Toml.Value.leaf?
    else view (part :: name :: rest)
  | .cleared, part :: rest => if part ∈ Section.names then none else view (part :: rest)
  | _, keys => view keys

theorem Effect.on_failed (view : List Text → Option (Option Toml.Value)) :
    Effect.failed.on view = view := by
  funext keys
  cases keys <;> rfl

theorem view_setEntry (setting : Setting) (value : SettingValue) (table changed : Toml.Table)
    (done : Store.setEntry setting value table = .ok changed) :
    changed.view = (Effect.stored setting value).on table.view := by
  have entriesOf : ∃ entries,
      (table.get? setting.sectionOf.name).getD (.table []) = .table entries ∧
      changed = table.insert setting.sectionOf.name
        (.table (Toml.Table.insert setting.name value.toToml entries)) := by
    rw [Store.setEntry] at done
    split at done
    · next entries held =>
        injection done with same
        exact ⟨entries, held, same.symm⟩
    · cases done
  obtain ⟨entries, held, rfl⟩ := entriesOf
  funext keys
  match keys with
  | [] => rfl
  | [part] =>
      rw [Toml.Table.view_cons, Toml.Table.get?_insert, Effect.on]
      by_cases here : setting.sectionOf.name = part
      · rw [if_pos here, if_pos here.symm]
        rfl
      · rw [if_neg here, if_neg (Ne.symm here), ← Toml.Table.view_cons]
  | part :: name :: rest =>
      rw [Toml.Table.view_cons, Toml.Table.get?_insert, Effect.on]
      by_cases here : setting.sectionOf.name = part
      · subst here
        rw [if_pos rfl, Option.bind_some]
        by_cases same : setting.name = name
        · subst same
          rw [if_pos ⟨rfl, rfl⟩, Toml.Value.at?, Toml.Table.get?_insert, if_pos rfl,
            Option.bind_some]
        · rw [if_neg (fun both => same both.2.symm), Toml.Value.at?, Toml.Table.get?_insert,
            if_neg same, Toml.Table.view_cons]
          cases there : table.get? setting.sectionOf.name with
          | none =>
              rw [there] at held
              injection held with empty
              rw [← empty]
              rfl
          | some value =>
              rw [there] at held
              rw [Option.bind_some, show value = .table entries from held, Toml.Value.at?]
      · rw [if_neg here, if_neg (fun both => here both.1.symm), ← Toml.Table.view_cons]

theorem view_reset (table : Toml.Table) :
    Toml.Table.view ((table.erase Section.parsing.name).erase Section.scan.name) =
      Effect.cleared.on table.view := by
  funext keys
  cases keys with
  | nil => rfl
  | cons part rest =>
      rw [Toml.Table.view_cons, Toml.Table.get?_erase, Toml.Table.get?_erase, Effect.on]
      by_cases scan : Section.scan.name = part
      · rw [if_pos scan, if_pos (by simp [Section.names, scan])]
        rfl
      · by_cases parsing : Section.parsing.name = part
        · rw [if_neg scan, if_pos parsing, if_pos (by simp [Section.names, parsing])]
          rfl
        · rw [if_neg scan, if_neg parsing, if_neg, ← Toml.Table.view_cons]
          simp only [Section.names, List.mem_cons, List.not_mem_nil, or_false]
          rintro (same | same)
          · exact parsing same.symm
          · exact scan same.symm

theorem Section.name_mem_names (part : Section) : part.name ∈ names := by
  cases part with
  | parsing => exact List.mem_cons_self
  | scan => exact List.mem_cons_of_mem _ List.mem_cons_self

theorem Section.name_injective (part other : Section) (same : part.name = other.name) :
    part = other := by
  cases part with
  | parsing =>
      cases other with
      | parsing => rfl
      | scan => exact absurd same (by decide)
  | scan =>
      cases other with
      | parsing => exact absurd same (by decide)
      | scan => rfl

section Runs

variable (view : List Text → Option (Option Toml.Value)) (effects : List Effect)

theorem foldl_on_elsewhere (key : Text) (rest : List Text) (elsewhere : key ∉ Section.names) :
    effects.foldl (fun view effect => effect.on view) view (key :: rest) = view (key :: rest) := by
  induction effects generalizing view with
  | nil => rfl
  | cons effect effects ih =>
      rw [List.foldl_cons, ih]
      have differ (setting : Setting) : key ≠ setting.sectionOf.name := by
        intro same
        exact elsewhere (same ▸ setting.sectionOf.name_mem_names)
      cases effect with
      | failed => rfl
      | cleared => rw [Effect.on, if_neg elsewhere]
      | stored setting value =>
          cases rest with
          | nil => rw [Effect.on, if_neg (differ setting)]
          | cons name rest => rw [Effect.on, if_neg (fun both => differ setting both.1)]

theorem foldl_on_unknown (part : Section) (key : Text) (rest : List Text)
    (unknown : ∀ setting : Setting, setting.sectionOf = part → setting.name ≠ key) :
    effects.foldl (fun view effect => effect.on view) view (part.name :: key :: rest) =
      if .cleared ∈ effects then none else view (part.name :: key :: rest) := by
  induction effects generalizing view with
  | nil => rfl
  | cons effect effects ih =>
      rw [List.foldl_cons, ih]
      cases effect with
      | failed =>
          simp only [List.mem_cons, reduceCtorEq, false_or]
          rfl
      | cleared =>
          rw [Effect.on, if_pos part.name_mem_names, if_pos List.mem_cons_self]
          split <;> rfl
      | stored setting value =>
          have other : ¬ (part.name = setting.sectionOf.name ∧ key = setting.name) := by
            rintro ⟨same, own⟩
            exact unknown setting (Section.name_injective _ _ same.symm) own.symm
          rw [Effect.on, if_neg other]
          simp only [List.mem_cons, reduceCtorEq, false_or]

end Runs

end Outliner
