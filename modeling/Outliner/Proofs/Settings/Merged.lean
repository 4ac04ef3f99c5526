import Outliner.Proofs.Settings.Extensions
import Outliner.Proofs.Settings.View

namespace Outliner

def Setting.valueOf (setting : Setting) (seen : Option (Option Toml.Value)) :
    Except Toml.Fault SettingValue :=
  match setting, seen with
  | .toggle _, some (some (.bool value)) => .ok (.flag value)
  | .extensions, some (some (.array items)) =>
    (items.mapM Toml.Value.asText).map fun texts => .list (normalizeExtensions texts)
  | .skippedDirs, some (some (.array items)) => (items.mapM Toml.Value.asText).map .list
  | setting, _ => .ok (({} : Settings).get setting)

def Setting.keys (setting : Setting) : List Text :=
  [setting.sectionOf.name, setting.name]

theorem view_keys (setting : Setting) (table : Toml.Table) :
    table.view setting.keys = (setting.entry? table).map Toml.Value.leaf? := by
  rw [Setting.keys, Toml.Table.view_cons, Setting.entry?]
  cases table.get? setting.sectionOf.name with
  | none => rfl
  | some value =>
      cases value with
      | table entries =>
          simp only [Option.bind_some, Toml.Value.at?]
          cases Toml.Table.get? setting.name entries <;> rfl
      | _ => rfl

theorem valueOf_stored (setting : Setting) (text : Text) (value : SettingValue)
    (parsed : SettingValue.parse setting text = .ok value) :
    setting.valueOf (some (some value.toToml)) = .ok value := by
  have texts (items : List Text) :
      (items.map Toml.Value.text).mapM Toml.Value.asText = .ok items := by
    induction items with
    | nil => rfl
    | cons item rest ih =>
        rw [List.map_cons, List.mapM_cons, ih]
        rfl
  cases setting with
  | toggle choice =>
      have flag : ∃ given, value = .flag given := by
        simp only [SettingValue.parse] at parsed
        split at parsed
        · injection parsed with same
          exact ⟨true, same.symm⟩
        · split at parsed
          · injection parsed with same
            exact ⟨false, same.symm⟩
          · cases parsed
      obtain ⟨given, rfl⟩ := flag
      rfl
  | extensions =>
      simp only [SettingValue.parse] at parsed
      split at parsed
      · cases parsed
      · injection parsed with same
        rw [← same]
        simp only [Setting.valueOf, SettingValue.toToml, texts, Except.map,
          normalizeExtensions_normalizeExtensions]
  | skippedDirs =>
      simp only [SettingValue.parse] at parsed
      split at parsed
      · cases parsed
      · injection parsed with same
        rw [← same]
        simp only [Setting.valueOf, SettingValue.toToml, texts, Except.map]

theorem Toggle.get_set (toggle other : Toggle) (options : Script.Options) (value : Bool) :
    other.get (toggle.set options value) = if toggle = other then value else other.get options := by
  cases toggle <;> cases other <;> rfl

section Reading

variable (reading : Reading) (setting : Setting)

/-- What taking an entry leaves of a reading that nothing broke off before: it is broken off if the
value cannot be read, else the value is taken and the other settings are as they were. -/
structure Taken (value : Except Toml.Fault SettingValue) (taken : Reading) : Prop where
  fault : taken.fault = match value with
    | .ok _ => none
    | .error fault => some fault
  own : ∀ given, value = .ok given → taken.settings.get setting = given
  others : ∀ other, other ≠ setting → taken.settings.get other = reading.settings.get other

variable (fine : reading.fault = none)
include fine

theorem taken_list (items : List Toml.Value) (change : Settings → List Text → Settings)
    (read : List Text → SettingValue)
    (own : ∀ settings texts, (change settings texts).get setting = read texts)
    (others : ∀ settings texts other, other ≠ setting →
      (change settings texts).get other = settings.get other) :
    Taken reading setting ((items.mapM Toml.Value.asText).map read)
      (reading.takeList items change) := by
  rw [Reading.takeList]
  cases items.mapM Toml.Value.asText with
  | error fault => exact ⟨rfl, nofun, fun _ _ => rfl⟩
  | ok texts =>
      refine ⟨fine, ?_, ?_⟩
      · intro given same
        injection same with same
        rw [← same]
        exact own reading.settings texts
      · intro other differ
        exact others reading.settings texts other differ

theorem taken_flag (choice : Toggle) (value : Bool) :
    Taken reading (.toggle choice) (.ok (.flag value))
      (reading.takeValue (.toggle choice) (.bool value)) := by
  refine ⟨fine, ?_, ?_⟩
  · intro given same
    injection same with same
    rw [← same]
    simp only [Reading.takeValue, Settings.get, Toggle.get_set, if_true]
  · intro other differ
    cases other with
    | toggle another =>
        simp only [Reading.takeValue, Settings.get, Toggle.get_set]
        rw [if_neg]
        rintro rfl
        exact differ rfl
    | extensions => rfl
    | skippedDirs => rfl

variable (fresh : reading.settings.get setting = ({} : Settings).get setting)
include fresh

theorem taken_default (taken : Reading) (fault : taken.fault = reading.fault)
    (settings : taken.settings = reading.settings) :
    Taken reading setting (.ok (({} : Settings).get setting)) taken := by
  refine ⟨fault.trans fine, ?_, ?_⟩
  · intro given same
    injection same with same
    rw [settings, fresh, same]
  · intro other _
    rw [settings]

theorem taken_take (table : Toml.Table) :
    Taken reading setting (setting.valueOf (table.view setting.keys))
      (reading.take table setting) := by
  rw [view_keys]
  cases found : setting.entry? table with
  | none =>
      have value : setting.valueOf (none.map Toml.Value.leaf?) =
          .ok (({} : Settings).get setting) := by
        cases setting <;> rfl
      have unchanged : reading.take table setting = reading := by
        rw [Reading.take, found, fine]
      rw [value]
      exact taken_default reading setting fine fresh _ (by rw [unchanged]) (by rw [unchanged])
  | some value =>
      have taken : reading.take table setting = reading.takeValue setting value := by
        rw [Reading.take, found, fine]
      rw [taken]
      cases setting with
      | toggle choice =>
          cases value with
          | bool value => exact taken_flag reading fine choice value
          | _ => exact taken_default reading (.toggle choice) fine fresh _ rfl rfl
      | extensions =>
          cases value with
          | array items =>
              refine taken_list reading .extensions fine items
                (fun settings texts => { settings with extensions := normalizeExtensions texts })
                (fun texts => .list (normalizeExtensions texts)) ?_ ?_
              · intro settings texts
                rfl
              · intro settings texts other differ
                cases other with
                | extensions => exact absurd rfl differ
                | _ => rfl
          | _ => exact taken_default reading .extensions fine fresh _ rfl rfl
      | skippedDirs =>
          cases value with
          | array items =>
              refine taken_list reading .skippedDirs fine items
                (fun settings texts => { settings with skipped := texts }) .list ?_ ?_
              · intro settings texts
                rfl
              · intro settings texts other differ
                cases other with
                | skippedDirs => exact absurd rfl differ
                | _ => rfl
          | _ => exact taken_default reading .skippedDirs fine fresh _ rfl rfl

end Reading

theorem foldl_take_broken (table : Toml.Table) (settings : List Setting) (reading : Reading)
    (fault : Toml.Fault) (broken : reading.fault = some fault) :
    settings.foldl (Reading.take table) reading = reading := by
  induction settings with
  | nil => rfl
  | cons setting rest ih =>
      have same : reading.take table setting = reading := by rw [Reading.take, broken]
      rw [List.foldl_cons, same, ih]

theorem foldl_take (table : Toml.Table) (settings : List Setting) (reading : Reading)
    (distinct : settings.Nodup) (fine : reading.fault = none)
    (fresh : ∀ setting ∈ settings,
      reading.settings.get setting = ({} : Settings).get setting) :
    match (settings.foldl (Reading.take table) reading).fault with
    | none =>
      (∀ setting ∈ settings, setting.valueOf (table.view setting.keys) =
        .ok ((settings.foldl (Reading.take table) reading).settings.get setting)) ∧
      ∀ other ∉ settings, (settings.foldl (Reading.take table) reading).settings.get other =
        reading.settings.get other
    | some fault =>
      ∃ setting ∈ settings, setting.valueOf (table.view setting.keys) = .error fault := by
  induction settings generalizing reading with
  | nil =>
      rw [List.foldl_nil, fine]
      exact ⟨nofun, fun _ _ => rfl⟩
  | cons setting rest ih =>
      rw [List.nodup_cons] at distinct
      rw [List.forall_mem_cons] at fresh
      have taken := taken_take reading setting fine fresh.1 table
      rw [List.foldl_cons]
      cases value : setting.valueOf (table.view setting.keys) with
      | error fault =>
          rw [value] at taken
          rw [foldl_take_broken table rest _ fault taken.fault, taken.fault]
          exact ⟨setting, List.mem_cons_self, value⟩
      | ok given =>
          rw [value] at taken
          have later := ih (reading.take table setting) distinct.2 taken.fault (by
            intro other member
            rw [taken.others other (fun same => distinct.1 (same ▸ member))]
            exact fresh.2 other member)
          cases broken : (rest.foldl (Reading.take table) (reading.take table setting)).fault with
          | some fault =>
              rw [broken] at later
              obtain ⟨other, member, failed⟩ := later
              exact ⟨other, List.mem_cons_of_mem setting member, failed⟩
          | none =>
              rw [broken] at later
              constructor
              · rw [List.forall_mem_cons]
                refine ⟨?_, later.1⟩
                rw [value, later.2 setting distinct.1, taken.own given rfl]
              · intro other outside
                rw [List.mem_cons, not_or] at outside
                rw [later.2 other outside.2, taken.others other outside.1]

theorem Setting.mem_all (setting : Setting) : setting ∈ all := by
  cases setting with
  | toggle choice => cases choice <;> decide
  | extensions => decide
  | skippedDirs => decide

theorem load_values (files : Entry) (path : Path) (table : Toml.Table) (notices : List Notice)
    (loaded : Store.loadTable files path = .ok (table, notices)) :
    match (Store.load files path).result with
    | .ok settings => ∀ setting : Setting,
        setting.valueOf (table.view setting.keys) = .ok (settings.get setting)
    | .error error => ∃ (setting : Setting) (fault : Toml.Fault),
        setting.valueOf (table.view setting.keys) = .error fault ∧ error = .broken fault := by
  have values := foldl_take table Setting.all {} (by decide) rfl (fun _ _ => rfl)
  rw [← Settings.ofTable] at values
  rw [Store.load, loaded]
  simp only
  cases broken : (Settings.ofTable table).fault with
  | none =>
      rw [broken] at values
      intro setting
      exact values.1 setting setting.mem_all
  | some fault =>
      rw [broken] at values
      obtain ⟨setting, _, failed⟩ := values
      exact ⟨setting, fault, failed, rfl⟩

end Outliner
