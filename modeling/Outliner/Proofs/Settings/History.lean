import Outliner.Proofs.Files.Write
import Outliner.Proofs.Settings.Merged
import Outliner.Proofs.Text.Encoding
import Outliner.Proofs.Toml.Equality

/-!
The settings file over a history of changes: every setting has the value last given to it, and the
rest of the file stays as it is.
-/

namespace Outliner

/-- The written form of a table is read as the same dictionary. -/
def Toml.ComesBack (table : Table) : Prop :=
  ∃ text back, render table = .ok text ∧ parse (Text.unifyNewlines text) = .ok back ∧
    back.view = table.view

def Toml.readsBack (table : Table) : Bool :=
  match render table with
  | .ok text =>
    match parse (Text.unifyNewlines text) with
    | .ok back => back == table
    | .error _ => false
  | .error _ => false

theorem Toml.comesBack_of_readsBack (table : Table) (same : readsBack table = true) :
    ComesBack table := by
  rw [readsBack] at same
  split at same
  · next text rendered =>
      split at same
      · next back parsed =>
          refine ⟨text, back, rendered, parsed, ?_⟩
          rw [eq_of_beq same]
      · cases same
  · cases same

/-- A request to change the settings file. -/
inductive Change where
  | set (key text : Text)
  | reset

namespace Change

variable (path : Path) (files : Entry)

def after : Change → Entry
  | set key text => (Store.set files path key text).files
  | reset => (Store.reset files path).files

/-- What a change comes to. One that reports a failure has failed. -/
def effect : Change → Effect
  | set key text =>
    match (Store.set files path key text).result with
    | .ok (setting, value) => .stored setting value
    | .error _ => .failed
  | reset =>
    match (Store.reset files path).result with
    | .ok true => .cleared
    | _ => .failed

def edited : Change → Except StoreError Toml.Table
  | set key text => do
    let setting ← resolveKey key
    let value ← parseValue setting text
    let (table, _) ← Store.loadTable files path
    Store.setEntry setting value table
  | reset => do
    let (table, _) ← Store.loadTable files path
    return (table.erase Section.parsing.name).erase Section.scan.name

/-- The table that a change writes, if it gets so far. -/
def written (change : Change) : List Toml.Table :=
  match files.write path [], change.edited path files with
  | .ok _, .ok table => [table]
  | _, _ => []

end Change

structure History where
  files : Entry
  effects : List Effect
  written : List Toml.Table

def history (path : Path) : Entry → List Change → History
  | files, [] => ⟨files, [], []⟩
  | files, change :: rest =>
    let later := history path (change.after path files) rest
    ⟨later.files, change.effect path files :: later.effects,
      change.written path files ++ later.written⟩

section Saving

variable (path : Path) (files : Entry)

theorem loadTable_written (written : Entry) (text : Text) (back : Toml.Table)
    (done : files.write path (Text.Utf8.encode text) = .ok written)
    (parsed : Toml.parse (Text.unifyNewlines text) = .ok back) :
    Store.loadTable written path = .ok (back, []) := by
  obtain ⟨present, read⟩ := files.read_write written path _ done
  rw [Store.loadTable, present, read]
  simp only [Bool.not_true, Bool.false_eq_true, if_false, Text.Utf8.decode?_encode, parsed]

namespace Store

variable (table : Toml.Table)

theorem save_unwritable (unwritable : ¬files.IsWritable path) :
    (save files path table).files = files ∧ (save files path table).result = .ok false := by
  rw [save]
  cases opened : files.write path [] with
  | error trouble => exact ⟨rfl, rfl⟩
  | ok emptied => exact absurd ⟨[], emptied, opened⟩ unwritable

theorem save_emptied (fault : Toml.Fault) (emptied : Entry)
    (rendered : Toml.render table = .error fault) (opened : files.write path [] = .ok emptied) :
    (save files path table).files = emptied ∧
      (save files path table).result = .error (.broken fault) := by
  simp only [save, opened, rendered, and_self]

theorem save_stored (written : Text) (after : Entry) (rendered : Toml.render table = .ok written)
    (done : files.write path (Text.Utf8.encode written) = .ok after) :
    (save files path table).files = after ∧ (save files path table).result = .ok true := by
  rcases files.exists_write after path _ [] done with ⟨emptied, opened⟩
  simp only [save, opened, rendered, done, and_self]

end Store

theorem save_cases (table : Toml.Table)
    (faithful : ∀ emptied, files.write path [] = .ok emptied → Toml.ComesBack table) :
    (Store.save files path table).files = files ∧
        (Store.save files path table).result = .ok false ∨
      (Store.save files path table).result = .ok true ∧
        ∃ back, Store.loadTable (Store.save files path table).files path = .ok (back, []) ∧
          back.view = table.view := by
  by_cases writable : files.IsWritable path
  · obtain ⟨bytes, other, possible⟩ := writable
    obtain ⟨emptied, opened⟩ := files.exists_write other path bytes [] possible
    obtain ⟨text, back, rendered, parsed, same⟩ := faithful emptied opened
    obtain ⟨written, done⟩ :=
      files.exists_write other path bytes (Text.Utf8.encode text) possible
    obtain ⟨after, success⟩ := Store.save_stored path files table text written rendered done
    refine Or.inr ⟨success, back, ?_, same⟩
    rw [after]
    exact loadTable_written path files written text back done parsed
  · exact Or.inl (Store.save_unwritable path files table writable)

theorem set_of_steps (key text : Text) (setting : Setting) (value : SettingValue)
    (table edit : Toml.Table) (notices : List Notice) (resolved : resolveKey key = .ok setting)
    (parsed : parseValue setting text = .ok value)
    (loaded : Store.loadTable files path = .ok (table, notices))
    (entered : Store.setEntry setting value table = .ok edit) :
    (Store.set files path key text).files = (Store.save files path edit).files ∧
      (Store.set files path key text).result =
        (Store.save files path edit).result.bind fun done =>
          if done then .ok (setting, value) else .error (.unwritable path) := by
  simp only [Store.set, resolved, parsed, loaded, bind, Except.bind, pure, Except.pure, entered,
    and_self]

end Saving

def SectionsAreTables (view : List Text → Option (Option Toml.Value)) : Prop :=
  ∀ (part : Section) (leaf : Toml.Value), view [part.name] ≠ some (some leaf)

theorem sectionsAreTables_on (effect : Effect) (view : List Text → Option (Option Toml.Value))
    (tables : SectionsAreTables view) : SectionsAreTables (effect.on view) := by
  intro part leaf
  cases effect with
  | failed => exact tables part leaf
  | cleared =>
      rw [Effect.on, if_pos part.name_mem_names]
      intro same
      cases same
  | stored setting value =>
      rw [Effect.on]
      split
      · intro same
        cases same
      · exact tables part leaf

theorem setEntry_of_tables (setting : Setting) (value : SettingValue) (table : Toml.Table)
    (tables : SectionsAreTables table.view) :
    ∃ changed, Store.setEntry setting value table = .ok changed := by
  have seen := tables setting.sectionOf
  rw [Store.setEntry]
  cases found : table.get? setting.sectionOf.name with
  | none => exact ⟨_, rfl⟩
  | some entry =>
      have shown : table.view [setting.sectionOf.name] = some entry.leaf? := by
        rw [Toml.Table.view_cons, found]
        rfl
      cases entry with
      | table entries => exact ⟨_, rfl⟩
      | _ => exact absurd shown (seen _)

theorem parse_of_parseValue (setting : Setting) (text : Text) (value : SettingValue)
    (parsed : parseValue setting text = .ok value) :
    SettingValue.parse setting text = .ok value := by
  rw [parseValue] at parsed
  cases given : SettingValue.parse setting text with
  | error refusal =>
      rw [given] at parsed
      cases parsed
  | ok other =>
      rw [given] at parsed
      injection parsed with same
      rw [same]

section Steps

variable (path : Path) (files : Entry) (table : Toml.Table)
  (loaded : Store.loadTable files path = .ok (table, []))
  (tables : SectionsAreTables table.view)

structure Stepped (change : Change) : Prop where
  loads : ∃ next, Store.loadTable (change.after path files) path = .ok (next, []) ∧
    next.view = (change.effect path files).on table.view
  reads : ∀ setting value, change.effect path files = .stored setting value →
    setting.valueOf (some (some value.toToml)) = .ok value

include loaded

theorem stepped_of_failed (change : Change) (unchanged : change.after path files = files)
    (failed : change.effect path files = .failed) : Stepped path files table change := by
  refine ⟨⟨table, ?_, ?_⟩, ?_⟩
  · rw [unchanged, loaded]
  · rw [failed, Effect.on_failed]
  · intro setting value stored
    rw [failed] at stored
    cases stored

theorem stepped_of_saved (change : Change) (edit : Toml.Table) (effect : Effect)
    (edited : change.edited path files = .ok edit)
    (after : change.after path files = (Store.save files path edit).files)
    (refused : (Store.save files path edit).result = .ok false →
      change.effect path files = .failed)
    (done : (Store.save files path edit).result = .ok true → change.effect path files = effect)
    (view : edit.view = effect.on table.view)
    (reads : ∀ setting value, effect = .stored setting value →
      setting.valueOf (some (some value.toToml)) = .ok value)
    (faithful : ∀ written ∈ change.written path files, Toml.ComesBack written) :
    Stepped path files table change := by
  have saved := save_cases path files edit (by
    intro emptied opened
    apply faithful
    rw [Change.written, opened, edited]
    exact List.mem_singleton_self edit)
  rcases saved with ⟨kept, failed⟩ | ⟨success, back, read, same⟩
  · apply stepped_of_failed path files table loaded change
    · rw [after, kept]
    · exact refused failed
  · refine ⟨⟨back, ?_, ?_⟩, ?_⟩
    · rw [after, read]
    · rw [done success, same, view]
    · rw [done success]
      exact reads

theorem stepped_reset (faithful : ∀ written ∈ Change.reset.written path files,
    Toml.ComesBack written) : Stepped path files table .reset := by
  apply stepped_of_saved path files table loaded .reset
    ((table.erase Section.parsing.name).erase Section.scan.name) .cleared
  · rw [Change.edited, loaded]
    rfl
  · rw [Change.after, Store.reset, loaded]
  · intro failed
    simp only [Change.effect, Store.reset, loaded, failed]
  · intro success
    simp only [Change.effect, Store.reset, loaded, success]
  · exact view_reset table
  · nofun
  · exact faithful

include tables

theorem stepped_set (key text : Text)
    (faithful : ∀ written ∈ (Change.set key text).written path files, Toml.ComesBack written) :
    Stepped path files table (.set key text) := by
  cases resolved : resolveKey key with
  | error error =>
      apply stepped_of_failed path files table loaded
      · simp only [Change.after, Store.set, resolved, bind, Except.bind]
      · simp only [Change.effect, Store.set, resolved, bind, Except.bind]
  | ok setting =>
      cases parsed : parseValue setting text with
      | error error =>
          apply stepped_of_failed path files table loaded
          · simp only [Change.after, Store.set, resolved, parsed, bind, Except.bind]
          · simp only [Change.effect, Store.set, resolved, parsed, bind, Except.bind]
      | ok value =>
          obtain ⟨edit, entered⟩ := setEntry_of_tables setting value table tables
          obtain ⟨after, result⟩ := set_of_steps path files key text setting value table edit []
            resolved parsed loaded entered
          apply stepped_of_saved path files table loaded (.set key text) edit
            (.stored setting value)
          · simp only [Change.edited, resolved, parsed, loaded, bind, Except.bind, entered]
          · exact after
          · intro failed
            rw [Change.effect, result, failed]
            rfl
          · intro success
            rw [Change.effect, result, success]
            rfl
          · exact view_setEntry setting value table edit entered
          · intro other given alike
            injection alike with sameSetting sameValue
            rw [← sameSetting, ← sameValue]
            exact valueOf_stored setting text value
              (parse_of_parseValue setting text value parsed)
          · exact faithful

theorem stepped (change : Change)
    (faithful : ∀ written ∈ change.written path files, Toml.ComesBack written) :
    Stepped path files table change := by
  cases change with
  | set key text => exact stepped_set path files table loaded tables key text faithful
  | reset => exact stepped_reset path files table loaded faithful

theorem history_view (changes : List Change)
    (faithful : ∀ written ∈ (history path files changes).written, Toml.ComesBack written) :
    (∃ last, Store.loadTable (history path files changes).files path = .ok (last, []) ∧
      last.view =
        (history path files changes).effects.foldl (fun view effect => effect.on view) table.view) ∧
    ∀ setting value, Effect.stored setting value ∈ (history path files changes).effects →
      setting.valueOf (some (some value.toToml)) = .ok value := by
  induction changes generalizing files table with
  | nil => exact ⟨⟨table, loaded, rfl⟩, nofun⟩
  | cons change rest ih =>
      rw [history, List.forall_mem_append] at faithful
      obtain ⟨⟨next, read, view⟩, reads⟩ :=
        stepped path files table loaded tables change faithful.1
      -- What the next change needs is kept by this one, also if it fails.
      have still : SectionsAreTables next.view := by
        rw [view]
        exact sectionsAreTables_on (change.effect path files) table.view tables
      obtain ⟨⟨last, final, same⟩, later⟩ :=
        ih (change.after path files) next read still faithful.2
      refine ⟨⟨last, final, ?_⟩, ?_⟩
      · rw [same, view]
        rfl
      · intro setting value member
        rcases List.mem_cons.mp member with here | further
        · exact reads setting value here.symm
        · exact later setting value further

end Steps

def Effect.given? (setting : Setting) : Effect → Option SettingValue
  | stored other value => if other = setting then some value else none
  | cleared => some (({} : Settings).get setting)
  | failed => none

/-- The value last given to a setting: since the file was last cleared, or by clearing it. -/
def lastGiven (effects : List Effect) (setting : Setting) : Option SettingValue :=
  effects.reverse.findSome? (Effect.given? setting)

theorem Setting.name_injective (setting other : Setting) (same : setting.name = other.name) :
    setting = other := by
  have distinct : ∀ setting ∈ all, ∀ other ∈ all, setting.name = other.name → setting = other := by
    decide
  exact distinct setting setting.mem_all other other.mem_all same

theorem valueOf_on (setting : Setting) (effect : Effect)
    (view : List Text → Option (Option Toml.Value))
    (reads : ∀ other value, effect = .stored other value →
      other.valueOf (some (some value.toToml)) = .ok value) :
    setting.valueOf (effect.on view setting.keys) =
      match effect.given? setting with
      | some value => .ok value
      | none => setting.valueOf (view setting.keys) := by
  cases effect with
  | failed => rw [Effect.on_failed]; rfl
  | cleared =>
      rw [Setting.keys, Effect.on, if_pos setting.sectionOf.name_mem_names]
      cases setting <;> rfl
  | stored other value =>
      rw [Setting.keys, Effect.on, Effect.given?]
      by_cases same : other = setting
      · subst same
        rw [if_pos ⟨rfl, rfl⟩, if_pos rfl]
        have leaf : (value.toToml.at? []).map Toml.Value.leaf? = some (some value.toToml) := by
          cases value <;> rfl
        rw [leaf]
        exact reads other value rfl
      · rw [if_neg same, if_neg]
        intro both
        exact same (Setting.name_injective _ _ both.2.symm)

theorem valueOf_foldl_on (setting : Setting) (effects : List Effect)
    (view : List Text → Option (Option Toml.Value))
    (reads : ∀ other value, Effect.stored other value ∈ effects →
      other.valueOf (some (some value.toToml)) = .ok value) :
    setting.valueOf (effects.foldl (fun view effect => effect.on view) view setting.keys) =
      match lastGiven effects setting with
      | some value => .ok value
      | none => setting.valueOf (view setting.keys) := by
  induction effects generalizing view with
  | nil => rfl
  | cons effect rest ih =>
      have own := valueOf_on setting effect view (by
        rintro other value rfl
        exact reads other value List.mem_cons_self)
      have later := ih (effect.on view) (fun other value member =>
        reads other value (List.mem_cons_of_mem effect member))
      rw [List.foldl_cons, later, lastGiven, lastGiven, List.reverse_cons, List.findSome?_append]
      cases rest.reverse.findSome? (Effect.given? setting) with
      | some value => rfl
      | none =>
          -- No later change concerns the setting, so this one is the last that may.
          rw [Option.none_or, List.findSome?_cons, own]
          cases effect.given? setting <;> rfl

def Setting.expected (setting : Setting) (table : Toml.Table) (effects : List Effect) :
    Except Toml.Fault SettingValue :=
  match lastGiven effects setting with
  | some value => .ok value
  | none => setting.valueOf (table.view setting.keys)

/-- Reading the file gives each setting the value expected of it, or fails with that of one. -/
def IsExpected (table : Toml.Table) (effects : List Effect) : Except StoreError Settings → Prop
  | .ok settings => ∀ setting : Setting,
    setting.expected table effects = .ok (settings.get setting)
  | .error error => ∃ (setting : Setting) (fault : Toml.Fault),
    setting.expected table effects = .error fault ∧ error = .broken fault

theorem sectionsAreTables_of_get? (table : Toml.Table)
    (tables : ∀ (part : Section) (value : Toml.Value),
      table.get? part.name = some value → value.isTable = true) :
    SectionsAreTables table.view := by
  intro part leaf seen
  rw [Toml.Table.view_cons] at seen
  obtain ⟨value, found, shown⟩ := Option.bind_eq_some_iff.mp seen
  have isTable := tables part value found
  cases value with
  | table entries => cases shown
  | _ => cases isTable

theorem isExpected_load (files : Entry) (path : Path) (table last : Toml.Table)
    (effects : List Effect) (read : Store.loadTable files path = .ok (last, []))
    (expected : ∀ setting : Setting,
      setting.valueOf (last.view setting.keys) = setting.expected table effects) :
    IsExpected table effects (Store.load files path).result := by
  have values := load_values files path last [] read
  simp only [expected] at values
  cases loaded : (Store.load files path).result with
  | ok settings =>
      rw [loaded] at values
      exact values
  | error error =>
      rw [loaded] at values
      exact values

theorem IsExpected.exists_ok (table : Toml.Table) (effects : List Effect) (before : Settings)
    (result : Except StoreError Settings) (known : IsExpected table effects result)
    (initial : ∀ setting : Setting,
      setting.valueOf (table.view setting.keys) = .ok (before.get setting)) :
    ∃ after, result = .ok after ∧
      ∀ setting, after.get setting = (lastGiven effects setting).getD (before.get setting) := by
  have given (setting : Setting) : setting.expected table effects =
      .ok ((lastGiven effects setting).getD (before.get setting)) := by
    rw [Setting.expected]
    cases lastGiven effects setting with
    | some value => rfl
    | none => exact initial setting
  cases result with
  | ok after =>
      refine ⟨after, rfl, ?_⟩
      intro setting
      have same := (known setting).symm.trans (given setting)
      injection same
  | error error =>
      obtain ⟨setting, fault, failed, _⟩ := known
      rw [given setting] at failed
      cases failed

/-- The settings file keeps what was last written to it. After any changes, failed ones included,
each setting has the value last given to it, its default if the file was cleared since, or else the
value it had at first. All else in the file is as it was, but that clearing takes out whole
sections. -/
theorem last_write_wins (files : Entry) (path : Path) (changes : List Change) (table : Toml.Table)
    (loaded : Store.loadTable files path = .ok (table, []))
    (tables : ∀ (part : Section) (value : Toml.Value),
      table.get? part.name = some value → value.isTable = true)
    (faithful : ∀ written ∈ (history path files changes).written, Toml.ComesBack written) :
    ∃ last, Store.loadTable (history path files changes).files path = .ok (last, []) ∧
      IsExpected table (history path files changes).effects
        (Store.load (history path files changes).files path).result ∧
      (∀ before, (Store.load files path).result = .ok before →
        ∃ after, (Store.load (history path files changes).files path).result = .ok after ∧
          ∀ setting, after.get setting =
            (lastGiven (history path files changes).effects setting).getD (before.get setting)) ∧
      (∀ key rest, key ∉ Section.names → last.view (key :: rest) = table.view (key :: rest)) ∧
      ∀ (part : Section) (key : Text) (rest : List Text),
        (∀ setting : Setting, setting.sectionOf = part → setting.name ≠ key) →
        last.view (part.name :: key :: rest) =
          if .cleared ∈ (history path files changes).effects then none
          else table.view (part.name :: key :: rest) := by
  have views := sectionsAreTables_of_get? table tables
  obtain ⟨⟨last, read, view⟩, reads⟩ :=
    history_view path files table loaded views changes faithful
  have known := isExpected_load _ path table last (history path files changes).effects read (by
    intro setting
    rw [view]
    exact valueOf_foldl_on setting _ table.view reads)
  refine ⟨last, read, known, ?_, ?_, ?_⟩
  · intro before first
    have initial := load_values files path table [] loaded
    rw [first] at initial
    exact IsExpected.exists_ok table _ before _ known initial
  · intro key rest elsewhere
    rw [view]
    exact foldl_on_elsewhere table.view _ key rest elsewhere
  · intro part key rest unknown
    rw [view]
    exact foldl_on_unknown table.view _ part key rest unknown

def homeTable : Toml.Table :=
  [("parsing".toList,
      .table [("show_variables".toList, .bool false), ("future".toList, .integer 1)]),
    ("other".toList, .table [("name".toList, .text "x".toList)])]

def homePath : Path :=
  { parts := ["home".toList, "config.toml".toList] }

def homeFiles : Entry :=
  .dir [("home".toList, .dir [("config.toml".toList, .file (Text.Utf8.encode
    "[parsing]\nshow_variables = false\nfuture = 1\n\n[other]\nname = \"x\"\n".toList))])]

def homeChanges : List Change :=
  [.set "extensions".toList "PS1, .json".toList, .set "nope".toList "1".toList, .reset,
    .set "scan.skip_dirs".toList "bin".toList]

theorem effects_homeChanges : (history homePath homeFiles homeChanges).effects =
    [.stored .extensions (.list [".ps1".toList, ".json".toList]), .failed, .cleared,
      .stored .skippedDirs (.list ["bin".toList])] := by
  decide +kernel

theorem readsBack_homeChanges :
    (history homePath homeFiles homeChanges).written.all Toml.readsBack = true := by
  decide +kernel

theorem last_write_wins_home :
    ∃ last after,
      Store.loadTable (history homePath homeFiles homeChanges).files homePath = .ok (last, []) ∧
      (Store.load (history homePath homeFiles homeChanges).files homePath).result = .ok after ∧
      after.get .skippedDirs = .list ["bin".toList] ∧
      after.get .extensions = .list defaultExtensions ∧
      after.get (.toggle .showVariables) = .flag true ∧
      last.view ["other".toList, "name".toList] = some (some (.text "x".toList)) ∧
      last.view ["parsing".toList, "future".toList] = none := by
  have loaded : Store.loadTable homeFiles homePath = .ok (homeTable, []) := by rfl
  have tables (part : Section) (value : Toml.Value)
      (found : homeTable.get? part.name = some value) : value.isTable = true := by
    cases part with
    | parsing =>
        injection found with same
        rw [← same]
        rfl
    | scan => cases found
  have faithful (written : Toml.Table)
      (member : written ∈ (history homePath homeFiles homeChanges).written) :
      Toml.ComesBack written :=
    Toml.comesBack_of_readsBack written (List.all_eq_true.mp readsBack_homeChanges written member)
  have first : (Store.load homeFiles homePath).result =
      .ok { options := { showVariables := false } } := by
    rw [Store.load, loaded]
    rfl
  obtain ⟨last, read, _, given, elsewhere, unknown⟩ :=
    last_write_wins homeFiles homePath homeChanges homeTable loaded tables faithful
  obtain ⟨after, final, values⟩ := given _ first
  rw [effects_homeChanges] at values unknown
  refine ⟨last, after, read, final, values _, values _, values _, ?_, ?_⟩
  · exact elsewhere _ _ (by decide)
  · refine (unknown .parsing _ [] ?_).trans rfl
    intro setting _
    cases setting with
    | toggle choice => cases choice <;> decide
    | extensions => decide
    | skippedDirs => decide

end Outliner
