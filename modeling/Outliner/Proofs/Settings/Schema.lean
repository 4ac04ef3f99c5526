import Outliner.Proofs.Settings.Warnings
import Outliner.Proofs.Text.Encoding

/-!
The schema of the settings: put together entry by entry over the defaults, as dictionaries, they
keep the sections and entries of the defaults and the types of their values.
-/

namespace Outliner

/-- The settings of a section, in order. -/
def Section.settings (part : Section) : List Setting :=
  Setting.all.filter (·.sectionOf == part)

def Section.entries (part : Section) (settings : Settings) : Toml.Table :=
  part.settings.map fun setting => (setting.name, (settings.get setting).toToml)

def Section.all : List Section := [parsing, scan]

/-- Settings as a dictionary of sections. -/
def Settings.table (settings : Settings) : Toml.Table :=
  Section.all.map fun part => (part.name, .table (part.entries settings))

/-- The names of the sections and of the entries in them, in order. -/
def Toml.Table.names (table : Toml.Table) : List (Text × List Text) :=
  table.map fun entry => (entry.1, match entry.2 with
    | .table entries => entries.map (·.1)
    | _ => [])

abbrev Merged := Except Toml.Fault (Toml.Value × List Notice)

/-- The value in place of a default that some value is given for. The type of the default tells what
is taken. -/
def overrule (part key : Text) (default given : Toml.Value) : Merged :=
  match default, given with
  | .bool _, .bool flag => .ok (.bool flag, [])
  | .bool _, _ => .ok (default, [.notBoolean (part ++ '.' :: key) given.shown])
  | .array _, .array items =>
    (items.mapM Toml.Value.asText).map fun texts =>
      let kept := if key == "extensions".toList then normalizeExtensions texts else texts
      (.array (kept.map .text), [])
  | .array _, _ => .ok (default, [.notList (part ++ '.' :: key) given.shown])
  | _, _ => .ok (given, [])

def mergeWith (merge : Text → Toml.Value → Merged) :
    Toml.Table → Except Toml.Fault (Toml.Table × List Notice)
  | [] => .ok ([], [])
  | (key, default) :: rest => do
    let (value, reports) ← merge key default
    let (others, more) ← mergeWith merge rest
    return ((key, value) :: others, reports ++ more)

def mergeEntry (part : Text) (given : Toml.Table) (key : Text) (default : Toml.Value) :
    Merged :=
  match given.get? key with
  | some value => overrule part key default value
  | none => .ok (default, [])

def mergeSection (given : Toml.Table) (name : Text) (default : Toml.Value) : Merged :=
  match given.get? name, default with
  | some (.table values), .table defaults =>
    (mergeWith (mergeEntry name values) defaults).map fun (entries, reports) =>
      (.table entries, reports)
  | _, _ => .ok (default, [])

/-- Merges a table over the dictionary of the defaults. -/
def mergeTable (given : Toml.Table) : Except Toml.Fault (Toml.Table × List Notice) :=
  mergeWith (mergeSection given) ({} : Settings).table

theorem mergeWith_map {α : Type} (merge : Text → Toml.Value → Merged) (items : List α)
    (key : α → Text) (default value : α → Toml.Value) (reports : α → List Notice)
    (each : ∀ item ∈ items, merge (key item) (default item) = .ok (value item, reports item)) :
    mergeWith merge (items.map fun item => (key item, default item)) =
      .ok (items.map fun item => (key item, value item), items.flatMap reports) := by
  induction items with
  | nil => rfl
  | cons item rest ih =>
      rw [List.forall_mem_cons] at each
      rw [List.map_cons, mergeWith, each.1, ih each.2]
      rfl

section Values

variable (table : Toml.Table) (settings : Settings)
  (values : ∀ setting : Setting,
    setting.valueOf (table.view setting.keys) = .ok (settings.get setting))
include values

theorem mergeEntry_setting (setting : Setting) (entries : Toml.Table)
    (found : table.get? setting.sectionOf.name = some (.table entries)) :
    mergeEntry setting.sectionOf.name entries setting.name
        (({} : Settings).get setting).toToml =
      .ok ((settings.get setting).toToml, setting.complaints table) := by
  have own := values setting
  have entry : setting.entry? table = Toml.Table.get? setting.name entries := by
    rw [Setting.entry?, found]
  rw [view_keys, entry] at own
  rw [mergeEntry, Setting.complaints, entry]
  cases held : Toml.Table.get? setting.name entries with
  | none =>
      rw [held] at own
      have kept : ({} : Settings).get setting = settings.get setting := by
        cases setting <;> exact Except.ok.inj own
      rw [kept]
  | some value =>
      rw [held] at own
      have list (change : List Text → List Text) (items : List Toml.Value)
          (read : (items.mapM Toml.Value.asText).map (fun texts => SettingValue.list (change texts)) =
            .ok (settings.get setting)) :
          (items.mapM Toml.Value.asText).map
              (fun texts => (Toml.Value.array ((change texts).map .text), ([] : List Notice))) =
            .ok ((settings.get setting).toToml, []) := by
        cases texts : items.mapM Toml.Value.asText with
        | error fault =>
            rw [texts] at read
            cases read
        | ok items =>
            rw [texts] at read
            rw [← Except.ok.inj read]
            rfl
      cases setting with
      | toggle choice =>
          cases value with
          | bool flag => rw [← Except.ok.inj own]; rfl
          | _ => rw [← Except.ok.inj own]; rfl
      | extensions =>
          cases value with
          | array items => exact list normalizeExtensions items own
          | _ => rw [← Except.ok.inj own]; rfl
      | skippedDirs =>
          cases value with
          | array items => exact list id items own
          | _ => rw [← Except.ok.inj own]; rfl

theorem mergeSection_part (part : Section) :
    mergeSection table part.name (.table (part.entries {})) =
      .ok (.table (part.entries settings), part.settings.flatMap (Setting.complaints · table)) := by
  have inside (setting : Setting) (member : setting ∈ part.settings) :
      setting.sectionOf = part := by
    rw [Section.settings, List.mem_filter] at member
    exact eq_of_beq member.2
  have missing (lost : ∀ setting ∈ part.settings, setting.entry? table = none) :
      (Except.ok (.table (part.entries {}), []) : Merged) =
        .ok (.table (part.entries settings), part.settings.flatMap (Setting.complaints · table)) := by
    have silent : part.settings.flatMap (Setting.complaints · table) = [] := by
      rw [List.flatMap_eq_nil_iff]
      intro setting member
      rw [Setting.complaints, lost setting member]
    have kept : part.entries {} = part.entries settings := by
      apply List.map_congr_left
      intro setting member
      have own := values setting
      rw [view_keys, lost setting member] at own
      have same : ({} : Settings).get setting = settings.get setting := by
        cases setting <;> exact Except.ok.inj own
      rw [same]
    rw [silent, kept]
  cases found : table.get? part.name with
  | none =>
      rw [← missing (fun setting member => by rw [Setting.entry?, inside setting member, found])]
      simp only [mergeSection, found]
  | some value =>
      cases value with
      | table entries =>
          have merged : mergeWith (mergeEntry part.name entries) (part.entries {}) =
              .ok (part.entries settings, part.settings.flatMap (Setting.complaints · table)) :=
            mergeWith_map (mergeEntry part.name entries) part.settings Setting.name
              (fun setting => (({} : Settings).get setting).toToml)
              (fun setting => (settings.get setting).toToml) (Setting.complaints · table) (by
                intro setting member
                have own := inside setting member
                subst own
                exact mergeEntry_setting table settings values setting entries found)
          simp only [mergeSection, found, merged, Except.map]
      | _ =>
          rw [← missing (fun setting member => by
            rw [Setting.entry?, inside setting member, found])]
          simp only [mergeSection, found]

theorem mergeTable_values :
    mergeTable table = .ok (settings.table, Setting.all.flatMap (Setting.complaints · table)) := by
  have merged := mergeWith_map (mergeSection table) Section.all Section.name
    (fun part => .table (part.entries {})) (fun part => .table (part.entries settings))
    (fun part => part.settings.flatMap (Setting.complaints · table))
    (fun part _ => mergeSection_part table settings values part)
  have order : Setting.all = Section.all.flatMap Section.settings := by decide
  rw [mergeTable, Settings.table, merged, order, List.flatMap_assoc, Settings.table]

end Values

/-- A dictionary has the sections and entries of the defaults, in their order, and values of their
types. -/
structure KeepsSchema (table : Toml.Table) : Prop where
  names : Toml.Table.names table = Toml.Table.names ({} : Settings).table
  flags : ∀ entries, table.get? Section.parsing.name = some (.table entries) →
    ∀ entry ∈ entries, ∃ flag, entry.2 = .bool flag
  lists : ∀ entries, table.get? Section.scan.name = some (.table entries) →
    ∀ entry ∈ entries, ∃ items : List Text, entry.2 = .array (items.map .text)
  extensions : ∃ items : List Text,
    Setting.extensions.entry? table = some (.array (items.map .text)) ∧
      (items = defaultExtensions ∨ normalizeExtensions items = items)

/-- Options from their names and values. Whatever else is given is refused. -/
def Script.Options.ofEntries? (entries : Toml.Table) : Option Script.Options :=
  entries.foldlM (fun options entry =>
    match Toggle.all.find? (·.name == entry.1), entry.2 with
    | some toggle, .bool flag => some (toggle.set options flag)
    | _, _ => none) {}

theorem get?_table (settings : Settings) (part : Section) :
    settings.table.get? part.name = some (.table (part.entries settings)) := by
  cases part <;> rfl

theorem options_of_parsing (settings : Settings) :
    Script.Options.ofEntries? (Section.parsing.entries settings) = some settings.options := rfl

theorem keepsSchema_table (settings : Settings)
    (normal : settings.extensions = defaultExtensions ∨
      normalizeExtensions settings.extensions = settings.extensions) :
    KeepsSchema settings.table := by
  have entryOf (part : Section) (entries : Toml.Table)
      (found : settings.table.get? part.name = some (.table entries))
      (entry : Text × Toml.Value) (member : entry ∈ entries) :
      ∃ setting : Setting, setting.sectionOf = part ∧
        entry.2 = (settings.get setting).toToml := by
    rw [get?_table] at found
    injection found with same
    injection same with same
    rw [← same, Section.entries, List.mem_map] at member
    obtain ⟨setting, listed, rfl⟩ := member
    rw [Section.settings, List.mem_filter] at listed
    exact ⟨setting, eq_of_beq listed.2, rfl⟩
  refine ⟨rfl, ?_, ?_, settings.extensions, rfl, normal⟩
  · intro entries found entry member
    obtain ⟨setting, inside, value⟩ := entryOf .parsing entries found entry member
    cases setting with
    | toggle choice => exact ⟨choice.get settings.options, value⟩
    | extensions => cases inside
    | skippedDirs => cases inside
  · intro entries found entry member
    obtain ⟨setting, inside, value⟩ := entryOf .scan entries found entry member
    cases setting with
    | toggle choice => cases inside
    | extensions => exact ⟨settings.extensions, value⟩
    | skippedDirs => exact ⟨settings.skipped, value⟩

/-- The items in place of the list settings can be written out. -/
def HasTexts (table : Toml.Table) : Prop :=
  ∀ (setting : Setting) (items : List Toml.Value), setting.accepts (.array items) = true →
    setting.entry? table = some (.array items) → ∀ item ∈ items, ∃ text, item.asText = .ok text

theorem exists_mapM_asText (items : List Toml.Value)
    (each : ∀ item ∈ items, ∃ text, item.asText = .ok text) :
    ∃ texts, items.mapM Toml.Value.asText = .ok texts := by
  induction items with
  | nil => exact ⟨[], rfl⟩
  | cons item rest ih =>
      rw [List.forall_mem_cons] at each
      obtain ⟨text, first⟩ := each.1
      obtain ⟨texts, others⟩ := ih each.2
      refine ⟨text :: texts, ?_⟩
      rw [List.mapM_cons, first, others]
      rfl

theorem exists_valueOf (table : Toml.Table) (written : HasTexts table) (setting : Setting) :
    ∃ value, setting.valueOf (table.view setting.keys) = .ok value := by
  rw [view_keys]
  cases held : setting.entry? table with
  | none => cases setting <;> exact ⟨_, rfl⟩
  | some value =>
      cases setting with
      | toggle choice => cases value <;> exact ⟨_, rfl⟩
      | extensions =>
          cases value with
          | array items =>
              obtain ⟨texts, read⟩ := exists_mapM_asText items (written _ items rfl held)
              refine ⟨.list (normalizeExtensions texts), ?_⟩
              simp only [Option.map_some, Toml.Value.leaf?, Setting.valueOf, read, Except.map]
          | _ => exact ⟨_, rfl⟩
      | skippedDirs =>
          cases value with
          | array items =>
              obtain ⟨texts, read⟩ := exists_mapM_asText items (written _ items rfl held)
              refine ⟨.list texts, ?_⟩
              simp only [Option.map_some, Toml.Value.leaf?, Setting.valueOf, read, Except.map]
          | _ => exact ⟨_, rfl⟩

theorem ofTable_of_hasTexts (table : Toml.Table) (written : HasTexts table) :
    (Settings.ofTable table).fault = none ∧ ∀ setting : Setting,
      setting.valueOf (table.view setting.keys) =
        .ok ((Settings.ofTable table).settings.get setting) := by
  have values := foldl_take table Setting.all {} (by decide) rfl (fun _ _ => rfl)
  rw [← Settings.ofTable] at values
  cases broken : (Settings.ofTable table).fault with
  | none =>
      rw [broken] at values
      exact ⟨rfl, fun setting => values.1 setting setting.mem_all⟩
  | some fault =>
      rw [broken] at values
      obtain ⟨setting, _, failed⟩ := values
      obtain ⟨value, read⟩ := exists_valueOf table written setting
      rw [read] at failed
      cases failed

theorem extensions_of_value (table : Toml.Table) (settings : Settings)
    (value : Setting.extensions.valueOf (table.view Setting.extensions.keys) =
      .ok (settings.get .extensions)) :
    settings.extensions = defaultExtensions ∨
      normalizeExtensions settings.extensions = settings.extensions := by
  rw [view_keys] at value
  have default (kept : (Except.ok (({} : Settings).get .extensions) : Except Toml.Fault _) =
      .ok (settings.get .extensions)) : settings.extensions = defaultExtensions := by
    injection kept with same
    injection same with same
    exact same.symm
  cases held : Setting.extensions.entry? table with
  | none =>
      rw [held] at value
      exact Or.inl (default value)
  | some given =>
      rw [held] at value
      cases given with
      | array items =>
          simp only [Option.map_some, Toml.Value.leaf?, Setting.valueOf] at value
          cases read : items.mapM Toml.Value.asText with
          | error fault =>
              rw [read] at value
              cases value
          | ok texts =>
              rw [read] at value
              injection value with same
              injection same with same
              rw [← same]
              exact Or.inr (normalizeExtensions_normalizeExtensions texts)
      | _ => exact Or.inl (default value)

/-- A text of which the reader of the format makes settings: it takes or refuses the text as such,
and what it makes of the list settings can be written out. -/
def Toml.IsSound (text : Text) : Prop :=
  match parse (Text.unifyNewlines text) with
  | .ok table => HasTexts table
  | .error fault => fault = .malformed

/-- The settings file is missing or holds a sound text. -/
def Store.IsSound (files : Entry) (path : Path) : Prop :=
  files.isPresent path = false ∨ ∃ bytes text, files.read path = .ok bytes ∧
    Text.Utf8.decode? bytes = some text ∧ Toml.IsSound text

theorem loadTable_of_isSound (files : Entry) (path : Path) (sound : Store.IsSound files path) :
    ∃ table notices, Store.loadTable files path = .ok (table, notices) ∧ HasTexts table := by
  have empty : HasTexts [] := fun setting items _ held => by cases held
  rw [Store.loadTable]
  cases present : files.isPresent path with
  | false => exact ⟨[], [], rfl, empty⟩
  | true =>
      rw [Store.IsSound, present] at sound
      obtain missing | ⟨bytes, text, read, decoded, sound⟩ := sound
      · cases missing
      · rw [Toml.IsSound] at sound
        simp only [Bool.not_true, Bool.false_eq_true, if_false, read, decoded]
        cases parsed : Toml.parse (Text.unifyNewlines text) with
        | ok table =>
            rw [parsed] at sound
            exact ⟨table, [], rfl, sound⟩
        | error fault =>
            rw [parsed] at sound
            subst sound
            exact ⟨[], _, rfl, empty⟩

theorem load_of_hasTexts (files : Entry) (path : Path) (table : Toml.Table)
    (notices : List Notice) (loaded : Store.loadTable files path = .ok (table, notices))
    (written : HasTexts table) :
    Store.load files path = ⟨files, notices ++ (Settings.ofTable table).notices,
      .ok (Settings.ofTable table).settings⟩ := by
  simp only [Store.load, loaded, (ofTable_of_hasTexts table written).1]

/-- The settings keep their schema, whatever stands in the file. A sound file is put over the
defaults entry by entry, and the options of outlines come out of that. Two files with the same
entries for the settings have the same settings and reports. An entry of the wrong type leaves the
default and one warning, and is otherwise as if it were missing. -/
theorem load_keeps_schema (files : Entry) (path : Path) :
    (Store.IsSound files path →
      ∃ table notices settings reports,
        Store.loadTable files path = .ok (table, notices) ∧
        Store.load files path = ⟨files, notices ++ reports, .ok settings⟩ ∧
        mergeTable table = .ok (settings.table, reports) ∧
        KeepsSchema settings.table ∧
        (∃ entries, settings.table.get? Section.parsing.name = some (.table entries) ∧
          Script.Options.ofEntries? entries = some settings.options)) ∧
    (∀ elsewhere home table other notices others,
      Store.loadTable files path = .ok (table, notices) →
      Store.loadTable elsewhere home = .ok (other, others) →
      (∀ setting : Setting, setting.entry? other = setting.entry? table) →
      ∃ reports result,
        Store.load files path = ⟨files, notices ++ reports, result⟩ ∧
        Store.load elsewhere home = ⟨elsewhere, others ++ reports, result⟩) ∧
    (∀ table notices (setting : Setting) value,
      Store.loadTable files path = .ok (table, notices) → HasTexts table →
      setting.entry? table = some value → setting.accepts value = false →
      ∃ settings reports,
        Store.load files path = ⟨files, notices ++ reports, .ok settings⟩ ∧
        settings.get setting = ({} : Settings).get setting ∧
        reports.filter (Notice.isAbout setting.key) = [setting.complaint value] ∧
        (setting.complaint value).severity = .warning ∧
        ∀ elsewhere home other others,
          Store.loadTable elsewhere home = .ok (other, others) →
          setting.entry? other = none →
          (∀ another : Setting, another ≠ setting →
            another.entry? other = another.entry? table) →
          Store.load elsewhere home =
            ⟨elsewhere, others ++ reports.filter (!·.isAbout setting.key), .ok settings⟩) := by
  refine ⟨?_, ?_, ?_⟩
  · intro sound
    obtain ⟨table, notices, loaded, written⟩ := loadTable_of_isSound files path sound
    obtain ⟨unbroken, values⟩ := ofTable_of_hasTexts table written
    refine ⟨table, notices, _, _, loaded, load_of_hasTexts files path table notices loaded written,
      ?_, ?_, _, get?_table _ .parsing, options_of_parsing _⟩
    · rw [mergeTable_values table _ values, notices_ofTable table unbroken]
    · exact keepsSchema_table _ (extensions_of_value table _ (values .extensions))
  · intro elsewhere home table other notices others loaded found same
    refine ⟨(Settings.ofTable table).notices, (Store.load files path).result, ?_, ?_⟩
    · rw [Store.load, loaded]
    · simp only [Store.load, found, loaded, ofTable_of_entries other table same]
  · intro table notices setting value loaded written held refused
    obtain ⟨unbroken, values⟩ := ofTable_of_hasTexts table written
    refine ⟨_, _, load_of_hasTexts files path table notices loaded written, ?_, ?_, ?_, ?_⟩
    · have own := values setting
      rw [setting.valueOf_of_refused table value held refused] at own
      exact (Except.ok.inj own).symm
    · rw [notices_about table setting unbroken, Setting.complaints, held]
      simp only [refused, Bool.false_eq_true, if_false]
    · cases setting <;> rfl
    · intro elsewhere home other others found missing rest
      obtain ⟨settings, fault, reports⟩ :=
        sameBut_ofTable table other setting value held refused missing rest
      rw [Store.load, found]
      simp only [fault, unbroken, settings, reports]

/-- A settings file with a text in place of a list, next to a setting and an entry that is none. -/
def mixedText : Text :=
  "[scan]\nextensions = \"ps1\"\nskip_dirs = [\"out\",]\ndepth = 3\n".toList

def mixedTable : Toml.Table :=
  [("scan".toList, .table [("extensions".toList, .text "ps1".toList),
    ("skip_dirs".toList, .array [.text "out".toList]), ("depth".toList, .integer 3)])]

def configPath : Path :=
  { parts := ["config.toml".toList] }

def configFiles (text : Text) : Entry :=
  .dir [("config.toml".toList, .file (Text.Utf8.encode text))]

theorem read_configFiles (text : Text) :
    (configFiles text).isPresent configPath = true ∧
      (configFiles text).read configPath = .ok (Text.Utf8.encode text) := ⟨rfl, rfl⟩

theorem parse_mixedText : Toml.parse (Text.unifyNewlines mixedText) = .ok mixedTable := by rfl

theorem hasTexts_mixedTable : HasTexts mixedTable := by
  intro setting items _ held item member
  cases setting with
  | toggle choice => cases held
  | extensions => cases held
  | skippedDirs =>
      injection held with same
      injection same with same
      rw [← same, List.mem_singleton] at member
      exact ⟨_, by rw [member]; rfl⟩

theorem load_mixedText :
    ∃ settings reports,
      Store.load (configFiles mixedText) configPath =
        ⟨configFiles mixedText, reports, .ok settings⟩ ∧
      KeepsSchema settings.table ∧
      settings.get .extensions = .list defaultExtensions ∧
      reports.filter (Notice.isAbout Setting.extensions.key) =
        [.notList "scan.extensions".toList "'ps1'".toList] := by
  obtain ⟨present, bytes⟩ := read_configFiles mixedText
  have loaded : Store.loadTable (configFiles mixedText) configPath = .ok (mixedTable, []) := by
    rw [Store.loadTable, present, bytes]
    simp only [Bool.not_true, Bool.false_eq_true, if_false, Text.Utf8.decode?_encode,
      parse_mixedText]
  have sound : Store.IsSound (configFiles mixedText) configPath := by
    refine Or.inr ⟨_, mixedText, bytes, Text.Utf8.decode?_encode mixedText, ?_⟩
    rw [Toml.IsSound, parse_mixedText]
    exact hasTexts_mixedTable
  obtain ⟨whole, _, refused⟩ := load_keeps_schema (configFiles mixedText) configPath
  obtain ⟨table, notices, settings, reports, found, read, _, schema, _⟩ := whole sound
  obtain ⟨others, warnings, again, default, warned, _⟩ :=
    refused mixedTable [] .extensions (.text "ps1".toList) loaded hasTexts_mixedTable rfl rfl
  rw [again] at read
  injection read with _ _ same
  injection same with same
  subst same
  exact ⟨others, warnings, again, schema, default, warned⟩

/-- The reader of the format gives up on a header through a number instead of refusing the text, and
the settings are lost with it. -/
theorem load_through_number :
    (Store.load (configFiles "a = 1\n[a.b]\n".toList) configPath).result =
      .error (.broken .notTable) := by
  rfl

end Outliner
