import Outliner.Proofs.Settings.History
import Outliner.Proofs.Settings.Items
import Outliner.Proofs.Toml.Keys
import Outliner.Proofs.Toml.RoundTrip

/-!
A settings file that only changes of settings have made: it holds the values that stand after them,
and nothing else.
-/

namespace Outliner

def Effect.leaves (setting : Setting) (known : Option SettingValue) : Effect → Option SettingValue
  | stored other value => if other = setting then some value else known
  | cleared => none
  | failed => known

def standing (effects : List Effect) (setting : Setting) : Option SettingValue :=
  effects.foldl (Effect.leaves setting) none

section Standing

variable (effects : List Effect)

theorem standing_stored (setting other : Setting) (value : SettingValue) :
    standing (effects ++ [.stored setting value]) other =
      if setting = other then some value else standing effects other := by
  rw [standing, List.foldl_append]
  rfl

theorem standing_cleared (setting : Setting) : standing (effects ++ [.cleared]) setting = none := by
  rw [standing, List.foldl_append]
  rfl

end Standing

theorem stored_of_foldl_leaves (effects : List Effect) (setting : Setting) (value : SettingValue)
    (known : Option SettingValue)
    (stands : effects.foldl (Effect.leaves setting) known = some value) :
    .stored setting value ∈ effects ∨ known = some value := by
  induction effects generalizing known with
  | nil => exact Or.inr stands
  | cons effect rest ih =>
      rcases ih (effect.leaves setting known) stands with later | here
      · exact Or.inl (List.mem_cons_of_mem effect later)
      · cases effect with
        | stored other given =>
            rw [Effect.leaves] at here
            split at here
            · next same =>
                rw [same, Option.some.inj here]
                exact Or.inl List.mem_cons_self
            · exact Or.inr here
        | cleared => cases here
        | failed => exact Or.inr here

theorem stored_of_standing (effects : List Effect) (setting : Setting) (value : SettingValue)
    (stands : standing effects setting = some value) : .stored setting value ∈ effects :=
  (stored_of_foldl_leaves effects setting value none stands).resolve_right nofun

structure HoldsSection (effects : List Effect) (part : Section) (entries : Toml.Table) : Prop where
  distinct : (entries.map (·.1)).Nodup
  stands : ∀ entry ∈ entries, ∃ setting value, setting.sectionOf = part ∧
    standing effects setting = some value ∧ entry = (setting.name, value.toToml)

structure Holds (effects : List Effect) (table : Toml.Table) : Prop where
  given : ∀ setting value, standing effects setting = some value →
    setting.entry? table = some value.toToml
  distinct : (table.map (·.1)).Nodup
  sections : ∀ entry ∈ table, ∃ part entries, entry = (Section.name part, .table entries) ∧
    entries ≠ [] ∧ HoldsSection effects part entries

theorem holds_nil : Holds [] [] :=
  ⟨nofun, List.nodup_nil, nofun⟩

section Entries

variable (effects : List Effect) (setting : Setting) (value : SettingValue) (entries : Toml.Table)

theorem standing_of_stored (other : Setting) (known : SettingValue) (apart : setting ≠ other)
    (stands : standing effects other = some known) :
    standing (effects ++ [.stored setting value]) other = some known := by
  rw [standing_stored, if_neg apart, stands]

theorem HoldsSection.insert (inside : HoldsSection effects setting.sectionOf entries) :
    HoldsSection (effects ++ [.stored setting value]) setting.sectionOf
      (Toml.Table.insert setting.name value.toToml entries) := by
  refine ⟨Toml.Table.nodup_insert _ _ entries inside.distinct, ?_⟩
  intro entry member
  rcases Toml.Table.mem_insert _ _ entries inside.distinct entry member with rfl | ⟨old, apart⟩
  · exact ⟨setting, value, rfl, by rw [standing_stored, if_pos rfl], rfl⟩
  · obtain ⟨other, known, place, stands, rfl⟩ := inside.stands entry old
    refine ⟨other, known, place, standing_of_stored effects setting value other known ?_ stands, rfl⟩
    rintro rfl
    exact apart rfl

theorem HoldsSection.keep (part : Section) (inside : HoldsSection effects part entries)
    (apart : setting.sectionOf ≠ part) :
    HoldsSection (effects ++ [.stored setting value]) part entries := by
  refine ⟨inside.distinct, ?_⟩
  intro entry member
  obtain ⟨other, known, place, stands, rfl⟩ := inside.stands entry member
  refine ⟨other, known, place, standing_of_stored effects setting value other known ?_ stands, rfl⟩
  rintro rfl
  exact apart place

theorem entry?_insert (table : Toml.Table) (other : Setting)
    (read : other.sectionOf = setting.sectionOf →
      other.entry? table = Toml.Table.get? other.name entries) :
    other.entry? (table.insert setting.sectionOf.name
        (.table (Toml.Table.insert setting.name value.toToml entries))) =
      if setting = other then some value.toToml else other.entry? table := by
  rw [Setting.entry?, Toml.Table.get?_insert]
  by_cases near : setting.sectionOf.name = other.sectionOf.name
  · rw [if_pos near, read (Section.name_injective _ _ near).symm]
    simp only [Toml.Table.get?_insert]
    by_cases same : setting = other
    · rw [if_pos same, if_pos (by rw [same])]
    · rw [if_neg same, if_neg fun name => same (Setting.name_injective setting other name)]
  · rw [if_neg near, if_neg fun same => near (by rw [same]), Setting.entry?]

end Entries

section Dictionary

variable (effects : List Effect) (table : Toml.Table) (holds : Holds effects table)
include holds

theorem Holds.entries (part : Section) :
    ∃ entries, (table.get? part.name).getD (.table []) = .table entries ∧
      HoldsSection effects part entries ∧
      ∀ setting : Setting, setting.sectionOf = part →
        setting.entry? table = Toml.Table.get? setting.name entries := by
  cases found : table.get? part.name with
  | none =>
      refine ⟨[], rfl, ⟨List.nodup_nil, List.forall_mem_nil _⟩, ?_⟩
      intro setting same
      rw [Setting.entry?, same, found]
      rfl
  | some value =>
      have member := Toml.Table.mem_of_get? part.name value table found
      obtain ⟨other, entries, same, _, inside⟩ := holds.sections _ member
      injection same with name value
      subst value
      refine ⟨entries, rfl, Section.name_injective part other name ▸ inside, ?_⟩
      intro setting same
      rw [Setting.entry?, same, found]

theorem holds_stored (setting : Setting) (value : SettingValue) :
    ∃ changed, Store.setEntry setting value table = .ok changed ∧
      Holds (effects ++ [.stored setting value]) changed := by
  obtain ⟨entries, held, inside, read⟩ := holds.entries _ _ setting.sectionOf
  refine ⟨table.insert setting.sectionOf.name
    (.table (Toml.Table.insert setting.name value.toToml entries)), ?_, ?_, ?_, ?_⟩
  · rw [Store.setEntry, held]
  · intro other known stands
    rw [entry?_insert setting value entries table other (read other)]
    rw [standing_stored] at stands
    split at stands
    · next same => rw [if_pos same, ← Option.some.inj stands]
    · next apart => rw [if_neg apart, holds.given other known stands]
  · exact Toml.Table.nodup_insert _ _ table holds.distinct
  · intro entry member
    rcases Toml.Table.mem_insert _ _ table holds.distinct entry member with rfl | ⟨old, apart⟩
    · exact ⟨setting.sectionOf, _, rfl, Toml.Table.insert_ne_nil _ _ entries,
        inside.insert effects setting value entries⟩
    · obtain ⟨part, within, rfl, filled, stands⟩ := holds.sections entry old
      refine ⟨part, within, rfl, filled, stands.keep effects setting value within part ?_⟩
      rintro rfl
      exact apart rfl

theorem holds_cleared :
    Holds (effects ++ [.cleared])
      ((table.erase Section.parsing.name).erase Section.scan.name) := by
  have empty : (table.erase Section.parsing.name).erase Section.scan.name = [] := by
    rw [Toml.Table.erase, Toml.Table.erase, List.filter_filter, List.filter_eq_nil_iff]
    intro entry member
    obtain ⟨part, entries, rfl, _⟩ := holds.sections entry member
    cases part <;> simp
  rw [empty]
  refine ⟨?_, List.nodup_nil, List.forall_mem_nil _⟩
  intro setting value stands
  rw [standing_cleared] at stands
  cases stands

end Dictionary

/-- What a change stores is legible to the reader of the format. -/
def Effect.isLegible : Effect → Bool
  | stored _ (.list items) => items.all Toml.isLegible
  | _ => true

theorem plainValue_of_parse (setting : Setting) (text : Text) (value : SettingValue)
    (parsed : SettingValue.parse setting text = .ok value)
    (legible : (Effect.stored setting value).isLegible = true) :
    Toml.PlainValue value.toToml := by
  cases value with
  | flag value => exact .flag value
  | list items =>
      obtain ⟨filled, clean⟩ := items_of_parse setting text items parsed
      have listable (item : Text) (member : item ∈ items) : Toml.Listable item :=
        ⟨Toml.legible_of_isLegible item (List.all_eq_true.mp legible item member),
          clean item member⟩
      cases items with
      | nil => exact absurd rfl filled
      | cons item rest => exact .list item rest listable

theorem Setting.isBareName_name (setting : Setting) : Toml.isBareName setting.name = true := by
  have all : ∀ setting ∈ all, Toml.isBareName setting.name = true := by decide
  exact all setting setting.mem_all

theorem Toml.exists_sections (table : Table) (holds : Text → Table → Prop)
    (each : ∀ entry ∈ table, ∃ entries, entry.2 = .table entries ∧ holds entry.1 entries) :
    ∃ sections : Sections, table = sections.table ∧ ∀ part ∈ sections, holds part.1 part.2 := by
  induction table with
  | nil => exact ⟨[], rfl, nofun⟩
  | cons entry rest ih =>
      rw [List.forall_mem_cons] at each
      obtain ⟨⟨entries, same, own⟩, later⟩ := each
      obtain ⟨sections, written, others⟩ := ih later
      refine ⟨(entry.1, entries) :: sections, ?_, ?_⟩
      · rw [Sections.table, List.map_cons, ← Sections.table, ← written, ← same]
      · rw [List.forall_mem_cons]
        exact ⟨own, others⟩

theorem exists_plain_sections (effects : List Effect) (table : Toml.Table)
    (holds : Holds effects table)
    (plain : ∀ setting value, .stored setting value ∈ effects → Toml.PlainValue value.toToml) :
    ∃ sections : Toml.Sections, table = sections.table ∧ Toml.PlainSections sections := by
  obtain ⟨sections, rfl, each⟩ := Toml.exists_sections table
    (fun name entries => Toml.isBareName name = true ∧ Toml.PlainEntries entries) (by
      intro entry member
      obtain ⟨part, entries, rfl, _, inside⟩ := holds.sections entry member
      refine ⟨entries, rfl, by cases part <;> rfl, inside.distinct, ?_, ?_⟩
      · intro own listed
        obtain ⟨setting, value, _, _, rfl⟩ := inside.stands own listed
        exact setting.isBareName_name
      · intro own listed
        obtain ⟨setting, value, _, stands, rfl⟩ := inside.stands own listed
        exact plain setting value (stored_of_standing effects setting value stands))
  refine ⟨sections, rfl, ?_, fun part member => (each part member).1,
    fun part member => (each part member).2⟩
  rw [← Toml.Sections.names_table]
  exact holds.distinct

/-- The file has this text, which is read as the dictionary of the values that stand. -/
structure Keeps (files : Entry) (path : Path) (effects : List Effect) (text : Text)
    (table : Toml.Table) : Prop where
  read : files.read path = .ok (Text.Utf8.encode text)
  parsed : Toml.parse (Text.unifyNewlines text) = .ok table
  loaded : Store.loadTable files path = .ok (table, [])
  holds : Holds effects table

section Files

variable (path : Path) (files : Entry)

theorem keeps_save (effects : List Effect) (table : Toml.Table) (holds : Holds effects table)
    (plain : ∀ setting value, .stored setting value ∈ effects → Toml.PlainValue value.toToml)
    (success : (Store.save files path table).result = .ok true) :
    ∃ text, Keeps (Store.save files path table).files path effects text table := by
  obtain ⟨sections, rfl, written⟩ := exists_plain_sections effects table holds plain
  have rendered := Toml.render_plain_sections sections written
  have parsed := Toml.parse_documentText sections written
  by_cases writable : files.IsWritable path
  · obtain ⟨bytes, other, possible⟩ := writable
    obtain ⟨final, done⟩ := files.exists_write other path bytes
      (Text.Utf8.encode (Toml.documentText sections)) possible
    rw [(Store.save_stored path files _ _ final rendered done).1]
    exact ⟨_, (files.read_write final path _ done).2, parsed,
      loadTable_written path files final _ _ done parsed, holds⟩
  · rw [(Store.save_unwritable path files _ writable).2] at success
    cases success

structure Saves (effects : List Effect) (change : Change) (next : Toml.Table) : Prop where
  holds : Holds (effects ++ [change.effect path files]) next
  success : (Store.save files path next).result = .ok true
  after : change.after path files = (Store.save files path next).files
  given : ∀ setting value, change.effect path files = .stored setting value →
    ∃ text, SettingValue.parse setting text = .ok value

section Changes

variable (effects : List Effect) (table : Toml.Table)
  (loaded : Store.loadTable files path = .ok (table, [])) (holds : Holds effects table)
include loaded holds

theorem saves_reset (done : Change.reset.effect path files ≠ .failed) :
    ∃ next, Saves path files effects .reset next := by
  have cleared := holds_cleared effects table holds
  generalize written : (table.erase Section.parsing.name).erase Section.scan.name = next at cleared
  have result : (Store.reset files path).result = (Store.save files path next).result := by
    simp only [Store.reset, loaded, written]
  have after : Change.reset.after path files = (Store.save files path next).files := by
    simp only [Change.after, Store.reset, loaded, written]
  have success : (Store.save files path next).result = .ok true := by
    rw [Change.effect, result] at done
    split at done
    · next success => exact success
    · exact absurd rfl done
  have effect : Change.reset.effect path files = .cleared := by
    rw [Change.effect, result, success]
  refine ⟨next, ?_, success, after, ?_⟩
  · rw [effect]
    exact cleared
  · intro setting value same
    rw [effect] at same
    cases same

theorem saves_set (key text : Text) (done : (Change.set key text).effect path files ≠ .failed) :
    ∃ next, Saves path files effects (.set key text) next := by
  cases resolved : resolveKey key with
  | error error => simp [Change.effect, Store.set, resolved, bind, Except.bind] at done
  | ok setting =>
      cases parsed : parseValue setting text with
      | error error => simp [Change.effect, Store.set, resolved, parsed, bind, Except.bind] at done
      | ok value =>
          obtain ⟨next, entered, stands⟩ := holds_stored effects table holds setting value
          obtain ⟨after, result⟩ := set_of_steps path files key text setting value table next []
            resolved parsed loaded entered
          have success : (Store.save files path next).result = .ok true := by
            rw [Change.effect, result] at done
            cases saved : (Store.save files path next).result with
            | error error =>
                rw [saved] at done
                exact absurd rfl done
            | ok success =>
                cases success with
                | false =>
                    rw [saved] at done
                    exact absurd rfl done
                | true => rfl
          have effect : (Change.set key text).effect path files = .stored setting value := by
            rw [Change.effect, result, success]
            rfl
          refine ⟨next, ?_, success, after, ?_⟩
          · rw [effect]
            exact stands
          · intro other given same
            rw [effect] at same
            injection same with setting value
            subst setting value
            exact ⟨text, parse_of_parseValue _ text _ parsed⟩

theorem saves_change (change : Change) (done : change.effect path files ≠ .failed) :
    ∃ next, Saves path files effects change next := by
  cases change with
  | set key text => exact saves_set path files effects table loaded holds key text done
  | reset => exact saves_reset path files effects table loaded holds done

end Changes

theorem keeps_change (effects : List Effect) (table : Toml.Table)
    (loaded : Store.loadTable files path = .ok (table, [])) (holds : Holds effects table)
    (plain : ∀ setting value, .stored setting value ∈ effects → Toml.PlainValue value.toToml)
    (change : Change) (done : change.effect path files ≠ .failed)
    (legible : (change.effect path files).isLegible = true) :
    (∃ text next, Keeps (change.after path files) path (effects ++ [change.effect path files]) text
      next) ∧
    ∀ setting value, .stored setting value ∈ effects ++ [change.effect path files] →
      Toml.PlainValue value.toToml := by
  obtain ⟨next, saves⟩ := saves_change path files effects table loaded holds change done
  have still (setting : Setting) (value : SettingValue)
      (member : .stored setting value ∈ effects ++ [change.effect path files]) :
      Toml.PlainValue value.toToml := by
    rcases List.mem_append.mp member with old | new
    · exact plain setting value old
    · have own := (List.mem_singleton.mp new).symm
      obtain ⟨text, parsed⟩ := saves.given setting value own
      rw [own] at legible
      exact plainValue_of_parse setting text value parsed legible
  obtain ⟨text, kept⟩ := keeps_save path files _ next saves.holds still saves.success
  rw [saves.after]
  exact ⟨⟨text, next, kept⟩, still⟩

theorem keeps_history (effects : List Effect) (table : Toml.Table)
    (loaded : Store.loadTable files path = .ok (table, [])) (holds : Holds effects table)
    (plain : ∀ setting value, .stored setting value ∈ effects → Toml.PlainValue value.toToml)
    (change : Change) (changes : List Change)
    (done : .failed ∉ (history path files (change :: changes)).effects)
    (legible : ∀ effect ∈ (history path files (change :: changes)).effects,
      effect.isLegible = true) :
    ∃ text last, Keeps (history path files (change :: changes)).files path
      (effects ++ (history path files (change :: changes)).effects) text last := by
  induction changes generalizing change files effects table with
  | nil =>
      rw [history, List.mem_cons, not_or] at done
      rw [history, List.forall_mem_cons] at legible
      exact (keeps_change path files effects table loaded holds plain change (Ne.symm done.1)
        legible.1).1
  | cons second rest ih =>
      rw [history, List.mem_cons, not_or] at done
      rw [history, List.forall_mem_cons] at legible
      obtain ⟨⟨text, next, kept⟩, still⟩ :=
        keeps_change path files effects table loaded holds plain change (Ne.symm done.1) legible.1
      have later := ih (change.after path files) (effects ++ [change.effect path files]) next
        kept.loaded kept.holds still second done.2 legible.2
      rw [List.append_assoc, List.singleton_append] at later
      exact later

end Files

/-- What changes write, they read back through the text of the file. After changes of a file that
was missing, none of which failed, the text is read as the dictionary of the values stored since the
settings were last cleared, the last one for each setting, and of nothing else. The items of lists
have to be legible to the reader of the format. -/
theorem stored_values_come_back (files : Entry) (path : Path) (changes : List Change)
    (missing : files.isPresent path = false) (changed : changes ≠ [])
    (done : .failed ∉ (history path files changes).effects)
    (legible : ∀ effect ∈ (history path files changes).effects, effect.isLegible = true) :
    ∃ text table, Keeps (history path files changes).files path
      (history path files changes).effects text table := by
  have loaded : Store.loadTable files path = .ok ([], []) := by
    rw [Store.loadTable, missing]
    rfl
  cases changes with
  | nil => exact absurd rfl changed
  | cons change rest =>
      exact keeps_history path files [] [] loaded holds_nil
        (fun setting value member => absurd member List.not_mem_nil) change rest done legible

def emptyHome : Entry :=
  .dir [("home".toList, .dir [])]

/-- Names with quotes, a backslash, brackets, signs and a character without width. -/
def quotedNames : List Text :=
  ["a\"b'", "c\\d", "[#=]", "\u200b"].map String.toList

def quotedChanges : List Change :=
  [.set "skip_dirs".toList "gone".toList, .reset, .set "parsing.show_variables".toList "Off".toList,
    .set "extensions".toList "PS1 .json,ps1".toList, .set "skip_dirs".toList "old".toList,
    .set "skip_dirs".toList "a\"b', c\\d [#=] \u200b".toList]

theorem effects_quotedChanges : (history homePath emptyHome quotedChanges).effects =
    [.stored .skippedDirs (.list ["gone".toList]), .cleared,
      .stored (.toggle .showVariables) (.flag false),
      .stored .extensions (.list [".ps1".toList, ".json".toList]),
      .stored .skippedDirs (.list ["old".toList]),
      .stored .skippedDirs (.list quotedNames)] := by
  decide +kernel

theorem stored_values_come_back_quoted :
    ∃ table,
      Store.loadTable (history homePath emptyHome quotedChanges).files homePath = .ok (table, []) ∧
      Setting.entry? (.toggle .showVariables) table = some (.bool false) ∧
      Setting.extensions.entry? table = some (.array [.text ".ps1".toList, .text ".json".toList]) ∧
      Setting.skippedDirs.entry? table = some (.array (quotedNames.map .text)) ∧
      ∀ entry ∈ table, entry.1 ∈ Section.names := by
  have effects := effects_quotedChanges
  obtain ⟨text, table, kept⟩ := stored_values_come_back emptyHome homePath quotedChanges rfl
    (by decide) (by rw [effects]; decide) (by rw [effects]; decide +kernel)
  have holds := kept.holds
  rw [effects] at holds
  refine ⟨table, kept.loaded, holds.given _ (.flag false) rfl,
    holds.given _ (.list [".ps1".toList, ".json".toList]) rfl, holds.given _ (.list quotedNames) rfl,
    ?_⟩
  intro entry member
  obtain ⟨part, entries, rfl, _⟩ := holds.sections entry member
  exact part.name_mem_names

/-- An item with the mark of a character of two digits is written as that character: the file cannot
be read after it. -/
theorem marked_item_is_lost :
    (history homePath emptyHome [.set "skip_dirs".toList "a\\xb".toList]).effects =
        [.stored .skippedDirs (.list ["a\\xb".toList])] ∧
      Store.loadTable (history homePath emptyHome [.set "skip_dirs".toList "a\\xb".toList]).files
          homePath = .ok ([], [.settingsIgnored homePath .malformed]) :=
  ⟨by decide +kernel, by rfl⟩

end Outliner
