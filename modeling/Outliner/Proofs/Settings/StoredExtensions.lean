import Outliner.Proofs.Settings.Kept
import Outliner.Proofs.Settings.NormalForms
import Outliner.Proofs.Settings.Schema
import Outliner.Proofs.Settings.SetOutcome
import Outliner.Proofs.Toml.Writable

/-!
From the extensions that are set to those that a scan takes: the list that is stored is loaded as it
is, because its items are in normal form already.
-/

namespace Outliner

/-- An item in place of a list setting holds a table and cannot be written out. -/
def HasTextlessItem (table : Toml.Table) : Prop :=
  ∃ (setting : Setting) (items : List Toml.Value), setting.accepts (.array items) = true ∧
    setting.entry? table = some (.array items) ∧
    ∃ item ∈ items, item.holdsTable = true ∧ item.asText = .error .badOffset

theorem exists_textless_of_valueOf (table : Toml.Table) (setting : Setting) (fault : Toml.Fault)
    (failed : setting.valueOf (table.view setting.keys) = .error fault) :
    ∃ items, setting.accepts (.array items) = true ∧
      setting.entry? table = some (.array items) ∧
      ∃ item ∈ items, item.asText = .error fault := by
  have error_of_map {α β : Type} (change : α → β) (result : Except Toml.Fault α)
      (failed : result.map change = .error fault) : result = .error fault := by
    cases result <;> cases failed
    rfl
  rw [view_keys] at failed
  cases held : setting.entry? table with
  | none =>
      rw [held] at failed
      cases setting <;> cases failed
  | some value =>
      rw [held] at failed
      cases setting with
      | toggle choice => cases value <;> cases failed
      | extensions =>
          cases value with
          | array items =>
              exact ⟨items, rfl, rfl, exists_error_of_mapM _ items fault (error_of_map _ _ failed)⟩
          | _ => cases failed
      | skippedDirs =>
          cases value with
          | array items =>
              exact ⟨items, rfl, rfl, exists_error_of_mapM _ items fault (error_of_map _ _ failed)⟩
          | _ => cases failed

theorem hasTextlessItem_of_valueOf (table : Toml.Table) (distinct : (table.map (·.1)).Nodup)
    (written : Text) (rendered : Toml.render table = .ok written) (setting : Setting)
    (fault : Toml.Fault) (failed : setting.valueOf (table.view setting.keys) = .error fault) :
    HasTextlessItem table ∧ fault = .badOffset := by
  obtain ⟨items, accepted, held, item, member, textless⟩ :=
    exists_textless_of_valueOf table setting fault failed
  have cause := item.fault_of_asText fault textless
  subst cause
  refine ⟨⟨setting, items, accepted, held, item, member, ?_, textless⟩, rfl⟩
  by_contra plain
  rw [Setting.entry?] at held
  split at held
  · next entries found =>
      have bare : Toml.isBareName setting.sectionOf.name = true := by
        cases setting.sectionOf <;> rfl
      obtain ⟨text, known⟩ := Toml.exists_asText_of_written table distinct written rendered _ bare
        entries (Toml.Table.mem_of_get? _ _ table found) _ items
        (Toml.Table.mem_of_get? _ _ entries held) item member (Bool.eq_false_iff.mpr plain)
      rw [known] at textless
      cases textless
  · cases held

section Set

variable (files : Entry) (path : Path) (key text : Text) (setting : Setting)
  (value : SettingValue) (changed : Toml.Table)

theorem Store.eq_nil_of_missing (missing : files.isPresent path = false) (table : Toml.Table)
    (reads : Reads files path (.ok table)) : table = [] := by
  obtain ⟨notices, loaded⟩ := loadTable_eq_ok files path table reads
  rw [loadTable, missing] at loaded
  cases loaded
  rfl

theorem Store.distinct_of_reads (table : Toml.Table) (reads : Reads files path (.ok table)) :
    (table.map (·.1)).Nodup := by
  cases reads with
  | unread _ => exact List.nodup_nil
  | malformed _ _ _ => exact List.nodup_nil
  | parsed _ _ parsed => exact Toml.distinct_parse _ table parsed

theorem Store.distinct_of_plans (plans : Plans files path key text setting value changed) :
    (changed.map (·.1)).Nodup := by
  obtain ⟨_, table, reads, edits⟩ := plans
  have distinct := distinct_of_reads files path table reads
  cases edits with
  | absent _ => exact Toml.Table.nodup_insert _ _ table distinct
  | present _ => exact Toml.Table.nodup_insert _ _ table distinct

theorem Store.view_of_plans (plans : Plans files path key text setting value changed) :
    changed.view setting.keys = some (some value.toToml) := by
  obtain ⟨_, table, _, edits⟩ := plans
  rw [view_setEntry setting value table changed (setEntry_of_edits setting value table _ edits),
    Setting.keys, Effect.on, if_pos ⟨rfl, rfl⟩]
  cases value <;> rfl

theorem written_of_plans (emptied : Entry) (opened : files.write path [] = .ok emptied)
    (plans : Store.Plans files path key text setting value changed) :
    (Change.set key text).written path files = [changed] := by
  obtain ⟨asks, table, reads, edits⟩ := plans
  obtain ⟨resolved, parsed⟩ := Store.steps_of_asks key text setting value asks
  obtain ⟨notices, loaded⟩ := Store.loadTable_eq_ok files path table reads
  have edited : (Change.set key text).edited path files = .ok changed := by
    simp only [Change.edited, resolved, parsed, loaded, bind, Except.bind,
      Store.setEntry_of_edits setting value table _ edits]
  rw [Change.written, opened, edited]

theorem load_of_set
    (stored : (Store.set files path key text).result = .ok (setting, value))
    (faithful : ∀ table ∈ (Change.set key text).written path files, Toml.ComesBack table) :
    let loaded := (Store.load (Store.set files path key text).files path).result
    (∃ settings, loaded = .ok settings ∧ settings.get setting = value) ∨
      (∃ table ∈ (Change.set key text).written path files, HasTextlessItem table) ∧
        loaded = .error (.broken .badOffset) := by
  obtain ⟨after, ends⟩ := Store.ends_of_result files path key text _ stored
  have left := (Store.set_of_ends files path key text _ after ends).2
  cases ends with
  | @stored _ _ changed written _ plans rendered done =>
      obtain ⟨emptied, opened⟩ := files.exists_write after path _ [] done
      have only := written_of_plans files path key text setting value changed emptied opened plans
      rw [only] at faithful
      obtain ⟨again, back, same, parsed, view⟩ := faithful changed (List.mem_singleton_self changed)
      rw [rendered] at same
      cases same
      have loaded := loadTable_written path files after written back done parsed
      have values := load_values after path back [] loaded
      rw [left, only]
      cases result : (Store.load after path).result with
      | ok settings =>
          rw [result] at values
          have own := values setting
          rw [view, Store.view_of_plans files path key text setting value changed plans,
            valueOf_stored setting text value plans.1.2] at own
          exact Or.inl ⟨settings, rfl, (Except.ok.inj own).symm⟩
      | error error =>
          rw [result] at values
          obtain ⟨other, fault, failed, rfl⟩ := values
          rw [view] at failed
          obtain ⟨textless, rfl⟩ := hasTextlessItem_of_valueOf changed
            (Store.distinct_of_plans files path key text setting value changed plans) written
            rendered other fault failed
          exact Or.inr ⟨⟨changed, List.mem_singleton_self changed, textless⟩, rfl⟩

theorem comesBack_of_plans (missing : files.isPresent path = false)
    (legible : (Effect.stored setting value).isLegible = true)
    (plans : Store.Plans files path key text setting value changed) : Toml.ComesBack changed := by
  obtain ⟨asks, table, reads, edits⟩ := plans
  cases Store.eq_nil_of_missing files path missing table reads
  obtain ⟨entered, same, holds⟩ := holds_stored [] [] holds_nil setting value
  rw [Store.setEntry_of_edits setting value [] _ edits] at same
  cases same
  obtain ⟨sections, rfl, written⟩ := exists_plain_sections _ changed holds (by
    intro other given member
    cases List.mem_singleton.mp member
    exact plainValue_of_parse setting text value asks.2 legible)
  exact ⟨_, _, Toml.render_plain_sections sections written,
    Toml.parse_documentText sections written, rfl⟩

theorem not_hasTextlessItem_of_plans (missing : files.isPresent path = false)
    (plans : Store.Plans files path key text setting value changed) :
    ¬HasTextlessItem changed := by
  obtain ⟨_, table, reads, edits⟩ := plans
  cases Store.eq_nil_of_missing files path missing table reads
  rintro ⟨other, items, _, held, item, member, holds, _⟩
  have seen : changed.view other.keys = some (some (.array items)) := by
    rw [view_keys, held]
    rfl
  rw [view_setEntry setting value [] changed (Store.setEntry_of_edits setting value [] _ edits),
    Setting.keys, Effect.on] at seen
  split at seen
  · have same : value.toToml = .array items := by
      cases value <;> cases seen
      rfl
    cases value with
    | flag given => cases same
    | list texts =>
        cases same
        obtain ⟨text, _, rfl⟩ := List.mem_map.mp member
        cases holds
  · cases seen

theorem written_of_missing
    (stored : (Store.set files path key text).result = .ok (setting, value))
    (missing : files.isPresent path = false)
    (legible : (Effect.stored setting value).isLegible = true) :
    ∀ table ∈ (Change.set key text).written path files,
      Toml.ComesBack table ∧ ¬HasTextlessItem table := by
  obtain ⟨after, ends⟩ := Store.ends_of_result files path key text _ stored
  cases ends with
  | @stored _ _ changed written _ plans _ done =>
      obtain ⟨emptied, opened⟩ := files.exists_write after path _ [] done
      rw [written_of_plans files path key text setting value changed emptied opened plans]
      intro table member
      rw [List.mem_singleton.mp member]
      exact ⟨comesBack_of_plans files path key text setting value changed missing legible plans,
        not_hasTextlessItem_of_plans files path key text setting value changed missing plans⟩

end Set

theorem extensions_of_parse (text : Text) (items : List Text)
    (parsed : SettingValue.parse .extensions text = .ok (.list items)) :
    items = normalizeExtensions (SettingValue.listWords text) ∧ items ≠ [] := by
  simp only [SettingValue.parse] at parsed
  split at parsed
  · cases parsed
  · next held =>
      cases parsed
      exact ⟨rfl, by simpa using held⟩

theorem suffixes_of_normal (settings : Settings) (options : Script.Options)
    (held : settings.extensions ≠ [])
    (normal : ∀ extension ∈ settings.extensions, IsNormal extension) :
    (settings.scanRules options).suffixes = settings.extensions := by
  rw [Settings.scanRules, ScanRules.make]
  simp only [List.isEmpty_iff, held, if_false]
  rw [List.map_congr_left (fun extension member =>
    (steps_of_isNormal extension (normal extension member)).2.2), List.map_id']

/-- The file is loaded with these extensions, and a scan takes them. -/
def ScansTake (files : Entry) (path : Path) (items : List Text) : Prop :=
  ∃ settings, (Store.load files path).result = .ok settings ∧ settings.extensions = items ∧
    ∀ options, (settings.scanRules options).suffixes = items

theorem scansTake_of_load (files : Entry) (path : Path) (text : Text) (items : List Text)
    (parsed : SettingValue.parse .extensions text = .ok (.list items)) (settings : Settings)
    (loaded : (Store.load files path).result = .ok settings)
    (own : settings.get .extensions = .list items) : ScansTake files path items := by
  obtain ⟨same, held⟩ := extensions_of_parse text items parsed
  have kept : settings.extensions = items := SettingValue.list.inj own
  have normal := (normalizeExtensions_normal (SettingValue.listWords text)).2
  rw [← same, ← kept] at normal
  refine ⟨settings, loaded, kept, ?_⟩
  intro options
  rw [suffixes_of_normal settings options (kept ▸ held) normal, kept]

/-- Extensions are normalized once and for all. The normal list has no duplicates; its items are not
empty, start with a dot and are changed neither by stripping nor by lower case; they are the normal
forms of the texts that are not blank, in order of first occurrence; and normalizing them again
changes nothing. So the list that is stored when the extensions are set is loaded, and a scan takes
it, where no file has been and the items are legible. It also is where a file has been, if the format
gives back what is written, but that nothing is loaded if another list has an item with a table in it
that cannot be written out. -/
theorem scans_take_stored_extensions (texts : List Text) (files : Entry) (path : Path)
    (key text : Text) (items : List Text) :
    ((normalizeExtensions texts).Nodup ∧
      (∀ extension ∈ normalizeExtensions texts, extension ≠ [] ∧ extension.head? = some '.' ∧
        Text.strip extension = extension ∧ Text.lower extension = extension) ∧
      FirstOccurrences (normalForms texts) (normalizeExtensions texts) ∧
      normalizeExtensions (normalizeExtensions texts) = normalizeExtensions texts) ∧
    ((Store.set files path key text).result = .ok (.extensions, .list items) →
      items = normalizeExtensions (SettingValue.listWords text) ∧
      let after := (Store.set files path key text).files
      let tables := (Change.set key text).written path files
      (files.isPresent path = false ∧ items.all Toml.isLegible = true →
        ScansTake after path items) ∧
      ((∀ table ∈ tables, Toml.ComesBack table) →
        ScansTake after path items ∨ (∃ table ∈ tables, HasTextlessItem table) ∧
          (Store.load after path).result = .error (.broken .badOffset))) := by
  constructor
  · obtain ⟨distinct, normal⟩ := normalizeExtensions_normal texts
    refine ⟨distinct, ?_, firstOccurrences_normalizeExtensions texts,
      normalizeExtensions_normalizeExtensions texts⟩
    intro extension member
    exact ⟨(normal extension member).1, steps_of_isNormal extension (normal extension member)⟩
  · intro stored
    have parsed : SettingValue.parse .extensions text = .ok (.list items) := by
      obtain ⟨_, _, plans, _⟩ :=
        (Store.stored_iff files path key text .extensions (.list items)).mp stored
      exact plans.1.2
    have outcome := load_of_set files path key text .extensions (.list items) stored
    refine ⟨(extensions_of_parse text items parsed).1, ?_, ?_⟩
    · rintro ⟨missing, legible⟩
      have written := written_of_missing files path key text .extensions (.list items) stored missing
        legible
      rcases outcome (fun table member => (written table member).1) with
        ⟨settings, loaded, own⟩ | ⟨⟨table, member, textless⟩, _⟩
      · exact scansTake_of_load _ path text items parsed settings loaded own
      · exact absurd textless (written table member).2
    · intro faithful
      rcases outcome faithful with ⟨settings, loaded, own⟩ | broken
      · exact Or.inl (scansTake_of_load _ path text items parsed settings loaded own)
      · exact Or.inr broken

/-- Words with capitals of one, two and changing forms in lower case, and one of them twice. -/
def casedWords : Text :=
  "PS1, .ps1 \u0130nf \u039f\u0394\u039f\u03a3".toList

def lowerWords : List Text :=
  [".ps1", ".i\u0307nf", ".\u03bf\u03b4\u03bf\u03c2"].map String.toList

theorem scans_take_stored_extensions_cased :
    ScansTake (Store.set homeFiles homePath "extensions".toList casedWords).files homePath
      lowerWords ∧
    ScansTake (Store.set emptyHome homePath "scan.extensions".toList casedWords).files homePath
      lowerWords := by
  have readable : ((Change.set "extensions".toList casedWords).written homePath homeFiles).all
      Toml.readsBack = true := by decide +kernel
  have faithful (table : Toml.Table)
      (member : table ∈ (Change.set "extensions".toList casedWords).written homePath homeFiles) :
      Toml.ComesBack table :=
    Toml.comesBack_of_readsBack table (List.all_eq_true.mp readable table member)
  have loads : (Store.load (Store.set homeFiles homePath "extensions".toList casedWords).files
      homePath).result.toOption.isSome = true := by decide +kernel
  constructor
  · rcases ((scans_take_stored_extensions [] homeFiles homePath "extensions".toList casedWords
      lowerWords).2 (by decide +kernel)).2.2 faithful with taken | ⟨_, broken⟩
    · exact taken
    · rw [broken] at loads
      cases loads
  · exact ((scans_take_stored_extensions [] emptyHome homePath "scan.extensions".toList casedWords
      lowerWords).2 (by decide +kernel)).2.1 ⟨rfl, by decide +kernel⟩

/-- A soft hyphen in an extension is stored, but the file spells it out by the digits of its number:
without any notice a scan takes another extension. -/
theorem soft_hyphen_makes_another_extension :
    let change := Store.set emptyHome homePath "extensions".toList "p\u00ads1".toList
    change.result = .ok (.extensions, .list [".p\u00ads1".toList]) ∧
      (Store.load change.files homePath).result = .ok { extensions := [".pxads1".toList] } ∧
      (Store.load change.files homePath).notices = [] := by
  decide +kernel

end Outliner
