import Outliner.Proofs.Settings.History
import Outliner.Proofs.Settings.Warnings

/-!
How a change of one setting ends, for every state of the settings file and every request. The
request, the file, the edit of its table and the writing are told apart, each by a relation of its
own, and every ending follows from which of them goes wrong first.
-/

namespace Outliner

/-- A setting goes by its key, or by its name alone. -/
def Setting.GoesBy (setting : Setting) (key : Text) : Prop :=
  key = setting.key ∨ key = setting.name

theorem ofKey?_eq_some (key : Text) (setting : Setting) :
    Setting.ofKey? key = some setting ↔ setting.GoesBy key := by
  have found : ∀ setting ∈ Setting.all, Setting.ofKey? setting.key = some setting ∧
      Setting.ofKey? setting.name = some setting := by decide
  constructor
  · intro known
    simpa [Setting.GoesBy] using List.find?_some known
  · intro goes
    rcases goes with rfl | rfl
    · exact (found setting setting.mem_all).1
    · exact (found setting setting.mem_all).2

theorem ofKey?_eq_none (key : Text) :
    Setting.ofKey? key = none ↔ ∀ setting : Setting, ¬setting.GoesBy key := by
  rw [Option.eq_none_iff_forall_ne_some]
  simp only [ne_eq, ofKey?_eq_some]

def Asks (key text : Text) (setting : Setting) (value : SettingValue) : Prop :=
  setting.GoesBy key ∧ SettingValue.parse setting text = .ok value

namespace Store

/-- What reading the settings file comes to. One that is missing, cannot be read or breaks the format
counts as empty. -/
inductive Reads (files : Entry) (path : Path) : Except StoreError Toml.Table → Prop where
  | unread {trouble : Trouble} :
      files.read path = .error trouble → Reads files path (.ok [])
  | notText {bytes : List UInt8} :
      files.read path = .ok bytes → Text.Utf8.decode? bytes = none →
      Reads files path (.error .notText)
  | malformed {bytes : List UInt8} {text : Text} :
      files.read path = .ok bytes → Text.Utf8.decode? bytes = some text →
      Toml.parse (Text.unifyNewlines text) = .error .malformed → Reads files path (.ok [])
  | broken {bytes : List UInt8} {text : Text} {fault : Toml.Fault} :
      files.read path = .ok bytes → Text.Utf8.decode? bytes = some text →
      Toml.parse (Text.unifyNewlines text) = .error fault → fault ≠ .malformed →
      Reads files path (.error (.broken fault))
  | parsed {bytes : List UInt8} {text : Text} {table : Toml.Table} :
      files.read path = .ok bytes → Text.Utf8.decode? bytes = some text →
      Toml.parse (Text.unifyNewlines text) = .ok table → Reads files path (.ok table)

theorem reads_loadTable (files : Entry) (path : Path) :
    Reads files path ((loadTable files path).map Prod.fst) := by
  rw [loadTable]
  cases read : files.read path with
  | error trouble =>
      split
      · exact .unread read
      · exact .unread read
  | ok bytes =>
      rw [files.isPresent_of_read path bytes read]
      simp only [Bool.not_true, Bool.false_eq_true, if_false]
      cases decoded : Text.Utf8.decode? bytes with
      | none => exact .notText read decoded
      | some text =>
          simp only
          split
          · next parsed => exact .parsed read decoded parsed
          · next parsed => exact .malformed read decoded parsed
          · next fault apart parsed => exact .broken read decoded parsed apart

theorem loadTable_of_reads (files : Entry) (path : Path) (result : Except StoreError Toml.Table)
    (reads : Reads files path result) : (loadTable files path).map Prod.fst = result := by
  rw [loadTable]
  cases reads with
  | unread unread =>
      split
      · rfl
      · rw [unread]
        rfl
  | notText read decoded =>
      rw [files.isPresent_of_read path _ read]
      simp only [Bool.not_true, Bool.false_eq_true, if_false, read, decoded]
      rfl
  | malformed read decoded parsed =>
      rw [files.isPresent_of_read path _ read]
      simp only [Bool.not_true, Bool.false_eq_true, if_false, read, decoded, parsed]
      rfl
  | broken read decoded parsed apart =>
      rw [files.isPresent_of_read path _ read]
      simp only [Bool.not_true, Bool.false_eq_true, if_false, read, decoded, parsed]
      rfl
  | parsed read decoded parsed =>
      rw [files.isPresent_of_read path _ read]
      simp only [Bool.not_true, Bool.false_eq_true, if_false, read, decoded, parsed]
      rfl

/-- What setting the entry of a setting comes to. The entry of its section, if there is one, has to be
a table. -/
inductive Edits (setting : Setting) (value : SettingValue) (table : Toml.Table) :
    Except StoreError Toml.Table → Prop where
  | absent :
      table.get? setting.sectionOf.name = none →
      Edits setting value table (.ok (table.insert setting.sectionOf.name
        (.table [(setting.name, value.toToml)])))
  | present {entries : Toml.Table} :
      table.get? setting.sectionOf.name = some (.table entries) →
      Edits setting value table (.ok (table.insert setting.sectionOf.name
        (.table (entries.insert setting.name value.toToml))))
  | blocked {entry : Toml.Value} :
      table.get? setting.sectionOf.name = some entry → entry.isTable = false →
      Edits setting value table (.error (.broken .notTable))

theorem edits_setEntry (setting : Setting) (value : SettingValue) (table : Toml.Table) :
    Edits setting value table (setEntry setting value table) := by
  rw [setEntry]
  cases held : table.get? setting.sectionOf.name with
  | none => exact .absent held
  | some entry =>
      cases entry with
      | table entries => exact .present held
      | _ => exact .blocked held rfl

theorem setEntry_of_edits (setting : Setting) (value : SettingValue) (table : Toml.Table)
    (result : Except StoreError Toml.Table) (edits : Edits setting value table result) :
    setEntry setting value table = result := by
  rw [setEntry]
  cases edits with
  | absent held => rw [held]; rfl
  | present held => rw [held]; rfl
  | @blocked entry held apart =>
      rw [held]
      cases entry with
      | table entries => cases apart
      | _ => rfl

def Plans (files : Entry) (path : Path) (key text : Text) (setting : Setting)
    (value : SettingValue) (changed : Toml.Table) : Prop :=
  Asks key text setting value ∧
    ∃ table, Reads files path (.ok table) ∧ Edits setting value table (.ok changed)

/-- How setting a value ends: its result and the files after it. Of the errors, only that of a table
without a written form changes the files. -/
inductive Ends (files : Entry) (path : Path) (key text : Text) :
    Except StoreError (Setting × SettingValue) → Entry → Prop where
  | unknown :
      (∀ setting : Setting, ¬setting.GoesBy key) →
      Ends files path key text (.error (.unknownKey key)) files
  | refused {setting : Setting} {refusal : SettingValue.Refusal} :
      setting.GoesBy key → SettingValue.parse setting text = .error refusal →
      Ends files path key text (.error (.refused setting text refusal)) files
  | unread {setting : Setting} {value : SettingValue} {error : StoreError} :
      Asks key text setting value → Reads files path (.error error) →
      Ends files path key text (.error error) files
  | blocked {setting : Setting} {value : SettingValue} {table : Toml.Table} {error : StoreError} :
      Asks key text setting value → Reads files path (.ok table) →
      Edits setting value table (.error error) → Ends files path key text (.error error) files
  | unwritable {setting : Setting} {value : SettingValue} {changed : Toml.Table} :
      Plans files path key text setting value changed → ¬files.IsWritable path →
      Ends files path key text (.error (.unwritable path)) files
  | emptied {setting : Setting} {value : SettingValue} {changed : Toml.Table} {fault : Toml.Fault}
      {after : Entry} :
      Plans files path key text setting value changed → Toml.render changed = .error fault →
      files.write path [] = .ok after → Ends files path key text (.error (.broken fault)) after
  | stored {setting : Setting} {value : SettingValue} {changed : Toml.Table} {written : Text}
      {after : Entry} :
      Plans files path key text setting value changed → Toml.render changed = .ok written →
      files.write path (Text.Utf8.encode written) = .ok after →
      Ends files path key text (.ok (setting, value)) after

section Endings

variable (files : Entry) (path : Path) (key text : Text)

theorem steps_of_asks (setting : Setting) (value : SettingValue)
    (asks : Asks key text setting value) :
    resolveKey key = .ok setting ∧ parseValue setting text = .ok value := by
  rw [resolveKey, (ofKey?_eq_some key setting).mpr asks.1, parseValue, asks.2]
  exact ⟨rfl, rfl⟩

theorem loadTable_eq_error (error : StoreError) (reads : Reads files path (.error error)) :
    loadTable files path = .error error := by
  have loaded := loadTable_of_reads files path _ reads
  cases found : loadTable files path with
  | error other =>
      rw [found] at loaded
      exact congrArg Except.error (Except.error.inj loaded)
  | ok table =>
      rw [found] at loaded
      cases loaded

theorem loadTable_eq_ok (table : Toml.Table) (reads : Reads files path (.ok table)) :
    ∃ notices, loadTable files path = .ok (table, notices) := by
  have loaded := loadTable_of_reads files path _ reads
  cases found : loadTable files path with
  | error other =>
      rw [found] at loaded
      cases loaded
  | ok pair =>
      rw [found] at loaded
      exact ⟨pair.2, by rw [← Except.ok.inj loaded]⟩

theorem set_of_plans (setting : Setting) (value : SettingValue) (changed : Toml.Table)
    (plans : Plans files path key text setting value changed) :
    (set files path key text).files = (save files path changed).files ∧
      (set files path key text).result = (save files path changed).result.bind fun done =>
        if done then .ok (setting, value) else .error (.unwritable path) := by
  rcases plans with ⟨asks, table, reads, edits⟩
  rcases steps_of_asks key text setting value asks with ⟨resolved, parsed⟩
  rcases loadTable_eq_ok files path table reads with ⟨notices, loaded⟩
  exact set_of_steps path files key text setting value table changed notices resolved parsed loaded
    (setEntry_of_edits setting value table _ edits)

theorem set_of_ends (result : Except StoreError (Setting × SettingValue)) (after : Entry)
    (ends : Ends files path key text result after) :
    (set files path key text).result = result ∧ (set files path key text).files = after := by
  cases ends with
  | unknown unnamed =>
      simp only [set, resolveKey, (ofKey?_eq_none key).mpr unnamed, bind, Except.bind, and_self]
  | @refused setting refusal goes parsed =>
      have given : parseValue setting text = .error (.refused setting text refusal) := by
        rw [parseValue, parsed]
        rfl
      simp only [set, resolveKey, (ofKey?_eq_some key setting).mpr goes, given, bind, Except.bind,
        and_self]
  | @unread setting value error asks reads =>
      rcases steps_of_asks key text setting value asks with ⟨resolved, parsed⟩
      simp only [set, resolved, parsed, loadTable_eq_error files path error reads, bind, Except.bind,
        pure, Except.pure, and_self]
  | @blocked setting value table error asks reads edits =>
      rcases steps_of_asks key text setting value asks with ⟨resolved, parsed⟩
      rcases loadTable_eq_ok files path table reads with ⟨notices, loaded⟩
      simp only [set, resolved, parsed, loaded, setEntry_of_edits setting value table _ edits, bind,
        Except.bind, pure, Except.pure, and_self]
  | @unwritable setting value changed plans unwritable =>
      rcases set_of_plans files path key text setting value changed plans with ⟨left, outcome⟩
      rcases save_unwritable path files changed unwritable with ⟨kept, failed⟩
      rw [left, outcome, kept, failed]
      exact ⟨rfl, rfl⟩
  | @emptied setting value changed fault after plans rendered opened =>
      rcases set_of_plans files path key text setting value changed plans with ⟨left, outcome⟩
      rcases save_emptied path files changed fault after rendered opened with ⟨emptied, failed⟩
      rw [left, outcome, emptied, failed]
      exact ⟨rfl, rfl⟩
  | @stored setting value changed written after plans rendered done =>
      rcases set_of_plans files path key text setting value changed plans with ⟨left, outcome⟩
      rcases save_stored path files changed written after rendered done with ⟨stored, success⟩
      rw [left, outcome, stored, success]
      exact ⟨rfl, rfl⟩

theorem ends_of_plans (setting : Setting) (value : SettingValue) (changed : Toml.Table)
    (plans : Plans files path key text setting value changed) :
    ∃ result after, Ends files path key text result after := by
  by_cases writable : files.IsWritable path
  · rcases writable with ⟨bytes, written, done⟩
    cases rendered : Toml.render changed with
    | error fault =>
        rcases files.exists_write written path bytes [] done with ⟨emptied, opened⟩
        exact ⟨_, emptied, .emptied plans rendered opened⟩
    | ok final =>
        rcases files.exists_write written path bytes (Text.Utf8.encode final) done with
          ⟨after, stored⟩
        exact ⟨_, after, .stored plans rendered stored⟩
  · exact ⟨_, files, .unwritable plans writable⟩

theorem exists_ends : ∃ result after, Ends files path key text result after := by
  cases found : Setting.ofKey? key with
  | none => exact ⟨_, files, .unknown ((ofKey?_eq_none key).mp found)⟩
  | some setting =>
      have goes := (ofKey?_eq_some key setting).mp found
      cases parsed : SettingValue.parse setting text with
      | error refusal => exact ⟨_, files, .refused goes parsed⟩
      | ok value =>
          have reads := reads_loadTable files path
          cases loaded : (loadTable files path).map Prod.fst with
          | error error =>
              rw [loaded] at reads
              exact ⟨_, files, .unread ⟨goes, parsed⟩ reads⟩
          | ok table =>
              rw [loaded] at reads
              have edits := edits_setEntry setting value table
              cases entered : setEntry setting value table with
              | error error =>
                  rw [entered] at edits
                  exact ⟨_, files, .blocked ⟨goes, parsed⟩ reads edits⟩
              | ok changed =>
                  rw [entered] at edits
                  exact ends_of_plans files path key text setting value changed
                    ⟨⟨goes, parsed⟩, table, reads, edits⟩

theorem ends_set :
    Ends files path key text (set files path key text).result (set files path key text).files := by
  rcases exists_ends files path key text with ⟨result, after, ends⟩
  rcases set_of_ends files path key text result after ends with ⟨same, left⟩
  rwa [same, left]

theorem ends_of_result (result : Except StoreError (Setting × SettingValue))
    (ended : (set files path key text).result = result) :
    ∃ after, Ends files path key text result after := by
  rw [← ended]
  exact ⟨_, ends_set files path key text⟩

theorem files_of_error (error : StoreError)
    (failed : (set files path key text).result = .error error) :
    (set files path key text).files = files ∨
      ∃ setting value changed fault, Plans files path key text setting value changed ∧
        Toml.render changed = .error fault ∧ error = .broken fault ∧
        (set files path key text).files.read path = .ok [] := by
  rcases ends_of_result files path key text _ failed with ⟨after, ends⟩
  have left := (set_of_ends files path key text _ after ends).2
  cases ends with
  | unknown _ => exact .inl left
  | refused _ _ => exact .inl left
  | unread _ _ => exact .inl left
  | blocked _ _ _ => exact .inl left
  | unwritable _ _ => exact .inl left
  | @emptied setting value changed fault after plans rendered opened =>
      refine .inr ⟨setting, value, changed, fault, plans, rendered, rfl, ?_⟩
      rw [left]
      exact (files.read_write after path [] opened).2

theorem message_iff :
    (∃ error, (set files path key text).result = .error error ∧ error.message?.isSome = true) ↔
      (∀ setting : Setting, ¬setting.GoesBy key) ∨
      (∃ setting refusal, Setting.GoesBy setting key ∧
        SettingValue.parse setting text = .error refusal) ∨
      ∃ setting value changed, Plans files path key text setting value changed ∧
        ¬files.IsWritable path := by
  constructor
  · intro reported
    rcases reported with ⟨error, failed, worded⟩
    rcases ends_of_result files path key text _ failed with ⟨after, ends⟩
    cases ends with
    | unknown unnamed => exact .inl unnamed
    | refused goes parsed => exact .inr (.inl ⟨_, _, goes, parsed⟩)
    | unread _ reads => cases reads <;> cases worded
    | blocked _ _ edits => cases edits; cases worded
    | unwritable plans unwritable => exact .inr (.inr ⟨_, _, _, plans, unwritable⟩)
    | emptied _ _ _ => cases worded
  · intro wrong
    rcases wrong with unnamed | ⟨setting, refusal, goes, parsed⟩ | ⟨_, _, _, plans, unwritable⟩
    · exact ⟨_, (set_of_ends files path key text _ _ (.unknown unnamed)).1, rfl⟩
    · refine ⟨_, (set_of_ends files path key text _ _ (.refused goes parsed)).1, ?_⟩
      cases refusal <;> rfl
    · exact ⟨_, (set_of_ends files path key text _ _ (.unwritable plans unwritable)).1, rfl⟩

theorem notText_iff :
    (set files path key text).result = .error .notText ↔
      (∃ setting value, Asks key text setting value) ∧
        ∃ bytes, files.read path = .ok bytes ∧ Text.Utf8.decode? bytes = none := by
  constructor
  · intro failed
    rcases ends_of_result files path key text _ failed with ⟨after, ends⟩
    cases ends with
    | unread asks reads =>
        cases reads with
        | notText read undecoded => exact ⟨⟨_, _, asks⟩, _, read, undecoded⟩
    | blocked _ _ edits => cases edits
  · intro wrong
    rcases wrong with ⟨⟨setting, value, asks⟩, bytes, read, undecoded⟩
    exact (set_of_ends files path key text _ _ (.unread asks (.notText read undecoded))).1

theorem broken_iff (fault : Toml.Fault) :
    (set files path key text).result = .error (.broken fault) ↔
      ∃ setting value, Asks key text setting value ∧
        (Reads files path (.error (.broken fault)) ∨
        (fault = .notTable ∧ ∃ table entry, Reads files path (.ok table) ∧
          table.get? setting.sectionOf.name = some entry ∧ entry.isTable = false) ∨
        ∃ changed, Plans files path key text setting value changed ∧ files.IsWritable path ∧
          Toml.render changed = .error fault) := by
  constructor
  · intro failed
    rcases ends_of_result files path key text _ failed with ⟨after, ends⟩
    cases ends with
    | unread asks reads => exact ⟨_, _, asks, .inl reads⟩
    | blocked asks reads edits =>
        cases edits with
        | blocked held apart => exact ⟨_, _, asks, .inr (.inl ⟨rfl, _, _, reads, held, apart⟩)⟩
    | emptied plans rendered opened =>
        exact ⟨_, _, plans.1, .inr (.inr ⟨_, plans, ⟨[], _, opened⟩, rendered⟩)⟩
  · intro wrong
    rcases wrong with ⟨setting, value, asks,
      reads | ⟨rfl, table, entry, reads, held, apart⟩ | ⟨changed, plans, writable, rendered⟩⟩
    · exact (set_of_ends files path key text _ _ (.unread asks reads)).1
    · exact (set_of_ends files path key text _ _ (.blocked asks reads (.blocked held apart))).1
    · rcases writable with ⟨bytes, written, done⟩
      rcases files.exists_write written path bytes [] done with ⟨emptied, opened⟩
      exact (set_of_ends files path key text _ _ (.emptied plans rendered opened)).1

theorem stored_iff (setting : Setting) (value : SettingValue) :
    (set files path key text).result = .ok (setting, value) ↔
      ∃ changed written, Plans files path key text setting value changed ∧
        files.IsWritable path ∧ Toml.render changed = .ok written ∧
        (set files path key text).files.read path = .ok (Text.Utf8.encode written) := by
  constructor
  · intro success
    rcases ends_of_result files path key text _ success with ⟨after, ends⟩
    have left := (set_of_ends files path key text _ after ends).2
    cases ends with
    | @stored _ _ changed written after plans rendered done =>
        refine ⟨changed, written, plans, ⟨_, after, done⟩, rendered, ?_⟩
        rw [left]
        exact (files.read_write after path _ done).2
  · intro fine
    rcases fine with ⟨changed, written, plans, ⟨bytes, other, done⟩, rendered, _⟩
    rcases files.exists_write other path bytes (Text.Utf8.encode written) done with ⟨after, stored⟩
    exact (set_of_ends files path key text _ _ (.stored plans rendered stored)).1

end Endings

/-- A change of one setting in full. An error leaves the files as they are, but that a table without a
written form empties the file. An error has words if and only if no setting goes by the key, the text
is no value of it, or all is fine but the file cannot be written. The others are that the file is no
text, and a table that cannot be read, changed or written. Without any of them the change returns the
setting and its value, and the file holds the changed table. -/
theorem set_all_or_nothing (files : Entry) (path : Path) (key text : Text) :
    (∀ error, (set files path key text).result = .error error →
      (set files path key text).files = files ∨
        ∃ setting value changed fault, Plans files path key text setting value changed ∧
          Toml.render changed = .error fault ∧ error = .broken fault ∧
          (set files path key text).files.read path = .ok []) ∧
    ((∃ error, (set files path key text).result = .error error ∧ error.message?.isSome = true) ↔
      (∀ setting : Setting, ¬setting.GoesBy key) ∨
      (∃ setting refusal, Setting.GoesBy setting key ∧
        SettingValue.parse setting text = .error refusal) ∨
      ∃ setting value changed, Plans files path key text setting value changed ∧
        ¬files.IsWritable path) ∧
    ((set files path key text).result = .error .notText ↔
      (∃ setting value, Asks key text setting value) ∧
        ∃ bytes, files.read path = .ok bytes ∧ Text.Utf8.decode? bytes = none) ∧
    (∀ fault, (set files path key text).result = .error (.broken fault) ↔
      ∃ setting value, Asks key text setting value ∧
        (Reads files path (.error (.broken fault)) ∨
        (fault = .notTable ∧ ∃ table entry, Reads files path (.ok table) ∧
          table.get? setting.sectionOf.name = some entry ∧ entry.isTable = false) ∨
        ∃ changed, Plans files path key text setting value changed ∧ files.IsWritable path ∧
          Toml.render changed = .error fault)) ∧
    ∀ setting value, (set files path key text).result = .ok (setting, value) ↔
      ∃ changed written, Plans files path key text setting value changed ∧
        files.IsWritable path ∧ Toml.render changed = .ok written ∧
        (set files path key text).files.read path = .ok (Text.Utf8.encode written) :=
  ⟨files_of_error files path key text, message_iff files path key text,
    notText_iff files path key text, broken_iff files path key text,
    stored_iff files path key text⟩

instance decidableEqExcept {α ε : Type} [DecidableEq α] [DecidableEq ε] : DecidableEq (Except ε α)
  | .ok a, .ok b => decidable_of_iff (a = b) ⟨congrArg Except.ok, Except.ok.inj⟩
  | .error a, .error b => decidable_of_iff (a = b) ⟨congrArg Except.error, Except.error.inj⟩
  | .ok _, .error _ => .isFalse (fun same => by cases same)
  | .error _, .ok _ => .isFalse (fun same => by cases same)

/-- A settings file with a section of another program only. -/
def otherText : Text :=
  "[other]\nname = \"x\"\n".toList

def otherFiles : Entry :=
  .dir [("home".toList, .dir [("config.toml".toList, .file (Text.Utf8.encode otherText))])]

/-- The name of a folder that starts with a soft hyphen is a value, and the file can be read and
written, but the item has no written form: the section of the other program is lost. -/
theorem hidden_item_empties_file :
    otherFiles.read homePath = .ok (Text.Utf8.encode otherText) ∧
      SettingValue.parse .skippedDirs "\u00adbin".toList = .ok (.list ["\u00adbin".toList]) ∧
      (set otherFiles homePath "skip_dirs".toList "\u00adbin".toList).result =
        .error (.broken .cutShort) ∧
      (set otherFiles homePath "skip_dirs".toList "\u00adbin".toList).files.read homePath =
        .ok [] :=
  ⟨by decide +kernel, by decide +kernel, by decide +kernel, by decide +kernel⟩

end Store

end Outliner
