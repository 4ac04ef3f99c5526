import Outliner.Settings.Merge
import Outliner.Toml.Document
import Outliner.Toml.Render

namespace Outliner

inductive StoreError where
  | unknownKey (key : Text)
  | refused (setting : Setting) (text : Text) (refusal : SettingValue.Refusal)
  | unwritable (path : Path)
  | notText
  | broken (fault : Toml.Fault)
deriving DecidableEq, Repr

def StoreError.message? : StoreError → Option Text
  | unknownKey key => some ("Unknown config key '".toList ++ key ++ "'".toList)
  | refused setting text .expectedBoolean =>
    some ("Expected a boolean for '".toList ++ setting.key ++ "', got '".toList ++ text ++
      "'".toList)
  | refused setting _ .needsValue =>
    some ("'".toList ++ setting.key ++ "' needs at least one value".toList)
  | unwritable path => some ("Could not write ".toList ++ path.toText)
  | notText => none
  | broken _ => none

structure Outcome (α : Type) where
  files : Entry
  notices : List Notice := []
  result : Except StoreError α

def resolveKey (key : Text) : Except StoreError Setting :=
  match Setting.ofKey? key with
  | some setting => .ok setting
  | none => .error (.unknownKey key)

def parseValue (setting : Setting) (text : Text) : Except StoreError SettingValue :=
  (SettingValue.parse setting text).mapError (.refused setting text)

namespace Store

/-- The table of the settings file. A file that is missing or unreadable holds none. -/
def loadTable (files : Entry) (path : Path) : Except StoreError (Toml.Table × List Notice) :=
  if !files.isPresent path then .ok ([], [])
  else match files.read path with
    | .error trouble => .ok ([], [.settingsIgnored path trouble])
    | .ok bytes =>
      match Text.Utf8.decode? bytes with
      | none => .error .notText
      | some text =>
        match Toml.parse (Text.unifyNewlines text) with
        | .ok table => .ok (table, [])
        | .error .malformed => .ok ([], [.settingsIgnored path .malformed])
        | .error fault => .error (.broken fault)

def load (files : Entry) (path : Path) : Outcome Settings :=
  match loadTable files path with
  | .error error => ⟨files, [], .error error⟩
  | .ok (table, notices) =>
    let reading := Settings.ofTable table
    ⟨files, notices ++ reading.notices,
      match reading.fault with
      | none => .ok reading.settings
      | some fault => .error (.broken fault)⟩

/-- Writes the settings file. A table without a written form leaves it empty. -/
def save (files : Entry) (path : Path) (table : Toml.Table) : Outcome Bool :=
  match files.write path [] with
  | .error trouble => ⟨files, [.settingsUnwritable path trouble], .ok false⟩
  | .ok emptied =>
    match Toml.render table with
    | .error fault => ⟨emptied, [], .error (.broken fault)⟩
    | .ok text =>
      match files.write path (Text.Utf8.encode text) with
      | .error trouble => ⟨files, [.settingsUnwritable path trouble], .ok false⟩
      | .ok written => ⟨written, [], .ok true⟩

/-- Sets the entry of a setting. What stands in place of its section has to be a table. -/
def setEntry (setting : Setting) (value : SettingValue) (table : Toml.Table) :
    Except StoreError Toml.Table :=
  match (table.get? setting.sectionOf.name).getD (.table []) with
  | .table entries =>
    .ok (table.insert setting.sectionOf.name
      (.table (Toml.Table.insert setting.name value.toToml entries)))
  | _ => .error (.broken .notTable)

def set (files : Entry) (path : Path) (key text : Text) : Outcome (Setting × SettingValue) :=
  let prepared : Except StoreError (Setting × SettingValue) := do
    let setting ← resolveKey key
    return (setting, ← parseValue setting text)
  match prepared with
  | .error error => ⟨files, [], .error error⟩
  | .ok (setting, value) =>
    match loadTable files path with
    | .error error => ⟨files, [], .error error⟩
    | .ok (table, notices) =>
      match setEntry setting value table with
      | .error error => ⟨files, notices, .error error⟩
      | .ok changed =>
        let saved := save files path changed
        { saved with
          notices := notices ++ saved.notices
          result := saved.result.bind fun done =>
            if done then .ok (setting, value) else .error (.unwritable path) }

def reset (files : Entry) (path : Path) : Outcome Bool :=
  match loadTable files path with
  | .error error => ⟨files, [], .error error⟩
  | .ok (table, notices) =>
    let rest := (table.erase Section.parsing.name).erase Section.scan.name
    let saved := save files path rest
    { saved with notices := notices ++ saved.notices }

end Store

end Outliner
