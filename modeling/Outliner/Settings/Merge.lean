import Outliner.Settings.Setting
import Outliner.Toml.Value

/-!
Settings from a table, over the defaults. Entries of the wrong type are reported and left out, and
entries that are no settings do not count.
-/

namespace Outliner

def SettingValue.toToml : SettingValue → Toml.Value
  | flag value => .bool value
  | list items => .array (items.map .text)

def Setting.entry? (setting : Setting) (table : Toml.Table) : Option Toml.Value :=
  match table.get? setting.sectionOf.name with
  | some (.table entries) => Toml.Table.get? setting.name entries
  | _ => none

structure Reading where
  settings : Settings := {}
  notices : List Notice := []
  fault : Option Toml.Fault := none

namespace Reading

def report (reading : Reading) (notice : Notice) : Reading :=
  { reading with notices := reading.notices ++ [notice] }

def takeList (reading : Reading) (items : List Toml.Value)
    (change : Settings → List Text → Settings) : Reading :=
  match items.mapM Toml.Value.asText with
  | .ok texts => { reading with settings := change reading.settings texts }
  | .error fault => { reading with fault := some fault }

def takeValue (reading : Reading) (setting : Setting) (value : Toml.Value) : Reading :=
  match setting, value with
  | .toggle toggle, .bool flag =>
    { reading with
      settings := { reading.settings with options := toggle.set reading.settings.options flag } }
  | .toggle _, _ => reading.report (.notBoolean setting.key value.shown)
  | .extensions, .array items =>
    reading.takeList items fun settings texts =>
      { settings with extensions := normalizeExtensions texts }
  | .skippedDirs, .array items =>
    reading.takeList items fun settings texts => { settings with skipped := texts }
  | _, _ => reading.report (.notList setting.key value.shown)

def take (table : Toml.Table) (reading : Reading) (setting : Setting) : Reading :=
  match reading.fault, setting.entry? table with
  | none, some value => reading.takeValue setting value
  | _, _ => reading

end Reading

def Settings.ofTable (table : Toml.Table) : Reading :=
  Setting.all.foldl (Reading.take table) {}

end Outliner
