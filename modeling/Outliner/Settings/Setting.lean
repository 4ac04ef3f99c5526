import Outliner.Files.Scan

namespace Outliner

inductive Section where
  | parsing
  | scan
deriving DecidableEq, Repr

inductive Toggle where
  | parseParameterTypes
  | parseVariableAssignments
  | expandFunctionDetails
  | showParameters
  | showVariables
  | showFunctionNames
deriving DecidableEq, Repr

inductive Setting where
  | toggle (toggle : Toggle)
  | extensions
  | skippedDirs
deriving DecidableEq, Repr

inductive SettingValue where
  | flag (value : Bool)
  | list (items : List Text)
deriving DecidableEq, Repr

structure Settings where
  options : Script.Options := {}
  extensions : List Text := defaultExtensions
  skipped : List Text := defaultSkipped
deriving DecidableEq, Repr

def Section.name : Section → Text
  | parsing => "parsing".toList
  | scan => "scan".toList

namespace Toggle

def all : List Toggle := [
  parseParameterTypes, parseVariableAssignments, expandFunctionDetails, showParameters,
  showVariables, showFunctionNames]

def name : Toggle → Text
  | parseParameterTypes => "parse_parameter_types".toList
  | parseVariableAssignments => "parse_variable_assignments".toList
  | expandFunctionDetails => "expand_function_details".toList
  | showParameters => "show_parameters".toList
  | showVariables => "show_variables".toList
  | showFunctionNames => "show_function_names".toList

def get (options : Script.Options) : Toggle → Bool
  | parseParameterTypes => options.parseParameterTypes
  | parseVariableAssignments => options.parseVariableAssignments
  | expandFunctionDetails => options.expandFunctionDetails
  | showParameters => options.showParameters
  | showVariables => options.showVariables
  | showFunctionNames => options.showFunctionNames

def set (options : Script.Options) (value : Bool) : Toggle → Script.Options
  | parseParameterTypes => { options with parseParameterTypes := value }
  | parseVariableAssignments => { options with parseVariableAssignments := value }
  | expandFunctionDetails => { options with expandFunctionDetails := value }
  | showParameters => { options with showParameters := value }
  | showVariables => { options with showVariables := value }
  | showFunctionNames => { options with showFunctionNames := value }

end Toggle

namespace Setting

def all : List Setting :=
  Toggle.all.map toggle ++ [extensions, skippedDirs]

def sectionOf : Setting → Section
  | toggle _ => .parsing
  | extensions => .scan
  | skippedDirs => .scan

def name : Setting → Text
  | toggle choice => choice.name
  | extensions => "extensions".toList
  | skippedDirs => "skip_dirs".toList

def key (setting : Setting) : Text :=
  setting.sectionOf.name ++ '.' :: setting.name

/-- The setting of a key, which may be given without its section. -/
def ofKey? (key : Text) : Option Setting :=
  all.find? fun setting => key == setting.key || key == setting.name

end Setting

namespace Settings

def get (settings : Settings) : Setting → SettingValue
  | .toggle toggle => .flag (toggle.get settings.options)
  | .extensions => .list settings.extensions
  | .skippedDirs => .list settings.skipped

/-- The rules of a scan by these settings, but for the options that are given. -/
def scanRules (settings : Settings) (options : Script.Options) : ScanRules :=
  .make options settings.extensions settings.skipped

end Settings

def normalExtension (text : Text) : Text :=
  match Text.lower (Text.strip text) with
  | [] => []
  | '.' :: rest => '.' :: rest
  | extension => '.' :: extension

/-- The normal forms of extensions, each once, in order of first occurrence. Blank ones are left
out. -/
def normalizeExtensions (extensions : List Text) : List Text :=
  extensions.foldl (fun done text =>
    let extension := normalExtension text
    if extension.isEmpty || done.contains extension then done else done ++ [extension]) []

namespace SettingValue

inductive Refusal where
  | expectedBoolean
  | needsValue
deriving DecidableEq, Repr

def trueWords : List Text := ["true", "yes", "on", "1"].map String.toList

def falseWords : List Text := ["false", "no", "off", "0"].map String.toList

def listWords (text : Text) : List Text :=
  Text.words (text.map fun c => if c == ',' then ' ' else c)

def parse (setting : Setting) (text : Text) : Except Refusal SettingValue :=
  let listOf := fun (items : List Text) =>
    if items.isEmpty then Except.error Refusal.needsValue else .ok (list items)
  match setting with
  | .toggle _ =>
    let word := Text.lower (Text.strip text)
    if trueWords.contains word then .ok (flag true)
    else if falseWords.contains word then .ok (flag false)
    else .error .expectedBoolean
  | .extensions => listOf (normalizeExtensions (listWords text))
  | .skippedDirs => listOf (listWords text)

end SettingValue

end Outliner
