import Outliner.Browser.Session
import Outliner.Command.Arguments
import Outliner.Outline.Tally
import Outliner.Settings.Store

namespace Outliner

structure Context where
  files : Entry
  settings : Path
  width : Nat
  help : List Text → Text := fun _ => []

inductive Failure where
  | store (error : StoreError)
  | markup (fault : Markup.Fault)
  | notNumber
deriving DecidableEq, Repr

structure Report where
  exit : Nat := 0
  output : Text := []
  failure : Option Failure := none
  notices : List Notice := []
  files : Entry

inductive Stage where
  | done (report : Report)
  | browsing (report : Report) (root : Node)

namespace Context

def succeed (context : Context) (notices : List Notice) (output : Text) : Report :=
  { output, notices, files := context.files }

def fail (context : Context) (failure : Failure) (notices : List Notice) (output : Text) : Report :=
  { exit := 1, output, failure := some failure, notices, files := context.files }

def refuse (context : Context) : Report :=
  { exit := 2, files := context.files }

def say (context : Context) (notices : List Notice) (markup : Text) : Report :=
  match Display.tryPrint context.width markup with
  | .ok output => context.succeed notices output
  | .error fault => context.fail (.markup fault) notices []

def sayAll (context : Context) : List Text → Text × Option Markup.Fault
  | [] => ([], none)
  | markup :: rest =>
    match Display.tryPrint context.width markup with
    | .error fault => ([], some fault)
    | .ok output =>
      let (later, fault) := context.sayAll rest
      (output ++ later, fault)

/-- The path of a file, or of a directory if that is allowed. It has to be there and to be
readable. -/
def target (context : Context) (text : Text) (allowDirectory : Bool) : Except Report Path :=
  let path := Path.ofText text
  match context.files.resolve path with
  | .ok (.file _) => .ok path
  | .ok (.dir _) => if allowDirectory then .ok path else .error context.refuse
  | _ => .error context.refuse

/-- The settings, or the report of their failure. Notices are reported while settings are loaded, so
that one without words breaks this off. -/
def loadSettings (context : Context) : Except Report (Settings × List Notice) :=
  let loaded := Store.load context.files context.settings
  if loaded.notices.all Notice.hasWords then
    match loaded.result with
    | .ok settings => .ok (settings, loaded.notices)
    | .error error => .error (context.fail (.store error) loaded.notices [])
  else
    .error (context.fail (.store (.broken .badOffset)) (loaded.notices.takeWhile Notice.hasWords) [])

end Context

namespace Command

def applyOverrides (overrides : Overrides) (options : Script.Options) : Script.Options :=
  { options with
    showParameters := overrides.showParameters.getD options.showParameters
    showVariables := overrides.showVariables.getD options.showVariables }

/-- The outline of a file or a directory by the settings. They are loaded once for the rules of the
scan and once for the options. -/
def buildOutline (context : Context) (text : Text) (overrides : Overrides) :
    Except Report (Path × Node × List Notice) := do
  let path ← context.target text true
  let (settings, notices) ← context.loadSettings
  let rules := settings.scanRules (applyOverrides overrides settings.options)
  match scan context.files rules path with
  | .error _ => .error context.refuse
  | .ok (root, found) => .ok (path, root, notices ++ notices ++ found)

def countsMarkup (root : Node) : Text :=
  let counts := tally [root]
  let count := fun (kind : Kind) => Text.ofNat (counts.count kind)
  Display.dim ("Files: ".toList ++ count .file ++ "  Classes: ".toList ++ count .classType ++
    "  Functions: ".toList ++ count .function)

def runShow (context : Context) (text : Text) (expandAll : Bool) (overrides : Overrides) : Report :=
  match buildOutline context text overrides with
  | .error report => report
  | .ok (path, root, notices) =>
    if root.hasChildren then
      context.succeed notices (Display.printOutline context.width root expandAll ++
        Display.print context.width (countsMarkup root))
    else
      context.say notices
        (Display.styled "yellow".toList ("No outline found under ".toList ++ path.toText))

/-- Outlines a file as JSON whatever its name is. -/
def runJson (context : Context) (text : Text) : Report :=
  match context.target text false with
  | .error report => report
  | .ok path =>
    let bytes := (context.files.read path).toOption.getD []
    let forest := Json.outline (Text.Utf8.readSource bytes) 1 path.toText
    let report := context.succeed [] (Display.printTree context.width forest path.name true)
    if forest.head?.any (·.kind == .error) then { report with exit := 1 } else report

def runFile (context : Context) (text : Text) : Report :=
  match context.target text false with
  | .error report => report
  | .ok path =>
    match context.loadSettings with
    | .error report => report
    | .ok (settings, notices) =>
      let (node, remarks) := outlineFile context.files settings.options path 0
      if node.hasChildren then
        context.succeed (notices ++ remarks) (Display.printOutline context.width node true)
      else
        context.say (notices ++ remarks)
          (Display.styled "yellow".toList ("No structure recognised in ".toList ++ path.name))

def settingText : SettingValue → Text
  | .flag true => "True".toList
  | .flag false => "False".toList
  | .list items => Text.join [' '] items

def settingsMarkup (settings : Settings) : List Text :=
  [Section.parsing, .scan].flatMap fun part =>
    let heading := Display.styled "bold".toList ('\\' :: Markup.bracketed part.name)
    let entries := Setting.all.filter (·.sectionOf == part)
    heading :: entries.map fun setting =>
      "  ".toList ++ setting.name.rightpad 28 ' ' ++ ' ' ::
        Display.styled "cyan".toList (settingText (settings.get setting))

def runListSettings (context : Context) : Report :=
  match context.loadSettings with
  | .error report => report
  | .ok (settings, notices) =>
    let (output, fault) := context.sayAll (settingsMarkup settings)
    let note := if context.files.isPresent context.settings then [] else
      " (not created, using defaults)".toList
    -- The last line is never broken.
    let last := Display.dim ("Config file: ".toList ++ context.settings.toText ++ note)
    match fault, Markup.render last with
    | none, .ok shown =>
      let line := if context.width == 0 then [] else shown.text ++ ['\n']
      context.succeed notices (output ++ line)
    | some fault, _ | none, .error fault => context.fail (.markup fault) notices output

def runSetSetting (context : Context) (key value : Text) : Report :=
  let outcome := Store.set context.files context.settings key value
  let after := { context with files := outcome.files }
  match outcome.result with
  | .ok (setting, stored) =>
    after.say outcome.notices (Display.styled "green".toList "✓".toList ++ ' ' :: setting.key ++
      " = ".toList ++ settingText stored)
  | .error error =>
    match error.message? with
    | none => after.fail (.store error) outcome.notices []
    | some message =>
      { after.say outcome.notices (Display.styled "red".toList "✗".toList ++ ' ' :: message) with
        exit := 1 }

def runResetSettings (context : Context) : Report :=
  let outcome := Store.reset context.files context.settings
  let after := { context with files := outcome.files }
  match outcome.result with
  | .error error => after.fail (.store error) outcome.notices []
  | .ok true =>
    after.say outcome.notices
      (Display.styled "green".toList "✓".toList ++ " Configuration reset to defaults".toList)
  | .ok false =>
    { after.say outcome.notices
        (Display.styled "red".toList "✗".toList ++ " Could not write config file".toList) with
      exit := 1 }

def versionLine : Text :=
  "psoutline v0.1.0\n".toList

def start (context : Context) : Command → Stage
  | .help page => .done (context.succeed [] (context.help page))
  | .version => .done (context.succeed [] versionLine)
  | .show path expandAll overrides => .done (runShow context path expandAll overrides)
  | .browse path overrides =>
    match buildOutline context path overrides with
    | .error report => .done report
    | .ok (_, root, notices) =>
      let opened := Browser.opened root
      .browsing (context.succeed notices (Browser.heading context.width opened)) opened
  | .json path => .done (runJson context path)
  | .file path => .done (runFile context path)
  | .listSettings => .done (runListSettings context)
  | .setSetting key value => .done (runSetSetting context key value)
  | .resetSettings => .done (runResetSettings context)

end Command

namespace Browser

def Ending.close (ending : Ending) (report : Report) : Report :=
  match ending with
  | .goodbye => report
  | .notNumber => { report with exit := 1, failure := some .notNumber }
  | .endOfInput => { report with exit := 1 }

end Browser

def Command.run (context : Context) (command : Command) (input : Text) : Report :=
  match command.start context with
  | .done report => report
  | .browsing report root =>
    let ended := Browser.run context.width root (Browser.inputLines input)
    ended.ending.close { report with output := report.output ++ ended.output }

def Invocation.run (context : Context) (arguments : List Text) (input : Text) : Report :=
  match Invocation.parse? arguments with
  | none => context.refuse
  | some invocation =>
    let report := invocation.command.run context input
    { report with
      notices := report.notices.filter fun notice =>
        invocation.verbose || notice.severity == .warning }

end Outliner
