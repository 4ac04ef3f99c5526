import Outliner.Text.Basic

namespace Outliner

inductive Flag where
  | help
  | version
  | verbose
  | expandAll (value : Bool)
  | showParameters (value : Bool)
  | showVariables (value : Bool)
deriving DecidableEq, Repr

structure Overrides where
  showParameters : Option Bool := none
  showVariables : Option Bool := none
deriving DecidableEq, Repr

inductive Command where
  | help (page : List Text)
  | version
  | show (path : Text) (expandAll : Bool) (overrides : Overrides)
  | browse (path : Text) (overrides : Overrides)
  | json (path : Text)
  | file (path : Text)
  | listSettings
  | setSetting (key value : Text)
  | resetSettings
deriving DecidableEq, Repr

def Command.path? : Command → Option Text
  | .show path _ _ => some path
  | .browse path _ => some path
  | .json path => some path
  | .file path => some path
  | _ => none

structure Invocation where
  verbose : Bool
  command : Command
deriving DecidableEq, Repr

/-- The flags of a command, but for the one for help, by their long and their short names. -/
structure FlagTable where
  long : List (Text × Flag) := []
  short : List (Char × Flag) := []
  mixed : Bool := true

namespace FlagTable

def isFlags (argument : Text) : Bool :=
  match argument with
  | '-' :: _ :: _ => true
  | _ => false

def flags? (table : FlagTable) (argument : Text) : Option (List Flag) :=
  let long := ("--help".toList, .help) :: table.long
  if (long.lookup (argument.takeWhile (· != '='))).isSome then
    (long.lookup argument).map ([·])
  else if "--".toList.isPrefixOf argument then none
  else (argument.drop 1).mapM fun c => table.short.lookup c

/-- The flags and the operands of a list of arguments. Two dashes end the flags. -/
def split? (table : FlagTable) : List Text → Option (List Flag × List Text)
  | [] => some ([], [])
  | argument :: rest =>
    if argument == "--".toList then some ([], rest)
    else if isFlags argument then do
      let flags ← table.flags? argument
      let (later, operands) ← split? table rest
      return (flags ++ later, operands)
    else if table.mixed then do
      let (flags, operands) ← split? table rest
      return (flags, argument :: operands)
    else some ([], argument :: rest)

end FlagTable

namespace Command

def overrideFlags : List (Text × Flag) :=
  [("--params", .showParameters true), ("--no-params", .showParameters false),
    ("--vars", .showVariables true), ("--no-vars", .showVariables false)].map
    fun (name, flag) => (name.toList, flag)

def displayFlags : List (Text × Flag) :=
  [("--expand-all", .expandAll true), ("--collapsed", .expandAll false)].map
    fun (name, flag) => (name.toList, flag)

def mainFlags : FlagTable where
  long := [("--version".toList, .version), ("--verbose".toList, .verbose)]
  short := [('v', .version), ('V', .verbose)]
  mixed := false

/-- Of flags that contradict each other, the last one counts. -/
def overrides (flags : List Flag) : Overrides :=
  flags.foldl (fun chosen flag =>
    match flag with
    | .showParameters value => { chosen with showParameters := some value }
    | .showVariables value => { chosen with showVariables := some value }
    | _ => chosen) {}

def expandAll (flags : List Flag) : Bool :=
  flags.foldl (fun chosen flag =>
    match flag with
    | .expandAll value => value
    | _ => chosen) true

/-- Reads what follows the name of a command. The flag for help takes the place of the command,
whatever the operands are. -/
def read? (table : FlagTable) (page : List Text) (arguments : List Text)
    (make : List Flag → List Text → Option Command) : Option Command := do
  let (flags, operands) ← table.split? arguments
  if flags.contains .help then return .help page
  make flags operands

def ofFlags? (page : List Text) (flags : List Flag) : Option Command :=
  flags.findSome? fun flag =>
    match flag with
    | .help => some (.help page)
    | .version => some .version
    | _ => none

/-- The command of a group of commands, given the flags before it. Where two dashes have ended the
flags and no command follows, the operands are read as flags again. -/
def ofGroup? (table : FlagTable) (page : List Text) (flags : List Flag) (operands : List Text)
    (read : Text → List Text → Option Command) : Option Command :=
  let again := (table.split? operands).bind fun (flags, _) => ofFlags? page flags
  (ofFlags? page flags).or <| again.or <|
    match operands with
    | [] => none
    | name :: rest => read name rest

def ofSettings? (name : Text) (arguments : List Text) : Option Command :=
  let read := read? {} ["config".toList, name] arguments
  match String.ofList name with
  | "show" => read fun _ operands => if operands.isEmpty then some .listSettings else none
  | "set" => read fun _ operands =>
    match operands with
    | [key, value] => some (.setSetting key value)
    | _ => none
  | "reset" => read fun _ operands => if operands.isEmpty then some .resetSettings else none
  | _ => none

def settingsFlags : FlagTable where
  mixed := false

def parse? (name : Text) (arguments : List Text) : Option Command :=
  let onPath := fun (long : List (Text × Flag)) (make : Text → List Flag → Command) =>
    read? { long } [name] arguments fun flags operands =>
      match operands with
      | [path] => some (make path flags)
      | _ => none
  match String.ofList name with
  | "show" => onPath (displayFlags ++ overrideFlags) fun path flags =>
    .show path (expandAll flags) (overrides flags)
  | "browse" => onPath overrideFlags fun path flags => .browse path (overrides flags)
  | "json" => onPath [] fun path _ => .json path
  | "file" => onPath [] fun path _ => .file path
  | "config" => do
    let (flags, operands) ← settingsFlags.split? arguments
    ofGroup? settingsFlags [name] flags operands ofSettings?
  | _ => none

end Command

def Invocation.parse? (arguments : List Text) : Option Invocation := do
  let (flags, operands) ← Command.mainFlags.split? arguments
  let command ← Command.ofGroup? Command.mainFlags [] flags operands Command.parse?
  return ⟨flags.contains .verbose, command⟩

end Outliner
