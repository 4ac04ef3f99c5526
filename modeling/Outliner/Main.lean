import Outliner.Command.Run

namespace Outliner.Program

def describe : Trouble → Text
  | .notFound => "no such file or directory".toList
  | .isDirectory => "is a directory".toList
  | .notDirectory => "not a directory".toList
  | .alreadyExists => "file exists".toList
  | .badPath => "not a path".toList
  | .tooLong => "name too long".toList
  | .malformed => "not in the format of settings".toList

def explain : Failure → Text
  | .store (.broken _) => "The settings file cannot be read.".toList
  | .store .notText => "The settings file is not text.".toList
  | .store error => (error.message?).getD []
  | .markup .unmatched => "A closing tag does not match any open tag.".toList
  | .markup .badArguments => "The arguments of a tag are not literals.".toList
  | .markup .badNumber => "A colour in a tag is not made of numbers.".toList
  | .notNumber => "The choice is not a number.".toList

def usage : Text :=
  "Usage: [-v | --version] [-V | --verbose] show | browse | json | file | config\n".toList

def put (stream : IO.FS.Stream) (text : Text) : IO Unit := do
  stream.putStr (String.ofList text)
  stream.flush

/-- Reads a file, or a directory with all that is below it. Directories whose names start with a dot
are left out, because no scan enters them. -/
partial def readEntry (found : IO.FS.DirEntry) : IO Entry := do
  if ← found.path.isDir then
    let mut entries := []
    for inside in ← found.path.readDir do
      let isHidden := inside.fileName.startsWith "." && (← inside.path.isDir)
      if !isHidden then
        entries := (inside.fileName.toList, ← readEntry inside) :: entries
    return .dir entries.reverse
  else return .file (← IO.FS.readBinFile found.path).toList

def attach (entry : Entry) (path : Path) (root : Entry) : Except Trouble Entry := do
  Entry.place entry path.straight (← Entry.makeWay [] path.parent.way root)

def load (root : Entry) (path : Path) : IO Entry := do
  let found : IO.FS.DirEntry := { root := ← IO.currentDir, fileName := String.ofList path.toText }
  if ← found.path.pathExists then
    return ((attach (← readEntry found) path root).toOption).getD root
  else return root

/-- The path of the settings file: in the directory that the environment names, else in the home
directory of the user. -/
def settingsPath : IO Path := do
  let home := ((← IO.getEnv "HOME").getD "").toList
  let directory := match (← IO.getEnv "PSOUTLINE_HOME").map String.toList with
    | some ('~' :: rest) => home ++ rest
    | some given => given
    | none => home ++ "/.psoutline".toList
  return (Path.ofText directory).child "config.toml".toList

def keepSettings (path : Path) (before after : Entry) : IO Unit := do
  match before.read path, after.read path with
  | old, .ok bytes =>
    if old.toOption != some bytes then
      IO.FS.createDirAll (String.ofList path.parent.toText)
      IO.FS.writeBinFile (String.ofList path.toText) ⟨bytes.toArray⟩
  | _, _ => return

partial def converse (width : Nat) (root : Node) : IO Browser.Ending := do
  put (← IO.getStdout) (Browser.screen width root)
  let line := (← (← IO.getStdin).getLine).toList
  if line.isEmpty then return .endOfInput
  let choice := Choice.ofLine (if line.getLast? == some '\n' then line.dropLast else line)
  put (← IO.getStdout) (Browser.reply width root choice)
  match Browser.ending? choice with
  | some ending => return ending
  | none => converse width (Browser.choose root choice)

/-- Carries out what a command leaves, but for its files. -/
def deliver (verbose : Bool) (report : Report) : IO Unit := do
  for notice in report.notices do
    if verbose || notice.severity == .warning then
      put (← IO.getStderr) (notice.message describe ++ ['\n'])
  put (← IO.getStdout) report.output

def finish (report : Report) : IO UInt32 := do
  if let some failure := report.failure then
    put (← IO.getStderr) (explain failure ++ ['\n'])
  if report.exit == 2 then put (← IO.getStderr) usage
  return UInt32.ofNat report.exit

def run (invocation : Invocation) : IO UInt32 := do
  let settings ← settingsPath
  let width := (((← IO.getEnv "COLUMNS").bind String.toNat?).getD 80)
  let targets := match invocation.command.path? with
    | some path => [Path.ofText path]
    | none => []
  let files ← (targets ++ [settings]).foldlM load (.dir [])
  match invocation.command.start { files, settings, width, help := fun _ => usage } with
  | .done report =>
    keepSettings settings files report.files
    deliver invocation.verbose report
    finish report
  | .browsing report root =>
    deliver invocation.verbose report
    let ending ← converse width root
    finish (ending.close report)

end Outliner.Program

open Outliner in
def main (arguments : List String) : IO UInt32 := do
  match Invocation.parse? (arguments.map String.toList) with
  | none =>
    Program.put (← IO.getStderr) Program.usage
    return 2
  | some invocation => Program.run invocation
