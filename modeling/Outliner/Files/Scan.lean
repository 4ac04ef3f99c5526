import Outliner.Files.Notice
import Outliner.Json.Outline
import Outliner.Script.Extract
import Outliner.Text.Utf8

namespace Outliner

inductive Format where
  | script
  | json
deriving DecidableEq, Repr

namespace Format

def extensions : Format → List Text
  | script => [".ps1".toList, ".psm1".toList]
  | json => [".json".toList]

def ofSuffix? (suffix : Text) : Option Format :=
  [script, json].find? fun format => format.extensions.contains suffix

def outline (format : Format) (text : Text) (options : Script.Options) (path : Text) (level : Int) :
    List Node :=
  match format with
  | script => Script.outline text options ⟨path, level⟩
  | json => Json.outline text level path

end Format

def Path.format? (path : Path) : Option Format :=
  Format.ofSuffix? path.suffix

def fileNode (path : Path) (level : Int) (children : List Node) : Node :=
  { name := path.name, kind := .file, path := path.toText, level, children }

/-- The node of a file, given the result of reading it. A file that cannot be read or has no format
has no children. -/
def outlineRead (options : Script.Options) (path : Path) (level : Int)
    (contents : Except Trouble (List UInt8)) : Node × List Notice :=
  match path.format?, contents with
  | none, _ => (fileNode path level [], [.noReader path])
  | some _, .error trouble => (fileNode path level [], [.unreadable path trouble])
  | some format, .ok bytes =>
    let text := Text.Utf8.readSource bytes
    (fileNode path level (format.outline text options path.toText (level + 1)), [])

def outlineFile (root : Entry) (options : Script.Options) (path : Path) (level : Int) :
    Node × List Notice :=
  outlineRead options path level (root.read path)

structure ScanRules where
  options : Script.Options
  suffixes : List Text
  /-- The names of directories that are passed over, besides those that start with a dot. -/
  skipped : List Text

def defaultExtensions : List Text :=
  [".json", ".ps1", ".psm1"].map String.toList

def defaultSkipped : List Text :=
  [".git", ".idea", ".venv", ".vs", ".vscode", "__pycache__", "bin", "build", "dist",
    "node_modules", "obj", "venv"].map String.toList

def ScanRules.make (options : Script.Options) (extensions : List Text) (skipped : List Text) :
    ScanRules where
  options
  suffixes := (if extensions.isEmpty then defaultExtensions else extensions).map Text.lower
  skipped

def ScanRules.skips (rules : ScanRules) (name : Text) : Bool :=
  rules.skipped.contains name || name.head? == some '.'

structure Found where
  name : Text
  isFolder : Bool
  node : Option Node
  notices : List Notice

def Found.le (a b : Found) : Bool :=
  (Text.lower a.name).isAtMost (Text.lower b.name)

/-- The node of a directory: folders before files, each in order. One without either has no node. -/
def folderNode? (path : Path) (level : Int) (found : List Found) : Option Node × List Notice :=
  let sorted := found.mergeSort Found.le
  let folders := (sorted.filter (·.isFolder)).filterMap Found.node
  let files := (sorted.filter (!·.isFolder)).filterMap Found.node
  let notices := sorted.flatMap Found.notices
  match folders ++ files with
  | [] => (none, notices)
  | children =>
    (some { name := path.title, kind := .folder, path := path.toText, level, children },
      notices ++ [.scanned path folders.length files.length])

mutual

def Entry.found (rules : ScanRules) (path : Path) (level : Int) : Entry → Found
  | .file bytes =>
    if rules.suffixes.contains path.suffix then
      let (node, notices) := outlineRead rules.options path level (.ok bytes)
      ⟨path.name, false, some node, notices⟩
    else ⟨path.name, false, none, []⟩
  | .unreadable trouble =>
    if rules.suffixes.contains path.suffix then
      let (node, notices) := outlineRead rules.options path level (.error trouble)
      ⟨path.name, false, some node, notices⟩
    else ⟨path.name, false, none, []⟩
  | .unlistable trouble =>
    if rules.skips path.name then ⟨path.name, true, none, []⟩
    else ⟨path.name, true, none, [.unlistable path trouble]⟩
  | .dir entries =>
    if rules.skips path.name then ⟨path.name, true, none, []⟩
    else
      let (node, notices) := folderNode? path level (foundIn rules path (level + 1) entries)
      ⟨path.name, true, node, notices⟩
termination_by structural entry => entry

def foundIn (rules : ScanRules) (directory : Path) (level : Int) :
    List (Text × Entry) → List Found
  | [] => []
  | (name, entry) :: rest =>
    entry.found rules (directory.child name) level :: foundIn rules directory level rest
termination_by structural entries => entries

end

/-- The outline of a directory, which has a node even if nothing is found below it. -/
def scanDirectory (root : Entry) (rules : ScanRules) (path : Path) : Node × List Notice :=
  let bare : Node := { name := path.title, kind := .folder, path := path.toText }
  match root.list path with
  | .error trouble => (bare, [.unlistable path trouble])
  | .ok entries =>
    let (node, notices) := folderNode? path 0 (foundIn rules path 1 entries)
    (node.getD bare, notices)

/-- The outline of a file or of a directory tree. A path that cannot be one is refused. -/
def scan (root : Entry) (rules : ScanRules) (path : Path) : Except Trouble (Node × List Notice) :=
  match root.resolve path with
  | .error .badPath => .error .badPath
  | .error .tooLong => .error .tooLong
  | .error _ => .ok (scanDirectory root rules path)
  | .ok entry =>
    if entry.isRegular then .ok (outlineFile root rules.options path 0)
    else .ok (scanDirectory root rules path)

end Outliner
