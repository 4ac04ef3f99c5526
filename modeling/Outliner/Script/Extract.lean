import Outliner.Outline.Node
import Outliner.Script.Braces
import Outliner.Script.ParamBlock
import Outliner.Text.Line

/-!
The outline of a script: its classes and functions, with their parameters and variables. One pass
visits every line; a function's body is read ahead from its signature on, so that a function inside
another is listed by itself as well.
-/

namespace Outliner.Script

structure Options where
  parseParameterTypes : Bool := true
  parseVariableAssignments : Bool := true
  expandFunctionDetails : Bool := true
  showParameters : Bool := true
  showVariables : Bool := true
  showFunctionNames : Bool := true
deriving DecidableEq, Repr

structure Place where
  path : Text := []
  level : Int := 1

def bodyLines (signature : Text) (later : List Text) : List Text :=
  match Braces.feed {} (Text.strip signature) with
  | (_, true) => []
  | (fed, false) => later.take (fed.extent later)

def blockParameters : Nat → List Text → List Parameter
  | 0, _ => []
  | _, [] => []
  | count + 1, line :: later =>
    if ParamBlock.isOn (Text.strip line) then (ParamBlock.read (line :: later)).1
    else blockParameters count later

/-- The parameters of a function: those in the parentheses of its signature, else those of a block
in its body. -/
def functionParameters (signature : Text) (later : List Text) : List Parameter :=
  match inlineList? (Text.strip signature) with
  | some inside => Parameter.parseList inside
  | none => blockParameters (bodyLines signature later).length later

def assignments (body : List Text) : List (Text × Text) :=
  body.filterMap fun line =>
    (assignment? (Text.strip line)).map fun name => (name, Text.strip line)

/-- Keeps the first entry of each name that is not in `taken`. -/
def firstOfEach (taken : List Text) : List (Text × Text) → List (Text × Text)
  | [] => []
  | (name, line) :: rest =>
    if taken.contains name then firstOfEach taken rest
    else (name, line) :: firstOfEach (name :: taken) rest

def nameLE (a b : Text) : Bool :=
  let low := Text.lower a
  let high := Text.lower b
  if low == high then a.isAtMost b else low.isAtMost high

/-- The variables of a function in order, each with the line of its first assignment. Parameters are
not variables. -/
def assignedVariables (parameters : List Parameter) (body : List Text) : List (Text × Text) :=
  (firstOfEach (parameters.map Parameter.name) (assignments body)).mergeSort
    fun a b => nameLE a.1 b.1

def container (title : String) (itemKind : Kind) (place : Place) (leaves : List Node) : Node where
  name := title.toList ++ " (".toList ++ Text.ofNat leaves.length ++ ")".toList
  kind := .container
  path := place.path
  level := place.level + 1
  children := leaves
  itemKind := some itemKind

def parameterContainer (place : Place) (parameters : List Parameter) : Node :=
  container "Parameters" .parameter place <| parameters.map fun parameter =>
    { name := parameter.displayName, kind := .parameter, path := place.path
      level := place.level + 2 }

def variableContainer (place : Place) (entries : List (Text × Text)) : Node :=
  container "Variables" .localVariable place <| entries.map fun (name, line) =>
    { name, kind := .localVariable, path := place.path, level := place.level + 2, lines := [line] }

def details (options : Options) (place : Place) (parameters : List Parameter)
    (entries : List (Text × Text)) : List Node :=
  if options.expandFunctionDetails then
    (if options.showParameters && !parameters.isEmpty then [parameterContainer place parameters]
      else []) ++
    (if options.showVariables && !entries.isEmpty then [variableContainer place entries] else [])
  else []

def functionNode (options : Options) (place : Place) (signature : Signature) (raw : Text)
    (later : List Text) : Node :=
  let body := bodyLines raw later
  let parameters := if options.parseParameterTypes then functionParameters raw later else []
  let entries := if options.parseVariableAssignments then assignedVariables parameters body else []
  { name := signature.displayName
    kind := .function
    path := place.path
    level := place.level
    lines := if options.showFunctionNames then [raw] else raw :: body
    children := details options place parameters entries }

structure OpenClass where
  name : Text
  methods : List Node := []
  braces : Braces := {}

def OpenClass.node (place : Place) (current : OpenClass) : Node where
  name := current.name
  kind := .classType
  path := place.path
  level := place.level
  children := current.methods

/-- What one line does to the open class: the roots that are complete after it and the class that
is open then. -/
def OpenClass.feed (place : Place) (line : Text) : Option OpenClass → List Node × Option OpenClass
  | none => ([], none)
  | some current =>
    match current.braces.feed line with
    | (_, true) => ([current.node place], none)
    | (fed, false) => ([], some { current with braces := fed })

/-- The roots that a line starts or completes, and the class that is open after its start has been
recognised. A new class ends an open one, and functions in an open class are its methods. -/
def startOn (options : Options) (place : Place) (current : Option OpenClass) (raw : Text)
    (later : List Text) : List Node × Option OpenClass :=
  let line := Text.strip raw
  match classStart? line with
  | some name => ((current.map (OpenClass.node place)).toList, some { name })
  | none =>
    match functionStart? line current.isSome, current with
    | some signature, none => ([functionNode options place signature raw later], none)
    | some signature, some opened =>
      let inner := { place with level := place.level + 1 }
      ([], some { opened with
        methods := opened.methods ++ [functionNode options inner signature raw later] })
    | none, current => ([], current)

/-- The roots of the outline of the remaining lines, when a class may be open. -/
def extractFrom (options : Options) (place : Place) : Option OpenClass → List Text → List Node
  | current, [] => (current.map (OpenClass.node place)).toList
  | current, raw :: later =>
    let (started, opened) := startOn options place current raw later
    let (closed, next) := OpenClass.feed place (Text.strip raw) opened
    started ++ closed ++ extractFrom options place next later

def extract (lines : List Text) (options : Options) (place : Place) : List Node :=
  extractFrom options place none lines

def outline (text : Text) (options : Options) (place : Place) : List Node :=
  extract (Text.lines text) options place

end Outliner.Script
