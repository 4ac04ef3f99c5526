import Mathlib.Data.List.Basic
import Outliner.Proofs.Script.Listing

/-!
Options as a projection. What the options do not show is left out of the outline that shows
everything, and nothing else of it changes. Only the parsing of parameters reaches further: names
that are parameters are no variables.
-/

namespace Outliner.Script

def isContainerOf (itemKind : Kind) (node : Node) : Bool :=
  node.kind == .container && node.itemKind == some itemKind

namespace Options

def full (options : Options) : Options where
  parseParameterTypes := options.parseParameterTypes
  showFunctionNames := false

/-- The options that show all details. -/
def detailed (parsesParameters namesOnly : Bool) : Options where
  parseParameterTypes := parsesParameters
  showFunctionNames := namesOnly

def bare (namesOnly : Bool) : Options where
  expandFunctionDetails := false
  showFunctionNames := namesOnly

def keeps (options : Options) (node : Node) : Bool :=
  (!isContainerOf .parameter node || options.expandFunctionDetails && options.showParameters) &&
    (!isContainerOf .localVariable node ||
      options.expandFunctionDetails && options.showVariables && options.parseVariableAssignments)

end Options

mutual

/-- A node without the containers below it that are not shown, and with the first line only of
every function if only names are shown. -/
def Node.project (options : Options) : Node → Node
  | ⟨name, kind, path, level, expanded, lines, children, itemKind⟩ =>
    ⟨name, kind, path, level, expanded,
      if options.showFunctionNames && kind == .function then lines.take 1 else lines,
      project options children, itemKind⟩
termination_by structural node => node

def project (options : Options) : List Node → List Node
  | [] => []
  | node :: rest =>
    if options.keeps node then Node.project options node :: project options rest
    else project options rest
termination_by structural forest => forest

end

section Forests

variable (options : Options)

theorem project_append (front back : List Node) :
    project options (front ++ back) = project options front ++ project options back := by
  induction front with
  | nil => rfl
  | cons node rest ih =>
      simp only [List.cons_append, project, ih]
      split <;> rfl

theorem project_filterMap (yields : Nat → Option Node) (indices : List Nat)
    (kept : ∀ index node, yields index = some node → options.keeps node) :
    project options (indices.filterMap yields) =
      indices.filterMap fun index => (yields index).map (Node.project options) := by
  induction indices with
  | nil => rfl
  | cons index rest ih =>
      cases here : yields index with
      | none => simpa [here] using ih
      | some node => simp [here, project, kept index node here, ih]

theorem project_leaves (leaves : List Node)
    (bare : ∀ leaf ∈ leaves, leaf.children = [] ∧ leaf.kind ≠ .container ∧ leaf.kind ≠ .function) :
    project options leaves = leaves := by
  induction leaves with
  | nil => rfl
  | cons leaf rest ih =>
      obtain ⟨childless, noContainer, noFunction⟩ := bare leaf List.mem_cons_self
      have others := ih (fun other member => bare other (List.mem_cons_of_mem leaf member))
      cases leaf with
      | mk name kind path level expanded lines children itemKind =>
          simp only at childless noContainer noFunction
          subst childless
          simp [project, Node.project, Options.keeps, isContainerOf, noContainer, noFunction, others]

theorem project_parameterContainer (place : Place) (parameters : List Parameter) :
    Node.project options (parameterContainer place parameters) =
      parameterContainer place parameters := by
  have leaves := project_leaves options (parameterContainer place parameters).children (by
    intro leaf member
    obtain ⟨childless, kind⟩ := parameter_leaf place parameters leaf member
    simp [childless, kind])
  simp only [parameterContainer, container] at leaves ⊢
  simp [Node.project, leaves]

theorem project_variableContainer (place : Place) (entries : List (Text × Text)) :
    Node.project options (variableContainer place entries) = variableContainer place entries := by
  have leaves := project_leaves options (variableContainer place entries).children (by
    intro leaf member
    obtain ⟨childless, kind⟩ := variable_leaf place entries leaf member
    simp [childless, kind])
  simp only [variableContainer, container] at leaves ⊢
  simp [Node.project, leaves]

end Forests

section Functions

variable (options : Options) (place : Place)

theorem details_eq (parameters : List Parameter) (entries : List (Text × Text)) :
    details options place parameters entries =
      (if options.expandFunctionDetails && options.showParameters && !parameters.isEmpty
        then [parameterContainer place parameters] else []) ++
      (if options.expandFunctionDetails && options.showVariables && !entries.isEmpty
        then [variableContainer place entries] else []) := by
  rw [details]
  cases options.expandFunctionDetails <;> simp

theorem project_details (parameters : List Parameter) (entries : List (Text × Text)) :
    project options (details options.full place parameters entries) =
      details options place parameters
        (if options.parseVariableAssignments then entries else []) := by
  have ofParameters : options.keeps (parameterContainer place parameters) =
      (options.expandFunctionDetails && options.showParameters) := by
    simp [Options.keeps, isContainerOf, parameterContainer, container]
  have ofVariables : options.keeps (variableContainer place entries) =
      (options.expandFunctionDetails && options.showVariables &&
        options.parseVariableAssignments) := by
    simp [Options.keeps, isContainerOf, variableContainer, container]
  rw [details_eq, details_eq, project_append]
  congr 1
  · cases parameters.isEmpty with
    | true => simp [project]
    | false => simp [project, Options.full, ofParameters, project_parameterContainer]
  · cases vacant : entries.isEmpty with
    | true => cases options.parseVariableAssignments <;> simp [project, vacant]
    | false =>
        cases parsed : options.parseVariableAssignments <;>
          simp [project, Options.full, ofVariables, parsed, vacant, project_variableContainer]

theorem project_functionNode (signature : Signature) (raw : Text) (later : List Text) :
    Node.project options (functionNode options.full place signature raw later) =
      functionNode options place signature raw later := by
  have lines : (if options.showFunctionNames && Kind.function == .function
      then (raw :: bodyLines raw later).take 1 else raw :: bodyLines raw later) =
      if options.showFunctionNames then [raw] else raw :: bodyLines raw later := by
    cases options.showFunctionNames <;> rfl
  have shown := project_details options place
    (if options.parseParameterTypes then functionParameters raw later else [])
    (assignedVariables (if options.parseParameterTypes then functionParameters raw later else [])
      (bodyLines raw later))
  have parsed : options.full.parseParameterTypes = options.parseParameterTypes := rfl
  have assigned : options.full.parseVariableAssignments = true := rfl
  have whole : options.full.showFunctionNames = false := rfl
  simp only [functionNode, Node.project, parsed, assigned, whole, Bool.false_eq_true, if_false,
    if_true, lines, shown]

theorem no_parameters_details (entries : List (Text × Text)) (node : Node)
    (member : node ∈ preorder (details options place [] entries)) :
    isContainerOf .parameter node = false := by
  simp only [details_eq, List.isEmpty_nil, Bool.not_true, Bool.and_false, Bool.false_eq_true,
    if_false, List.nil_append] at member
  split at member
  · obtain ⟨_, inside, own⟩ := (mem_preorder node _).mp member
    obtain rfl := List.mem_singleton.mp inside
    rcases own with rfl | leaf
    · rfl
    · rw [preorder_leaves _ (fun other found => (variable_leaf place entries other found).1)] at leaf
      simp [isContainerOf, (variable_leaf place entries node leaf).2]
  · cases member

theorem project_functionNode_bare (wider : Options) (collapsed : options.expandFunctionDetails = false)
    (same : wider.showFunctionNames = options.showFunctionNames) (signature : Signature) (raw : Text)
    (later : List Text) :
    Node.project options (functionNode wider place signature raw later) =
      functionNode options place signature raw later := by
  have none_kept (parameters : List Parameter) (entries : List (Text × Text)) :
      project options (details wider place parameters entries) = [] := by
    rw [details_eq, project_append]
    split <;> split <;> simp [project, Options.keeps, isContainerOf, parameterContainer,
      variableContainer, container, collapsed]
  have none_shown (parameters : List Parameter) (entries : List (Text × Text)) :
      details options place parameters entries = [] := by
    simp [details, collapsed]
  simp only [functionNode, Node.project, none_kept, none_shown, same]
  cases options.showFunctionNames <;> rfl

end Functions

section Outlines

variable (options wider : Options) (place : Place) (lines : List Text)

theorem keeps_functionNodeAt? (index : Nat) (node : Node)
    (here : functionNodeAt? wider place lines index = some node) : options.keeps node := by
  obtain ⟨signature, raw, later, _, _, rfl⟩ :=
    functionNodeAt?_eq_some wider place lines index node here
  rfl

theorem keeps_rootAt? (index : Nat) (node : Node)
    (here : rootAt? wider place lines index = some node) : options.keeps node := by
  rw [rootAt?, Option.or_eq_some_iff] at here
  rcases here with own | ⟨_, free⟩
  · obtain ⟨name, _, rfl⟩ := Option.map_eq_some_iff.mp own
    rfl
  · split at free
    · exact keeps_functionNodeAt? options wider place lines index node free
    · cases free

theorem extract_eq_project_of
    (each : ∀ place signature raw later,
      Node.project options (functionNode wider place signature raw later) =
        functionNode options place signature raw later) :
    extract lines options place = project options (extract lines wider place) := by
  have function (index : Nat) :
      (functionNodeAt? wider place lines index).map (Node.project options) =
        functionNodeAt? options place lines index := by
    rw [functionNodeAt?, functionNodeAt?]
    split
    · rw [Option.map_some, each]
    · rfl
  have methods (first : Nat) : project options
      ((List.range lines.length).filterMap (methodAt? wider place lines first)) =
      (List.range lines.length).filterMap (methodAt? options place lines first) := by
    rw [project_filterMap]
    · apply List.filterMap_congr
      intro index _
      rw [methodAt?, methodAt?]
      split
      · exact function index
      · rfl
    · intro index node here
      have function := methodAt?_eq_some wider place lines first index node here
      exact keeps_functionNodeAt? options wider place lines index node function
  have type (index : Nat) : (classNodeAt? wider place lines index).map (Node.project options) =
      classNodeAt? options place lines index := by
    rw [classNodeAt?, classNodeAt?, Option.map_map]
    congr 1
    funext name
    simp [Node.project, methods]
  rw [extract_eq_roots, extract_eq_roots, project_filterMap options _ _
    (keeps_rootAt? options wider place lines)]
  apply List.filterMap_congr
  intro index _
  rw [rootAt?, rootAt?, Option.map_or, type]
  split
  · rw [function]
  · rfl

theorem no_parameters_of_unparsed (unparsed : options.parseParameterTypes = false) (node : Node)
    (member : node ∈ preorder (extract lines options place)) :
    isContainerOf .parameter node = false := by
  obtain ⟨index, own | ⟨function, yielded, below⟩⟩ :=
    mem_preorder_extract options place lines node member
  · obtain ⟨name, _, rfl⟩ := Option.map_eq_some_iff.mp own
    rfl
  · obtain ⟨signature, raw, later, _, _, rfl⟩ :=
      functionNodeAt?_eq_some options place lines index function yielded
    rcases below with rfl | below
    · rfl
    · simp only [functionNode, unparsed, Bool.false_eq_true, if_false] at below
      exact no_parameters_details options _ _ node below

end Outlines

def variableNames (node : Node) : List Text :=
  match node.container? .localVariable with
  | some found => found.children.map Node.name
  | none => []

def assignedNames (body : List Text) : List Text :=
  body.filterMap fun line => assignment? (Text.strip line)

/-- What becomes of the variables of a function when its parameters are not parsed: they stay, and
the names that its body assigns and that are names of parameters are added. -/
structure Unmasked (parameters : List Parameter) (body : List Text) (parsed unparsed : Node) :
    Prop where
  kept : ∀ name ∈ variableNames parsed, name ∈ variableNames unparsed
  added : ∀ name, name ∈ variableNames unparsed ∧ name ∉ variableNames parsed ↔
    name ∈ assignedNames body ∧ name ∈ parameters.map Parameter.name

section Variables

theorem mem_firstOfEach (name : Text) (taken : List Text) (entries : List (Text × Text)) :
    name ∈ (firstOfEach taken entries).map Prod.fst ↔
      name ∈ entries.map Prod.fst ∧ name ∉ taken := by
  induction entries generalizing taken with
  | nil => simp [firstOfEach]
  | cons entry rest ih =>
      obtain ⟨first, line⟩ := entry
      rw [firstOfEach]
      by_cases used : first ∈ taken
      · rw [if_pos (by simpa using used), ih]
        constructor
        · rintro ⟨later, free⟩
          exact ⟨List.mem_cons_of_mem _ later, free⟩
        · rintro ⟨assigned, free⟩
          rcases List.mem_cons.mp assigned with rfl | later
          · exact absurd used free
          · exact ⟨later, free⟩
      · rw [if_neg (by simpa using used), List.map_cons, List.mem_cons, ih]
        simp only [List.map_cons, List.mem_cons, not_or]
        by_cases same : name = first
        · subst same
          simp [used]
        · simp [same]

theorem perm_assignedVariables (parameters : List Parameter) (body : List Text) :
    (assignedVariables parameters body).Perm
      (firstOfEach (parameters.map Parameter.name) (assignments body)) :=
  List.mergeSort_perm _ _

theorem mem_assignedVariables (name : Text) (parameters : List Parameter) (body : List Text) :
    name ∈ (assignedVariables parameters body).map Prod.fst ↔
      name ∈ assignedNames body ∧ name ∉ parameters.map Parameter.name := by
  have names : (assignments body).map Prod.fst = assignedNames body := by
    simp only [assignments, assignedNames, List.map_filterMap]
    congr 1
    funext line
    cases assignment? (Text.strip line) <;> rfl
  rw [((perm_assignedVariables parameters body).map Prod.fst).mem_iff, mem_firstOfEach, names]

variable (options : Options) (place : Place) (lines : List Text)

theorem variableNames_functionNode (expanded : options.expandFunctionDetails = true)
    (shown : options.showVariables = true) (assigned : options.parseVariableAssignments = true)
    (signature : Signature) (raw : Text) (later : List Text) :
    variableNames (functionNode options place signature raw later) =
      (assignedVariables (if options.parseParameterTypes then functionParameters raw later else [])
        (bodyLines raw later)).map Prod.fst := by
  simp only [variableNames, Node.container?, functionNode, assigned, if_true, details_eq, expanded,
    shown, Bool.and_true, Bool.true_and]
  generalize (if options.parseParameterTypes then functionParameters raw later else []) = parameters
  generalize assignedVariables parameters (bodyLines raw later) = entries
  have skipped : (if options.showParameters && !parameters.isEmpty
      then [parameterContainer place parameters] else []).find?
        (fun child => child.kind == .container && child.itemKind == some .localVariable) = none := by
    split <;> simp [parameterContainer, container]
  rw [List.find?_append, skipped, Option.none_or]
  cases entries with
  | nil => rfl
  | cons entry rest => simp [variableContainer, container]

theorem unmasked_functionNode (namesOnly : Bool) (signature : Signature) (raw : Text)
    (later : List Text) :
    Unmasked (functionParameters raw later) (bodyLines raw later)
      (functionNode (.detailed true namesOnly) place signature raw later)
      (functionNode (.detailed false namesOnly) place signature raw later) := by
  have before := variableNames_functionNode (.detailed true namesOnly) place rfl rfl rfl
    signature raw later
  have after := variableNames_functionNode (.detailed false namesOnly) place rfl rfl rfl
    signature raw later
  constructor
  · intro name listed
    rw [before, mem_assignedVariables] at listed
    rw [after, mem_assignedVariables]
    exact ⟨listed.1, by simp [Options.detailed]⟩
  · intro name
    rw [before, after, mem_assignedVariables, mem_assignedVariables]
    simp only [Options.detailed, if_true, Bool.false_eq_true, if_false, List.map_nil,
      List.not_mem_nil, not_false_eq_true, and_true, not_and, not_not]
    constructor
    · rintro ⟨assigned, masked⟩
      exact ⟨assigned, masked assigned⟩
    · rintro ⟨assigned, parameter⟩
      exact ⟨assigned, fun _ => parameter⟩

theorem functions_getElem? (position index : Nat)
    (started : (functionLines lines)[position]? = some index) :
    ∃ signature raw later, lines.drop index = raw :: later ∧ ∀ options,
      (functions (extract lines options place))[position]? =
        some (functionNode options (functionPlace place lines index) signature raw later) := by
  have member := List.mem_filter.mp (List.mem_of_getElem? started)
  have inside := List.mem_range.mp member.1
  obtain ⟨signature, declared⟩ := Option.isSome_iff_exists.mp member.2
  have rest : lines.drop index = lines[index] :: lines.drop (index + 1) :=
    List.drop_eq_getElem_cons inside
  refine ⟨signature, _, _, rest, ?_⟩
  intro options
  have here := functionNodeAt?_eq options place lines index _ _ rest
  have same := congrArg (·[position]?) (map_some_functions options place lines)
  simp only [List.getElem?_map, started, Option.map_some, here, declared] at same
  obtain ⟨node, found, own⟩ := Option.map_eq_some_iff.mp same
  injection own with own
  rw [found, own]

theorem functions_length :
    (functions (extract lines options place)).length = (functionLines lines).length := by
  simpa using congrArg List.length (map_some_functions options place lines)

end Variables

/-- Options are a projection of the outline that shows everything. With all details shown, not
parsing parameters takes their containers away and changes nothing else but the variables of
functions, each of which gains the assigned names that were names of parameters. -/
theorem extract_options (lines : List Text) (place : Place) :
    (∀ options, extract lines options place = project options (extract lines options.full place)) ∧
    ∀ namesOnly,
      (∀ node ∈ preorder (extract lines (.detailed false namesOnly) place),
        isContainerOf .parameter node = false) ∧
      project (.bare namesOnly) (extract lines (.detailed false namesOnly) place) =
        project (.bare namesOnly) (extract lines (.detailed true namesOnly) place) ∧
      (functions (extract lines (.detailed true namesOnly) place)).length =
        (functionLines lines).length ∧
      (functions (extract lines (.detailed false namesOnly) place)).length =
        (functionLines lines).length ∧
      ∀ position index : Nat, (functionLines lines)[position]? = some index →
        ∃ raw later parsed unparsed, lines.drop index = raw :: later ∧
          (functions (extract lines (.detailed true namesOnly) place))[position]? = some parsed ∧
          (functions (extract lines (.detailed false namesOnly) place))[position]? =
            some unparsed ∧
          Unmasked (functionParameters raw later) (bodyLines raw later) parsed unparsed := by
  constructor
  · intro options
    exact extract_eq_project_of options options.full place lines
      (fun place => project_functionNode options place)
  · intro namesOnly
    have collapsed (parses : Bool) :
        extract lines (.bare namesOnly) place =
          project (.bare namesOnly) (extract lines (.detailed parses namesOnly) place) :=
      extract_eq_project_of _ _ place lines
        (fun place => project_functionNode_bare (.bare namesOnly) place _ rfl rfl)
    refine ⟨no_parameters_of_unparsed _ place lines rfl,
      (collapsed false).symm.trans (collapsed true), functions_length _ place lines,
      functions_length _ place lines, ?_⟩
    intro position index started
    obtain ⟨signature, raw, later, rest, found⟩ :=
      functions_getElem? place lines position index started
    exact ⟨raw, later, _, _, rest, found _, found _,
      unmasked_functionNode _ namesOnly signature raw later⟩

/-- A function that assigns one of its parameters. -/
def clampScript : List Text :=
  ["function Clamp \x7b", "  param($Value)", "  $Value = 1", "  $total = 2", "\x7d"].map String.toList

theorem extract_clampScript :
    (functionLines clampScript)[0]? = some 0 ∧
      ∃ raw later parsed unparsed, clampScript.drop 0 = raw :: later ∧
        (functions (extract clampScript (.detailed true false) {}))[0]? = some parsed ∧
        (functions (extract clampScript (.detailed false false) {}))[0]? = some unparsed ∧
        Unmasked (functionParameters raw later) (bodyLines raw later) parsed unparsed := by
  have started : (functionLines clampScript)[0]? = some 0 := by decide
  exact ⟨started, ((extract_options clampScript {}).2 false).2.2.2.2 0 0 started⟩

end Outliner.Script
