import Outliner.Proofs.Script.BlockLayout
import Outliner.Proofs.Script.Listing
import Outliner.Proofs.Script.Projection

/-!
Definitions on one line. Their parameters are read up to the last closing parenthesis of the line,
so what the body has before its own last one is read as a part of the parameter list.
-/

namespace Outliner.Script

open Text (Blank Stops)

def oneLine (head list body : Text) : Text :=
  head ++ '(' :: (list ++ ") \x7b ".toList ++ body ++ " \x7d".toList)

def keywordLine (name list body : Text) : Text :=
  oneLine ("function ".toList ++ name) list body

def methodLine (type name list body : Text) : Text :=
  oneLine ('[' :: type ++ "] ".toList ++ name) list body

/-- The part of the line that is read as if it belonged to the list: all from the end of the list up
to the last closing parenthesis of the body. -/
def strayed (body : Text) : Text :=
  match Text.beforeLast? ')' body with
  | some front => ')' :: (" \x7b ".toList ++ front)
  | none => []

/-- The container of the parameters of a function, with a leaf for each. There is none without
parameters, and none if the options hide it. -/
def parameterList (options : Options) (function : Node) (parameters : List Parameter) : List Node :=
  if options.expandFunctionDetails && options.showParameters && !parameters.isEmpty then
    [{ name := "Parameters (".toList ++ Text.ofNat parameters.length ++ ")".toList
       kind := .container
       path := function.path
       level := function.level + 1
       children := parameters.map fun parameter =>
         { name := parameter.displayName, kind := .parameter, path := function.path
           level := function.level + 2 }
       itemKind := some .parameter }]
  else []

/-- A function starts on the line of a script and lists these parameters; nothing but variables
comes after them. -/
def HasParameters (options : Options) (place : Place) (lines : List Text) (index : Nat)
    (signature : Signature) (parameters : List Parameter) : Prop :=
  ∃ node others, functionNodeAt? options place lines index = some node ∧
    node ∈ functions (extract lines options place) ∧ node.name = signature.displayName ∧
    node.children = parameterList options node parameters ++ others ∧
    ∀ child ∈ others, child.itemKind = some .localVariable

theorem children_functionNode (options : Options) (place : Place) (signature : Signature)
    (raw : Text) (later : List Text) (parsed : options.parseParameterTypes = true) :
    let node := functionNode options place signature raw later
    ∃ others, node.children = parameterList options node (functionParameters raw later) ++ others ∧
      ∀ child ∈ others, child.itemKind = some .localVariable := by
  intro node
  have own : node.children = _ := details_eq options place _ _
  rw [parsed, if_pos rfl] at own
  refine ⟨_, own.trans (congrArg (· ++ _) ?_), ?_⟩
  · rw [parameterList]
    split
    · simp only [parameterContainer, container, List.length_map]
      rfl
    · rfl
  · intro child member
    rw [List.mem_ite_nil_right, List.mem_singleton] at member
    rw [member.2]
    rfl

section Lists

variable (head list body : Text)

theorem beforeLast?_oneLine :
    Text.beforeLast? ')' (list ++ ") \x7b ".toList ++ body ++ " \x7d".toList) =
      some (list ++ strayed body) := by
  rw [Text.beforeLast?_eq_some_iff, strayed]
  cases found : Text.beforeLast? ')' body with
  | some front =>
      obtain ⟨after, rfl, absent⟩ := (Text.beforeLast?_eq_some_iff ')' body front).mp found
      exact ⟨after ++ " \x7d".toList, by simp, by simpa using absent⟩
  | none =>
      have absent := Text.not_mem_of_beforeLast? ')' body found
      exact ⟨" \x7b ".toList ++ body ++ " \x7d".toList, by simp, by simpa using absent⟩

theorem inlineList?_oneLine (bare : '(' ∉ head) (mentions : '$' ∈ list) :
    inlineList? (oneLine head list body) = some (list ++ strayed body) := by
  have after : Text.afterFirst? '(' (oneLine head list body) =
      some (list ++ ") \x7b ".toList ++ body ++ " \x7d".toList) := by
    rw [Text.afterFirst?_eq_some_iff]
    exact ⟨head, rfl, bare⟩
  have held : (list ++ strayed body).contains '$' = true := by simp [mentions]
  simp only [inlineList?, after, Option.bind_some, beforeLast?_oneLine, held, if_true]

theorem strip_oneLine (first : Char) (solid : Text.isSpace first = false) :
    Text.strip (oneLine (first :: head) list body) = oneLine (first :: head) list body := by
  have shape : oneLine (first :: head) list body =
      first :: (head ++ '(' :: (list ++ ") \x7b ".toList ++ body ++ [' '])) ++ ['\x7d'] := by
    simp [oneLine]
  rw [shape, Text.strip_enclosed first '\x7d' _ solid (by decide)]

theorem strayed_of_not_mem (absent : ')' ∉ body) : strayed body = [] := by
  rw [strayed]
  split
  · next front found =>
      obtain ⟨after, rfl, _⟩ := (Text.beforeLast?_eq_some_iff ')' body front).mp found
      simp at absent
  · rfl

theorem parseList_strayed (settled : ']' ∉ strayed body ∨ Balanced '[' ']' list) :
    Parameter.parseList list <+: Parameter.parseList (list ++ strayed body) ∧
      ('$' ∉ strayed body →
        Parameter.parseList (list ++ strayed body) = Parameter.parseList list) := by
  rw [strayed] at settled ⊢
  split at settled
  · next front =>
      exact parseList_extended ')' list _ (by decide) (by decide) (by decide)
        (settled.imp id (Balanced.closesGroups list))
  · simp

end Lists

section Starts

variable (name list body : Text) (word : IsWord name)

include word

theorem parenthesis_not_mem_word : '(' ∉ name := by
  intro member
  exact absurd (word '(' member) (by decide)

theorem keywordFunction?_keywordLine (held : name ≠ []) :
    keywordFunction? (keywordLine name list body) = some name := by
  have shape : keywordLine name list body = "function".toList ++ [' '] ++ name ++
      '(' :: (list ++ ") \x7b ".toList ++ body ++ " \x7d".toList) := rfl
  rw [keywordFunction?_eq_some_iff]
  refine ⟨_, _, _, shape, List.forall₂_same.mpr (List.all_eq_true.mp rfl), by decide, by decide,
    ?_, ?_, Text.stops_cons _ _ '(' (by decide)⟩
  · cases name with
    | nil => exact absurd rfl held
    | cons c more => exact ⟨c, more, rfl, word c List.mem_cons_self⟩
  · intro c member
    simp [isFunctionNameChar, word c member]

theorem methodStart?_methodLine (type : Text) (typed : type ≠ []) (shape : OneDeep type)
    (method : NamesMethod name) :
    methodStart? (methodLine type name list body) = some ⟨name, some (Text.strip type)⟩ := by
  have form : TypedForm (methodLine type name list body) type name := by
    refine ⟨[], [' '], [], list ++ ") \x7b ".toList ++ body ++ " \x7d".toList, ?_, Modifiers.none,
      typed, shape, by decide, word, nofun⟩
    simp [methodLine, oneLine]
  rw [methodStart?_of_typed _ type name form, (isMethodName_iff name).mpr method, if_pos rfl]

end Starts

section Scripts

variable (options : Options) (place : Place) (lines : List Text) (index : Nat) (raw : Text)
  (here : lines[index]? = some raw)

include here

theorem hasParameters_of_start (head list body : Text) (signature : Signature)
    (stripped : Text.strip raw = oneLine head list body)
    (plain : classStart? (oneLine head list body) = none)
    (started : functionStart? (oneLine head list body) (owner? lines index).isSome =
      some signature)
    (bare : '(' ∉ head) (mentions : '$' ∈ list) (parsed : options.parseParameterTypes = true) :
    HasParameters options place lines index signature
      (Parameter.parseList (list ++ strayed body)) := by
  obtain ⟨inside, same⟩ := List.getElem?_eq_some_iff.mp here
  have rest : lines.drop index = raw :: lines.drop (index + 1) := by
    rw [← same]
    exact List.drop_eq_getElem_cons inside
  have declared : functionAt? lines index = some signature := by
    simp [functionAt?, here, stripped, plain, started]
  have found := functionNodeAt?_eq options place lines index raw _ rest
  rw [declared, Option.map_some] at found
  obtain ⟨others, children, assigned⟩ := children_functionNode options
    (functionPlace place lines index) signature raw (lines.drop (index + 1)) parsed
  rw [functionParameters, stripped, inlineList?_oneLine head list body bare mentions] at children
  exact ⟨_, others, found, mem_functions_extract options place lines index _ found, rfl, children,
    assigned⟩

variable (name list body : Text) (word : IsWord name) (mentions : '$' ∈ list)
  (parsed : options.parseParameterTypes = true)

include word mentions parsed

theorem hasParameters_keywordLine (held : name ≠ [])
    (indented : IsIndented (keywordLine name list body) raw) :
    HasParameters options place lines index ⟨name, none⟩
      (Parameter.parseList (list ++ strayed body)) := by
  have bare : '(' ∉ "function ".toList ++ name := by
    rw [List.mem_append, not_or]
    exact ⟨by decide, parenthesis_not_mem_word name word⟩
  have stripped : Text.strip raw = keywordLine name list body := by
    rw [ParamBlock.strip_indented _ raw indented]
    exact strip_oneLine _ list body 'f' (by decide)
  apply hasParameters_of_start options place lines index raw here _ list body ⟨name, none⟩ stripped
    rfl ?_ bare mentions parsed
  have started := keywordFunction?_keywordLine name list body word held
  rw [keywordLine] at started
  rw [functionStart?, started]

theorem hasParameters_methodLine (type : Text) (typed : type ≠ []) (shape : OneDeep type)
    (bareType : '(' ∉ type) (method : NamesMethod name) (owned : (owner? lines index).isSome = true)
    (indented : IsIndented (methodLine type name list body) raw) :
    HasParameters options place lines index ⟨name, some (Text.strip type)⟩
      (Parameter.parseList (list ++ strayed body)) := by
  have bare : '(' ∉ '[' :: type ++ "] ".toList ++ name := by
    rw [List.mem_append, List.mem_append, List.mem_cons]
    simp [bareType, parenthesis_not_mem_word name word]
  have stripped : Text.strip raw = methodLine type name list body := by
    rw [ParamBlock.strip_indented _ raw indented]
    exact strip_oneLine _ list body '[' (by decide)
  apply hasParameters_of_start options place lines index raw here _ list body _ stripped
    rfl ?_ bare mentions parsed
  have started := methodStart?_methodLine name list body word type typed shape method
  have keyless : keywordFunction? (methodLine type name list body) = none := rfl
  rw [methodLine] at started keyless
  rw [functionStart?, keyless, owned, if_pos rfl, started]

end Scripts

/-- The parameters of a definition on one line are those of its list, read on up to the last closing
parenthesis of the body. Where brackets do not reach from the list into the body, the body takes
none away, and it adds some only if it mentions a variable before that parenthesis. -/
theorem oneLine_parameters (name list body : Text) (word : IsWord name) (mentions : '$' ∈ list)
    (options : Options) (parsed : options.parseParameterTypes = true) (place : Place)
    (lines : List Text) (index : Nat) (raw : Text) (here : lines[index]? = some raw) :
    (name ≠ [] → IsIndented (keywordLine name list body) raw →
      HasParameters options place lines index ⟨name, none⟩
        (Parameter.parseList (list ++ strayed body))) ∧
    (∀ type, type ≠ [] → OneDeep type → '(' ∉ type → NamesMethod name →
      (owner? lines index).isSome = true → IsIndented (methodLine type name list body) raw →
      HasParameters options place lines index ⟨name, some (Text.strip type)⟩
        (Parameter.parseList (list ++ strayed body))) ∧
    (')' ∉ body → strayed body = []) ∧
    (']' ∉ strayed body ∨ Balanced '[' ']' list →
      Parameter.parseList list <+: Parameter.parseList (list ++ strayed body) ∧
        ('$' ∉ strayed body →
          Parameter.parseList (list ++ strayed body) = Parameter.parseList list)) :=
  ⟨hasParameters_keywordLine options place lines index raw here name list body word mentions parsed,
    hasParameters_methodLine options place lines index raw here name list body word mentions parsed,
    strayed_of_not_mem body, parseList_strayed list body⟩

/-- A method of a class and a function, both on one line, with calls in their bodies. -/
def areaScript : List Text :=
  ["class Box \x7b".toList,
    [' ', ' '] ++ methodLine "int".toList "Area".toList "[int]$w, $h".toList "(1 + 1) * 2".toList,
    ['\x7d'],
    keywordLine "Area".toList "[int]$w, $h".toList "(1 + 1) * 2".toList]

theorem areaScript_parameters :
    HasParameters {} {} areaScript 1 ⟨"Area".toList, some "int".toList⟩
        (Parameter.parseList "[int]$w, $h".toList) ∧
      HasParameters {} {} areaScript 3 ⟨"Area".toList, none⟩
        (Parameter.parseList "[int]$w, $h".toList) := by
  have method := oneLine_parameters "Area".toList "[int]$w, $h".toList "(1 + 1) * 2".toList
    (by decide) (by decide) {} rfl {} areaScript 1 _ rfl
  have function := oneLine_parameters "Area".toList "[int]$w, $h".toList "(1 + 1) * 2".toList
    (by decide) (by decide) {} rfl {} areaScript 3 _ rfl
  have own := (method.2.2.2 (Or.inl (by decide))).2 (by decide)
  rw [own] at method function
  exact ⟨method.2.1 "int".toList (by decide) (oneDeep_plain _ (by decide) (by decide)) (by decide)
      ⟨by decide, by decide⟩ (by decide) ⟨[' ', ' '], by decide, rfl⟩,
    function.1 (by decide) ⟨[], nofun, rfl⟩⟩

/-- The call in the body of this function gives it a second parameter. -/
theorem strayed_argument :
    '$' ∈ "$a".toList ∧ Balanced '(' ')' "$a".toList ∧
      keywordLine "F".toList "$a".toList "Bar($b, $c)".toList =
        "function F($a) \x7b Bar($b, $c) \x7d".toList ∧
      Parameter.parseList "$a".toList = [⟨"a".toList, none⟩] ∧
      (functions (extract ["function F($a) \x7b Bar($b, $c) \x7d".toList] {} {})).map
          (fun node => (node.container? .parameter).map fun found => found.children.map Node.name) =
        [some ["a".toList, "c".toList]] := by
  decide +kernel

end Outliner.Script
