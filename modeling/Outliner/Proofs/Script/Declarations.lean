import Outliner.Proofs.Script.Ownership

namespace Outliner.Script

/-- The function that a line starts; a line that starts a class starts none. -/
def functionAt? (lines : List Text) (index : Nat) : Option Signature :=
  lines[index]?.bind fun raw =>
    if (classStart? (Text.strip raw)).isSome then none
    else functionStart? (Text.strip raw) (owner? lines index).isSome

section Nodes

variable (options : Options) (place : Place) (lines : List Text)

def functionPlace (index : Nat) : Place :=
  if (owner? lines index).isSome then { place with level := place.level + 1 } else place

def functionNodeAt? (index : Nat) : Option Node :=
  match functionAt? lines index, lines.drop index with
  | some signature, raw :: later =>
    some (functionNode options (functionPlace place lines index) signature raw later)
  | _, _ => none

def methodAt? (first index : Nat) : Option Node :=
  if owner? lines index = some first then functionNodeAt? options place lines index else none

def classNodeAt? (index : Nat) : Option Node :=
  (classAt? lines index).map fun name =>
    { name, kind := .classType, path := place.path, level := place.level
      children := (List.range lines.length).filterMap (methodAt? options place lines index) }

/-- The node that a line yields. -/
def declarationAt? (index : Nat) : Option Node :=
  (classNodeAt? options place lines index).or (functionNodeAt? options place lines index)

/-- The root that a line yields: its class, or its function when no class owns the line. -/
def rootAt? (index : Nat) : Option Node :=
  (classNodeAt? options place lines index).or
    (if owner? lines index = none then functionNodeAt? options place lines index else none)

end Nodes

theorem functionAt?_of_class (lines : List Text) (index : Nat) (name : Text)
    (here : classAt? lines index = some name) : functionAt? lines index = none := by
  obtain ⟨raw, found, start⟩ := Option.bind_eq_some_iff.mp here
  simp [functionAt?, found, start]

section Steps

variable (options : Options) (place : Place) (lines : List Text)

theorem functionNodeAt?_eq (index : Nat) (raw : Text) (later : List Text)
    (rest : lines.drop index = raw :: later) :
    functionNodeAt? options place lines index = (functionAt? lines index).map fun signature =>
      functionNode options (functionPlace place lines index) signature raw later := by
  rw [functionNodeAt?, rest]
  cases functionAt? lines index <;> rfl

theorem functionNodeAt?_of_class (index : Nat) (name : Text)
    (here : classAt? lines index = some name) :
    functionNodeAt? options place lines index = none := by
  simp [functionNodeAt?, functionAt?_of_class lines index name here]

theorem functionNodeAt?_eq_some (index : Nat) (node : Node)
    (here : functionNodeAt? options place lines index = some node) :
    ∃ signature raw later, functionAt? lines index = some signature ∧
      lines.drop index = raw :: later ∧
      node = functionNode options (functionPlace place lines index) signature raw later := by
  rw [functionNodeAt?] at here
  split at here
  · next signature raw later declared rest =>
      injection here with same
      exact ⟨signature, raw, later, declared, rest, same.symm⟩
  · cases here

theorem functionNodeAt?_isSome (index : Nat) :
    (functionNodeAt? options place lines index).isSome = (functionAt? lines index).isSome := by
  cases rest : lines.drop index with
  | nil =>
      have past : lines[index]? = none := by rw [← List.head?_drop, rest, List.head?_nil]
      simp [functionNodeAt?, functionAt?, past]
  | cons raw later =>
      rw [functionNodeAt?_eq options place lines index raw later rest, Option.isSome_map]

theorem methodAt?_eq_some (first index : Nat) (node : Node)
    (here : methodAt? options place lines first index = some node) :
    functionNodeAt? options place lines index = some node := by
  rw [methodAt?] at here
  split at here
  · exact here
  · cases here

theorem declarationAt?_plain (index : Nat) (plain : classAt? lines index = none) :
    declarationAt? options place lines index = functionNodeAt? options place lines index := by
  simp [declarationAt?, classNodeAt?, plain]

theorem rootAt?_free (index : Nat) (plain : classAt? lines index = none)
    (free : owner? lines index = none) :
    rootAt? options place lines index = functionNodeAt? options place lines index := by
  simp [rootAt?, classNodeAt?, plain, free]

theorem rootAt?_owned (index first : Nat) (plain : classAt? lines index = none)
    (owned : owner? lines index = some first) : rootAt? options place lines index = none := by
  simp [rootAt?, classNodeAt?, plain, owned]

theorem methods_of_lost (first index count : Nat) (after : first < index)
    (lost : owner? lines index ≠ some first) :
    (List.range' index count).filterMap (methodAt? options place lines first) = [] := by
  rw [List.filterMap_eq_nil_iff]
  intro later member
  have bound := (List.mem_range'_1.mp member).1
  have unowned : owner? lines later ≠ some first := by
    intro owned
    exact lost (owner?_of_le lines first index later after bound owned)
  simp [methodAt?, unowned]

theorem methods_eq_later (first : Nat) (inside : first < lines.length) :
    (List.range lines.length).filterMap (methodAt? options place lines first) =
      (List.range' (first + 1) (lines.length - (first + 1))).filterMap
        (methodAt? options place lines first) := by
  have split : List.range lines.length =
      List.range' 0 (first + 1) ++ List.range' (first + 1) (lines.length - (first + 1)) := by
    have joined := @List.range'_append_1 0 (first + 1) (lines.length - (first + 1))
    rw [Nat.zero_add, Nat.add_sub_cancel' inside] at joined
    rw [List.range_eq_range', joined]
  have none_before :
      (List.range' 0 (first + 1)).filterMap (methodAt? options place lines first) = [] := by
    rw [List.filterMap_eq_nil_iff]
    intro index member
    have bound := (List.mem_range'_1.mp member).2
    have unowned : owner? lines index ≠ some first := by
      intro owned
      have := owner?_lt lines index first owned
      omega
    simp [methodAt?, unowned]
  rw [split, List.filterMap_append, none_before, List.nil_append]

def OpenClass.adding (current : OpenClass) (methods : List Node) : OpenClass :=
  { current with methods := current.methods ++ methods }

theorem OpenClass.feed_some (line : Text) (current : OpenClass) :
    OpenClass.feed place line (some current) =
      match current.braces.pass? line with
      | none => ([current.node place], none)
      | some fed => ([], some { current with braces := fed }) := by
  rw [OpenClass.feed, Braces.pass?]
  split <;> simp_all

theorem startOn_class (raw name : Text) (later : List Text) (current : Option OpenClass)
    (start : classStart? (Text.strip raw) = some name) :
    startOn options place current raw later =
      ((current.map (OpenClass.node place)).toList, some { name }) := by
  simp [startOn, start]

theorem startOn_free (index : Nat) (raw : Text) (later : List Text)
    (rest : lines.drop index = raw :: later) (plain : classStart? (Text.strip raw) = none)
    (free : owner? lines index = none) :
    startOn options place none raw later =
      ((functionNodeAt? options place lines index).toList, none) := by
  have found : lines[index]? = some raw := by rw [← List.head?_drop, rest, List.head?_cons]
  have declared : functionAt? lines index = functionStart? (Text.strip raw) false := by
    simp [functionAt?, found, plain, free]
  rw [functionNodeAt?_eq options place lines index raw later rest, declared]
  simp only [startOn, plain, functionPlace, free, Option.isSome_none]
  cases functionStart? (Text.strip raw) false <;> rfl

theorem startOn_owned (index first : Nat) (raw : Text) (later : List Text) (opened : OpenClass)
    (rest : lines.drop index = raw :: later) (plain : classStart? (Text.strip raw) = none)
    (owned : owner? lines index = some first) :
    startOn options place (some opened) raw later =
      ([], some (opened.adding (functionNodeAt? options place lines index).toList)) := by
  have found : lines[index]? = some raw := by rw [← List.head?_drop, rest, List.head?_cons]
  have declared : functionAt? lines index = functionStart? (Text.strip raw) true := by
    simp [functionAt?, found, plain, owned]
  rw [functionNodeAt?_eq options place lines index raw later rest, declared]
  simp only [startOn, plain, functionPlace, owned, Option.isSome_some]
  cases functionStart? (Text.strip raw) true <;> simp [OpenClass.adding]

def methodsFrom (index count : Nat) : List Node :=
  match owner? lines index with
  | none => []
  | some first => (List.range' index count).filterMap (methodAt? options place lines first)

theorem methodsFrom_zero (index : Nat) : methodsFrom options place lines index 0 = [] := by
  rw [methodsFrom]
  split <;> rfl

theorem methods_eq_methodsFrom (first index count : Nat) (after : first < index)
    (kept : owner? lines index = none ∨ owner? lines index = some first) :
    (List.range' index count).filterMap (methodAt? options place lines first) =
      methodsFrom options place lines index count := by
  rw [methodsFrom]
  rcases kept with closed | owned
  · rw [closed]
    exact methods_of_lost options place lines first index count after (by rw [closed]; simp)
  · rw [owned]

theorem methodsFrom_succ (index count first : Nat) (inside : index < lines.length)
    (plain : classAt? lines index = none) (owned : owner? lines index = some first) :
    methodsFrom options place lines index (count + 1) =
      (functionNodeAt? options place lines index).toList ++
        methodsFrom options place lines (index + 1) count := by
  have before := owner?_lt lines index first owned
  have here : methodAt? options place lines first index =
      functionNodeAt? options place lines index := by
    rw [methodAt?, if_pos owned]
  have kept := owner?_succ_plain lines index inside plain
  rw [owned] at kept
  rw [← methods_eq_methodsFrom options place lines first (index + 1) count (by omega) kept]
  simp only [methodsFrom, owned, List.range'_succ, List.filterMap_cons, here]
  cases functionNodeAt? options place lines index <;> rfl

theorem methodsFrom_class (index count : Nat) (name : Text)
    (here : classAt? lines index = some name) :
    methodsFrom options place lines index (count + 1) = [] := by
  rw [methodsFrom]
  cases owned : owner? lines index with
  | none => rfl
  | some first =>
      have before := owner?_lt lines index first owned
      have lost : owner? lines (index + 1) ≠ some first := by
        intro still
        rcases owner?_succ_class lines index name here with closed | own
        · rw [closed] at still
          cases still
        · rw [own] at still
          injection still with same
          omega
      have nothing := functionNodeAt?_of_class options place lines index name here
      simp only [List.range'_succ, List.filterMap_cons, methodAt?, owned, if_true, nothing]
      exact methods_of_lost options place lines first (index + 1) count (by omega) lost

def OpenClass.completed (current : OpenClass) (index count : Nat) : Node :=
  (current.adding (methodsFrom options place lines index count)).node place

theorem classNodeAt?_eq_methodsFrom (index : Nat) (name : Text) (inside : index < lines.length)
    (here : classAt? lines index = some name) :
    classNodeAt? options place lines index =
      some { name, kind := .classType, path := place.path, level := place.level
             children := methodsFrom options place lines (index + 1) (lines.length - (index + 1)) } := by
  have children : (List.range lines.length).filterMap (methodAt? options place lines index) =
      methodsFrom options place lines (index + 1) (lines.length - (index + 1)) := by
    rw [methods_eq_later options place lines index inside]
    exact methods_eq_methodsFrom options place lines index (index + 1) _ (by omega)
      (owner?_succ_class lines index name here)
  simp only [classNodeAt?, here, Option.map_some, children]

/-- The outline of the lines from `index` on when `current` is open: first that class, then the
roots of those lines. -/
def outlineFrom (index count : Nat) (current : Option OpenClass) : List Node :=
  (current.map fun opened => opened.completed options place lines index count).toList ++
    (List.range' index count).filterMap (rootAt? options place lines)

theorem outlineFrom_free (index count : Nat) (plain : classAt? lines index = none)
    (free : owner? lines index = none) :
    outlineFrom options place lines index (count + 1) none =
      (functionNodeAt? options place lines index).toList ++
        outlineFrom options place lines (index + 1) count none := by
  have root := rootAt?_free options place lines index plain free
  simp only [outlineFrom, List.range'_succ, List.filterMap_cons, root]
  cases functionNodeAt? options place lines index <;> rfl

theorem outlineFrom_owned (index count first : Nat) (opened : OpenClass)
    (inside : index < lines.length) (plain : classAt? lines index = none)
    (owned : owner? lines index = some first) :
    outlineFrom options place lines index (count + 1) (some opened) =
      outlineFrom options place lines (index + 1) count
        (some (opened.adding (functionNodeAt? options place lines index).toList)) := by
  have root := rootAt?_owned options place lines index first plain owned
  have methods := methodsFrom_succ options place lines index count first inside plain owned
  simp [outlineFrom, List.range'_succ, root, OpenClass.completed, OpenClass.adding, methods]

theorem outlineFrom_class (index : Nat) (raw name : Text) (later : List Text)
    (current : Option OpenClass) (rest : lines.drop index = raw :: later)
    (here : classAt? lines index = some name) :
    outlineFrom options place lines index (later.length + 1) current =
      (current.map (OpenClass.node place)).toList ++
        outlineFrom options place lines (index + 1) later.length (some { name }) := by
  have size : lines.length - index = later.length + 1 := by simpa using congrArg List.length rest
  have count : lines.length - (index + 1) = later.length := by omega
  have root := classNodeAt?_eq_methodsFrom options place lines index name (by omega) here
  have lost := methodsFrom_class options place lines index later.length name here
  have kept : (current.map fun opened =>
      opened.completed options place lines index (later.length + 1)) =
      current.map (OpenClass.node place) := by
    simp only [OpenClass.completed, OpenClass.adding, lost, List.append_nil]
  have begun : OpenClass.completed options place lines { name } (index + 1) later.length =
      { name, kind := .classType, path := place.path, level := place.level
        children := methodsFrom options place lines (index + 1) later.length } := rfl
  have first : rootAt? options place lines index =
      some (OpenClass.completed options place lines { name } (index + 1) later.length) := by
    rw [rootAt?, root, count, begun, Option.some_or]
  rw [outlineFrom, kept, List.range'_succ, List.filterMap_cons_some first]
  rfl

theorem feed_outlineFrom (line : Text) (index count first : Nat) (opened : OpenClass)
    (block : openBlock? lines index = (opened.braces.pass? line).map fun fed => (first, fed)) :
    (OpenClass.feed place line (some opened)).1 ++
        outlineFrom options place lines index count (OpenClass.feed place line (some opened)).2 =
      outlineFrom options place lines index count (some opened) := by
  rw [OpenClass.feed_some]
  cases passed : opened.braces.pass? line with
  | none =>
      have free : owner? lines index = none := by simp [owner?, block, passed]
      simp [outlineFrom, OpenClass.completed, OpenClass.adding, methodsFrom, free]
  | some fed => simp [outlineFrom, OpenClass.completed, OpenClass.adding, OpenClass.node]

theorem feed_tracked (line : Text) (index first : Nat) (opened : OpenClass)
    (block : openBlock? lines index = (opened.braces.pass? line).map fun fed => (first, fed)) :
    (OpenClass.feed place line (some opened)).2.map OpenClass.braces =
      (openBlock? lines index).map Prod.snd := by
  rw [OpenClass.feed_some, block]
  cases opened.braces.pass? line <;> rfl

/-- The scan of the remaining lines yields what the lines yield one by one. The scan carries the
open block of each line along, which is the invariant of the induction. -/
theorem extractFrom_eq (later : List Text) (index : Nat) (current : Option OpenClass)
    (rest : lines.drop index = later)
    (tracked : current.map OpenClass.braces = (openBlock? lines index).map Prod.snd) :
    extractFrom options place current later =
      outlineFrom options place lines index later.length current := by
  induction later generalizing index current with
  | nil =>
      cases current with
      | none => rfl
      | some opened =>
          simp [extractFrom, outlineFrom, OpenClass.completed, OpenClass.adding, methodsFrom_zero]
  | cons raw later ih =>
      have found : lines[index]? = some raw := by rw [← List.head?_drop, rest, List.head?_cons]
      have inside : index < lines.length := (List.getElem?_eq_some_iff.mp found).1
      have next : lines.drop (index + 1) = later := by rw [← List.tail_drop, rest, List.tail_cons]
      have here : classAt? lines index = classStart? (Text.strip raw) := by simp [classAt?, found]
      have block := openBlock?_succ lines index raw found
      rw [extractFrom, List.length_cons]
      cases start : classStart? (Text.strip raw) with
      | some name =>
          simp only [start, Option.isSome_some, if_true, Option.bind_some] at block
          have follow := ih (index + 1) _ next
            (feed_tracked place lines (Text.strip raw) (index + 1) index { name } block)
          rw [startOn_class options place raw name later current start,
            outlineFrom_class options place lines index raw name later current rest
              (here.trans start)]
          simp only [follow, List.append_assoc]
          rw [feed_outlineFrom options place lines (Text.strip raw) (index + 1) later.length index
            { name } block]
      | none =>
          simp only [start, Option.isSome_none, Bool.false_eq_true, if_false] at block
          cases current with
          | none =>
              have shut : openBlock? lines index = none := by simpa using tracked.symm
              have free : owner? lines index = none := by simp [owner?, shut]
              rw [shut] at block
              have follow := ih (index + 1) none next (by rw [block]; rfl)
              rw [startOn_free options place lines index raw later rest start free,
                outlineFrom_free options place lines index later.length (here.trans start) free]
              simp only [OpenClass.feed, follow, List.append_nil]
          | some opened =>
              obtain ⟨⟨first, _⟩, unclosed, rfl⟩ := Option.map_eq_some_iff.mp tracked.symm
              simp only [unclosed, Option.bind_some] at block
              have owned : owner? lines index = some first := by simp [owner?, unclosed]
              have follow := ih (index + 1) _ next
                (feed_tracked place lines (Text.strip raw) (index + 1) first
                  (opened.adding (functionNodeAt? options place lines index).toList) block)
              rw [startOn_owned options place lines index first raw later opened rest start owned,
                outlineFrom_owned options place lines index later.length first opened inside
                  (here.trans start) owned]
              simp only [follow, List.nil_append]
              exact feed_outlineFrom options place lines (Text.strip raw) (index + 1) later.length
                first (opened.adding (functionNodeAt? options place lines index).toList) block

theorem extract_eq_roots :
    extract lines options place =
      (List.range lines.length).filterMap (rootAt? options place lines) := by
  rw [extract, extractFrom_eq options place lines lines 0 none rfl rfl, List.range_eq_range']
  rfl

end Steps

end Outliner.Script
