import Mathlib.Data.Set.Card
import Outliner.Proofs.Script.Extent
import Outliner.Proofs.Text.Order

/-!
The variables of functions. A function lists the names that the lines of its body assign and that
are no names of its parameters: each once, in order, and with the line that assigns it first.
-/

namespace Outliner.Script

def Precedes (first second : Text) : Prop :=
  Text.Below (Text.lower first) (Text.lower second) ∨
    Text.lower first = Text.lower second ∧ Text.Below first second

def AssignsOn (lines : List Text) (index line : Nat) (name : Text) : Prop :=
  index < line ∧ line ≤ blockEnd lines index ∧
    lines[line]?.bind (fun raw => assignment? (Text.strip raw)) = some name

def parametersAt (options : Options) (lines : List Text) (index : Nat) : List Parameter :=
  match lines.drop index with
  | raw :: later => if options.parseParameterTypes then functionParameters raw later else []
  | [] => []

/-- The names that the body of the function on a line assigns, without its parameters. -/
def variablesAt (options : Options) (lines : List Text) (index : Nat) : Set Text :=
  {name | (∃ line, AssignsOn lines index line name) ∧
    name ∉ (parametersAt options lines index).map Parameter.name}

/-- A container lists the variables of the function on a line. -/
structure ListsVariables (options : Options) (lines : List Text) (index : Nat) (found : Node) :
    Prop where
  titled : found.name =
    "Variables (".toList ++ Text.ofNat (variablesAt options lines index).ncard ++ ")".toList
  listed : ∀ name, name ∈ found.children.map Node.name ↔ name ∈ variablesAt options lines index
  sorted : (found.children.map Node.name).Pairwise Precedes
  first : ∀ leaf ∈ found.children, leaf.kind = .localVariable ∧ leaf.children = [] ∧
    ∃ line raw, lines[line]? = some raw ∧ AssignsOn lines index line leaf.name ∧
      (∀ earlier, AssignsOn lines index earlier leaf.name → line ≤ earlier) ∧
      leaf.lines = [Text.strip raw]

section Order

theorem nameLE_iff (first second : Text) :
    nameLE first second = true ↔ first = second ∨ Precedes first second := by
  rw [nameLE, Precedes]
  by_cases alike : Text.lower first = Text.lower second
  · simp [alike, Text.isAtMost_iff, Text.not_below_self]
  · have apart : first ≠ second := fun same => alike (congrArg Text.lower same)
    simp [alike, apart, Text.isAtMost_iff]

theorem precedes_trans (first second third : Text) (below : Precedes first second)
    (above : Precedes second third) : Precedes first third := by
  rw [Precedes] at below above ⊢
  rcases below with below | ⟨alike, below⟩
  · rcases above with above | ⟨alike, _⟩
    · exact Or.inl (below.trans above)
    · rw [← alike]
      exact Or.inl below
  · rw [alike]
    exact above.imp id fun later => ⟨later.1, below.trans later.2⟩

theorem nameLE_trans (first second third : Text) (below : nameLE first second = true)
    (above : nameLE second third = true) : nameLE first third = true := by
  rw [nameLE_iff] at below above ⊢
  rcases below with rfl | below
  · exact above
  · rcases above with rfl | above
    · exact Or.inr below
    · exact Or.inr (precedes_trans first second third below above)

theorem nameLE_total (first second : Text) :
    (nameLE first second || nameLE second first) = true := by
  rw [Bool.or_eq_true, nameLE, nameLE]
  by_cases alike : Text.lower first = Text.lower second
  · simpa [alike] using Text.isAtMost_total first second
  · simpa [alike, Ne.symm alike] using Text.isAtMost_total (Text.lower first) (Text.lower second)

end Order

section Entries

theorem nodup_firstOfEach (taken : List Text) (entries : List (Text × Text)) :
    ((firstOfEach taken entries).map Prod.fst).Nodup := by
  induction entries generalizing taken with
  | nil => exact List.nodup_nil
  | cons entry rest ih =>
      obtain ⟨name, line⟩ := entry
      rw [firstOfEach]
      split
      · exact ih taken
      · rw [List.map_cons, List.nodup_cons]
        refine ⟨?_, ih (name :: taken)⟩
        rw [mem_firstOfEach]
        exact fun listed => listed.2 List.mem_cons_self

theorem find?_of_mem_firstOfEach (taken : List Text) (entries : List (Text × Text))
    (name line : Text) (kept : (name, line) ∈ firstOfEach taken entries) :
    entries.find? (fun entry => entry.1 == name) = some (name, line) := by
  induction entries generalizing taken with
  | nil => cases kept
  | cons entry rest ih =>
      obtain ⟨own, ownLine⟩ := entry
      have free := ((mem_firstOfEach name taken _).mp (List.mem_map_of_mem kept)).2
      rw [firstOfEach] at kept
      by_cases used : own ∈ taken
      · have apart : own ≠ name := fun same => free (same ▸ used)
        rw [if_pos (by simpa using used)] at kept
        rw [List.find?_cons_of_neg (by simpa using apart)]
        exact ih taken kept
      · rw [if_neg (by simpa using used), List.mem_cons] at kept
        rcases kept with same | later
        · injection same with sameName sameLine
          rw [sameName, sameLine, List.find?_cons_of_pos (by simp)]
        · have fresh := ((mem_firstOfEach name _ _).mp (List.mem_map_of_mem later)).2
          have apart : own ≠ name := fun same => fresh (same ▸ List.mem_cons_self)
          rw [List.find?_cons_of_neg (by simpa using apart)]
          exact ih (own :: taken) later

theorem nodup_assignedVariables (parameters : List Parameter) (body : List Text) :
    ((assignedVariables parameters body).map Prod.fst).Nodup := by
  rw [((perm_assignedVariables parameters body).map Prod.fst).nodup_iff]
  exact nodup_firstOfEach _ _

theorem sorted_assignedVariables (parameters : List Parameter) (body : List Text) :
    ((assignedVariables parameters body).map Prod.fst).Pairwise Precedes := by
  have ordered := List.pairwise_mergeSort
    (fun first second third => nameLE_trans first.1 second.1 third.1)
    (fun first second => nameLE_total first.1 second.1)
    (firstOfEach (parameters.map Parameter.name) (assignments body))
  have once := nodup_assignedVariables parameters body
  rw [List.Nodup, List.pairwise_map] at once
  rw [List.pairwise_map]
  apply (once.and ordered).imp
  intro first second both
  exact ((nameLE_iff _ _).mp both.2).resolve_left both.1

end Entries

section Body

variable (body : List Text) (name : Text)

theorem mem_assignedNames :
    name ∈ assignedNames body ↔
      ∃ offset : Nat, body[offset]?.bind (fun raw => assignment? (Text.strip raw)) = some name := by
  rw [assignedNames, List.mem_filterMap]
  constructor
  · rintro ⟨raw, member, assigned⟩
    obtain ⟨offset, found⟩ := List.mem_iff_getElem?.mp member
    exact ⟨offset, by rw [found, Option.bind_some, assigned]⟩
  · rintro ⟨offset, assigned⟩
    obtain ⟨raw, found, assigned⟩ := Option.bind_eq_some_iff.mp assigned
    exact ⟨raw, List.mem_of_getElem? found, assigned⟩

theorem find?_assignments (line : Text)
    (found : (assignments body).find? (fun entry => entry.1 == name) = some (name, line)) :
    ∃ (offset : Nat) (raw : Text), body[offset]? = some raw ∧
      assignment? (Text.strip raw) = some name ∧ line = Text.strip raw ∧
      ∀ earlier : Nat, body[earlier]?.bind (fun raw => assignment? (Text.strip raw)) = some name →
        offset ≤ earlier := by
  rw [assignments, List.find?_filterMap] at found
  obtain ⟨raw, first, own⟩ := Option.bind_eq_some_iff.mp found
  obtain ⟨_, offset, inside, here, before⟩ := List.find?_eq_some_iff_getElem.mp first
  obtain ⟨called, assigns, same⟩ := Option.map_eq_some_iff.mp own
  injection same with sameName sameLine
  subst sameName
  refine ⟨offset, raw, by rw [List.getElem?_eq_getElem inside, here], assigns, sameLine.symm, ?_⟩
  intro earlier again
  by_contra short
  have early := before earlier (by omega)
  rw [List.getElem?_eq_getElem (by omega), Option.bind_some] at again
  simp [again] at early

end Body

section Functions

variable (lines : List Text) (index : Nat) (raw : Text) (later : List Text)
  (rest : lines.drop index = raw :: later)

include rest

theorem bodyLines_eq_slice :
    bodyLines raw later = slice lines (index + 1) (blockEnd lines index + 1) := by
  obtain ⟨inside, shown⟩ := lines_functionNode lines { showFunctionNames := false } {} rfl
    ⟨[], none⟩ index raw later rest
  have bounds := blockEnd_bounds lines index inside
  have own : slice lines index (index + 1) = [raw] := by
    rw [slice_eq, rest, Nat.add_sub_cancel_left]
    rfl
  rw [← slice_join lines index (index + 1) _ (by omega) (by omega), own] at shown
  exact List.cons.inj shown |>.2

theorem getElem?_bodyLines (offset : Nat) (found : Text) :
    (bodyLines raw later)[offset]? = some found ↔
      index + 1 + offset ≤ blockEnd lines index ∧ lines[index + 1 + offset]? = some found := by
  rw [bodyLines_eq_slice lines index raw later rest, slice, List.getElem?_drop, List.getElem?_take]
  split
  · next inside => simp [Nat.le_of_lt_succ inside]
  · next outside => simp [show ¬ index + 1 + offset ≤ blockEnd lines index by omega]

theorem assignsOn_iff (line : Nat) (name : Text) :
    AssignsOn lines index line name ↔ ∃ offset, line = index + 1 + offset ∧
      (bodyLines raw later)[offset]?.bind (fun raw => assignment? (Text.strip raw)) =
        some name := by
  simp only [AssignsOn, Option.bind_eq_some_iff, getElem?_bodyLines lines index raw later rest]
  constructor
  · rintro ⟨after, within, found, here, assigned⟩
    obtain ⟨offset, rfl⟩ := Nat.exists_eq_add_of_le after
    exact ⟨offset, rfl, found, ⟨within, here⟩, assigned⟩
  · rintro ⟨offset, rfl, found, ⟨within, here⟩, assigned⟩
    exact ⟨by omega, within, found, here, assigned⟩

variable (options : Options) (place : Place)

theorem mem_variablesAt (name : Text) :
    name ∈ variablesAt options lines index ↔
      name ∈ (assignedVariables (parametersAt options lines index) (bodyLines raw later)).map
        Prod.fst := by
  rw [mem_assignedVariables, mem_assignedNames]
  constructor
  · rintro ⟨⟨line, assigned⟩, free⟩
    obtain ⟨offset, _, here⟩ := (assignsOn_iff lines index raw later rest line name).mp assigned
    exact ⟨⟨offset, here⟩, free⟩
  · rintro ⟨⟨offset, here⟩, free⟩
    exact ⟨⟨_, (assignsOn_iff lines index raw later rest _ name).mpr ⟨offset, rfl, here⟩⟩, free⟩

theorem ncard_variablesAt :
    (variablesAt options lines index).ncard =
      (assignedVariables (parametersAt options lines index) (bodyLines raw later)).length := by
  have names : variablesAt options lines index =
      (((assignedVariables (parametersAt options lines index) (bodyLines raw later)).map
        Prod.fst).toFinset : Set Text) := by
    ext name
    rw [Finset.mem_coe, List.mem_toFinset]
    exact mem_variablesAt lines index raw later rest options name
  calc
    _ = ((assignedVariables (parametersAt options lines index) (bodyLines raw later)).map
        Prod.fst).toFinset.card := by
      rw [names, Set.ncard_coe_finset]
    _ = ((assignedVariables (parametersAt options lines index) (bodyLines raw later)).map
        Prod.fst).length :=
      List.toFinset_card_of_nodup (nodup_assignedVariables _ _)
    _ = _ := List.length_map _

theorem nonempty_variablesAt :
    (variablesAt options lines index).Nonempty ↔
      assignedVariables (parametersAt options lines index) (bodyLines raw later) ≠ [] := by
  constructor
  · rintro ⟨name, listed⟩ empty
    rw [mem_variablesAt lines index raw later rest, empty] at listed
    cases listed
  · intro held
    obtain ⟨entry, member⟩ := List.exists_mem_of_ne_nil _ held
    refine ⟨entry.1, ?_⟩
    rw [mem_variablesAt lines index raw later rest]
    exact List.mem_map_of_mem member

theorem exists_first_line (parameters : List Parameter) (name text : Text)
    (listed : (name, text) ∈ assignedVariables parameters (bodyLines raw later)) :
    ∃ (line : Nat) (found : Text), lines[line]? = some found ∧ AssignsOn lines index line name ∧
      (∀ earlier, AssignsOn lines index earlier name → line ≤ earlier) ∧
      text = Text.strip found := by
  have kept := (perm_assignedVariables parameters (bodyLines raw later)).mem_iff.mp listed
  obtain ⟨offset, found, here, assigned, own, before⟩ :=
    find?_assignments _ name text (find?_of_mem_firstOfEach _ _ name text kept)
  have inScript := (getElem?_bodyLines lines index raw later rest offset found).mp here
  refine ⟨index + 1 + offset, found, inScript.2, ?_, ?_, own⟩
  · rw [assignsOn_iff lines index raw later rest]
    exact ⟨offset, rfl, by rw [here, Option.bind_some, assigned]⟩
  · intro earlier again
    obtain ⟨sooner, rfl, inBody⟩ := (assignsOn_iff lines index raw later rest _ name).mp again
    exact Nat.add_le_add_left (before sooner inBody) (index + 1)

theorem listsVariables_variableContainer :
    ListsVariables options lines index (variableContainer place
      (assignedVariables (parametersAt options lines index) (bodyLines raw later))) := by
  have names : ∀ entries : List (Text × Text),
      (variableContainer place entries).children.map Node.name = entries.map Prod.fst := by
    intro entries
    simp [variableContainer, container]
  constructor
  · rw [ncard_variablesAt lines index raw later rest options]
    simp [variableContainer, container]
  · intro name
    rw [names, mem_variablesAt lines index raw later rest options]
  · rw [names]
    exact sorted_assignedVariables _ _
  · intro leaf member
    obtain ⟨⟨name, text⟩, listed, rfl⟩ := List.mem_map.mp member
    obtain ⟨line, found, here, assigned, before, own⟩ :=
      exists_first_line lines index raw later rest _ name text listed
    exact ⟨rfl, rfl, line, found, here, assigned, before, congrArg ([·]) own⟩

end Functions

theorem variables_mem_details (options : Options) (place : Place) (parameters : List Parameter)
    (entries : List (Text × Text)) (expanded : options.expandFunctionDetails = true)
    (shown : options.showVariables = true) (found : Node) :
    found ∈ details options place parameters entries ∧ isContainerOf .localVariable found = true ↔
      entries ≠ [] ∧ found = variableContainer place entries := by
  have other : isContainerOf .localVariable (parameterContainer place parameters) = false := rfl
  have own : isContainerOf .localVariable (variableContainer place entries) = true := rfl
  rw [details_eq, expanded, shown, List.mem_append]
  constructor
  · rintro ⟨member, kind⟩
    rcases member with first | second
    · split at first
      · rw [List.mem_singleton.mp first, other] at kind
        cases kind
      · cases first
    · split at second
      · next held => exact ⟨by simpa using held, List.mem_singleton.mp second⟩
      · cases second
  · rintro ⟨held, rfl⟩
    exact ⟨Or.inr (by simp [held]), own⟩

/-- With details and variables shown, a function has a container of variables exactly if its body
assigns a name that is none of its parameters. The container lists all such names once and in order,
each with the first line of the body that assigns it. -/
theorem functions_list_their_variables (lines : List Text) (options : Options) (place : Place)
    (parsed : options.parseVariableAssignments = true)
    (expanded : options.expandFunctionDetails = true) (shown : options.showVariables = true)
    (position index : Nat) (started : (functionLines lines)[position]? = some index) :
    ∃ node, (functions (extract lines options place))[position]? = some node ∧
      ((∃ found ∈ node.children, isContainerOf .localVariable found = true) ↔
        (variablesAt options lines index).Nonempty) ∧
      ∀ found ∈ node.children, isContainerOf .localVariable found = true →
        ListsVariables options lines index found := by
  obtain ⟨signature, raw, later, rest, at_position⟩ :=
    functions_getElem? place lines position index started
  have lists := listsVariables_variableContainer lines index raw later rest options
    (functionPlace place lines index)
  have parameters : parametersAt options lines index =
      if options.parseParameterTypes then functionParameters raw later else [] := by
    rw [parametersAt, rest]
  have children : (functionNode options (functionPlace place lines index) signature raw
      later).children = details options (functionPlace place lines index)
        (parametersAt options lines index)
        (assignedVariables (parametersAt options lines index) (bodyLines raw later)) := by
    simp only [functionNode, parsed, if_true, parameters]
  refine ⟨_, at_position options, ?_, ?_⟩
  · rw [children]
    simp only [variables_mem_details _ _ _ _ expanded shown,
      nonempty_variablesAt lines index raw later rest options]
    constructor
    · rintro ⟨_, held, _⟩
      exact held
    · intro held
      exact ⟨_, held, rfl⟩
  · intro found member kind
    rw [children] at member
    obtain ⟨_, rfl⟩ := (variables_mem_details _ _ _ _ expanded shown found).mp ⟨member, kind⟩
    exact lists

/-- A function that assigns a parameter, a variable twice and two variables that differ in case. -/
def tallyScript : List Text :=
  ["function Tally($Seed) \x7b", "  $b = $Seed", "  $Seed = 0", "  $a = 1", "  $b = 2", "  $A = 3",
    "\x7d", "$late = 4"].map String.toList

theorem functions_tallyScript :
    (functionLines tallyScript)[0]? = some 0 ∧
      ∃ node, (functions (extract tallyScript {} {}))[0]? = some node ∧
        ((∃ found ∈ node.children, isContainerOf .localVariable found = true) ↔
          (variablesAt {} tallyScript 0).Nonempty) ∧
        ∀ found ∈ node.children, isContainerOf .localVariable found = true →
          ListsVariables {} tallyScript 0 found := by
  have started : (functionLines tallyScript)[0]? = some 0 := by decide
  exact ⟨started, functions_list_their_variables tallyScript {} {} rfl rfl rfl 0 0 started⟩

end Outliner.Script
