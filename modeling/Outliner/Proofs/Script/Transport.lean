import Outliner.Proofs.Outline.Labels
import Outliner.Proofs.Script.Declarations

namespace Outliner.Script

/-- The place of the functions in a class. -/
def Place.inner (place : Place) : Place :=
  { place with level := place.level + 1 }

def OpenClass.mapMethods (change : Node → Node) (current : OpenClass) : OpenClass :=
  { current with methods := current.methods.map change }

/-- The rule by which the nodes of functions and classes change when each line is respelled and the
nodes are placed elsewhere. Respelling a line may change only the blanks around it. -/
structure Carries (options : Options) (place target : Place) (respell : Text → Text)
    (change : Node → Node) : Prop where
  strip : ∀ raw, Text.strip (respell raw) = Text.strip raw
  function : ∀ signature raw later,
    functionNode options target signature (respell raw) (later.map respell) =
      change (functionNode options place signature raw later)
  method : ∀ signature raw later,
    functionNode options target.inner signature (respell raw) (later.map respell) =
      change (functionNode options place.inner signature raw later)
  type : ∀ current : OpenClass,
    (current.mapMethods change).node target = change (current.node place)

section Runs

variable (options : Options) (place target : Place) (respell : Text → Text) (change : Node → Node)

theorem feed_carried (carries : Carries options place target respell change) (line : Text)
    (current : Option OpenClass) :
    OpenClass.feed target line (current.map (OpenClass.mapMethods change)) =
      ((OpenClass.feed place line current).1.map change,
        (OpenClass.feed place line current).2.map (OpenClass.mapMethods change)) := by
  cases current with
  | none => rfl
  | some current =>
      have same : (current.mapMethods change).braces = current.braces := rfl
      simp only [Option.map_some, OpenClass.feed, same]
      split
      · simp only [List.map_cons, List.map_nil, Option.map_none, carries.type]
      · rfl

theorem startOn_carried (carries : Carries options place target respell change)
    (current : Option OpenClass) (raw : Text) (later : List Text) :
    startOn options target (current.map (OpenClass.mapMethods change)) (respell raw)
        (later.map respell) =
      ((startOn options place current raw later).1.map change,
        (startOn options place current raw later).2.map (OpenClass.mapMethods change)) := by
  simp only [startOn, carries.strip, Option.isSome_map]
  cases classStart? (Text.strip raw) with
  | some name =>
      cases current with
      | none => rfl
      | some opened =>
          simp only [Option.map_some, Option.toList_some, List.map_cons, List.map_nil, carries.type]
          rfl
  | none =>
      cases functionStart? (Text.strip raw) current.isSome with
      | none => rfl
      | some signature =>
          cases current with
          | none =>
              simp only [Option.map_none, List.map_cons, List.map_nil, carries.function]
          | some opened =>
              have method := carries.method signature raw later
              simp only [Place.inner] at method
              simp only [Option.map_some, List.map_nil, method, OpenClass.mapMethods,
                List.map_append, List.map_cons]

/-- What one line carries over, the scan of all lines does, by induction on the lines. -/
theorem extractFrom_carried (carries : Carries options place target respell change)
    (current : Option OpenClass) (lines : List Text) :
    extractFrom options target (current.map (OpenClass.mapMethods change)) (lines.map respell) =
      (extractFrom options place current lines).map change := by
  induction lines generalizing current with
  | nil =>
      cases current with
      | none => rfl
      | some opened =>
          simp only [List.map_nil, Option.map_some, extractFrom, Option.toList_some, List.map_cons,
            carries.type]
  | cons raw later ih =>
      have started := startOn_carried options place target respell change carries current raw later
      have fed := feed_carried options place target respell change carries (Text.strip raw)
        (startOn options place current raw later).2
      simp only [List.map_cons, extractFrom, started, carries.strip, fed, ih, List.map_append]

theorem extract_carried (carries : Carries options place target respell change)
    (lines : List Text) :
    extract (lines.map respell) options target = (extract lines options place).map change :=
  extractFrom_carried options place target respell change carries none lines

end Runs

section Places

variable (options : Options) (place : Place) (shift : Int) (path : Text)

def Place.moved (place : Place) (shift : Int) (path : Text) : Place :=
  ⟨path, place.level + shift⟩

theorem Place.inner_moved : (place.moved shift path).inner = place.inner.moved shift path := by
  have level : place.level + shift + 1 = place.level + 1 + shift := by omega
  simp only [Place.inner, Place.moved, level]

theorem relabel_container (title : String) (itemKind : Kind) (leaves moved : List Node)
    (same : relabel shift path leaves = moved) :
    (container title itemKind place leaves).relabel shift path =
      container title itemKind (place.moved shift path) moved := by
  have size : moved.length = leaves.length := by
    rw [← same, relabel_eq_map, List.length_map]
  have level : place.level + 1 + shift = place.level + shift + 1 := by omega
  simp only [Node.relabel_eq, container, same, size, Place.moved, level]

theorem relabel_parameterContainer (parameters : List Parameter) :
    (parameterContainer place parameters).relabel shift path =
      parameterContainer (place.moved shift path) parameters := by
  have level : place.level + 2 + shift = place.level + shift + 2 := by omega
  apply relabel_container
  rw [relabel_eq_map, List.map_map]
  apply List.map_congr_left
  intro parameter _
  simp only [Function.comp_apply, Node.relabel_eq, relabel, Place.moved, level]

theorem relabel_variableContainer (entries : List (Text × Text)) :
    (variableContainer place entries).relabel shift path =
      variableContainer (place.moved shift path) entries := by
  have level : place.level + 2 + shift = place.level + shift + 2 := by omega
  apply relabel_container
  rw [relabel_eq_map, List.map_map]
  apply List.map_congr_left
  intro entry _
  simp only [Function.comp_apply, Node.relabel_eq, relabel, Place.moved, level]

theorem relabel_details (parameters : List Parameter) (entries : List (Text × Text)) :
    relabel shift path (details options place parameters entries) =
      details options (place.moved shift path) parameters entries := by
  have shown := relabel_parameterContainer place shift path parameters
  have assigned := relabel_variableContainer place shift path entries
  rw [relabel_eq_map, details, details]
  split
  · rw [List.map_append]
    split <;> split <;> simp [shown, assigned]
  · rfl

theorem relabel_functionNode (signature : Signature) (raw : Text) (later : List Text) :
    (functionNode options place signature raw later).relabel shift path =
      functionNode options (place.moved shift path) signature raw later := by
  simp only [functionNode, Node.relabel_eq, relabel_details, Place.moved]

theorem carries_relabel :
    Carries options place (place.moved shift path) id (Node.relabel shift path) where
  strip := fun raw => rfl
  function := by
    intro signature raw later
    rw [relabel_functionNode, List.map_id]
    rfl
  method := by
    intro signature raw later
    rw [relabel_functionNode, Place.inner_moved, List.map_id]
    rfl
  type := by
    intro current
    simp only [OpenClass.node, OpenClass.mapMethods, Node.relabel_eq, relabel_eq_map, Place.moved]

theorem relabel_extract (lines : List Text) (target : Place) :
    extract lines options target =
      relabel (target.level - place.level) target.path (extract lines options place) := by
  have reached : place.moved (target.level - place.level) target.path = target := by
    have level : place.level + (target.level - place.level) = target.level := by omega
    simp only [Place.moved, level]
  have carried := extract_carried options place _ id _
    (carries_relabel options place (target.level - place.level) target.path) lines
  rw [reached, List.map_id] at carried
  rw [carried, relabel_eq_map]

theorem path_of_mem_extract (lines : List Text) :
    ∀ node ∈ preorder (extract lines options place), node.path = place.path := by
  rw [relabel_extract options place lines place]
  exact path_of_relabelled _ _ _

end Places

section Levels

variable (options : Options) (place : Place)

theorem atLevel_details (parameters : List Parameter) (entries : List (Text × Text)) :
    AtLevel (place.level + 1) (details options place parameters entries) := by
  have leafLevel : place.level + 1 + 1 = place.level + 2 := by omega
  have shown : AtLevel (place.level + 1 + 1) (parameterContainer place parameters).children := by
    apply atLevel_leaves
    intro leaf member
    rcases List.mem_map.mp member with ⟨parameter, _, rfl⟩
    exact ⟨leafLevel.symm, rfl⟩
  have assigned : AtLevel (place.level + 1 + 1) (variableContainer place entries).children := by
    apply atLevel_leaves
    intro leaf member
    rcases List.mem_map.mp member with ⟨entry, _, rfl⟩
    exact ⟨leafLevel.symm, rfl⟩
  rw [atLevel_iff_roots]
  intro node member
  rw [details] at member
  split at member
  · rcases List.mem_append.mp member with first | second
    · split at first
      · rw [List.mem_singleton.mp first]
        exact ⟨rfl, shown⟩
      · cases first
    · split at second
      · rw [List.mem_singleton.mp second]
        exact ⟨rfl, assigned⟩
      · cases second
  · cases member

theorem atLevel_functionNode (signature : Signature) (raw : Text) (later : List Text) :
    AtLevel place.level [functionNode options place signature raw later] := by
  rw [atLevel_singleton]
  exact ⟨rfl, atLevel_details options place _ _⟩

theorem atLevel_functionNodeAt? (lines : List Text) (index : Nat) (node : Node) (level : Int)
    (placed : (functionPlace place lines index).level = level)
    (here : functionNodeAt? options place lines index = some node) :
    node.level = level ∧ AtLevel (level + 1) node.children := by
  obtain ⟨signature, raw, later, _, _, rfl⟩ :=
    functionNodeAt?_eq_some options place lines index node here
  rw [← placed, ← atLevel_singleton]
  exact atLevel_functionNode options (functionPlace place lines index) signature raw later

theorem atLevel_methods (lines : List Text) (first : Nat) (indices : List Nat) :
    AtLevel (place.level + 1) (indices.filterMap (methodAt? options place lines first)) := by
  rw [atLevel_iff_roots]
  intro method member
  rcases List.mem_filterMap.mp member with ⟨index, _, listed⟩
  rw [methodAt?] at listed
  split at listed
  · next owned =>
      have level : (functionPlace place lines index).level = place.level + 1 := by
        simp [functionPlace, owned]
      exact atLevel_functionNodeAt? options place lines index method _ level listed
  · cases listed

theorem atLevel_extract (lines : List Text) :
    AtLevel place.level (extract lines options place) := by
  rw [extract_eq_roots, atLevel_iff_roots]
  intro node member
  rcases List.mem_filterMap.mp member with ⟨index, _, yielded⟩
  rw [rootAt?, Option.or_eq_some_iff] at yielded
  rcases yielded with own | ⟨_, free⟩
  · rcases Option.map_eq_some_iff.mp own with ⟨name, _, rfl⟩
    exact ⟨rfl, atLevel_methods options place lines index _⟩
  · split at free
    · next unowned =>
        have level : (functionPlace place lines index).level = place.level := by
          simp [functionPlace, unowned]
        exact atLevel_functionNodeAt? options place lines index node _ level free
    · cases free

end Levels

end Outliner.Script
