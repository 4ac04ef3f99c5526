import Outliner.Proofs.Outline.Forest
import Outliner.Proofs.Script.Declarations

/-!
The pre-order listing of a script's outline. Every line that starts a class or a function has one
node in it, in the order of the lines, and no other line has one.
-/

namespace Outliner.Script

def isDeclaration (node : Node) : Bool :=
  node.kind == .classType || node.kind == .function

section Listing

variable (options : Options) (place : Place) (lines : List Text)

/-- The classes and functions of a forest, in pre-order. -/
def declarations (forest : List Node) : List Node :=
  (preorder forest).filter isDeclaration

@[simp] theorem declarations_nil : declarations [] = [] := rfl

theorem declarations_cons (node : Node) (rest : List Node) :
    declarations (node :: rest) =
      [node].filter isDeclaration ++ declarations node.children ++ declarations rest := by
  simp only [declarations, preorder_cons, List.filter_cons, List.filter_append, List.filter_nil]
  split <;> simp

theorem parameter_leaf (parameters : List Parameter) (leaf : Node)
    (member : leaf ∈ (parameterContainer place parameters).children) :
    leaf.children = [] ∧ leaf.kind = .parameter := by
  obtain ⟨parameter, _, rfl⟩ := List.mem_map.mp member
  exact ⟨rfl, rfl⟩

theorem variable_leaf (entries : List (Text × Text)) (leaf : Node)
    (member : leaf ∈ (variableContainer place entries).children) :
    leaf.children = [] ∧ leaf.kind = .localVariable := by
  obtain ⟨entry, _, rfl⟩ := List.mem_map.mp member
  exact ⟨rfl, rfl⟩

theorem declarations_container (node : Node) (kind : Kind) (outer : node.kind = .container)
    (leaves : ∀ leaf ∈ node.children, leaf.children = [] ∧ leaf.kind = kind)
    (plain : kind ≠ .classType ∧ kind ≠ .function) :
    declarations [node] = [] := by
  have inner : declarations node.children = [] := by
    rw [declarations, preorder_leaves _ (fun leaf member => (leaves leaf member).1),
      List.filter_eq_nil_iff]
    intro leaf member
    simp [isDeclaration, (leaves leaf member).2, plain]
  simp [declarations_cons, isDeclaration, outer, inner]

theorem declarations_append (front back : List Node) :
    declarations (front ++ back) = declarations front ++ declarations back := by
  simp [declarations]

theorem declarations_details (parameters : List Parameter) (entries : List (Text × Text)) :
    declarations (details options place parameters entries) = [] := by
  have shown := declarations_container (parameterContainer place parameters) .parameter rfl
    (parameter_leaf place parameters) (by decide)
  have assigned := declarations_container (variableContainer place entries) .localVariable rfl
    (variable_leaf place entries) (by decide)
  rw [details]
  split
  · rw [declarations_append]
    split <;> split <;> simp [shown, assigned]
  · rfl

theorem declarations_functionNode (index : Nat) (node : Node)
    (here : functionNodeAt? options place lines index = some node) (rest : List Node) :
    declarations (node :: rest) = node :: declarations rest := by
  obtain ⟨signature, raw, later, _, _, rfl⟩ :=
    functionNodeAt?_eq_some options place lines index node here
  simp [declarations_cons, functionNode, isDeclaration, declarations_details]

theorem declarations_methods (first : Nat) (indices : List Nat) :
    declarations (indices.filterMap (methodAt? options place lines first)) =
      indices.filterMap (methodAt? options place lines first) := by
  induction indices with
  | nil => rfl
  | cons index rest ih =>
      cases here : methodAt? options place lines first index with
      | none => simpa [here] using ih
      | some node =>
          have function := methodAt?_eq_some options place lines first index node here
          rw [List.filterMap_cons_some here,
            declarations_functionNode options place lines index node function, ih]

theorem declarations_methodsFrom (index count : Nat) :
    declarations (methodsFrom options place lines index count) =
      methodsFrom options place lines index count := by
  rw [methodsFrom]
  split
  · rfl
  · exact declarations_methods options place lines _ _

theorem declarations_roots (index count : Nat) (bound : index + count = lines.length) :
    methodsFrom options place lines index count ++
        declarations ((List.range' index count).filterMap (rootAt? options place lines)) =
      (List.range' index count).filterMap (declarationAt? options place lines) := by
  induction count generalizing index with
  | zero => rw [methodsFrom_zero]; rfl
  | succ count ih =>
      have inside : index < lines.length := by omega
      have follow := ih (index + 1) (by omega)
      rw [List.range'_succ]
      cases start : classAt? lines index with
      | some name =>
          have node := classNodeAt?_eq_methodsFrom options place lines index name inside start
          have size : lines.length - (index + 1) = count := by omega
          have root : rootAt? options place lines index =
              classNodeAt? options place lines index := by simp [rootAt?, node]
          have own : declarationAt? options place lines index =
              classNodeAt? options place lines index := by simp [declarationAt?, node]
          rw [methodsFrom_class options place lines index count name start,
            List.filterMap_cons_some (root.trans node), List.filterMap_cons_some (own.trans node),
            declarations_cons, declarations_methodsFrom, size, ← follow]
          simp [isDeclaration]
      | none =>
          have own := declarationAt?_plain options place lines index start
          cases owned : owner? lines index with
          | none =>
              have root := rootAt?_free options place lines index start owned
              have shut : owner? lines (index + 1) = none := by
                simpa [owned] using owner?_succ_plain lines index inside start
              simp only [methodsFrom, owned, shut, List.nil_append] at follow ⊢
              cases here : functionNodeAt? options place lines index with
              | none =>
                  rw [List.filterMap_cons_none (root.trans here),
                    List.filterMap_cons_none (own.trans here), follow]
              | some node =>
                  rw [List.filterMap_cons_some (root.trans here),
                    List.filterMap_cons_some (own.trans here),
                    declarations_functionNode options place lines index node here, follow]
          | some first =>
              have root := rootAt?_owned options place lines index first start owned
              rw [methodsFrom_succ options place lines index count first inside start owned,
                List.filterMap_cons_none root, List.append_assoc, follow, List.filterMap_cons, own]
              cases functionNodeAt? options place lines index <;> rfl

theorem declarations_extract :
    declarations (extract lines options place) =
      (List.range lines.length).filterMap (declarationAt? options place lines) := by
  have free : owner? lines 0 = none := rfl
  have listed := declarations_roots options place lines 0 lines.length (Nat.zero_add _)
  simp only [methodsFrom, free, List.nil_append, ← List.range_eq_range'] at listed
  rw [extract_eq_roots, listed]

/-- The functions of a forest, in pre-order. -/
def functions (forest : List Node) : List Node :=
  (preorder forest).filter fun node => node.kind == .function

/-- The lines that start functions. -/
def functionLines : List Nat :=
  (List.range lines.length).filter fun index => (functionAt? lines index).isSome

theorem functionNodeAt?_kind (index : Nat) (node : Node)
    (here : functionNodeAt? options place lines index = some node) : node.kind = .function := by
  obtain ⟨signature, raw, later, _, _, rfl⟩ :=
    functionNodeAt?_eq_some options place lines index node here
  rfl

theorem functionOf_declarationAt? (index : Nat) :
    (declarationAt? options place lines index).filter (fun node => node.kind == .function) =
      functionNodeAt? options place lines index := by
  cases start : classAt? lines index with
  | some name =>
      rw [functionNodeAt?_of_class options place lines index name start]
      simp [declarationAt?, classNodeAt?, start]
  | none =>
      rw [declarationAt?_plain options place lines index start]
      cases here : functionNodeAt? options place lines index with
      | none => rfl
      | some node => simp [functionNodeAt?_kind options place lines index node here]

theorem functions_extract :
    functions (extract lines options place) =
      (functionLines lines).filterMap (functionNodeAt? options place lines) := by
  have narrowed : functions (extract lines options place) =
      (declarations (extract lines options place)).filter fun node => node.kind == .function := by
    rw [functions, declarations, List.filter_filter]
    congr 1
    funext node
    rw [isDeclaration]
    cases node.kind <;> rfl
  have wide : (functionLines lines).filterMap (functionNodeAt? options place lines) =
      (List.range lines.length).filterMap (functionNodeAt? options place lines) := by
    rw [functionLines, List.filterMap_filter]
    congr 1
    funext index
    rw [← functionNodeAt?_isSome options place lines index]
    cases functionNodeAt? options place lines index <;> rfl
  rw [narrowed, declarations_extract, List.filter_filterMap, wide]
  simp only [functionOf_declarationAt?]

theorem mem_functions_extract (index : Nat) (node : Node)
    (here : functionNodeAt? options place lines index = some node) :
    node ∈ functions (extract lines options place) := by
  have started : (functionAt? lines index).isSome = true := by
    rw [← functionNodeAt?_isSome options place lines, here, Option.isSome_some]
  obtain ⟨signature, declared⟩ := Option.isSome_iff_exists.mp started
  obtain ⟨raw, found, _⟩ := Option.bind_eq_some_iff.mp declared
  obtain ⟨inside, _⟩ := List.getElem?_eq_some_iff.mp found
  rw [functions_extract]
  apply List.mem_filterMap.mpr ⟨index, ?_, here⟩
  exact List.mem_filter.mpr ⟨List.mem_range.mpr inside, started⟩

theorem map_some_functions :
    (functions (extract lines options place)).map some =
      (functionLines lines).map (functionNodeAt? options place lines) := by
  have started : ∀ index ∈ functionLines lines,
      (functionNodeAt? options place lines index).isSome := by
    intro index member
    rw [functionNodeAt?_isSome]
    exact (List.mem_filter.mp member).2
  rw [functions_extract]
  generalize functionLines lines = indices at started
  induction indices with
  | nil => rfl
  | cons index rest ih =>
      obtain ⟨node, here⟩ := Option.isSome_iff_exists.mp (started index List.mem_cons_self)
      have others := ih (fun other member => started other (List.mem_cons_of_mem index member))
      rw [List.filterMap_cons_some here, List.map_cons, List.map_cons, others, here]

theorem mem_preorder_extract (node : Node) (member : node ∈ preorder (extract lines options place)) :
    ∃ index, classNodeAt? options place lines index = some node ∨
      ∃ function, functionNodeAt? options place lines index = some function ∧
        (node = function ∨ node ∈ preorder function.children) := by
  rw [extract_eq_roots, mem_preorder] at member
  obtain ⟨root, yielded, below⟩ := member
  obtain ⟨index, _, yielded⟩ := List.mem_filterMap.mp yielded
  rw [rootAt?, Option.or_eq_some_iff] at yielded
  rcases yielded with own | ⟨_, free⟩
  · rcases below with rfl | below
    · exact ⟨index, Or.inl own⟩
    · obtain ⟨name, _, rfl⟩ := Option.map_eq_some_iff.mp own
      obtain ⟨method, listed, below⟩ := (mem_preorder node _).mp below
      obtain ⟨line, _, listed⟩ := List.mem_filterMap.mp listed
      have function := methodAt?_eq_some options place lines index line method listed
      exact ⟨line, Or.inr ⟨method, function, below⟩⟩
  · split at free
    · exact ⟨index, Or.inr ⟨root, free, below⟩⟩
    · cases free

theorem declarationAt?_header (index : Nat) :
    (declarationAt? options place lines index).map (fun node => (node.kind, node.name)) =
      match classAt? lines index with
      | some name => some (.classType, name)
      | none => (functionAt? lines index).map fun signature => (.function, signature.displayName) := by
  cases start : classAt? lines index with
  | some name => simp [declarationAt?, classNodeAt?, start]
  | none =>
      rw [declarationAt?_plain options place lines index start]
      cases rest : lines.drop index with
      | nil =>
          have past : lines[index]? = none := by rw [← List.head?_drop, rest, List.head?_nil]
          simp [functionNodeAt?, functionAt?, past]
      | cons raw later =>
          rw [functionNodeAt?_eq options place lines index raw later rest, Option.map_map]
          rfl

/-- The outline of a script, line by line. Its roots are the classes and the functions that no class
owns, a class has as children the functions of the lines that it owns, and in pre-order the classes
and functions stand in the order of their lines, one for each line that starts one. -/
theorem extract_line_by_line :
    extract lines options place =
        (List.range lines.length).filterMap (rootAt? options place lines) ∧
      declarations (extract lines options place) =
        (List.range lines.length).filterMap (declarationAt? options place lines) ∧
      ∀ index, (declarationAt? options place lines index).map (fun node => (node.kind, node.name)) =
        match classAt? lines index with
        | some name => some (.classType, name)
        | none =>
          (functionAt? lines index).map fun signature => (.function, signature.displayName) := by
  exact ⟨extract_eq_roots options place lines, declarations_extract options place lines,
    declarationAt?_header options place lines⟩

end Listing

end Outliner.Script
