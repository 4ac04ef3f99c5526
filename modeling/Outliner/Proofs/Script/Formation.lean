import Outliner.Proofs.Outline.WellFormed
import Outliner.Proofs.Script.Projection

namespace Outliner.Script

theorem sound_container (title : String) (itemKind : Kind) (place : Place) (leaves : List Node)
    (named : containerTitle itemKind = some title.toList) (held : leaves ≠ [])
    (kinds : OfKinds [itemKind] leaves) : (container title itemKind place leaves).Sound where
  collapsed := rfl
  grouping := fun _ => rfl
  fits := ⟨held, itemKind, title.toList, rfl, named, kinds, rfl⟩

theorem wellFormed_parameterContainer (place : Place) (parameters : List Parameter)
    (held : parameters ≠ []) : WellFormed [parameterContainer place parameters] := by
  rw [wellFormed_cons]
  refine ⟨?_, ?_, wellFormed_nil⟩
  · apply sound_container "Parameters" .parameter place _ rfl
    · simpa using held
    · intro leaf member
      simp [(parameter_leaf place parameters leaf member).2]
  · apply wellFormed_leaves
    · intro leaf member
      obtain ⟨parameter, _, rfl⟩ := List.mem_map.mp member
      exact Node.sound_of_fits _ rfl rfl rfl
    · intro leaf member
      exact (parameter_leaf place parameters leaf member).1

theorem wellFormed_variableContainer (place : Place) (entries : List (Text × Text))
    (held : entries ≠ []) : WellFormed [variableContainer place entries] := by
  rw [wellFormed_cons]
  refine ⟨?_, ?_, wellFormed_nil⟩
  · apply sound_container "Variables" .localVariable place _ rfl
    · simpa using held
    · intro leaf member
      simp [(variable_leaf place entries leaf member).2]
  · apply wellFormed_leaves
    · intro leaf member
      obtain ⟨entry, _, rfl⟩ := List.mem_map.mp member
      exact Node.sound_of_fits _ rfl rfl ⟨rfl, rfl⟩
    · intro leaf member
      exact (variable_leaf place entries leaf member).1

section Nodes

variable (options : Options) (place : Place)

theorem wellFormed_details (parameters : List Parameter) (entries : List (Text × Text)) :
    WellFormed (details options place parameters entries) := by
  rw [details_eq, wellFormed_append]
  constructor
  · split
    · next shown =>
        apply wellFormed_parameterContainer
        rintro rfl
        simp at shown
    · exact wellFormed_nil
  · split
    · next shown =>
        apply wellFormed_variableContainer
        rintro rfl
        simp at shown
    · exact wellFormed_nil

theorem details_sublist (parameters : List Parameter) (entries : List (Text × Text)) :
    ((details options place parameters entries).map fun child =>
      (child.kind, child.itemKind)).Sublist
      [(.container, some .parameter), (.container, some .localVariable)] := by
  rw [details_eq]
  split <;> split <;> simp [parameterContainer, variableContainer, container]

theorem wellFormed_functionNode (signature : Signature) (raw : Text) (later : List Text) :
    WellFormed [functionNode options place signature raw later] := by
  rw [wellFormed_cons]
  refine ⟨Node.sound_of_fits _ rfl rfl ?_, ?_, wellFormed_nil⟩
  · exact details_sublist options place _ _
  · exact wellFormed_details options place _ _

end Nodes

section Outlines

variable (options : Options) (place : Place) (lines : List Text)

theorem sound_classNodeAt? (index : Nat) (node : Node)
    (here : classNodeAt? options place lines index = some node) : node.Sound := by
  obtain ⟨name, _, rfl⟩ := Option.map_eq_some_iff.mp here
  refine Node.sound_of_fits _ rfl rfl ?_
  intro method member
  obtain ⟨line, _, listed⟩ := List.mem_filterMap.mp member
  have function := methodAt?_eq_some options place lines index line method listed
  obtain ⟨signature, raw, later, _, _, rfl⟩ :=
    functionNodeAt?_eq_some options place lines line method function
  exact List.mem_cons_self

theorem wellFormed_extract : WellFormed (extract lines options place) := by
  intro node member
  obtain ⟨index, own | ⟨function, yielded, below⟩⟩ :=
    mem_preorder_extract options place lines node member
  · exact sound_classNodeAt? options place lines index node own
  · obtain ⟨signature, raw, later, _, _, rfl⟩ :=
      functionNodeAt?_eq_some options place lines index function yielded
    apply wellFormed_functionNode options (functionPlace place lines index) signature raw later
    rw [preorder_cons, preorder_nil, List.append_nil, List.mem_cons]
    exact below

theorem ofKinds_extract : OfKinds [.classType, .function] (extract lines options place) := by
  intro node member
  rw [extract_eq_roots] at member
  obtain ⟨index, _, yielded⟩ := List.mem_filterMap.mp member
  rw [rootAt?, Option.or_eq_some_iff] at yielded
  rcases yielded with own | ⟨_, free⟩
  · obtain ⟨name, _, rfl⟩ := Option.map_eq_some_iff.mp own
    exact List.mem_cons_self
  · split at free
    · obtain ⟨signature, raw, later, _, _, rfl⟩ :=
        functionNodeAt?_eq_some options place lines index node free
      exact List.mem_cons_of_mem _ List.mem_cons_self
    · cases free

end Outlines

end Outliner.Script
