import Outliner.Proofs.Script.Composition
import Outliner.Proofs.Script.Listing
import Outliner.Proofs.Script.Transport
import Outliner.Proofs.Text.Strip

/-!
Indentation does not matter to the outline of a script. The outline of the stripped lines is that of
the lines themselves, with the lines of every function stripped.
-/

namespace Outliner.Script

mutual

/-- A tree in which the lines of every function are stripped. Nothing else changes. -/
def Node.flush : Node → Node
  | ⟨name, kind, path, level, expanded, lines, children, itemKind⟩ =>
    ⟨name, kind, path, level, expanded,
      if kind = .function then lines.map Text.strip else lines, flush children, itemKind⟩
termination_by structural node => node

def flush : List Node → List Node
  | [] => []
  | node :: rest => Node.flush node :: flush rest
termination_by structural forest => forest

end

theorem Node.flush_eq (node : Node) :
    Node.flush node =
      { node with lines := if node.kind = .function then node.lines.map Text.strip else node.lines,
                  children := Script.flush node.children } := by
  cases node
  rfl

theorem flush_eq_map (forest : List Node) : flush forest = forest.map Node.flush := by
  induction forest with
  | nil => rfl
  | cons node rest ih => rw [flush, ih, List.map_cons]

theorem Node.flush_of_plain (node : Node) (plain : node.kind ≠ .function)
    (below : Script.flush node.children = node.children) : Node.flush node = node := by
  rw [Node.flush_eq, if_neg plain, below]
  exact node.with_children node.children rfl

theorem flush_leaves (kind : Kind) (plain : kind ≠ .function) (leaves : List Node)
    (each : ∀ leaf ∈ leaves, leaf.children = [] ∧ leaf.kind = kind) : flush leaves = leaves := by
  induction leaves with
  | nil => rfl
  | cons leaf rest ih =>
      rw [List.forall_mem_cons] at each
      have own : Node.flush leaf = leaf := by
        apply Node.flush_of_plain
        · rw [each.1.2]
          exact plain
        · rw [each.1.1]
          rfl
      rw [flush, own, ih each.2]

theorem flush_details (options : Options) (place : Place) (parameters : List Parameter)
    (entries : List (Text × Text)) :
    flush (details options place parameters entries) =
      details options place parameters entries := by
  have shown : Node.flush (parameterContainer place parameters) =
      parameterContainer place parameters := by
    apply Node.flush_of_plain
    · exact nofun
    · exact flush_leaves .parameter nofun _ (parameter_leaf place parameters)
  have assigned : Node.flush (variableContainer place entries) =
      variableContainer place entries := by
    apply Node.flush_of_plain
    · exact nofun
    · exact flush_leaves .localVariable nofun _ (variable_leaf place entries)
  rw [flush_eq_map, details]
  split
  · rw [List.map_append]
    split <;> split <;> simp [shown, assigned]
  · rfl

section Lines

theorem extent_strip (braces : Braces) (lines : List Text) :
    braces.extent (lines.map Text.strip) = braces.extent lines := by
  induction lines generalizing braces with
  | nil => rfl
  | cons line later ih =>
      simp only [List.map_cons, Braces.extent, Text.strip_strip, ih]

theorem bodyLines_strip (raw : Text) (later : List Text) :
    bodyLines (Text.strip raw) (later.map Text.strip) = (bodyLines raw later).map Text.strip := by
  rw [bodyLines, bodyLines, Text.strip_strip]
  split
  · rfl
  · rw [extent_strip, List.map_take]

theorem collect_strip (depth : Nat) (segment : Text) (later : List Text) :
    ParamBlock.collect depth segment (later.map Text.strip) =
      ParamBlock.collect depth segment later := by
  induction later generalizing depth segment with
  | nil => rfl
  | cons next others ih =>
      by_cases zero : (ParamBlock.inside depth segment).2 = 0
      · rw [ParamBlock.collect_of_zero depth segment _ zero,
          ParamBlock.collect_of_zero depth segment _ zero]
      · rw [List.map_cons, ParamBlock.collect_cons depth segment _ _ zero,
          ParamBlock.collect_cons depth segment _ _ zero, Text.strip_strip, ih]

theorem read_strip (lines : List Text) :
    ParamBlock.read (lines.map Text.strip) = ParamBlock.read lines := by
  cases lines with
  | nil => rfl
  | cons first later => simp only [List.map_cons, ParamBlock.read, Text.strip_strip, collect_strip]

theorem blockParameters_strip (count : Nat) (lines : List Text) :
    blockParameters count (lines.map Text.strip) = blockParameters count lines := by
  induction lines generalizing count with
  | nil => rfl
  | cons line later ih =>
      cases count with
      | zero => rfl
      | succ count =>
          have block := read_strip (line :: later)
          rw [List.map_cons] at block
          simp only [List.map_cons, blockParameters, Text.strip_strip, ih, block]

theorem functionParameters_strip (raw : Text) (later : List Text) :
    functionParameters (Text.strip raw) (later.map Text.strip) = functionParameters raw later := by
  rw [functionParameters, functionParameters, Text.strip_strip, bodyLines_strip, List.length_map,
    blockParameters_strip]

theorem assignments_strip (body : List Text) :
    assignments (body.map Text.strip) = assignments body := by
  simp only [assignments, List.filterMap_map]
  apply List.filterMap_congr
  intro line _
  simp only [Function.comp_apply, Text.strip_strip]

end Lines

section Outlines

variable (options : Options) (place : Place)

theorem flush_functionNode (signature : Signature) (raw : Text) (later : List Text) :
    functionNode options place signature (Text.strip raw) (later.map Text.strip) =
      Node.flush (functionNode options place signature raw later) := by
  have body := bodyLines_strip raw later
  have shown : (if options.showFunctionNames then [Text.strip raw]
      else Text.strip raw :: (bodyLines raw later).map Text.strip) =
      (if options.showFunctionNames then [raw] else raw :: bodyLines raw later).map Text.strip := by
    cases options.showFunctionNames <;> rfl
  simp only [Node.flush_eq, functionNode, functionParameters_strip, body, assignedVariables,
    assignments_strip, flush_details, shown, if_true]

theorem carries_flush : Carries options place place Text.strip Node.flush where
  strip := Text.strip_strip
  function := flush_functionNode options place
  method := flush_functionNode options place.inner
  type := by
    intro current
    rw [Node.flush_eq, if_neg (by exact nofun)]
    simp only [OpenClass.node, OpenClass.mapMethods, flush_eq_map]

theorem extract_strip (lines : List Text) :
    extract (lines.map Text.strip) options place = flush (extract lines options place) := by
  rw [extract_carried options place place Text.strip Node.flush (carries_flush options place) lines,
    flush_eq_map]

end Outlines

/-- Two scripts whose lines differ only in the blanks around them have the same outline, but for the
blanks around the lines that functions show. -/
theorem extract_ignores_indentation (lines other : List Text) (options : Options) (place : Place)
    (same : lines.map Text.strip = other.map Text.strip) :
    flush (extract lines options place) = flush (extract other options place) := by
  rw [← extract_strip, ← extract_strip, same]

/-- The same method in two layouts. -/
def indentedScript : List Text :=
  ["class Box \x7b", "    [int] Size([int]$n) \x7b", "\t$m = $n + 1", "    \x7d", "\x7d"].map
    String.toList

def flatScript : List Text :=
  ["  class Box \x7b  ", "[int] Size([int]$n) \x7b", "$m = $n + 1 ", "\x7d", "\x7d"].map
    String.toList

theorem extract_flatScript :
    indentedScript ≠ flatScript ∧ indentedScript.map Text.strip = flatScript.map Text.strip ∧
      flush (extract indentedScript { showFunctionNames := false } {}) =
        flush (extract flatScript { showFunctionNames := false } {}) := by
  have same : indentedScript.map Text.strip = flatScript.map Text.strip := by decide
  exact ⟨by decide, same, extract_ignores_indentation indentedScript flatScript _ _ same⟩

end Outliner.Script
