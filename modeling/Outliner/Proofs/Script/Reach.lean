import Outliner.Proofs.Script.Extent

/-!
How far the outline of a function reads. Its lines and its variables come from its block alone. A
parameter block whose parentheses do not close in there is read on after the block, up to where they
close, and may gain parameters from what follows.
-/

namespace Outliner.Script

namespace ParamBlock

def leftOpenFrom (depth : Nat) (segment : Text) : List Text → Nat
  | [] => (inside depth segment).2
  | next :: others =>
    if (inside depth segment).2 = 0 then 0
    else leftOpenFrom (inside depth segment).2 (Text.strip next) others

def leftOpen : List Text → Nat
  | [] => 0
  | first :: later =>
    (opening? (Text.strip first)).elim 0 fun segment => leftOpenFrom 1 segment later

def readOn (depth : Nat) : List Text → List Parameter
  | [] => []
  | next :: others => if depth = 0 then [] else (collect depth (Text.strip next) others).1

theorem readOn_zero (lines : List Text) : readOn 0 lines = [] := by
  cases lines <;> rfl

theorem collect_readOn (depth : Nat) (segment : Text) (later more : List Text) :
    (collect depth segment (later ++ more)).1 =
      (collect depth segment later).1 ++ readOn (leftOpenFrom depth segment later) more := by
  induction later generalizing depth segment with
  | nil =>
      by_cases zero : (inside depth segment).2 = 0
      · rw [List.nil_append, collect_of_zero depth segment more zero,
          collect_of_zero depth segment [] zero, leftOpenFrom, zero, readOn_zero, List.append_nil]
      · have single :
            (collect depth segment []).1 = Parameter.parseList (inside depth segment).1 := by
          rw [collect]
          rcases inside depth segment with ⟨part, _ | open_⟩ <;> rfl
        cases more with
        | nil => simp [readOn]
        | cons next others =>
            rw [List.nil_append, collect_cons depth segment next others zero, single, leftOpenFrom,
              readOn, if_neg zero]
  | cons next others ih =>
      by_cases zero : (inside depth segment).2 = 0
      · rw [collect_of_zero depth segment _ zero, collect_of_zero depth segment _ zero,
          leftOpenFrom, if_pos zero, readOn_zero, List.append_nil]
      · rw [List.cons_append, collect_cons depth segment next _ zero,
          collect_cons depth segment next _ zero, leftOpenFrom, if_neg zero, ih, List.append_assoc]

theorem leftOpenFrom_of_closes (depth : Nat) (segment : Text) (later : List Text)
    (shut : closesFrom depth segment later) : leftOpenFrom depth segment later = 0 := by
  induction later generalizing depth segment with
  | nil => simpa [closesFrom, leftOpenFrom] using shut
  | cons next others ih =>
      by_cases zero : (inside depth segment).2 = 0
      · rw [leftOpenFrom, if_pos zero]
      · rw [leftOpenFrom, if_neg zero]
        exact ih _ _ (by simpa [closesFrom, zero] using shut)

theorem leftOpen_of_closes (block : List Text) (shut : closes block) : leftOpen block = 0 := by
  cases block with
  | nil => rfl
  | cons first later =>
      rw [closes, Option.any_eq_true] at shut
      obtain ⟨segment, found, shut⟩ := shut
      rw [leftOpen, found]
      exact leftOpenFrom_of_closes 1 segment later shut

theorem read_readOn (first : Text) (later more : List Text) :
    (read (first :: (later ++ more))).1 =
      (read (first :: later)).1 ++ readOn (leftOpen (first :: later)) more := by
  simp only [read, leftOpen]
  cases opening? (Text.strip first) with
  | none => rw [Option.elim_none, readOn_zero]; rfl
  | some segment => exact collect_readOn 1 segment later more

end ParamBlock

/-- The parameters that are read in the lines beyond those of a function's block. -/
def overrun (options : Options) (block beyond : List Text) : List Parameter :=
  (scannedBlock? options block).elim [] fun declared =>
    ParamBlock.readOn (ParamBlock.leftOpen declared) beyond

section Functions

variable (options : Options) (raw : Text) (later beyond : List Text)

theorem overrun_of_closes (block : List Text)
    (shut : (scannedBlock? options block).all ParamBlock.closes) :
    overrun options block beyond = [] := by
  rw [overrun]
  cases found : scannedBlock? options block with
  | none => rfl
  | some declared =>
      rw [found, Option.all_some] at shut
      rw [Option.elim_some, ParamBlock.leftOpen_of_closes declared shut, ParamBlock.readOn_zero]

theorem blockParameters_readOn (count : Nat) (bound : count ≤ later.length) :
    blockParameters count (later ++ beyond) = blockParameters count later ++
      (blockFrom? count later).elim [] fun declared =>
        ParamBlock.readOn (ParamBlock.leftOpen declared) beyond := by
  induction count generalizing later with
  | zero => simp [blockParameters, blockFrom?]
  | succ count ih =>
      cases later with
      | nil => cases bound
      | cons line later =>
          rw [List.cons_append, blockParameters, blockParameters, blockFrom?]
          split
          · exact ParamBlock.read_readOn line later beyond
          · exact ih later (Nat.le_of_succ_le_succ bound)

variable (body : bodyLines raw (later ++ beyond) = bodyLines raw later)

include body

theorem functionParameters_overrun (parsed : options.parseParameterTypes = true) :
    functionParameters raw (later ++ beyond) =
      functionParameters raw later ++ overrun options (raw :: later) beyond := by
  rw [functionParameters, functionParameters, overrun, scannedBlock?, parsed]
  cases inlineList? (Text.strip raw) with
  | some inside => simp
  | none =>
      rw [body]
      exact blockParameters_readOn later beyond _ (bodyLines_length_le raw later)

theorem functionNode_cut (place : Place) (signature : Signature) :
    functionNode options place signature raw later =
      { functionNode options place signature raw (later ++ beyond) with
        children := (functionNode options place signature raw later).children } := by
  simp only [functionNode, body]

theorem functionNode_of_closes (place : Place) (signature : Signature)
    (shut : (scannedBlock? options (raw :: later)).all ParamBlock.closes) :
    functionNode options place signature raw (later ++ beyond) =
      functionNode options place signature raw later := by
  cases parsed : options.parseParameterTypes with
  | false => simp only [functionNode, parsed, Bool.false_eq_true, if_false, body]
  | true =>
      have parameters := functionParameters_overrun options raw later beyond body parsed
      rw [overrun_of_closes options beyond _ shut, List.append_nil] at parameters
      simp only [functionNode, parameters, body]

end Functions

section Cut

variable (lines : List Text)

theorem bodyLines_cut (index : Nat) (raw : Text) (later : List Text)
    (rest : (lines.take (blockEnd lines index + 1)).drop index = raw :: later) :
    bodyLines raw (later ++ lines.drop (blockEnd lines index + 1)) = bodyLines raw later := by
  have size := congrArg List.length rest
  rw [List.length_drop, List.length_take, List.length_cons] at size
  have inside : index < lines.length := by omega
  rw [← slice, blockEnd_add_one lines index inside, slice_eq, Nat.add_sub_cancel_left] at rest
  rcases through?_take_extent {} (lines.drop index) with closed | whole
  · rw [rest] at closed
    exact bodyLines_append raw later _ closed
  · rw [List.length_drop] at whole
    have last := blockEnd_add_one lines index inside
    rw [List.drop_eq_nil_of_le (by omega), List.append_nil]

theorem functionLines_append (front back : List Text) :
    functionLines (front ++ back) = functionLines front ++
      ((List.range back.length).map (front.length + ·)).filter fun index =>
        (functionAt? (front ++ back) index).isSome := by
  rw [functionLines, functionLines, List.length_append, List.range_add, List.filter_append]
  congr 1
  apply List.filter_congr
  intro index member
  rw [functionAt?_append_left front back index (List.mem_range.mp member)]

theorem functionLines_take (count position index : Nat) (inside : index < count)
    (started : (functionLines lines)[position]? = some index) :
    (functionLines (lines.take count))[position]? = some index := by
  rw [← List.take_append_drop count lines, functionLines_append] at started
  rcases Nat.lt_or_ge position (functionLines (lines.take count)).length with early | late
  · rwa [List.getElem?_append_left early] at started
  · rw [List.getElem?_append_right late] at started
    have member := (List.mem_filter.mp (List.mem_of_getElem? started)).1
    obtain ⟨further, held, same⟩ := List.mem_map.mp member
    have := List.mem_range.mp held
    rw [List.length_drop] at this
    rw [List.length_take] at same
    omega

theorem functions_getElem?_eq (options : Options) (place : Place) (position index : Nat)
    (started : (functionLines lines)[position]? = some index) :
    (functions (extract lines options place))[position]? =
      functionNodeAt? options place lines index := by
  have same := congrArg (·[position]?) (map_some_functions options place lines)
  simp only [List.getElem?_map, started, Option.map_some] at same
  obtain ⟨node, found, own⟩ := Option.map_eq_some_iff.mp same
  rw [found, own]

theorem functionNodeAt?_cut (options : Options) (place : Place) (front back : List Text)
    (index : Nat) (signature : Signature) (inside : index < front.length)
    (declared : functionAt? (front ++ back) index = some signature) :
    functionNodeAt? options place (front ++ back) index =
        some (functionNode options (functionPlace place front index) signature front[index]
          (front.drop (index + 1) ++ back)) ∧
      functionNodeAt? options place front index =
        some (functionNode options (functionPlace place front index) signature front[index]
          (front.drop (index + 1))) := by
  have rest : front.drop index = front[index] :: front.drop (index + 1) :=
    List.drop_eq_getElem_cons inside
  have joined : (front ++ back).drop index = front[index] :: (front.drop (index + 1) ++ back) := by
    rw [List.drop_append_of_le_length (Nat.le_of_lt inside), rest, List.cons_append]
  have samePlace : functionPlace place (front ++ back) index = functionPlace place front index := by
    rw [functionPlace, functionPlace, owner?_append_left front back index (Nat.le_of_lt inside)]
  constructor
  · rw [functionNodeAt?_eq options place _ index _ _ joined, declared, samePlace]
    rfl
  · rw [functionNodeAt?_eq options place _ index _ _ rest,
      ← functionAt?_append_left front back index inside, declared]
    rfl

end Cut

/-- The outline of a function depends on its block alone, if the parentheses of the parameter block
that is read for it close in there. Otherwise the parameter block is read on in the lines that
follow, but they only add to the parameters, and nothing changes outside the containers of the
function. -/
theorem functions_within_their_blocks (lines : List Text) (options : Options) (place : Place)
    (position index : Nat) (started : (functionLines lines)[position]? = some index) :
    ∃ node own raw later,
      (functions (extract lines options place))[position]? = some node ∧
      (functions (extract (lines.take (blockEnd lines index + 1)) options place))[position]? =
        some own ∧
      (lines.take (blockEnd lines index + 1)).drop index = raw :: later ∧
      ((scannedBlock? options (raw :: later)).all ParamBlock.closes → node = own) ∧
      own = { node with children := own.children } ∧
      (options.parseParameterTypes = true →
        functionParameters raw (later ++ lines.drop (blockEnd lines index + 1)) =
          functionParameters raw later ++
            overrun options (raw :: later) (lines.drop (blockEnd lines index + 1))) := by
  have member := List.mem_filter.mp (List.mem_of_getElem? started)
  have inside := List.mem_range.mp member.1
  obtain ⟨signature, declared⟩ := Option.isSome_iff_exists.mp member.2
  obtain ⟨after, bound⟩ := blockEnd_bounds lines index inside
  have startedCut := functionLines_take lines _ position index (Nat.lt_succ_of_le after) started
  have found := functions_getElem?_eq lines options place position index started
  have foundCut := functions_getElem?_eq _ options place position index startedCut
  have body := bodyLines_cut lines index
  have whole := List.take_append_drop (blockEnd lines index + 1) lines
  have size : index < (lines.take (blockEnd lines index + 1)).length := by
    rw [List.length_take]
    omega
  generalize lines.take (blockEnd lines index + 1) = front at *
  generalize lines.drop (blockEnd lines index + 1) = back at *
  rw [← whole] at declared
  obtain ⟨node, own⟩ := functionNodeAt?_cut options place front back index signature size declared
  have rest : front.drop index = front[index] :: front.drop (index + 1) :=
    List.drop_eq_getElem_cons size
  have same := body _ _ rest
  rw [whole] at node
  exact ⟨_, _, front[index], front.drop (index + 1), found.trans node, foundCut.trans own, rest,
    functionNode_of_closes options _ _ _ same _ signature, functionNode_cut options _ _ _ same _ _,
    functionParameters_overrun options _ _ _ same⟩

/-- A parameter block over several lines that closes, and a function after it. -/
def closedScript : List Text :=
  ["function Get-Mark \x7b", "  param(", "    $Mark = '()')", "  $copy = $Mark", "\x7d",
    "function Get-Size($Size) \x7b \x7d"].map String.toList

theorem functions_closedScript :
    (functionLines closedScript)[0]? = some 0 ∧
      (scannedBlock? {} ((closedScript.take (blockEnd closedScript 0 + 1)).drop 0)).all
        ParamBlock.closes = true ∧
      ∃ node, (functions (extract closedScript {} {}))[0]? = some node ∧
        (functions (extract (closedScript.take (blockEnd closedScript 0 + 1)) {} {}))[0]? =
          some node := by
  have started : (functionLines closedScript)[0]? = some 0 := by decide
  have shut : (scannedBlock? {} ((closedScript.take (blockEnd closedScript 0 + 1)).drop 0)).all
      ParamBlock.closes = true := by decide +kernel
  obtain ⟨node, own, raw, later, found, foundCut, rest, same, _⟩ :=
    functions_within_their_blocks closedScript {} {} 0 0 started
  refine ⟨started, shut, node, found, ?_⟩
  rw [same (by rw [← rest]; exact shut)]
  exact foundCut

/-- A parenthesis in a default value that nothing closes, before a function with a parameter. -/
def unclosedScript : List Text :=
  ["function Get-Mark \x7b", "  param($Mark = '(')", "\x7d", "function Get-Size \x7b",
    "  param($Size)", "\x7d"].map String.toList

/-- The names of what the containers of a function hold. -/
def detailNames (node : Node) : List Text :=
  node.children.flatMap fun child => child.children.map Node.name

/-- The first function is listed with the parameter of the second one. -/
theorem unclosedScript_overruns :
    (functionLines unclosedScript)[0]? = some 0 ∧ blockEnd unclosedScript 0 = 2 ∧
      (functions (extract unclosedScript {} {}))[0]?.map detailNames =
        some (["Mark", "Size"].map String.toList) ∧
      (functions (extract unclosedScript {} {}))[0]? ≠
        (functions (extract (unclosedScript.take 3) {} {}))[0]? := by
  have names : (functions (extract unclosedScript {} {}))[0]?.map detailNames =
      some (["Mark", "Size"].map String.toList) := by decide +kernel
  have own : (functions (extract (unclosedScript.take 3) {} {}))[0]?.map detailNames =
      some (["Mark"].map String.toList) := by decide +kernel
  refine ⟨by decide, by decide, names, ?_⟩
  intro same
  rw [same, own] at names
  exact absurd names (by decide)

end Outliner.Script
