import Mathlib.Data.List.Basic
import Outliner.Proofs.Script.Declarations

/-!
Outlines of scripts that are put together. Lines that close everything they open can be outlined on
their own: what follows them changes nothing of their outline, and they change nothing of its.
-/

namespace Outliner.Script

namespace ParamBlock

/-- Whether the parentheses of a block close, when `depth` are open before a segment and the stripped
lines after it are the further segments. -/
def closesFrom (depth : Nat) (segment : Text) : List Text → Bool
  | [] => (inside depth segment).2 == 0
  | next :: others =>
    (inside depth segment).2 == 0 ||
      closesFrom (inside depth segment).2 (Text.strip next) others

/-- Whether the block that opens on the first of some lines closes on one of them. -/
def closes : List Text → Bool
  | [] => false
  | first :: later => (opening? (Text.strip first)).any fun segment => closesFrom 1 segment later

theorem collect_of_zero (depth : Nat) (segment : Text) (later : List Text)
    (zero : (inside depth segment).2 = 0) :
    collect depth segment later = (Parameter.parseList (inside depth segment).1, 0) := by
  unfold collect
  simp only [zero]

theorem collect_cons (depth : Nat) (segment next : Text) (others : List Text)
    (more : (inside depth segment).2 ≠ 0) :
    collect depth segment (next :: others) =
      (Parameter.parseList (inside depth segment).1 ++
          (collect (inside depth segment).2 (Text.strip next) others).1,
        (collect (inside depth segment).2 (Text.strip next) others).2 + 1) := by
  rw [collect]
  rcases reading : inside depth segment with ⟨part, _ | count⟩
  · exact absurd (congrArg Prod.snd reading) more
  · rfl

theorem collect_append (depth : Nat) (segment : Text) (later more : List Text)
    (shut : closesFrom depth segment later) :
    collect depth segment (later ++ more) = collect depth segment later := by
  induction later generalizing depth segment with
  | nil =>
      have zero : (inside depth segment).2 = 0 := by simpa [closesFrom] using shut
      rw [collect_of_zero depth segment _ zero, collect_of_zero depth segment _ zero]
  | cons next others ih =>
      by_cases zero : (inside depth segment).2 = 0
      · rw [collect_of_zero depth segment _ zero, collect_of_zero depth segment _ zero]
      · have further : closesFrom (inside depth segment).2 (Text.strip next) others := by
          simpa [closesFrom, zero] using shut
        rw [List.cons_append, collect_cons depth segment next _ zero,
          collect_cons depth segment next _ zero, ih _ _ further]

theorem read_append (block more : List Text) (shut : closes block) :
    read (block ++ more) = read block := by
  cases block with
  | nil => cases shut
  | cons first later =>
      rw [closes] at shut
      cases found : opening? (Text.strip first) with
      | none => simp [found] at shut
      | some segment =>
          simp only [found, Option.any_some] at shut
          simp only [List.cons_append, read, found]
          exact collect_append 1 segment later more shut

end ParamBlock

def blockFrom? : Nat → List Text → Option (List Text)
  | 0, _ => none
  | _, [] => none
  | count + 1, line :: later =>
    if ParamBlock.isOn (Text.strip line) then some (line :: later) else blockFrom? count later

/-- The lines from the parameter block on that is read for the function on the first of some lines.
None is read when the signature lists parameters or when they are not asked for. -/
def scannedBlock? (options : Options) : List Text → Option (List Text)
  | [] => none
  | raw :: later =>
    if options.parseParameterTypes && (inlineList? (Text.strip raw)).isNone then
      blockFrom? (bodyLines raw later).length later
    else none

/-- Lines that close what they open: the last class, the body of every function and the parameter
block that is read for it. -/
structure SelfContained (options : Options) (lines : List Text) : Prop where
  classes : owner? lines lines.length = none
  bodies : ∀ index < lines.length, (functionAt? lines index).isSome →
    Braces.through? {} (lines.drop index) = none
  blocks : ∀ index < lines.length, (functionAt? lines index).isSome →
    (scannedBlock? options (lines.drop index)).all ParamBlock.closes

instance (options : Options) (lines : List Text) : Decidable (SelfContained options lines) :=
  decidable_of_iff
    (owner? lines lines.length = none ∧
      (∀ index < lines.length, (functionAt? lines index).isSome →
        Braces.through? {} (lines.drop index) = none) ∧
      ∀ index < lines.length, (functionAt? lines index).isSome →
        (scannedBlock? options (lines.drop index)).all ParamBlock.closes)
    ⟨fun ⟨classes, bodies, blocks⟩ => ⟨classes, bodies, blocks⟩,
      fun ⟨classes, bodies, blocks⟩ => ⟨classes, bodies, blocks⟩⟩

theorem extent_cons (braces : Braces) (line : Text) (later : List Text) :
    braces.extent (line :: later) =
      match braces.pass? (Text.strip line) with
      | none => 1
      | some fed => fed.extent later + 1 := by
  rw [Braces.extent, Braces.pass?]
  rcases braces.feed (Text.strip line) with ⟨fed, _ | _⟩ <;> rfl

theorem bodyLines_eq (raw : Text) (later : List Text) :
    bodyLines raw later =
      match Braces.pass? {} (Text.strip raw) with
      | none => []
      | some fed => later.take (fed.extent later) := by
  rw [bodyLines, Braces.pass?]
  rcases Braces.feed {} (Text.strip raw) with ⟨fed, _ | _⟩ <;> rfl

theorem extent_le (braces : Braces) (lines : List Text) : braces.extent lines ≤ lines.length := by
  induction lines generalizing braces with
  | nil => exact Nat.le_refl 0
  | cons line later ih =>
      rw [extent_cons, List.length_cons]
      cases braces.pass? (Text.strip line) with
      | none => exact Nat.succ_le_succ (Nat.zero_le _)
      | some fed => exact Nat.succ_le_succ (ih fed)

theorem extent_append (braces : Braces) (front back : List Text)
    (shut : braces.through? front = none) :
    braces.extent (front ++ back) = braces.extent front := by
  induction front generalizing braces with
  | nil => cases shut
  | cons line front ih =>
      rw [Braces.through?] at shut
      rw [List.cons_append, extent_cons, extent_cons]
      cases passed : braces.pass? (Text.strip line) with
      | none => rfl
      | some fed =>
          rw [passed] at shut
          exact congrArg (· + 1) (ih fed shut)

theorem bodyLines_append (raw : Text) (later back : List Text)
    (shut : Braces.through? {} (raw :: later) = none) :
    bodyLines raw (later ++ back) = bodyLines raw later := by
  rw [Braces.through?] at shut
  rw [bodyLines_eq, bodyLines_eq]
  cases passed : Braces.pass? {} (Text.strip raw) with
  | none => rfl
  | some fed =>
      rw [passed, Option.bind_some] at shut
      simp only [extent_append fed later back shut]
      exact List.take_append_of_le_length (extent_le fed later)

theorem bodyLines_length_le (raw : Text) (later : List Text) :
    (bodyLines raw later).length ≤ later.length := by
  rw [bodyLines_eq]
  cases Braces.pass? {} (Text.strip raw) with
  | none => exact Nat.zero_le _
  | some fed => exact (List.take_sublist _ _).length_le

theorem blockParameters_append (count : Nat) (later back : List Text) (bound : count ≤ later.length)
    (shut : (blockFrom? count later).all ParamBlock.closes) :
    blockParameters count (later ++ back) = blockParameters count later := by
  induction count generalizing later with
  | zero => simp [blockParameters]
  | succ count ih =>
      cases later with
      | nil => cases bound
      | cons line later =>
          rw [blockFrom?] at shut
          rw [List.cons_append, blockParameters, blockParameters]
          split
          · next found =>
              rw [if_pos found] at shut
              rw [← List.cons_append, ParamBlock.read_append (line :: later) back shut]
          · next missing =>
              rw [if_neg missing] at shut
              exact ih later (Nat.le_of_succ_le_succ bound) shut

theorem functionParameters_append (options : Options) (raw : Text) (later back : List Text)
    (parsed : options.parseParameterTypes)
    (body : Braces.through? {} (raw :: later) = none)
    (block : (scannedBlock? options (raw :: later)).all ParamBlock.closes) :
    functionParameters raw (later ++ back) = functionParameters raw later := by
  rw [functionParameters, functionParameters]
  cases list : inlineList? (Text.strip raw) with
  | some inside => rfl
  | none =>
      simp only [scannedBlock?, parsed, list, Option.isNone_none, Bool.and_self, if_true] at block
      rw [bodyLines_append raw later back body]
      exact blockParameters_append _ later back (bodyLines_length_le raw later) block

theorem functionNode_append (options : Options) (place : Place) (signature : Signature) (raw : Text)
    (later back : List Text) (body : Braces.through? {} (raw :: later) = none)
    (block : (scannedBlock? options (raw :: later)).all ParamBlock.closes) :
    functionNode options place signature raw (later ++ back) =
      functionNode options place signature raw later := by
  have lines := bodyLines_append raw later back body
  cases parsed : options.parseParameterTypes with
  | false => simp only [functionNode, parsed, Bool.false_eq_true, if_false, lines]
  | true =>
      have parameters := functionParameters_append options raw later back parsed body block
      simp only [functionNode, parameters, lines]

section Seam

variable (front back : List Text)

theorem classAt?_append_left (index : Nat) (inside : index < front.length) :
    classAt? (front ++ back) index = classAt? front index := by
  rw [classAt?, classAt?, List.getElem?_append_left inside]

theorem classAt?_append_right (index : Nat) :
    classAt? (front ++ back) (front.length + index) = classAt? back index := by
  rw [classAt?, classAt?, List.getElem?_append_right (Nat.le_add_right ..), Nat.add_sub_cancel_left]

theorem lastClass?_append_left (index : Nat) (bound : index ≤ front.length) :
    lastClass? (front ++ back) index = lastClass? front index := by
  induction index with
  | zero => rfl
  | succ index ih =>
      rw [lastClass?, lastClass?, classAt?_append_left front back index bound,
        ih (Nat.le_of_succ_le bound)]

theorem lastClass?_append_right (index : Nat) :
    lastClass? (front ++ back) (front.length + index) =
      ((lastClass? back index).map (front.length + ·)).or (lastClass? front front.length) := by
  induction index with
  | zero =>
      rw [Nat.add_zero, lastClass?_append_left front back front.length (Nat.le_refl _)]
      rfl
  | succ index ih =>
      rw [← Nat.add_assoc, lastClass?, lastClass?, classAt?_append_right front back index, ih]
      split <;> rfl

theorem owner?_append_left (index : Nat) (bound : index ≤ front.length) :
    owner? (front ++ back) index = owner? front index := by
  rw [owner?, owner?, openBlock?, openBlock?, lastClass?_append_left front back index bound,
    List.take_append_of_le_length bound]

theorem owner?_append_right (shut : owner? front front.length = none) (index : Nat) :
    owner? (front ++ back) (front.length + index) =
      (owner? back index).map (front.length + ·) := by
  have taken : (front ++ back).take (front.length + index) = front ++ back.take index := by
    rw [List.take_append, List.take_of_length_le (Nat.le_add_right ..), Nat.add_sub_cancel_left]
  rw [owner?, owner?, openBlock?, openBlock?, lastClass?_append_right, taken]
  cases last : lastClass? back index with
  | some first =>
      simp only [Option.map_some, Option.some_or, Option.bind_some, List.drop_length_add_append]
      cases Braces.through? {} ((back.take index).drop first) <;> rfl
  | none =>
      cases older : lastClass? front front.length with
      | none => rfl
      | some first =>
          have before := lastClass?_lt front front.length first older
          have closed : Braces.through? {} (front.drop first) = none := by
            simpa [owner?, openBlock?, older] using shut
          simp only [Option.map_none, Option.none_or, Option.bind_some, Option.bind_none]
          rw [List.drop_append_of_le_length (Nat.le_of_lt before), through?_append, closed]
          rfl

theorem functionAt?_append_left (index : Nat) (inside : index < front.length) :
    functionAt? (front ++ back) index = functionAt? front index := by
  rw [functionAt?, functionAt?, List.getElem?_append_left inside,
    owner?_append_left front back index (Nat.le_of_lt inside)]

theorem functionAt?_append_right (shut : owner? front front.length = none) (index : Nat) :
    functionAt? (front ++ back) (front.length + index) = functionAt? back index := by
  rw [functionAt?, functionAt?, owner?_append_right front back shut,
    List.getElem?_append_right (Nat.le_add_right ..), Nat.add_sub_cancel_left, Option.isSome_map]

variable (options : Options) (place : Place)

theorem functionNodeAt?_append_left (self : SelfContained options front) (index : Nat)
    (inside : index < front.length) :
    functionNodeAt? options place (front ++ back) index =
      functionNodeAt? options place front index := by
  have rest : front.drop index = front[index] :: front.drop (index + 1) :=
    List.drop_eq_getElem_cons inside
  have joined : (front ++ back).drop index = front[index] :: (front.drop (index + 1) ++ back) := by
    rw [List.drop_append_of_le_length (Nat.le_of_lt inside), rest, List.cons_append]
  rw [functionNodeAt?_eq options place _ index _ _ joined,
    functionNodeAt?_eq options place _ index _ _ rest, functionAt?_append_left front back index inside]
  cases declared : functionAt? front index with
  | none => rfl
  | some signature =>
      have body := self.bodies index inside (by rw [declared]; rfl)
      have block := self.blocks index inside (by rw [declared]; rfl)
      rw [rest] at body block
      have samePlace : functionPlace place (front ++ back) index = functionPlace place front index := by
        rw [functionPlace, functionPlace,
          owner?_append_left front back index (Nat.le_of_lt inside)]
      simp only [Option.map_some, samePlace]
      rw [functionNode_append options _ signature _ _ back body block]

theorem functionNodeAt?_append_right (shut : owner? front front.length = none) (index : Nat) :
    functionNodeAt? options place (front ++ back) (front.length + index) =
      functionNodeAt? options place back index := by
  rw [functionNodeAt?, functionNodeAt?, functionAt?_append_right front back shut,
    List.drop_length_add_append, functionPlace, functionPlace, owner?_append_right front back shut,
    Option.isSome_map]

theorem methods_append_left (self : SelfContained options front) (first : Nat)
    (inside : first < front.length) :
    (List.range (front ++ back).length).filterMap (methodAt? options place (front ++ back) first) =
      (List.range front.length).filterMap (methodAt? options place front first) := by
  rw [List.length_append, List.range_add, List.filterMap_append, List.filterMap_map]
  have beyond : (List.range back.length).filterMap
      (methodAt? options place (front ++ back) first ∘ (front.length + ·)) = [] := by
    rw [List.filterMap_eq_nil_iff]
    intro index _
    rw [Function.comp_apply, methodAt?, owner?_append_right front back self.classes, if_neg]
    intro owned
    obtain ⟨own, _, same⟩ := Option.map_eq_some_iff.mp owned
    omega
  rw [beyond, List.append_nil]
  apply List.filterMap_congr
  intro index member
  have bound := List.mem_range.mp member
  rw [methodAt?, methodAt?, owner?_append_left front back index (Nat.le_of_lt bound),
    functionNodeAt?_append_left front back options place self index bound]

theorem methods_append_right (shut : owner? front front.length = none) (first : Nat) :
    (List.range (front ++ back).length).filterMap
        (methodAt? options place (front ++ back) (front.length + first)) =
      (List.range back.length).filterMap (methodAt? options place back first) := by
  rw [List.length_append, List.range_add, List.filterMap_append, List.filterMap_map]
  have earlier : (List.range front.length).filterMap
      (methodAt? options place (front ++ back) (front.length + first)) = [] := by
    rw [List.filterMap_eq_nil_iff]
    intro index member
    have bound := List.mem_range.mp member
    rw [methodAt?, if_neg]
    intro owned
    have := owner?_lt (front ++ back) index (front.length + first) owned
    omega
  rw [earlier, List.nil_append]
  apply List.filterMap_congr
  intro index _
  have shifted : (owner? (front ++ back) (front.length + index) = some (front.length + first)) =
      (owner? back index = some first) := by
    rw [owner?_append_right front back shut]
    cases owner? back index <;> simp
  rw [Function.comp_apply, methodAt?, methodAt?,
    functionNodeAt?_append_right front back options place shut]
  simp only [shifted]

theorem rootAt?_append_left (self : SelfContained options front) (index : Nat)
    (inside : index < front.length) :
    rootAt? options place (front ++ back) index = rootAt? options place front index := by
  rw [rootAt?, rootAt?, classNodeAt?, classNodeAt?, classAt?_append_left front back index inside,
    methods_append_left front back options place self index inside,
    owner?_append_left front back index (Nat.le_of_lt inside),
    functionNodeAt?_append_left front back options place self index inside]

theorem rootAt?_append_right (shut : owner? front front.length = none) (index : Nat) :
    rootAt? options place (front ++ back) (front.length + index) =
      rootAt? options place back index := by
  rw [rootAt?, rootAt?, classNodeAt?, classNodeAt?, classAt?_append_right front back index,
    methods_append_right front back options place shut index,
    functionNodeAt?_append_right front back options place shut index,
    owner?_append_right front back shut index]
  simp only [Option.map_eq_none_iff]

theorem extract_append (self : SelfContained options front) :
    extract (front ++ back) options place =
      extract front options place ++ extract back options place := by
  rw [extract_eq_roots, extract_eq_roots, extract_eq_roots, List.length_append, List.range_add,
    List.filterMap_append, List.filterMap_map]
  congr 1
  · apply List.filterMap_congr
    intro index member
    exact rootAt?_append_left front back options place self index (List.mem_range.mp member)
  · apply List.filterMap_congr
    intro index _
    exact rootAt?_append_right front back options place self.classes index

end Seam

/-- The outline of lines that are put together is made of their outlines, when every part but the
last is self-contained. -/
theorem extract_of_selfContained (options : Options) (place : Place) :
    (∀ front back, SelfContained options front →
      extract (front ++ back) options place =
        extract front options place ++ extract back options place) ∧
    ∀ pieces : List (List Text), (∀ piece ∈ pieces, SelfContained options piece) →
      extract pieces.flatten options place =
        pieces.flatMap fun piece => extract piece options place := by
  refine ⟨fun front back self => extract_append front back options place self, ?_⟩
  intro pieces self
  induction pieces with
  | nil => rfl
  | cons piece pieces ih =>
      have others := ih (fun other member => self other (List.mem_cons_of_mem piece member))
      rw [List.flatten_cons, List.flatMap_cons, ← others]
      exact extract_append piece pieces.flatten options place (self piece List.mem_cons_self)

/-- A class with a method, and a function with a parameter block over several lines. -/
def boxScript : List Text :=
  ["class Box \x7b", "  [int] Size() \x7b return 1 \x7d", "\x7d", "function Get-Total \x7b", "  param(",
    "    [int]$Count)", "  $total = $Count", "\x7d"].map String.toList

theorem extract_boxScript :
    SelfContained {} boxScript ∧
      extract (boxScript ++ boxScript) {} {} = extract boxScript {} {} ++ extract boxScript {} {} ∧
      extract [boxScript, boxScript, boxScript].flatten {} {} =
        [boxScript, boxScript, boxScript].flatMap fun piece => extract piece {} {} := by
  have self : SelfContained {} boxScript := by decide
  refine ⟨self, (extract_of_selfContained {} {}).1 _ _ self, (extract_of_selfContained {} {}).2 _ ?_⟩
  intro piece member
  simp only [List.mem_cons, List.not_mem_nil, or_false, or_self] at member
  rw [member]
  exact self

end Outliner.Script
