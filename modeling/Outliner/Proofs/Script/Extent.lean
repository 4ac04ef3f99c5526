import Outliner.Proofs.Script.Balance
import Outliner.Proofs.Script.Composition
import Outliner.Proofs.Script.Projection
import Outliner.Proofs.Text.Runs

/-!
The lines of a block. A block goes from the line on which it starts to the line that holds its
closing brace, or to the last line if it never closes. Functions show the lines of their blocks, and
blocks nest.
-/

namespace Outliner.Script

section Lines

variable (lines : List Text)

def slice (first last : Nat) : List Text :=
  (lines.take last).drop first

/-- The line on which the block that starts on a line closes, or the last line if it never does. -/
def blockEnd (first : Nat) : Nat :=
  ((List.range lines.length).find? fun last =>
    (Braces.through? {} (slice lines first (last + 1))).isNone).getD (lines.length - 1)

/-- The line that holds the first place at which the count of braces from the line `first` on
returns to zero; the last line if there is no such place. -/
def EndsBlock (first last : Nat) : Prop :=
  match closing? (lines.drop first).flatten with
  | some place =>
    (slice lines first last).flatten.length ≤ place ∧
      place < (slice lines first (last + 1)).flatten.length
  | none => last + 1 = lines.length

/-- While the lines of a block are read, the depth of the counter is the count of braces after every
character, and it is not negative. -/
def Follows (first last : Nat) : Prop :=
  ∀ index, first ≤ index → index ≤ last → ∃ raw braces,
    lines[index]? = some raw ∧ Braces.through? {} (slice lines first index) = some braces ∧
      ∀ front c back, Text.strip raw = front ++ c :: back → (braces.feed front).2 = false →
        (braces.feed (front ++ [c])).1.depth =
            braceCount ((slice lines first index).flatten ++ front ++ [c]) ∧
          0 ≤ (braces.feed (front ++ [c])).1.depth

/-- If the block of the line `outer` closes, then a brace is opened before its closing one, on the
line `inner` or later. -/
def OpensWithin (outer inner : Nat) : Prop :=
  ∀ place, closing? (lines.drop outer).flatten = some place → ∃ brace,
    (slice lines outer inner).flatten.length ≤ brace ∧ brace < place ∧
      (lines.drop outer).flatten[brace]? = some '{'

end Lines

section Counter

theorem feed_blank (braces : Braces) (blanks rest : Text) (blank : Text.Blank blanks) :
    braces.feed (blanks ++ rest) = braces.feed rest := by
  induction blanks with
  | nil => rfl
  | cons c blanks ih =>
      rw [Text.Blank, List.forall_mem_cons] at blank
      have opening : (c == '{') = false :=
        beq_false_of_ne (Text.isSpace_ne c '{' blank.1 (by decide))
      have closing : (c == '}') = false :=
        beq_false_of_ne (Text.isSpace_ne c '}' blank.1 (by decide))
      simp only [List.cons_append, Braces.feed, opening, closing, Bool.false_and,
        Bool.false_eq_true, if_false]
      exact ih blank.2

theorem feed_strip (braces : Braces) (line : Text) :
    braces.feed (Text.strip line) = braces.feed line := by
  obtain ⟨before, after, whole, blank, blankAfter⟩ := Text.exists_blanks_around line
  have ends := feed_blank (braces.feed (Text.strip line)).1 after [] blankAfter
  rw [List.append_nil] at ends
  generalize Text.strip line = inner at whole ends
  rw [whole, List.append_assoc, feed_blank braces before _ blank, feed_append]
  split
  · rfl
  · next going =>
      rw [ends]
      exact Prod.ext rfl (Bool.eq_false_iff.mpr going)

theorem through?_eq (braces : Braces) (lines : List Text) :
    braces.through? lines =
      if (braces.feed lines.flatten).2 then none else some (braces.feed lines.flatten).1 := by
  induction lines generalizing braces with
  | nil => rfl
  | cons line later ih =>
      rw [Braces.through?, Braces.pass?, feed_strip, List.flatten_cons, feed_append]
      rcases braces.feed line with ⟨fed, _ | _⟩
      · exact ih fed
      · rfl

theorem tracks_through (lines : List Text) (braces : Braces)
    (passed : Braces.through? {} lines = some braces) : braces.Tracks lines.flatten := by
  rw [through?_eq] at passed
  split at passed
  · cases passed
  · next going =>
      injection passed with same
      rw [← same]
      exact tracks_nil.feed {} [] lines.flatten (Bool.eq_false_iff.mpr going)

theorem through?_extent (braces : Braces) (lines : List Text) (count : Nat)
    (short : count < braces.extent lines) : (braces.through? (lines.take count)).isSome = true := by
  induction lines generalizing braces count with
  | nil => cases short
  | cons line later ih =>
      rw [extent_cons] at short
      cases count with
      | zero => rfl
      | succ count =>
          rw [List.take_succ_cons, Braces.through?]
          cases passed : braces.pass? (Text.strip line) with
          | none =>
              rw [passed] at short
              exact absurd short (by simp)
          | some fed =>
              rw [passed] at short
              exact ih fed count (Nat.lt_of_succ_lt_succ short)

theorem through?_take_extent (braces : Braces) (lines : List Text) :
    braces.through? (lines.take (braces.extent lines)) = none ∨
      braces.extent lines = lines.length := by
  induction lines generalizing braces with
  | nil => exact Or.inr rfl
  | cons line later ih =>
      rw [extent_cons]
      cases passed : braces.pass? (Text.strip line) with
      | none => exact Or.inl (by simp [Braces.through?, passed])
      | some fed =>
          rcases ih fed with closed | whole
          · exact Or.inl (by simp [Braces.through?, passed, closed])
          · exact Or.inr (by simp [whole])

end Counter

section Blocks

variable (lines : List Text) (first : Nat)

theorem slice_eq (last : Nat) :
    slice lines first last = (lines.drop first).take (last - first) := by
  rw [slice, List.drop_take]

theorem slice_append (last : Nat) (bound : first ≤ last) :
    slice lines first last ++ lines.drop last = lines.drop first := by
  have rest : lines.drop last = (lines.drop first).drop (last - first) := by
    rw [List.drop_drop, Nat.add_sub_cancel' bound]
  rw [slice_eq, rest, List.take_append_drop]

theorem slice_of_le (last : Nat) (bound : last ≤ first) : slice lines first last = [] := by
  rw [slice_eq, Nat.sub_eq_zero_of_le bound, List.take_zero]

theorem slice_join (middle last : Nat) (start : first ≤ middle) (bound : middle ≤ last) :
    slice lines first middle ++ slice lines middle last = slice lines first last := by
  rw [slice, slice, slice, ← slice_append (lines.take last) first middle start, slice,
    List.take_take, Nat.min_eq_left bound]

theorem length_slice_mono (last more : Nat) (bound : last ≤ more) :
    (slice lines first last).flatten.length ≤ (slice lines first more).flatten.length := by
  rcases Nat.le_total last first with before | after
  · rw [slice_of_le lines first last before]
    exact Nat.zero_le _
  · rw [← slice_join lines first last more after bound, List.flatten_append, List.length_append]
    exact Nat.le_add_right _ _

theorem slice_whole (last : Nat) (bound : lines.length ≤ last) :
    slice lines first last = lines.drop first := by
  rw [slice, List.take_of_length_le bound]

theorem through?_slice (last : Nat) :
    (Braces.through? {} (slice lines first last)).isNone = true ↔
      ∃ place < (slice lines first last).flatten.length,
        closing? (lines.drop first).flatten = some place := by
  have front : (slice lines first last).flatten =
      (lines.drop first).flatten.take (slice lines first last).flatten.length := by
    rcases Nat.le_total first last with after | before
    · rw [← slice_append lines first last after, List.flatten_append, List.take_left]
    · rw [slice_of_le lines first last before]
      rfl
  rw [← stops_within_iff, ← front, through?_eq]
  split <;> simp_all

theorem EndsBlock.unique (last other : Nat) (here : EndsBlock lines first last)
    (there : EndsBlock lines first other) : last = other := by
  rw [EndsBlock] at here there
  split at here
  · next place closed =>
      rw [closed] at there
      have later (earlier line : Nat)
          (held : place < (slice lines first (earlier + 1)).flatten.length)
          (start : (slice lines first line).flatten.length ≤ place) : line ≤ earlier := by
        by_contra beyond
        have := length_slice_mono lines first (earlier + 1) line (by omega)
        omega
      exact Nat.le_antisymm (later other last there.2 here.1) (later last other here.2 there.1)
  · next unclosed =>
      rw [unclosed] at there
      omega

theorem through?_slice_of_lt (last : Nat)
    (short : last < first + Braces.extent {} (lines.drop first)) :
    (Braces.through? {} (slice lines first last)).isNone = false := by
  rw [slice_eq]
  rcases Nat.lt_or_ge last first with before | after
  · rw [Nat.sub_eq_zero_of_le (Nat.le_of_lt before)]
    rfl
  · have passed := through?_extent {} (lines.drop first) (last - first) (by omega)
    rwa [← Option.not_isSome, Bool.not_eq_false']

theorem blockEnd_le_last : blockEnd lines first ≤ lines.length - 1 := by
  rw [blockEnd]
  cases found : (List.range lines.length).find? fun last =>
      (Braces.through? {} (slice lines first (last + 1))).isNone with
  | none => exact Nat.le_refl _
  | some last =>
      have := List.mem_range.mp (List.mem_of_find?_eq_some found)
      rw [Option.getD_some]
      omega

variable (inside : first < lines.length)

include inside

theorem extent_bounds :
    0 < Braces.extent {} (lines.drop first) ∧
      first + Braces.extent {} (lines.drop first) ≤ lines.length := by
  constructor
  · rw [List.drop_eq_getElem_cons inside, extent_cons]
    split
    · exact Nat.one_pos
    · exact Nat.succ_pos _
  · have := extent_le {} (lines.drop first)
    rw [List.length_drop] at this
    omega

theorem through?_slice_extent :
    (Braces.through? {}
        (slice lines first (first + Braces.extent {} (lines.drop first)))).isNone = true ∨
      first + Braces.extent {} (lines.drop first) = lines.length := by
  rw [slice_eq, Nat.add_sub_cancel_left, Option.isNone_iff_eq_none]
  refine (through?_take_extent {} (lines.drop first)).imp id ?_
  intro whole
  rw [whole, List.length_drop]
  omega

theorem blockEnd_add_one :
    blockEnd lines first + 1 = first + Braces.extent {} (lines.drop first) := by
  obtain ⟨holds, bound⟩ := extent_bounds lines first inside
  have positive : 0 < first + Braces.extent {} (lines.drop first) := by omega
  have stop := through?_slice_extent lines first inside
  have going := through?_slice_of_lt lines first
  generalize first + Braces.extent {} (lines.drop first) = last at *
  have cancel : last - 1 + 1 = last := by omega
  rw [blockEnd]
  cases found : (List.range lines.length).find? fun line =>
      (Braces.through? {} (slice lines first (line + 1))).isNone with
  | some line =>
      obtain ⟨closed, member, before⟩ := List.find?_range_eq_some.mp found
      have reached : last ≤ line + 1 := by
        by_contra short
        rw [going (line + 1) (by omega)] at closed
        cases closed
      have first_stop : line < last := by
        by_contra beyond
        have early := before (last - 1) (by omega)
        have inner := List.mem_range.mp member
        rw [cancel, stop.resolve_right (by omega)] at early
        cases early
      rw [Option.getD_some]
      omega
  | none =>
      have early := List.find?_range_eq_none.mp found (last - 1) (by omega)
      have whole : last = lines.length := by
        refine stop.resolve_left ?_
        intro closed
        rw [cancel, closed] at early
        cases early
      rw [Option.getD_none]
      omega

theorem blockEnd_bounds : first ≤ blockEnd lines first ∧ blockEnd lines first < lines.length := by
  have bounds := extent_bounds lines first inside
  have reach := blockEnd_add_one lines first inside
  omega

theorem endsBlock_blockEnd : EndsBlock lines first (blockEnd lines first) := by
  have stop := through?_slice_extent lines first inside
  have reach := blockEnd_add_one lines first inside
  rw [← reach] at stop
  rw [EndsBlock]
  cases closed : closing? (lines.drop first).flatten with
  | some place =>
      constructor
      · by_contra early
        have stopped := (through?_slice lines first (blockEnd lines first)).mpr
          ⟨place, Nat.lt_of_not_le early, closed⟩
        rw [through?_slice_of_lt lines first _ (by omega)] at stopped
        cases stopped
      · rcases stop with stopped | whole
        · obtain ⟨_, held, found⟩ := (through?_slice lines first _).mp stopped
          rw [closed] at found
          injection found with same
          rwa [same]
        · rw [whole, slice_whole lines first _ (Nat.le_refl _)]
          exact ((closing?_eq_some_iff _ place).mp closed).1
  | none =>
      refine stop.resolve_left ?_
      intro stopped
      obtain ⟨_, _, found⟩ := (through?_slice lines first _).mp stopped
      rw [closed] at found
      cases found

theorem endsBlock_iff (last : Nat) : EndsBlock lines first last ↔ last = blockEnd lines first := by
  constructor
  · intro ends
    exact ends.unique lines first last _ (endsBlock_blockEnd lines first inside)
  · rintro rfl
    exact endsBlock_blockEnd lines first inside

theorem follows_blockEnd : Follows lines first (blockEnd lines first) := by
  have reach := blockEnd_add_one lines first inside
  have bounds := blockEnd_bounds lines first inside
  intro index after within
  have going := through?_slice_of_lt lines first index (by omega)
  rw [← Option.not_isSome, Bool.not_eq_false'] at going
  obtain ⟨braces, passed⟩ := Option.isSome_iff_exists.mp going
  refine ⟨lines[index], braces, List.getElem?_eq_getElem (by omega), passed, ?_⟩
  intro front c back _ going
  exact (tracks_through _ braces passed).depth_concat braces _ front c going

end Blocks

section Functions

variable (lines : List Text) (options : Options) (place : Place)

theorem lines_functionNode (whole : options.showFunctionNames = false) (signature : Signature)
    (index : Nat) (raw : Text) (later : List Text) (rest : lines.drop index = raw :: later) :
    index < lines.length ∧ (functionNode options place signature raw later).lines =
      slice lines index (blockEnd lines index + 1) := by
  have size := congrArg List.length rest
  rw [List.length_drop, List.length_cons] at size
  have inside : index < lines.length := by omega
  refine ⟨inside, ?_⟩
  rw [blockEnd_add_one lines index inside, slice_eq, Nat.add_sub_cancel_left, rest, extent_cons]
  simp only [functionNode, whole, Bool.false_eq_true, if_false, bodyLines_eq]
  cases Braces.pass? {} (Text.strip raw) <;> simp

/-- With bodies shown, the lines of a function are those from its own up to the one that holds the
first place at which the count of braces returns to zero. -/
theorem functions_show_their_blocks (whole : options.showFunctionNames = false)
    (position index : Nat) (started : (functionLines lines)[position]? = some index) :
    ∃ node last, (functions (extract lines options place))[position]? = some node ∧
      index ≤ last ∧ last < lines.length ∧ node.lines = slice lines index (last + 1) ∧
      (∀ line, EndsBlock lines index line ↔ line = last) ∧ Follows lines index last := by
  obtain ⟨signature, raw, later, rest, found⟩ :=
    functions_getElem? place lines position index started
  obtain ⟨inside, shown⟩ := lines_functionNode lines options (functionPlace place lines index) whole
    signature index raw later rest
  obtain ⟨start, bound⟩ := blockEnd_bounds lines index inside
  exact ⟨_, blockEnd lines index, found options, start, bound, shown,
    endsBlock_iff lines index inside, follows_blockEnd lines index inside⟩

end Functions

/-- A function whose brace opens on a later line, after a stray closing one, and one that never
closes. -/
def strayScript : List Text :=
  ["function Get-Sum", " \x7d", "\x7b", "  if ($a) \x7b $b \x7d", "  \x7d \x7b",
    "function Rest", "$c = 1 \x7b"].map String.toList

theorem functions_strayScript :
    (functionLines strayScript)[0]? = some 0 ∧
      ∃ node last, (functions (extract strayScript { showFunctionNames := false } {}))[0]? =
          some node ∧
        0 ≤ last ∧ last < strayScript.length ∧ node.lines = slice strayScript 0 (last + 1) ∧
        (∀ line, EndsBlock strayScript 0 line ↔ line = last) ∧ Follows strayScript 0 last := by
  have started : (functionLines strayScript)[0]? = some 0 := by decide
  exact ⟨started, functions_show_their_blocks strayScript { showFunctionNames := false } {} rfl 0 0
    started⟩

section Nesting

variable (lines : List Text)

theorem blockEnd_le (outer inner : Nat) (after : outer < inner)
    (within : inner ≤ blockEnd lines outer) (opens : OpensWithin lines outer inner) :
    blockEnd lines inner ≤ blockEnd lines outer := by
  have last := blockEnd_le_last lines outer
  have ends := endsBlock_blockEnd lines outer (by omega)
  have innerEnds := endsBlock_blockEnd lines inner (by omega)
  have bounds := blockEnd_bounds lines inner (by omega)
  have split := congrArg List.flatten (slice_append lines outer inner (Nat.le_of_lt after))
  rw [List.flatten_append] at split
  rw [EndsBlock] at ends
  cases closed : closing? (lines.drop outer).flatten with
  | none =>
      simp only [closed] at ends
      omega
  | some place =>
      obtain ⟨brace, start, before, opening⟩ := opens place closed
      simp only [closed] at ends
      rw [← split] at closed opening
      obtain ⟨own, found, bound⟩ := closes_within _ _ place brace closed start before opening
      simp only [EndsBlock, found] at innerEnds
      by_contra beyond
      have joined := congrArg List.flatten
        (slice_join lines outer inner (blockEnd lines outer + 1) (by omega) (by omega))
      have sizes := congrArg List.length joined
      rw [List.flatten_append, List.length_append] at sizes
      have mono := length_slice_mono lines inner (blockEnd lines outer + 1) (blockEnd lines inner)
        (by omega)
      omega

theorem owner?_within (method type : Nat) (inside : method < lines.length)
    (owned : owner? lines method = some type) : type < method ∧ method ≤ blockEnd lines type := by
  have after := owner?_lt lines method type owned
  obtain ⟨_, passed⟩ := (owner?_eq_some_iff lines method type).mp owned
  refine ⟨after, ?_⟩
  by_contra beyond
  have bounds := blockEnd_bounds lines type (by omega)
  have stop := through?_slice_extent lines type (by omega)
  rw [← blockEnd_add_one lines type (by omega)] at stop
  have closed := Option.isNone_iff_eq_none.mp (stop.resolve_right (by omega))
  rw [← slice, ← slice_join lines type (blockEnd lines type + 1) method (by omega) (by omega),
    through?_append, closed] at passed
  cases passed

/-- Blocks nest: a block that starts on a line of another one, and opens a brace before that one
closes, ends with it or before it. So it is with the methods of a class, and a function inside
another has lines that are part of the other's. -/
theorem blocks_nest :
    (∀ outer inner, outer < inner → inner ≤ blockEnd lines outer → OpensWithin lines outer inner →
      blockEnd lines inner ≤ blockEnd lines outer) ∧
    (∀ type method, method < lines.length → owner? lines method = some type →
      type < method ∧ method ≤ blockEnd lines type ∧
        (OpensWithin lines type method → blockEnd lines method ≤ blockEnd lines type)) ∧
    ∀ options place outer inner outerNode innerNode, options.showFunctionNames = false →
      functionNodeAt? options place lines outer = some outerNode →
      functionNodeAt? options place lines inner = some innerNode →
      outer < inner → inner ≤ blockEnd lines outer → OpensWithin lines outer inner →
      innerNode.lines <:+: outerNode.lines := by
  refine ⟨blockEnd_le lines, ?_, ?_⟩
  · intro type method inside owned
    obtain ⟨after, within⟩ := owner?_within lines method type inside owned
    exact ⟨after, within, blockEnd_le lines type method after within⟩
  · intro options place outer inner outerNode innerNode whole here there after within opens
    have reach := blockEnd_le lines outer inner after within opens
    obtain ⟨_, raw, later, _, rest, rfl⟩ :=
      functionNodeAt?_eq_some options place lines outer outerNode here
    obtain ⟨_, innerRaw, innerLater, _, innerRest, rfl⟩ :=
      functionNodeAt?_eq_some options place lines inner innerNode there
    obtain ⟨_, shown⟩ := lines_functionNode lines options _ whole _ outer raw later rest
    obtain ⟨inside, innerShown⟩ := lines_functionNode lines options _ whole _ inner innerRaw
      innerLater innerRest
    have bounds := blockEnd_bounds lines inner inside
    have parts : slice lines outer (blockEnd lines outer + 1) =
        slice lines outer inner ++ slice lines inner (blockEnd lines inner + 1) ++
          slice lines (blockEnd lines inner + 1) (blockEnd lines outer + 1) := by
      calc
        _ = slice lines outer inner ++ slice lines inner (blockEnd lines outer + 1) :=
          (slice_join lines outer inner _ (by omega) (by omega)).symm
        _ = slice lines outer inner ++ (slice lines inner (blockEnd lines inner + 1) ++
            slice lines (blockEnd lines inner + 1) (blockEnd lines outer + 1)) := by
          rw [slice_join lines inner _ _ (by omega) (by omega)]
        _ = _ := (List.append_assoc _ _ _).symm
    rw [shown, innerShown, parts]
    exact List.infix_append _ _ _

end Nesting

/-- A function in a method of a class, with its brace on the next line. -/
def innerScript : List Text :=
  ["class Box \x7b", "  [int] Size() \x7b", "    function Get-Unit", "    \x7b 1 \x7d",
    "    Get-Unit \x7d", "\x7d"].map String.toList

theorem blocks_innerScript :
    (1 < 2 ∧ 2 ≤ blockEnd innerScript 1 ∧ OpensWithin innerScript 1 2 ∧
      blockEnd innerScript 2 ≤ blockEnd innerScript 1) ∧
    (1 < innerScript.length ∧ owner? innerScript 1 = some 0 ∧ OpensWithin innerScript 0 1 ∧
      blockEnd innerScript 1 ≤ blockEnd innerScript 0) ∧
    ∃ outerNode innerNode,
      functionNodeAt? { showFunctionNames := false } {} innerScript 1 = some outerNode ∧
      functionNodeAt? { showFunctionNames := false } {} innerScript 2 = some innerNode ∧
      innerNode.lines <:+: outerNode.lines := by
  have within : 2 ≤ blockEnd innerScript 1 := by decide
  have opens : OpensWithin innerScript 1 2 := by
    intro place closed
    have found : closing? (innerScript.drop 1).flatten = some 59 := by decide
    rw [found] at closed
    injection closed with same
    exact ⟨41, by decide, by omega, by decide⟩
  have opensMethod : OpensWithin innerScript 0 1 := by
    intro place closed
    have found : closing? (innerScript.drop 0).flatten = some 71 := by decide
    rw [found] at closed
    injection closed with same
    exact ⟨26, by decide, by omega, by decide⟩
  have inside : 1 < innerScript.length := by decide
  have owned : owner? innerScript 1 = some 0 := by decide
  refine ⟨⟨by decide, within, opens, (blocks_nest innerScript).1 1 2 (by decide) within opens⟩,
    ⟨inside, owned, opensMethod, ((blocks_nest innerScript).2.1 0 1 inside owned).2.2 opensMethod⟩,
    _, _, rfl, rfl, ?_⟩
  exact (blocks_nest innerScript).2.2 { showFunctionNames := false } {} 1 2 _ _ rfl rfl rfl
    (by decide) within opens

end Outliner.Script
