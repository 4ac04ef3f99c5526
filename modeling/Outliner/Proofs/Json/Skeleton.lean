import Outliner.Proofs.Json.Formation
import Outliner.Proofs.Json.Mirror
import Outliner.Proofs.Text.Pieces

/-!
The skeleton of a JSON value: its keys and indices in their order, without the scalars. It can be
read back from the outline of the value.
-/

namespace Outliner

inductive Skeleton where
  | leaf (name : Text)
  | branch (name : Text) (below : List Skeleton)

namespace Json

def indexName (index : Nat) : Text :=
  '[' :: Text.ofNat index ++ "]".toList

mutual

/-- The keys of an object and the indices of an array, in order. What a composite holds is below its
key, and below its index unless it is empty. -/
def Value.skeleton : Value → List Skeleton
  | .array items => itemSkeletons 0 items
  | .object members => memberSkeletons members
  | _ => []
termination_by structural value => value

def itemSkeletons : Nat → List Value → List Skeleton
  | _, [] => []
  | index, value :: rest =>
    (if value.entries.isEmpty then .leaf (indexName index)
      else .branch (indexName index) value.skeleton) :: itemSkeletons (index + 1) rest
termination_by structural _ items => items

def memberSkeletons : List (Text × Value) → List Skeleton
  | [] => []
  | (key, value) :: rest =>
    (if value.isComposite then .branch key value.skeleton else .leaf key) :: memberSkeletons rest
termination_by structural members => members

end

def separator : Text := ": ".toList

mutual

def readNode : Node → List Skeleton
  | ⟨name, kind, _, _, _, _, children, _⟩ =>
    match kind with
    | .property => [.leaf ((Text.cutAtText separator name).headD [])]
    | .object => [.branch name (readForest children)]
    | .arrayItem =>
      if children.isEmpty then [.leaf name] else [.branch name (readForest children)]
    | _ => []
termination_by structural node => node

/-- The skeleton as it is read from an outline. -/
def readForest : List Node → List Skeleton
  | [] => []
  | node :: rest => readNode node ++ readForest rest
termination_by structural nodes => nodes

end

/-- No key of a scalar holds the separator, however deep in the value it stands. -/
def Value.ClearKeys (value : Value) : Prop :=
  ∀ address key inner, value.entryAt? address = some (.member key inner) →
    inner.isComposite = false → Text.occursIn separator key = false

namespace Entry

/-- What an entry adds to the skeleton. -/
def skeleton : Entry → Skeleton
  | member key value => if value.isComposite then .branch key value.skeleton else .leaf key
  | item index value =>
    if value.entries.isEmpty then .leaf (indexName index)
    else .branch (indexName index) value.skeleton
  | whole _ => .leaf []

def isClear : Entry → Bool
  | member key value => value.isComposite || !Text.occursIn separator key
  | _ => true

end Entry

theorem itemSkeletons_eq (first : Nat) (items : List Value) :
    itemSkeletons first items =
      (items.zipIdx first).map fun item => (Entry.item item.2 item.1).skeleton := by
  induction items generalizing first with
  | nil => rfl
  | cons value rest ih => rw [itemSkeletons, ih (first + 1), List.zipIdx_cons, List.map_cons]; rfl

theorem memberSkeletons_eq (members : List (Text × Value)) :
    memberSkeletons members =
      members.map fun member => (Entry.member member.1 member.2).skeleton := by
  induction members with
  | nil => rfl
  | cons member rest ih =>
      obtain ⟨key, value⟩ := member
      rw [memberSkeletons, ih, List.map_cons]
      rfl

theorem skeleton_eq_entries (value : Value) :
    value.skeleton = value.entries.map Entry.skeleton := by
  cases value with
  | array items =>
      rw [Value.skeleton, itemSkeletons_eq, Value.entries, List.map_map]
      rfl
  | object members =>
      rw [Value.skeleton, memberSkeletons_eq, Value.entries, List.map_map]
      rfl
  | _ => rfl

theorem readForest_eq_flatMap (forest : List Node) :
    readForest forest = forest.flatMap readNode := by
  induction forest with
  | nil => rfl
  | cons node rest ih => rw [readForest, ih, List.flatMap_cons]

theorem ClearKeys.below (value : Value) (clear : value.ClearKeys) (entry : Entry)
    (member : entry ∈ value.entries) : entry.value.ClearKeys := by
  obtain ⟨index, found⟩ := List.mem_iff_getElem?.mp member
  intro address key inner there scalar
  cases address with
  | nil => cases there
  | cons next address =>
      apply clear (index :: next :: address) key inner _ scalar
      rw [Value.entryAt?, found]
      · exact there
      · exact List.cons_ne_nil next address

theorem ClearKeys.own (value : Value) (clear : value.ClearKeys) (key : Text) (inner : Value)
    (member : .member key inner ∈ value.entries) (scalar : inner.isComposite = false) :
    Text.occursIn separator key = false := by
  obtain ⟨index, found⟩ := List.mem_iff_getElem?.mp member
  exact clear [index] key inner found scalar

theorem ClearKeys.of_entries (value : Value)
    (own : ∀ entry ∈ value.entries, entry.isClear = true)
    (below : ∀ entry ∈ value.entries, entry.value.ClearKeys) : value.ClearKeys := by
  intro address key inner there scalar
  match address with
  | [] => cases there
  | [index] =>
      have clear := own _ (List.mem_of_getElem? there)
      rw [Entry.isClear, scalar, Bool.false_or, Bool.not_eq_true'] at clear
      exact clear
  | index :: next :: address =>
      obtain ⟨entry, found, further⟩ := Option.bind_eq_some_iff.mp there
      exact below entry (List.mem_of_getElem? found) (next :: address) key inner further scalar

section Reading

variable (path : Text) (level : Int)

theorem readNode_member (key : Text) (value : Value)
    (clear : value.isComposite = false → Text.occursIn separator key = false)
    (below : readForest (value.parts path (level + 1)) = value.skeleton) :
    readNode ((Entry.member key value).node path level) =
      [(Entry.member key value).skeleton] := by
  simp only [Entry.node, Entry.header, Entry.value, Entry.skeleton]
  cases composite : value.isComposite with
  | true => simp only [if_true, readNode, below]
  | false =>
      have cut := Text.cutAtText_before ':' ' ' (by decide) key value.line (clear composite)
      have name : key ++ ": ".toList ++ value.line = key ++ ':' :: ' ' :: value.line := by
        rw [List.append_assoc]
        rfl
      simp only [Bool.false_eq_true, if_false, readNode, name, separator]
      rw [show ": ".toList = [':', ' '] from rfl, cut, List.headD_cons]

theorem readNode_item (index : Nat) (value : Value)
    (below : readForest (value.parts path (level + 1)) = value.skeleton) :
    readNode ((Entry.item index value).node path level) =
      [(Entry.item index value).skeleton] := by
  have childless : (value.parts path (level + 1)).isEmpty = value.entries.isEmpty := by
    rw [parts_eq_entries, List.isEmpty_map]
  simp only [Entry.node, Entry.header, Entry.value, Entry.skeleton, readNode, childless, below,
    indexName]
  split <;> rfl

end Reading

theorem readForest_parts (value : Value) (level : Int) (path : Text) (clear : value.ClearKeys) :
    readForest (value.parts path level) = value.skeleton := by
  induction value using Value.induction generalizing level with
  | step value ih =>
      have each (entry : Entry) (member : entry ∈ value.entries) :
          readNode (entry.node path level) = [entry.skeleton] := by
        have below := ih entry member (level + 1) (ClearKeys.below value clear entry member)
        cases entry with
        | member key inner =>
            exact readNode_member path level key inner
              (ClearKeys.own value clear key inner member) below
        | item index inner => exact readNode_item path level index inner below
        | whole inner =>
            -- A whole document is no entry of a value.
            cases value with
            | array items =>
                obtain ⟨_, _, other⟩ := List.mem_map.mp member
                cases other
            | object members =>
                obtain ⟨_, _, other⟩ := List.mem_map.mp member
                cases other
            | _ => cases member
      calc
        readForest (value.parts path level)
            = value.entries.flatMap fun entry => readNode (entry.node path level) := by
          rw [readForest_eq_flatMap, parts_eq_entries, List.flatMap_map]
        _ = value.entries.flatMap fun entry => [entry.skeleton] := by
          rw [List.flatMap_def, List.flatMap_def, List.map_congr_left each]
        _ = value.skeleton := by rw [skeleton_eq_entries, List.map_eq_flatMap]

/-- The order of keys and items can be read back from the outline of an object or an array, if no
key of a scalar holds the separator that follows it. There is an outline unless an integer has more
than 4300 digits, and then the value is that of no document. -/
theorem readForest_extract (value : Value) (level : Int) (path : Text)
    (composite : value.isComposite = true) (clear : value.ClearKeys) :
    value.HasLongInteger ∧ extract value level path = .error .unwritable ∧
        (∀ document, decode document ≠ .ok value) ∨
      ¬value.HasLongInteger ∧
        ∃ forest, extract value level path = .ok forest ∧ readForest forest = value.skeleton := by
  rcases extract_cases value level path with failed | ⟨short, mirrored⟩
  · exact Or.inl failed
  · refine Or.inr ⟨short, _, mirrored, ?_⟩
    rw [mirror_of_composite path level value composite]
    exact readForest_parts value level path clear

/-- Keys that come close to the separator, and one of an object that holds it. -/
def labelsValue : Value :=
  .object [("a:".toList, .text ": x".toList), ("b: c".toList, .object [("d".toList, .integer 1)]),
    ("e".toList, .array [.null, .array [], .array [.bool true]])]

theorem clearKeys_labelsValue : labelsValue.ClearKeys := by
  have bare (value : Value) (none : value.entries = []) : value.ClearKeys := by
    apply ClearKeys.of_entries
    · simp [none]
    · simp [none]
  have inner : (Value.object [("d".toList, .integer 1)]).ClearKeys :=
    ClearKeys.of_entries _ (by decide) (List.forall_mem_cons.mpr ⟨bare _ rfl, nofun⟩)
  have last : (Value.array [.bool true]).ClearKeys :=
    ClearKeys.of_entries _ (by decide) (List.forall_mem_cons.mpr ⟨bare _ rfl, nofun⟩)
  have items : (Value.array [.null, .array [], .array [.bool true]]).ClearKeys := by
    apply ClearKeys.of_entries _ (by decide)
    intro entry member
    simp only [Value.entries, List.zipIdx_cons, List.zipIdx_nil, List.map_cons, List.map_nil,
      List.mem_cons, List.not_mem_nil, or_false] at member
    rcases member with rfl | rfl | rfl
    · exact bare _ rfl
    · exact bare _ rfl
    · exact last
  apply ClearKeys.of_entries _ (by decide)
  intro entry member
  simp only [labelsValue, Value.entries, List.map_cons, List.map_nil, List.mem_cons,
    List.not_mem_nil, or_false] at member
  rcases member with rfl | rfl | rfl
  · exact bare _ rfl
  · exact inner
  · exact items

theorem readForest_labelsValue :
    labelsValue.isComposite = true ∧ labelsValue.ClearKeys ∧
      ∃ forest, extract labelsValue 1 "labels.json".toList = .ok forest ∧ readForest forest = [
        .leaf "a:".toList, .branch "b: c".toList [.leaf "d".toList],
        .branch "e".toList [.leaf "[0]".toList, .leaf "[1]".toList,
          .branch "[2]".toList [.leaf "[0]".toList]]] := by
  refine ⟨rfl, clearKeys_labelsValue, ?_⟩
  rcases readForest_extract labelsValue 1 "labels.json".toList rfl clearKeys_labelsValue with
    ⟨_, failed, _⟩ | ⟨_, read⟩
  · cases failed
  · exact read

end Json

end Outliner
