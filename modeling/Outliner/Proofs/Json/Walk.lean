import Outliner.Proofs.Json.Writable

namespace Outliner

def siblingsAt : List Nat → List Node → List Node
  | [], forest => forest
  | index :: address, forest =>
    (forest[index]?.map fun node => siblingsAt address node.children).getD []

def changeAt (change : List Node → List Node) : List Nat → List Node → List Node
  | [], forest => change forest
  | index :: address, forest =>
    forest.modify index fun node => { node with children := changeAt change address node.children }

theorem changeAt_append (change : List Node → List Node) (front back : List Nat)
    (forest : List Node) :
    changeAt change (front ++ back) forest = changeAt (changeAt change back) front forest := by
  induction front generalizing forest with
  | nil => rfl
  | cons index front ih => simp only [List.cons_append, changeAt, ih]

theorem changeAt_changeAt (first second : List Node → List Node) (address : List Nat)
    (forest : List Node) :
    changeAt second address (changeAt first address forest) =
      changeAt (fun siblings => second (first siblings)) address forest := by
  induction address generalizing forest with
  | nil => rfl
  | cons index address ih =>
      simp only [changeAt, List.modify_modify_eq]
      congr 1
      funext node
      simp only [Function.comp_apply, ih]

theorem changeAt_same (address : List Nat) (forest : List Node) :
    changeAt (fun siblings => siblings) address forest = forest := by
  induction address generalizing forest with
  | nil => rfl
  | cons index address ih =>
      simp only [changeAt, ih, Node.with_children]
      exact List.modify_id index forest

theorem changeAt_congr (first second : List Node → List Node) (address : List Nat)
    (forest : List Node)
    (same : first (siblingsAt address forest) = second (siblingsAt address forest)) :
    changeAt first address forest = changeAt second address forest := by
  induction address generalizing forest with
  | nil => exact same
  | cons index address ih =>
      apply List.ext_getElem?
      intro place
      simp only [changeAt, List.getElem?_modify]
      by_cases here : index = place
      · subst here
        cases found : forest[index]? with
        | none => rfl
        | some node =>
            simp only [siblingsAt, found, Option.map_some, Option.getD_some] at same
            simp [ih node.children same]
      · simp [here]

namespace Json

/-- Work that is left: the nodes of the entries of a value, which go below the node at an
address. -/
structure Task where
  value : Value
  address : List Nat
  level : Int

/-- The forest as far as it is built, and the work that is left, of which the latest comes
first. -/
structure Walk where
  forest : List Node
  pending : List Task

def Task.fill (path : Text) (forest : List Node) (task : Task) : List Node :=
  changeAt (fun siblings => siblings ++ mirror task.value task.level path) task.address forest

namespace Walk

def start (value : Value) (level : Int) : Walk :=
  ⟨[], [⟨value, [], level⟩]⟩

def place (path : Text) (address : List Nat) (level : Int) (walk : Walk) (entry : Entry) : Walk where
  forest := changeAt (fun siblings => siblings ++ [entry.header path level]) address walk.forest
  pending :=
    if entry.value.isComposite then
      ⟨entry.value, address ++ [(siblingsAt address walk.forest).length], level + 1⟩ :: walk.pending
    else walk.pending

def add (path : Text) (address : List Nat) (level : Int) (walk : Walk) (entry : Entry) :
    Except Fault Walk :=
  if entry.isWritable then .ok (walk.place path address level entry) else .error .unwritable

def step (path : Text) (walk : Walk) : Except Fault Walk :=
  match walk.pending with
  | [] => .ok walk
  | task :: rest =>
    task.value.topEntries.foldlM (add path task.address task.level) { walk with pending := rest }

def isWritable (walk : Walk) : Bool :=
  walk.pending.all fun task => task.value.isWritable

def complete (path : Text) (walk : Walk) : List Node :=
  walk.pending.foldl (Task.fill path) walk.forest

noncomputable def load : List Task → Nat
  | [] => 0
  | task :: rest => sizeOf task.value + load rest

end Walk

noncomputable def entriesLoad : List Entry → Nat
  | [] => 0
  | entry :: rest => (if entry.value.isComposite then sizeOf entry.value else 0) + entriesLoad rest

theorem entriesLoad_cons_le (entry : Entry) (rest : List Entry) :
    entriesLoad (entry :: rest) ≤ sizeOf entry.value + entriesLoad rest := by
  rw [entriesLoad]
  split <;> omega

theorem entriesLoad_items (first : Nat) (items : List Value) :
    entriesLoad ((items.zipIdx first).map fun item => Entry.item item.2 item.1) < sizeOf items := by
  induction items generalizing first with
  | nil => simp [entriesLoad]
  | cons value rest ih =>
      have later := ih (first + 1)
      have both := entriesLoad_cons_le (.item first value)
        ((rest.zipIdx (first + 1)).map fun item => Entry.item item.2 item.1)
      simp only [Entry.value] at both
      simp only [List.zipIdx_cons, List.map_cons, List.cons.sizeOf_spec]
      omega

theorem entriesLoad_members (members : List (Text × Value)) :
    entriesLoad (members.map fun member => Entry.member member.1 member.2) < sizeOf members := by
  induction members with
  | nil => simp [entriesLoad]
  | cons member rest ih =>
      obtain ⟨name, value⟩ := member
      have both := entriesLoad_cons_le (.member name value)
        (rest.map fun member => Entry.member member.1 member.2)
      simp only [Entry.value] at both
      simp only [List.map_cons, List.cons.sizeOf_spec, Prod.mk.sizeOf_spec]
      omega

theorem entriesLoad_entries (value : Value) : entriesLoad value.entries < sizeOf value := by
  cases value with
  | array items =>
      have below := entriesLoad_items 0 items
      simp only [Value.entries, Value.array.sizeOf_spec]
      omega
  | object members =>
      have below := entriesLoad_members members
      simp only [Value.entries, Value.object.sizeOf_spec]
      omega
  | null => simp [Value.entries, entriesLoad]
  | bool value => simp [Value.entries, entriesLoad]
  | integer value => simp [Value.entries, entriesLoad, Nat.add_comm 1]
  | real value => simp [Value.entries, entriesLoad, Nat.add_comm 1]
  | text value => simp [Value.entries, entriesLoad, Nat.add_comm 1]

theorem entriesLoad_topEntries (value : Value) : entriesLoad value.topEntries < sizeOf value := by
  have below := entriesLoad_entries value
  cases composite : value.isComposite with
  | true => rwa [value.topEntries_of_composite composite]
  | false =>
      have nothing : entriesLoad [Entry.whole value] = 0 := by
        simp [entriesLoad, Entry.value, composite]
      rw [value.topEntries_of_scalar composite, nothing]
      omega

namespace Walk

section Place

variable (path : Text) (address : List Nat) (level : Int)

theorem load_foldl_place (entries : List Entry) (walk : Walk) :
    load (entries.foldl (place path address level) walk).pending =
      entriesLoad entries + load walk.pending := by
  induction entries generalizing walk with
  | nil => simp [entriesLoad]
  | cons entry rest ih =>
      rw [List.foldl_cons, ih, entriesLoad]
      simp only [place]
      split
      · simp only [load]
        omega
      · omega

theorem complete_place (walk : Walk) (entry : Entry) (later : List Node) :
    complete path
        ⟨changeAt (fun siblings => siblings ++ later) address
            (walk.place path address level entry).forest,
          (walk.place path address level entry).pending⟩ =
      complete path
        ⟨changeAt (fun siblings => siblings ++ entry.node path level :: later) address walk.forest,
          walk.pending⟩ := by
  cases composite : entry.value.isComposite with
  | true =>
      -- The work that the node leaves is on top of the stack, and only changes what is below it.
      simp only [complete, place, composite, if_true, List.foldl_cons, Task.fill, changeAt_append,
        changeAt_changeAt]
      congr 1
      apply changeAt_congr
      simp only [changeAt, List.append_assoc, List.singleton_append, modify_append_cons,
        entry.children_header path level, List.nil_append,
        mirror_of_composite path (level + 1) entry.value composite]
      rfl
  | false =>
      simp [complete, place, composite, changeAt_changeAt, node_of_scalar path level entry composite]

theorem complete_foldl_place (entries : List Entry) (walk : Walk) :
    complete path (entries.foldl (place path address level) walk) =
      complete path
        ⟨changeAt (fun siblings => siblings ++ entries.map (Entry.node path level)) address
            walk.forest,
          walk.pending⟩ := by
  induction entries generalizing walk with
  | nil => simp only [List.foldl_nil, List.map_nil, List.append_nil, changeAt_same]
  | cons entry rest ih =>
      rw [List.foldl_cons, ih, complete_place, List.map_cons]

theorem isWritable_foldl_place (entries : List Entry) (walk : Walk) :
    (entries.foldl (place path address level) walk).isWritable =
      ((entries.all fun entry => !entry.value.isComposite || entry.value.isWritable) &&
        walk.isWritable) := by
  induction entries generalizing walk with
  | nil => rfl
  | cons entry rest ih =>
      rw [List.foldl_cons, ih, List.all_cons]
      cases composite : entry.value.isComposite with
      | true =>
          simp only [isWritable, place, composite, if_true, List.all_cons, Bool.not_true,
            Bool.false_or, Bool.and_left_comm, Bool.and_assoc]
      | false => simp [isWritable, place, composite]

theorem foldlM_add (entries : List Entry) (walk : Walk) :
    entries.foldlM (add path address level) walk =
      if entries.all Entry.isWritable then .ok (entries.foldl (place path address level) walk)
      else .error .unwritable := by
  induction entries generalizing walk with
  | nil => rfl
  | cons entry rest ih =>
      rw [List.foldlM_cons, add, List.all_cons]
      cases entry.isWritable with
      | true =>
          rw [if_pos rfl, Bool.true_and, List.foldl_cons, ← ih]
          rfl
      | false => rfl

end Place

theorem step_cases (path : Text) (walk : Walk) (busy : walk.pending ≠ []) :
    walk.step path = .error .unwritable ∧ walk.isWritable = false ∨
      ∃ next, walk.step path = .ok next ∧ load next.pending < load walk.pending ∧
        next.complete path = walk.complete path ∧ next.isWritable = walk.isWritable := by
  obtain ⟨forest, pending⟩ := walk
  cases pending with
  | nil => exact absurd rfl busy
  | cons task rest =>
      have whole : isWritable ⟨forest, task :: rest⟩ =
          ((task.value.topEntries.all Entry.isWritable) &&
            ((task.value.topEntries.all fun entry =>
              !entry.value.isComposite || entry.value.isWritable) && isWritable ⟨forest, rest⟩)) := by
        rw [← Bool.and_assoc, ← isWritable_eq_entries]
        rfl
      simp only [step, foldlM_add]
      cases own : task.value.topEntries.all Entry.isWritable with
      | false => exact Or.inl ⟨rfl, by rw [whole, own, Bool.false_and]⟩
      | true =>
          refine Or.inr ⟨_, rfl, ?_, ?_, ?_⟩
          · have lighter := entriesLoad_topEntries task.value
            rw [load_foldl_place]
            simp only [load]
            omega
          · rw [complete_foldl_place, ← mirror_eq_entries]
            rfl
          · rw [isWritable_foldl_place, whole, own, Bool.true_and]

theorem load_step (path : Text) (walk next : Walk) (busy : walk.pending ≠ [])
    (stepped : walk.step path = .ok next) : load next.pending < load walk.pending := by
  rcases step_cases path walk busy with ⟨failed, _⟩ | ⟨other, done, lighter, _⟩
  · rw [failed] at stepped
    cases stepped
  · rw [done] at stepped
    cases stepped
    exact lighter

def run (path : Text) (walk : Walk) : Except Fault (List Node) :=
  if walk.pending = [] then .ok walk.forest
  else match _stepped : walk.step path with
    | .ok next => run path next
    | .error fault => .error fault
termination_by load walk.pending
decreasing_by exact load_step path walk next ‹_› ‹_›

theorem run_eq_complete (path : Text) (walk : Walk) :
    walk.run path =
      if walk.isWritable then .ok (walk.complete path) else .error .unwritable := by
  fun_induction run path walk with
  | case1 walk idle => rw [isWritable, complete, idle]; rfl
  | case2 walk busy next stepped ih =>
      rcases step_cases path walk busy with ⟨failed, _⟩ | ⟨other, done, _, same, writable⟩
      · rw [failed] at stepped
        cases stepped
      · rw [done] at stepped
        cases stepped
        rw [ih, same, writable]
  | case3 walk busy fault stepped =>
      rcases step_cases path walk busy with ⟨failed, writable⟩ | ⟨other, done, _⟩
      · rw [failed] at stepped
        cases stepped
        rw [writable]
        rfl
      · rw [done] at stepped
        cases stepped

theorem run_start (value : Value) (level : Int) (path : Text) :
    (start value level).run path = extract value level path := by
  have writable : (start value level).isWritable = value.isWritable := Bool.and_true _
  rw [run_eq_complete, writable]
  rfl

end Walk

end Json

end Outliner
