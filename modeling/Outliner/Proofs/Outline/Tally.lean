import Mathlib.Algebra.Ring.Nat
import Mathlib.Data.List.Perm.Basic
import Outliner.Outline.Tally
import Outliner.Proofs.Outline.Forest

namespace Outliner

/-- The number of nodes of a kind in a forest, at any depth. -/
def countKind (kind : Kind) (forest : List Node) : Nat :=
  (preorder forest).countP (·.kind == kind)

/-- The same nodes, with other flags and in another order of siblings. -/
inductive Rearranged : List Node → List Node → Prop where
  | nil : Rearranged [] []
  | cons (node : Node) (flag : Bool) {below rest others : List Node} :
      Rearranged node.children below → Rearranged rest others →
      Rearranged (node :: rest) ({ node with expanded := flag, children := below } :: others)
  | swap (first second : Node) (rest : List Node) :
      Rearranged (first :: second :: rest) (second :: first :: rest)
  | trans {first second third : List Node} :
      Rearranged first second → Rearranged second third → Rearranged first third

section Counts

variable (kind : Kind)

theorem countKind_cons (node : Node) (rest : List Node) :
    countKind kind (node :: rest) =
      (if node.kind = kind then 1 else 0) + countKind kind node.children + countKind kind rest := by
  rw [countKind, preorder_cons, List.countP_cons, List.countP_append, ← countKind, ← countKind]
  simp only [beq_iff_eq]
  omega

theorem countKind_append (front back : List Node) :
    countKind kind (front ++ back) = countKind kind front + countKind kind back := by
  rw [countKind, preorder_append, List.countP_append, ← countKind, ← countKind]

theorem preorder_perm (forest other : List Node) (perm : forest.Perm other) :
    (preorder forest).Perm (preorder other) := by
  rw [preorder_eq_flatMap, preorder_eq_flatMap]
  exact perm.flatMap_right _

theorem countKind_reverse (forest : List Node) :
    countKind kind forest.reverse = countKind kind forest :=
  (preorder_perm _ _ forest.reverse_perm).countP_eq _

theorem countKind_rearranged (forest other : List Node) (rearranged : Rearranged forest other) :
    countKind kind other = countKind kind forest := by
  induction rearranged with
  | nil => rfl
  | cons node flag _ _ below rest => rw [countKind_cons, countKind_cons, below, rest]
  | swap first second rest =>
      exact (preorder_perm _ _ (List.Perm.swap first second rest)).countP_eq _
  | trans _ _ early late => rw [late, early]

end Counts

namespace Tally

structure Sound (tally : Tally) : Prop where
  distinct : (tally.map Prod.fst).Nodup
  positive : ∀ entry ∈ tally, 0 < entry.2

theorem sound_nil : Sound [] :=
  ⟨List.nodup_nil, nofun⟩

section Steps

variable (tally : Tally) (kind : Kind)

theorem mem_kinds_add (other : Kind) :
    other ∈ (tally.add kind).map Prod.fst ↔ other = kind ∨ other ∈ tally.map Prod.fst := by
  induction tally with
  | nil => simp [add]
  | cons entry rest ih =>
      rcases entry with ⟨own, count⟩
      rw [add]
      split
      · next here => simp [eq_of_beq here]
      · rw [List.map_cons, List.mem_cons, ih, List.map_cons, List.mem_cons]
        exact or_left_comm

theorem sound_add (sound : Sound tally) : Sound (tally.add kind) := by
  induction tally with
  | nil => exact ⟨by simp [add], by simp [add]⟩
  | cons entry rest ih =>
      rcases entry with ⟨own, count⟩
      rcases sound with ⟨distinct, positive⟩
      rw [List.forall_mem_cons] at positive
      rw [add]
      split
      · refine ⟨distinct, ?_⟩
        rw [List.forall_mem_cons]
        exact ⟨Nat.succ_pos count, positive.2⟩
      · next other =>
          rw [List.map_cons, List.nodup_cons] at distinct
          have later := ih ⟨distinct.2, positive.2⟩
          refine ⟨?_, ?_⟩
          · rw [List.map_cons, List.nodup_cons, mem_kinds_add, not_or]
            exact ⟨⟨by simpa using other, distinct.1⟩, later.distinct⟩
          · rw [List.forall_mem_cons]
            exact ⟨positive.1, later.positive⟩

theorem count_cons (number : Nat) (rest : Tally) (other : Kind) :
    count ((kind, number) :: rest) other = if kind = other then number else rest.count other := by
  by_cases same : kind = other
  · rw [if_pos same, count, List.lookup_cons, same, beq_self_eq_true]
    rfl
  · rw [if_neg same, count, List.lookup_cons, beq_false_of_ne (Ne.symm same)]
    rfl

theorem count_add (other : Kind) :
    (tally.add kind).count other = tally.count other + if kind = other then 1 else 0 := by
  induction tally with
  | nil => rw [add, count_cons]; exact (Nat.zero_add _).symm
  | cons entry rest ih =>
      rcases entry with ⟨own, number⟩
      rw [add]
      split
      · next here =>
          have same : own = kind := eq_of_beq here
          rw [count_cons, count_cons, same]
          split
          · rfl
          · rfl
      · next elsewhere =>
          have apart : own ≠ kind := fun same => elsewhere (beq_iff_eq.mpr same)
          rw [count_cons, count_cons]
          split
          · next here => rw [if_neg fun same => apart (here.trans same.symm), Nat.add_zero]
          · exact ih

theorem total_add :
    ((tally.add kind).map Prod.snd).sum = (tally.map Prod.snd).sum + 1 := by
  induction tally with
  | nil => rfl
  | cons entry rest ih =>
      rcases entry with ⟨own, count⟩
      rw [add]
      split
      · simp only [List.map_cons, List.sum_cons]
        omega
      · simp only [List.map_cons, List.sum_cons, ih]
        omega

end Steps

theorem countAll_spec (tally : Tally) (pending : List Node) (sound : Sound tally) :
    Sound (countAll tally pending) ∧
      (∀ kind, (countAll tally pending).count kind = tally.count kind + countKind kind pending) ∧
      ((countAll tally pending).map Prod.snd).sum =
        (tally.map Prod.snd).sum + (preorder pending).length := by
  fun_induction countAll tally pending with
  | case1 tally => exact ⟨sound, fun kind => rfl, rfl⟩
  | case2 tally node pending ih =>
      rw [List.unattach_reverse, List.unattach_attach] at ih
      rcases ih (sound_add tally node.kind sound) with ⟨after, counts, total⟩
      refine ⟨after, ?_, ?_⟩
      · intro kind
        rw [counts, count_add, countKind_append, countKind_reverse, countKind_cons]
        omega
      · have same := (preorder_perm _ _ node.children.reverse_perm).length_eq
        rw [total, total_add, preorder_append, List.length_append, same, preorder_cons,
          List.length_cons, List.length_append]
        omega

theorem count_eq_zero (tally : Tally) (kind : Kind) (absent : kind ∉ tally.map Prod.fst) :
    tally.count kind = 0 := by
  rw [count, List.lookup_eq_none_iff.mpr, Option.getD_none]
  intro entry held
  rw [bne_iff_ne]
  rintro rfl
  exact absent (List.mem_map_of_mem held)

theorem mem_iff (tally : Tally) (sound : Sound tally) (kind : Kind) (number : Nat) :
    (kind, number) ∈ tally ↔ tally.count kind = number ∧ 0 < number := by
  induction tally with
  | nil => simp [count]; omega
  | cons entry rest ih =>
      rcases entry with ⟨own, held⟩
      rcases sound with ⟨distinct, positive⟩
      rw [List.map_cons, List.nodup_cons] at distinct
      rw [List.forall_mem_cons] at positive
      rw [List.mem_cons, Prod.mk.injEq, ih ⟨distinct.2, positive.2⟩, count_cons]
      by_cases same : own = kind
      · have none := count_eq_zero rest own distinct.1
        subst same
        simp only [true_and, if_true]
        have above := positive.1
        simp only at above
        omega
      · rw [if_neg same]
        simp [Ne.symm same]

end Tally

section Forest

variable (forest : List Node)

theorem sound_tally : (tally forest).Sound :=
  (Tally.countAll_spec [] forest Tally.sound_nil).1

theorem count_tally (kind : Kind) : (tally forest).count kind = countKind kind forest := by
  rw [tally, (Tally.countAll_spec [] forest Tally.sound_nil).2.1]
  exact Nat.zero_add _

theorem total_tally : ((tally forest).map Prod.snd).sum = (preorder forest).length := by
  rw [tally, (Tally.countAll_spec [] forest Tally.sound_nil).2.2]
  exact Nat.zero_add _

theorem mem_tally (kind : Kind) (count : Nat) :
    (kind, count) ∈ tally forest ↔ countKind kind forest = count ∧ 0 < count := by
  rw [Tally.mem_iff _ (sound_tally forest), count_tally]

end Forest

end Outliner
