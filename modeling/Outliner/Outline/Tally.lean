import Outliner.Outline.Row

namespace Outliner

/-- Numbers of nodes by their kind, in the order in which the kinds came up. -/
abbrev Tally := List (Kind × Nat)

namespace Tally

def count (tally : Tally) (kind : Kind) : Nat :=
  (tally.lookup kind).getD 0

def add (kind : Kind) : Tally → Tally
  | [] => [(kind, 1)]
  | (other, count) :: rest =>
    if other == kind then (other, count + 1) :: rest else (other, count) :: add kind rest

theorem sizeOf_append (front back : List Node) :
    sizeOf (front ++ back) + 1 = sizeOf front + sizeOf back := by
  induction front with
  | nil =>
      rw [List.nil_append, List.nil.sizeOf_spec]
      omega
  | cons node rest ih =>
      rw [List.cons_append, List.cons.sizeOf_spec, List.cons.sizeOf_spec]
      omega

theorem sizeOf_reverse (forest : List Node) : sizeOf forest.reverse = sizeOf forest := by
  induction forest with
  | nil => rfl
  | cons node rest ih =>
      have whole := sizeOf_append rest.reverse [node]
      rw [List.cons.sizeOf_spec, List.nil.sizeOf_spec] at whole
      rw [List.reverse_cons, List.cons.sizeOf_spec]
      omega

theorem sizeOf_children_lt (node : Node) : sizeOf node.children < sizeOf node := by
  cases node with
  | mk name kind path level expanded lines children itemKind =>
      simp only [Node.mk.sizeOf_spec]
      omega

/-- Counts the nodes on a stack and all below them. The children of a node go on top of the stack,
the last one first. -/
def countAll (tally : Tally) : List Node → Tally
  | [] => tally
  | node :: pending => countAll (tally.add node.kind) (node.children.reverse ++ pending)
termination_by pending => sizeOf pending
decreasing_by
  have whole := sizeOf_append node.children.reverse pending
  have below := sizeOf_children_lt node
  rw [sizeOf_reverse] at whole
  rw [List.unattach_reverse, List.unattach_attach, List.cons.sizeOf_spec]
  omega

end Tally

def tally (forest : List Node) : Tally :=
  Tally.countAll [] forest

end Outliner
