import Outliner.Proofs.Script.Grammar
import Outliner.Proofs.Text.Pieces
import Outliner.Script.Parameter

namespace Outliner.Script

open Text (Blank Stops)

/-- As many marks open as close, and no front of the text closes more than it has opened. -/
structure Balanced (opening closing : Char) (text : Text) : Prop where
  even : text.count opening = text.count closing
  opened : ∀ count, (text.take count).count closing ≤ (text.take count).count opening

theorem balanced_iff (opening closing : Char) (text : Text) :
    Balanced opening closing text ↔ text.count opening = text.count closing ∧
      ∀ count < text.length, (text.take count).count closing ≤ (text.take count).count opening := by
  constructor
  · intro balanced
    exact ⟨balanced.even, fun count _ => balanced.opened count⟩
  · rintro ⟨even, opened⟩
    refine ⟨even, fun count => ?_⟩
    rcases Nat.lt_or_ge count text.length with inside | past
    · exact opened count inside
    · exact Nat.le_of_eq (by rw [List.take_of_length_le past, even])

instance (opening closing : Char) (text : Text) : Decidable (Balanced opening closing text) :=
  decidable_of_iff' _ (balanced_iff opening closing text)

def ClosesGroups (text : Text) : Prop :=
  ∀ back, back <:+ text → back.count '[' ≤ back.count ']'

def attribute? (text : Text) : Option Text :=
  ((group? text).map Prod.fst).filter isAttribute

section Closing

theorem closesGroups_cons (c : Char) (rest : Text) :
    ClosesGroups (c :: rest) ↔
      (c :: rest).count '[' ≤ (c :: rest).count ']' ∧ ClosesGroups rest := by
  constructor
  · intro closed
    refine ⟨closed _ List.suffix_rfl, ?_⟩
    intro back part
    exact closed back (part.trans (List.suffix_cons c rest))
  · rintro ⟨whole, later⟩ back part
    rcases List.suffix_cons_iff.mp part with rfl | inner
    · exact whole
    · exact later back inner

theorem closesGroups_nil : ClosesGroups [] := by
  intro back part
  rw [List.suffix_nil.mp part]
  exact Nat.le_refl _

theorem ClosesGroups.suffix (text back : Text) (closed : ClosesGroups text) (part : back <:+ text) :
    ClosesGroups back :=
  fun _ inner => closed _ (inner.trans part)

theorem closesGroups_append (front back : Text) (closed : ClosesGroups front)
    (later : ClosesGroups back) : ClosesGroups (front ++ back) := by
  induction front with
  | nil => exact later
  | cons c rest ih =>
      have others := (closesGroups_cons c rest).mp closed
      have whole := later back List.suffix_rfl
      rw [List.cons_append, closesGroups_cons]
      refine ⟨?_, ih others.2⟩
      rw [← List.cons_append, List.count_append, List.count_append]
      exact Nat.add_le_add others.1 whole

theorem closesGroups_of_not_mem (text : Text) (absent : '[' ∉ text) : ClosesGroups text := by
  intro back part
  rw [List.count_eq_zero_of_not_mem fun member => absent (part.subset member)]
  exact Nat.zero_le _

theorem Balanced.closesGroups (text : Text) (balanced : Balanced '[' ']' text) :
    ClosesGroups text := by
  rintro back ⟨front, rfl⟩
  have whole := balanced.even
  have start := balanced.opened front.length
  rw [List.count_append, List.count_append] at whole
  rw [List.take_left] at start
  omega

end Closing

section Groups

theorem oneDeep_append (front rest : Text) (opening : '[' ∉ front) (closing : ']' ∉ front)
    (later : OneDeep rest) : OneDeep (front ++ rest) := by
  induction front with
  | nil => exact later
  | cons c front ih =>
      rw [List.mem_cons, not_or] at opening closing
      exact OneDeep.plain c _ (Ne.symm opening.1) (Ne.symm closing.1) (ih opening.2 closing.2)

theorem oneDeep_plain (text : Text) (opening : '[' ∉ text) (closing : ']' ∉ text) :
    OneDeep text := by
  have shape := oneDeep_append text [] opening closing OneDeep.nil
  rwa [List.append_nil] at shape

def bracketsDue (inside : Bool) : Nat :=
  if inside then 2 else 1

theorem groupFrom_of_not_mem (inside : Bool) (text : Text) (absent : ']' ∉ text) :
    groupFrom inside text = none := by
  rw [Option.eq_none_iff_forall_ne_some]
  rintro ⟨body, rest⟩ found
  apply absent
  rw [(groupFrom_sound inside text body rest found).1]
  exact List.mem_append_right _ List.mem_cons_self

theorem groupFrom_append (inside : Bool) (front rest : Text)
    (settled : ']' ∉ rest ∨ front.count '[' + bracketsDue inside ≤ front.count ']') :
    groupFrom inside (front ++ rest) =
      (groupFrom inside front).map fun (body, after) => (body, after ++ rest) := by
  induction inside, front using groupFrom.induct with
  | case1 inside =>
      have absent : ']' ∉ rest := by
        refine settled.resolve_right ?_
        cases inside <;> decide
      rw [List.nil_append, groupFrom_of_not_mem inside rest absent]
      cases inside <;> rfl
  | case2 text => rfl
  | case3 text ih =>
      have later := ih (settled.imp id fun count => by
        simp [bracketsDue] at count ⊢
        omega)
      rw [List.cons_append, groupFrom, groupFrom, later, Option.map_map, Option.map_map]
      rfl
  | case4 text => rfl
  | case5 text ih =>
      have later := ih (settled.imp id fun count => by
        simp [bracketsDue] at count ⊢
        omega)
      rw [List.cons_append, groupFrom, groupFrom, later, Option.map_map, Option.map_map]
      rfl
  | case6 inside c text closes opens opensInner closesInner ih =>
      have opening : c ≠ '[' := by
        cases inside with
        | false => exact opens rfl
        | true => exact opensInner rfl
      have closing : c ≠ ']' := by
        cases inside with
        | false => exact closes rfl
        | true => exact closesInner rfl
      have later := ih (settled.imp id fun count => by simpa [opening, closing] using count)
      rw [List.cons_append, groupFrom_plain inside c _ opening closing,
        groupFrom_plain inside c _ opening closing, later, Option.map_map, Option.map_map]
      rfl

theorem group?_of_ne (c : Char) (rest : Text) (other : c ≠ '[') : group? (c :: rest) = none := by
  rw [group?.eq_def]
  split
  · next same =>
      injection same with first
      exact absurd first other
  · rfl

theorem attribute?_of_ne (c : Char) (rest : Text) (other : c ≠ '[') :
    attribute? (c :: rest) = none := by
  rw [attribute?, group?_of_ne c rest other]
  rfl

theorem attribute?_append (c : Char) (front rest : Text)
    (settled : ']' ∉ rest ∨ ClosesGroups (c :: front)) :
    attribute? (c :: (front ++ rest)) = attribute? (c :: front) := by
  by_cases opening : c = '['
  · subst opening
    have due : ']' ∉ rest ∨ front.count '[' + bracketsDue false ≤ front.count ']' := by
      refine settled.imp id fun closed => ?_
      simpa [bracketsDue] using ((closesGroups_cons '[' front).mp closed).1
    rw [attribute?, attribute?, group?, group?, groupFrom_append false front rest due,
      Option.map_map]
    rfl
  · rw [attribute?_of_ne c _ opening, attribute?_of_ne c _ opening]

theorem attribute?_eq_some_iff (text body : Text) :
    attribute? text = some body ↔
      ∃ rest, text = '[' :: body ++ ']' :: rest ∧ OneDeep body ∧ isAttribute body = true := by
  rw [attribute?, Option.filter_eq_some_iff, Option.map_eq_some_iff]
  constructor
  · rintro ⟨⟨⟨own, rest⟩, found, rfl⟩, marked⟩
    obtain ⟨whole, shape⟩ := (group?_eq_some_iff text own rest).mp found
    exact ⟨rest, whole, shape, marked⟩
  · rintro ⟨rest, whole, shape, marked⟩
    exact ⟨⟨(body, rest), (group?_eq_some_iff text body rest).mpr ⟨whole, shape⟩, rfl⟩, marked⟩

end Groups

section Blanking

theorem blankAttributesFrom_eq (passing : Nat) (text : Text) :
    blankAttributesFrom passing text = blankAttributes (text.drop passing) := by
  induction passing generalizing text with
  | zero => rfl
  | succ passing ih =>
      cases text with
      | nil => rfl
      | cons c rest => exact ih rest

theorem blankAttributes_cons (c : Char) (rest : Text) :
    blankAttributes (c :: rest) =
      match attribute? (c :: rest) with
      | some body => ' ' :: blankAttributes (rest.drop (body.length + 1))
      | none => c :: blankAttributes rest := by
  rw [blankAttributes, blankAttributesFrom, attribute?]
  cases group? (c :: rest) with
  | none => rfl
  | some found =>
      simp only [Option.map_some, Option.filter_some, blankAttributesFrom_eq]
      split <;> rfl

theorem blankAttributes_attribute (body rest : Text) (shape : OneDeep body)
    (marked : isAttribute body = true) :
    blankAttributes ('[' :: body ++ ']' :: rest) = ' ' :: blankAttributes rest := by
  have found := (attribute?_eq_some_iff ('[' :: body ++ ']' :: rest) body).mpr
    ⟨rest, rfl, shape, marked⟩
  rw [List.cons_append] at found ⊢
  rw [blankAttributes_cons, found]
  have passed : (body ++ ']' :: rest).drop (body.length + 1) = rest := by
    rw [← List.drop_drop, List.drop_left, List.drop_one, List.tail_cons]
  simp only [passed]

theorem blanking_induction {motive : Text → Prop} (nil : motive [])
    (kept : ∀ c rest, attribute? (c :: rest) = none → motive rest → motive (c :: rest))
    (blanked : ∀ body rest, OneDeep body → isAttribute body = true → motive rest →
      motive ('[' :: body ++ ']' :: rest)) (text : Text) : motive text := by
  induction size : text.length using Nat.strongRecOn generalizing text with
  | ind count ih =>
      cases text with
      | nil => exact nil
      | cons c rest =>
          rw [List.length_cons] at size
          cases found : attribute? (c :: rest) with
          | none => exact kept c rest found (ih rest.length (by omega) rest rfl)
          | some body =>
              obtain ⟨after, whole, shape, marked⟩ := (attribute?_eq_some_iff _ body).mp found
              have shorter : after.length < count := by
                have sizes := congrArg List.length whole
                simp at sizes
                omega
              rw [whole]
              exact blanked body after shape marked (ih after.length shorter after rfl)

theorem blankAttributes_append (front rest : Text) (settled : ']' ∉ rest ∨ ClosesGroups front) :
    blankAttributes (front ++ rest) = blankAttributes front ++ blankAttributes rest := by
  induction front using blanking_induction with
  | nil => rfl
  | kept c later plain ih =>
      have tail := settled.imp id fun closed => ((closesGroups_cons c later).mp closed).2
      rw [List.cons_append, blankAttributes_cons, blankAttributes_cons c later,
        attribute?_append c later rest settled, plain]
      exact congrArg (c :: ·) (ih tail)
  | blanked body later shape marked ih =>
      have tail := settled.imp id fun closed =>
        ClosesGroups.suffix _ later closed ((List.suffix_cons ']' later).trans
          (List.suffix_append ('[' :: body) (']' :: later)))
      have split : '[' :: body ++ ']' :: later ++ rest = '[' :: body ++ ']' :: (later ++ rest) :=
        List.append_assoc _ _ _
      rw [split, blankAttributes_attribute body _ shape marked,
        blankAttributes_attribute body later shape marked, ih tail]
      rfl

theorem blankAttributes_of_not_mem (text : Text) (absent : '[' ∉ text) :
    blankAttributes text = text := by
  induction text with
  | nil => rfl
  | cons c rest ih =>
      rw [List.mem_cons, not_or] at absent
      rw [blankAttributes_cons, attribute?_of_ne c rest (Ne.symm absent.1)]
      exact congrArg (c :: ·) (ih absent.2)

theorem blankAttributes_plain (front rest : Text) (absent : '[' ∉ front) :
    blankAttributes (front ++ rest) = front ++ blankAttributes rest := by
  rw [blankAttributes_append front rest (Or.inr (closesGroups_of_not_mem front absent)),
    blankAttributes_of_not_mem front absent]

theorem mem_of_mem_blankAttributes (c : Char) (text : Text) (solid : c ≠ ' ')
    (member : c ∈ blankAttributes text) : c ∈ text := by
  induction text using blanking_induction with
  | nil => exact member
  | kept d rest plain ih =>
      rw [blankAttributes_cons, plain, List.mem_cons] at member
      exact List.mem_cons.mpr (member.imp id ih)
  | blanked body rest shape marked ih =>
      rw [blankAttributes_attribute body rest shape marked, List.mem_cons] at member
      have later := ih (member.resolve_left solid)
      exact List.mem_append_right _ (List.mem_cons_of_mem _ later)

theorem OneDeep.even (body : Text) (shape : OneDeep body) : body.count '[' = body.count ']' := by
  induction shape with
  | nil => rfl
  | plain c rest opening closing later ih => simpa [opening, closing] using ih
  | group inner rest opening closing later ih =>
      have noOpening := List.count_eq_zero_of_not_mem opening
      have noClosing := List.count_eq_zero_of_not_mem closing
      simp [noOpening, noClosing, ih]

theorem count_blankAttributes (text : Text) :
    (blankAttributes text).count '[' + text.count ']' =
      (blankAttributes text).count ']' + text.count '[' := by
  induction text using blanking_induction with
  | nil => rfl
  | kept c rest plain ih =>
      rw [blankAttributes_cons, plain]
      simp only [List.count_cons]
      omega
  | blanked body rest shape marked ih =>
      have even := shape.even
      rw [blankAttributes_attribute body rest shape marked]
      simp only [List.count_cons, List.count_append, beq_iff_eq, Char.reduceEq, if_true, if_false]
      omega

theorem ClosesGroups.blankAttributes (text : Text) (closed : ClosesGroups text) :
    ClosesGroups (blankAttributes text) := by
  induction text using blanking_induction with
  | nil => exact closesGroups_nil
  | kept c rest plain ih =>
      have counts := count_blankAttributes (c :: rest)
      obtain ⟨whole, later⟩ := (closesGroups_cons c rest).mp closed
      rw [blankAttributes_cons, plain] at counts ⊢
      rw [closesGroups_cons]
      refine ⟨?_, ih later⟩
      simp only at counts
      omega
  | blanked body rest shape marked ih =>
      have later := ClosesGroups.suffix _ rest closed ((List.suffix_cons ']' rest).trans
        (List.suffix_append ('[' :: body) (']' :: rest)))
      rw [blankAttributes_attribute body rest shape marked]
      exact closesGroups_append [' '] _ (closesGroups_of_not_mem [' '] (by decide)) (ih later)

end Blanking

end Outliner.Script
