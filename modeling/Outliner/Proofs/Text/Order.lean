import Outliner.Text.Basic

namespace Outliner.Text

def Below (first second : Text) : Prop :=
  first ≠ second ∧ isAtMost first second = true

theorem isAtMost_cons (a b : Char) (rest others : Text) :
    isAtMost (a :: rest) (b :: others) = true ↔
      a.toNat < b.toNat ∨ a = b ∧ isAtMost rest others = true := by
  simp [isAtMost]

theorem isAtMost_total (first second : Text) :
    isAtMost first second = true ∨ isAtMost second first = true := by
  induction first generalizing second with
  | nil => exact Or.inl rfl
  | cons a rest ih =>
      cases second with
      | nil => exact Or.inr rfl
      | cons b others =>
          rw [isAtMost_cons, isAtMost_cons]
          rcases Nat.lt_trichotomy a.toNat b.toNat with less | same | more
          · exact Or.inl (Or.inl less)
          · have same : a = b := Char.toNat_inj.mp same
            subst same
            rcases ih others with below | above
            · exact Or.inl (Or.inr ⟨rfl, below⟩)
            · exact Or.inr (Or.inr ⟨rfl, above⟩)
          · exact Or.inr (Or.inl more)

theorem isAtMost_trans (first second third : Text) (below : isAtMost first second = true)
    (above : isAtMost second third = true) : isAtMost first third = true := by
  induction first generalizing second third with
  | nil => rfl
  | cons a rest ih =>
      cases second with
      | nil => cases below
      | cons b others =>
          cases third with
          | nil => cases above
          | cons c last =>
              rw [isAtMost_cons] at below above ⊢
              rcases below with less | ⟨rfl, below⟩
              · rcases above with more | ⟨rfl, _⟩
                · exact Or.inl (Nat.lt_trans less more)
                · exact Or.inl less
              · rcases above with more | ⟨rfl, above⟩
                · exact Or.inl more
                · exact Or.inr ⟨rfl, ih others last below above⟩

theorem isAtMost_antisymm (first second : Text) (below : isAtMost first second = true)
    (above : isAtMost second first = true) : first = second := by
  induction first generalizing second with
  | nil =>
      cases second with
      | nil => rfl
      | cons b others => cases above
  | cons a rest ih =>
      cases second with
      | nil => cases below
      | cons b others =>
          rw [isAtMost_cons] at below above
          rcases below with less | ⟨rfl, below⟩
          · rcases above with more | ⟨rfl, _⟩
            · exact absurd more (Nat.lt_asymm less)
            · exact absurd less (Nat.lt_irrefl _)
          · rcases above with more | ⟨_, above⟩
            · exact absurd more (Nat.lt_irrefl _)
            · rw [ih others below above]

theorem isAtMost_refl (text : Text) : isAtMost text text = true :=
  (isAtMost_total text text).elim id id

theorem isAtMost_iff (first second : Text) :
    isAtMost first second = true ↔ first = second ∨ Below first second := by
  constructor
  · intro below
    exact (Decidable.em (first = second)).imp id fun apart => ⟨apart, below⟩
  · rintro (rfl | below)
    · exact isAtMost_refl first
    · exact below.2

theorem not_below_self (text : Text) : ¬ Below text text :=
  fun below => below.1 rfl

theorem Below.trans {first second third : Text} (below : Below first second)
    (above : Below second third) : Below first third := by
  refine ⟨?_, isAtMost_trans _ _ _ below.2 above.2⟩
  rintro rfl
  exact below.1 (isAtMost_antisymm _ _ below.2 above.2)

end Outliner.Text
