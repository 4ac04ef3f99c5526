import Outliner.Proofs.Markup.Escape

namespace Outliner.Markup

/-- What is shown of a token of a text that has been escaped. -/
def Token.shown : Token → Text
  | .plain text => Text.replaceAll "\\[".toList "[".toList text
  | .tag backslashes body => List.replicate backslashes '\\' ++ bracketed body

def collapsed (text : Text) : Text :=
  (tokens text).flatMap Token.shown

def HasStray (text : Text) : Prop :=
  ∃ rest, '\\' :: '[' :: rest <:+ text ∧ bodyAt? ('[' :: rest) = none

theorem not_hasStray_nil : ¬HasStray [] := by
  rintro ⟨rest, ends, _⟩
  exact absurd (List.suffix_nil.mp ends) nofun

theorem hasStray_cons (c : Char) (rest : Text) :
    HasStray (c :: rest) ↔
      (c = '\\' ∧ rest.head? = some '[' ∧ bodyAt? rest = none) ∨ HasStray rest := by
  constructor
  · rintro ⟨more, ends, free⟩
    rcases List.suffix_cons_iff.mp ends with here | later
    · obtain ⟨rfl, rfl⟩ := List.cons.inj here
      exact Or.inl ⟨rfl, rfl, free⟩
    · exact Or.inr ⟨more, later, free⟩
  · rintro (⟨rfl, bracket, free⟩ | ⟨more, ends, free⟩)
    · obtain ⟨more, rfl⟩ := List.head?_eq_some_iff.mp bracket
      exact ⟨more, List.suffix_rfl, free⟩
    · exact ⟨more, ends.trans (List.suffix_cons c rest), free⟩

instance decidableHasStray : (text : Text) → Decidable (HasStray text)
  | [] => isFalse not_hasStray_nil
  | c :: rest =>
    have := decidableHasStray rest
    decidable_of_iff _ (hasStray_cons c rest).symm

theorem hasStray_other (c : Char) (rest : Text)
    (other : c ≠ '\\' ∨ rest.head? ≠ some '[' ∨ bodyAt? rest ≠ none) :
    HasStray (c :: rest) ↔ HasStray rest := by
  rw [hasStray_cons, or_iff_right]
  rintro ⟨slash, bracket, free⟩
  rcases other with differs | differs | differs
  · exact differs slash
  · exact differs bracket
  · exact differs free

theorem hasStray_inside (front rest : Text) (inside : ∀ c ∈ front, isInside c = true) :
    HasStray (front ++ ']' :: rest) ↔ HasStray rest := by
  induction front with
  | nil => exact hasStray_other ']' rest (Or.inl (by decide))
  | cons c more ih =>
      rw [List.forall_mem_cons] at inside
      rw [List.cons_append, hasStray_other, ih inside.2]
      right; left
      cases more with
      | nil => exact fun same => absurd (Option.some.inj same) (by decide)
      | cons d others =>
          rw [List.cons_append, List.head?_cons]
          intro same
          have held := inside.2 d List.mem_cons_self
          rw [Option.some.inj same] at held
          exact absurd held (by decide)

theorem hasStray_tag (count : Nat) (body rest : Text) (tag : isBody body = true) :
    HasStray (List.replicate count '\\' ++ (bracketed body ++ rest)) ↔ HasStray rest := by
  induction count with
  | zero =>
      rw [List.replicate_zero, List.nil_append, bracketed_append,
        hasStray_other '[' _ (Or.inl (by decide)),
        hasStray_inside body rest (isInside_of_isBody body tag)]
  | succ count ih =>
      rw [List.replicate_succ, List.cons_append, hasStray_other, ih]
      cases count with
      | zero =>
          right; right
          rw [List.replicate_zero, List.nil_append, bodyAt?_bracketed body rest tag]
          exact nofun
      | succ count => exact Or.inr (Or.inl (by simp [List.replicate_succ]))

theorem hasStray_backslashes (text : Text) (count : Nat) :
    HasStray (text ++ List.replicate count '\\') ↔ HasStray text := by
  induction text with
  | nil =>
      rw [List.nil_append, iff_false_right not_hasStray_nil]
      induction count with
      | zero => exact not_hasStray_nil
      | succ count ih =>
          rw [List.replicate_succ, hasStray_other]
          · exact ih
          · right; left
            cases count <;> simp [List.replicate_succ]
  | cons c rest ih =>
      rw [List.cons_append, hasStray_cons, hasStray_cons, ih]
      have same : ((rest ++ List.replicate count '\\').head? = some '[' ∧
            bodyAt? (rest ++ List.replicate count '\\') = none) ↔
          (rest.head? = some '[' ∧ bodyAt? rest = none) := by
        cases rest with
        | nil => cases count <;> simp [List.replicate_succ]
        | cons d more =>
            rw [List.cons_append, List.head?_cons, List.head?_cons]
            apply and_congr_right
            intro bracket
            rw [Option.some.inj bracket, bodyAt?_eq_none_iff, bodyAt?_eq_none_iff,
              closes_append _ (isDull_only_backslashes count)]
      rw [same]

theorem byStrays {motive : Text → Prop} (nil : motive [])
    (tag : ∀ count body rest, isBody body = true → motive rest →
      motive (List.replicate count '\\' ++ (bracketed body ++ rest)))
    (stray : ∀ rest, bodyAt? ('[' :: rest) = none → motive ('[' :: rest) →
      motive ('\\' :: '[' :: rest))
    (plain : ∀ c rest, tagAt? (c :: rest) = none → ¬(c = '\\' ∧ rest.head? = some '[') →
      motive rest → motive (c :: rest))
    (text : Text) : motive text := by
  induction text using byTags with
  | nil => exact nil
  | tag count body rest valid ih => exact tag count body rest valid ih
  | plain c rest free ih =>
      by_cases here : c = '\\' ∧ rest.head? = some '['
      · obtain ⟨rfl, bracket⟩ := here
        obtain ⟨more, rfl⟩ := List.head?_eq_some_iff.mp bracket
        rw [tagAt?_backslash_eq_none_iff, tagAt?_other_eq_none_iff '[' more (by decide)] at free
        exact stray more free ih
      · exact plain c rest free here ih

theorem collapsed_tag (count : Nat) (body rest : Text) (tag : isBody body = true) :
    collapsed (List.replicate count '\\' ++ (bracketed body ++ rest)) =
      List.replicate count '\\' ++ (bracketed body ++ collapsed rest) := by
  rw [collapsed, tokens_tag count body rest tag, List.flatMap_cons, Token.shown, List.append_assoc,
    collapsed]

theorem collapsed_plain (c : Char) (rest : Text) (free : tagAt? (c :: rest) = none)
    (other : ¬(c = '\\' ∧ rest.head? = some '[')) :
    collapsed (c :: rest) = c :: collapsed rest := by
  have pass (more : Text) (bracket : c = '\\' → more.head? ≠ some '[') :
      Text.replaceAll "\\[".toList "[".toList (c :: more) =
        c :: Text.replaceAll "\\[".toList "[".toList more := by
    apply Text.replaceAll_pass
    rw [Bool.eq_false_iff, ne_eq, List.isPrefixOf_iff_prefix]
    rintro ⟨later, starts⟩
    obtain ⟨rfl, rfl⟩ := List.cons.inj starts
    exact bracket rfl rfl
  rw [collapsed, tokens_plain c rest free, collapsed]
  cases starts : tokens rest with
  | nil => exact congrArg (· ++ []) (pass [] fun _ => nofun)
  | cons token more =>
      cases token with
      | tag => exact congrArg (· ++ _) (pass [] fun _ => nofun)
      | plain plain =>
          have first := head?_of_tokens rest plain more starts
          refine congrArg (· ++ _) (pass plain ?_)
          rw [first]
          exact fun slash bracket => other ⟨slash, bracket⟩

theorem collapsed_stray (rest : Text) (free : bodyAt? ('[' :: rest) = none) :
    collapsed ('\\' :: '[' :: rest) = '[' :: collapsed rest := by
  have here := (tagAt?_other_eq_none_iff '[' rest (by decide)).mpr free
  have before := (tagAt?_backslash_eq_none_iff _).mpr here
  have replaced (more : Text) := Text.replaceAll_here "\\[".toList "[".toList more nofun
  rw [collapsed, tokens_plain '\\' _ before, tokens_plain '[' rest here, collapsed]
  cases tokens rest with
  | nil => exact congrArg (· ++ []) (replaced [])
  | cons token more =>
      cases token with
      | tag => exact congrArg (· ++ _) (replaced [])
      | plain plain => exact congrArg (· ++ _) (replaced plain)

theorem collapsed_cases (text : Text) :
    (¬HasStray text ∧ collapsed text = text) ∨
      (HasStray text ∧ ∃ front rest later,
        text = front ++ '\\' :: rest ∧ collapsed text = front ++ '[' :: later) := by
  induction text using byStrays with
  | nil => exact Or.inl ⟨not_hasStray_nil, rfl⟩
  | tag count body rest valid ih =>
      rw [hasStray_tag count body rest valid, collapsed_tag count body rest valid]
      rcases ih with ⟨clean, same⟩ | ⟨stray, front, more, later, whole, shown⟩
      · exact Or.inl ⟨clean, by rw [same]⟩
      · refine Or.inr ⟨stray, List.replicate count '\\' ++ (bracketed body ++ front), more, later,
          ?_, ?_⟩
        · rw [whole, List.append_assoc, List.append_assoc]
        · rw [shown, List.append_assoc, List.append_assoc]
  | stray rest free _ =>
      exact Or.inr ⟨⟨rest, List.suffix_rfl, free⟩, [], _, _, rfl, collapsed_stray rest free⟩
  | plain c rest free apart ih =>
      rw [collapsed_plain c rest free apart,
        hasStray_other c rest ((not_and_or.mp apart).imp_right Or.inl)]
      rcases ih with ⟨clean, same⟩ | ⟨held, front, more, later, whole, shown⟩
      · exact Or.inl ⟨clean, by rw [same]⟩
      · exact Or.inr ⟨held, c :: front, more, later, by rw [whole]; rfl, by rw [shown]; rfl⟩

theorem collapsed_sublist (text : Text) : (collapsed text).Sublist text := by
  induction text using byStrays with
  | nil => exact List.Sublist.refl []
  | tag count body rest valid ih =>
      rw [collapsed_tag count body rest valid]
      exact (ih.append_left _).append_left _
  | stray rest free ih =>
      have here := (tagAt?_other_eq_none_iff '[' rest (by decide)).mpr free
      rw [collapsed_plain '[' rest here (fun both => absurd both.1 (by decide))] at ih
      rw [collapsed_stray rest free]
      exact ih.cons '\\'
  | plain c rest free apart ih =>
      rw [collapsed_plain c rest free apart]
      exact ih.cons_cons c

namespace Showing

theorem append_append (showing : Showing) (first second : Text) :
    (showing.append first).append second = showing.append (first ++ second) := by
  rw [append, append, append, List.filter_append, List.append_assoc]

theorem append_nil (showing : Showing) : showing.append [] = showing := by
  rw [append, List.filter_nil, List.append_nil]

theorem foldlM_doubled (showing : Showing) (tokens : List Token) :
    (tokens.map Token.doubled).foldlM step showing =
      .ok (showing.append (tokens.flatMap Token.shown)) := by
  induction tokens generalizing showing with
  | nil =>
      rw [List.flatMap_nil, append_nil]
      rfl
  | cons token rest ih =>
      have shown : step showing token.doubled = .ok (showing.append token.shown) := by
        cases token with
        | plain text => rfl
        | tag count body =>
            have odd : ((2 * count + 1) % 2 == 1) = true := by
              rw [beq_iff_eq]
              omega
            have half : (2 * count + 1) / 2 = count := by omega
            rw [Token.doubled, step, odd, if_pos rfl, half]
            rfl
      rw [List.map_cons, List.foldlM_cons, shown]
      show List.foldlM _ _ _ = _
      rw [ih, append_append, List.flatMap_cons]

theorem foldlM_tagless (showing : Showing) (text : Text) (tagless : ¬HasTag text) :
    (tokens text).foldlM step showing = .ok (showing.append (collapsed text)) := by
  have same : ∀ token ∈ tokens text, token.doubled = token := by
    intro token member
    obtain ⟨plain, rfl⟩ := plain_of_tagless text tagless token member
    rfl
  have whole := foldlM_doubled showing (tokens text)
  rwa [List.map_congr_left same, List.map_id'] at whole

end Showing

/-- A text that is shown as it stands, also when a tag follows it. -/
structure Showable (text : Text) : Prop where
  brackets : ¬HasStray text
  ends : ¬['\\', '\\'] <:+ text

instance decidableShowable (text : Text) : Decidable (Showable text) :=
  decidable_of_iff (¬HasStray text ∧ ¬['\\', '\\'] <:+ text)
    ⟨fun both => ⟨both.1, both.2⟩, fun showable => ⟨showable.brackets, showable.ends⟩⟩

/-- What is shown of the backslashes at the end of an escaped text and of the closing tag. -/
def ending (count : Nat) (closing : Text) : Text :=
  List.replicate (endSlashes count / 2) '\\' ++
    if endSlashes count % 2 = 1 then bracketed closing else []

theorem ending_eq_iff (count : Nat) (closing after others : Text)
    (apart : after.head? ≠ some '\\') :
    ending count closing ++ after = List.replicate count '\\' ++ others ↔
      count < 2 ∧ after = others := by
  match count with
  | 0 => simp [ending, endSlashes]
  | 1 => simp [ending, endSlashes]
  | more + 2 =>
      have size : endSlashes (more + 2) = more + 2 := rfl
      have cut : List.replicate (more + 2) '\\' = List.replicate ((more + 2) / 2) '\\' ++
          '\\' :: List.replicate ((more + 1) / 2) '\\' := by
        rw [← List.replicate_succ, List.replicate_append_replicate]
        congr 1
        omega
      rw [iff_false_right (by omega), ending, size, cut, List.append_assoc, List.append_assoc,
        List.append_right_inj]
      split
      · rw [bracketed_append]
        exact fun same => absurd (List.cons.inj same).1 (by decide)
      · intro same
        apply apart
        rw [← List.nil_append after, same]
        rfl

theorem doubleSlash_suffix_iff (base : Text) (solid : IsSolid base) (count : Nat) :
    ['\\', '\\'] <:+ base ++ List.replicate count '\\' ↔ 2 ≤ count := by
  match count with
  | 0 =>
      rw [iff_false_right (by omega)]
      rintro ⟨front, same⟩
      apply solid
      rw [← List.append_nil base, ← List.replicate_zero, ← same, List.getLast?_append]
      rfl
  | 1 =>
      rw [iff_false_right (by omega)]
      rintro ⟨front, same⟩
      apply solid
      rw [← (List.append_left_injective ['\\'] ((List.append_assoc _ _ _).trans same) :
        front ++ ['\\'] = base), List.getLast?_concat]
  | more + 2 =>
      refine iff_of_true ⟨base ++ List.replicate more '\\', ?_⟩ (by omega)
      rw [List.append_assoc, List.replicate_add]
      rfl

theorem shown_eq_iff (base : Text) (solid : IsSolid base) (count : Nat)
    (closing after others : Text) (apart : after.head? ≠ some '\\') :
    collapsed base ++ (ending count closing ++ after) =
        base ++ (List.replicate count '\\' ++ others) ↔
      Showable (base ++ List.replicate count '\\') ∧ after = others := by
  have brackets := hasStray_backslashes base count
  have slashes := doubleSlash_suffix_iff base solid count
  rcases collapsed_cases base with ⟨clean, same⟩ | ⟨stray, front, rest, later, whole, shown⟩
  · rw [same, List.append_right_inj, ending_eq_iff count closing after others apart]
    constructor
    · rintro ⟨few, same⟩
      refine ⟨⟨fun held => clean (brackets.mp held), fun held => ?_⟩, same⟩
      exact absurd (slashes.mp held) (by omega)
    · rintro ⟨showable, same⟩
      exact ⟨by_contra fun many => showable.ends (slashes.mpr (by omega)), same⟩
  · constructor
    · intro same
      rw [shown, whole, List.append_assoc, List.append_assoc, List.append_right_inj] at same
      exact absurd (List.cons.inj same).1 (by decide)
    · rintro ⟨showable, _⟩
      exact absurd (brackets.mpr stray) showable.brackets

def isPlain (c : Char) : Bool :=
  c != '\\' && c != '['

section Plain

variable (c : Char) (rest : Text) (plain : isPlain c = true)
include plain

theorem apart_of_isPlain : c ≠ '\\' ∧ c ≠ '[' := by
  rwa [isPlain, Bool.and_eq_true, bne_iff_ne, bne_iff_ne] at plain

theorem tagAt?_plain : tagAt? (c :: rest) = none := by
  obtain ⟨slash, bracket⟩ := apart_of_isPlain c plain
  rw [tagAt?_other_eq_none_iff c rest slash, bodyAt?_other c rest bracket]

theorem collapsed_cons : collapsed (c :: rest) = c :: collapsed rest :=
  collapsed_plain c rest (tagAt?_plain c rest plain) fun both => (apart_of_isPlain c plain).1 both.1

theorem escape_cons : escape (c :: rest) = c :: escape rest := by
  obtain ⟨base, count, rfl, solid⟩ := exists_solid rest
  have alone : IsSolid [c] := fun same => (apart_of_isPlain c plain).1 (Option.some.inj same)
  have more : IsSolid (c :: base) := isSolid_append [c] base alone solid
  rw [escape_eq base solid count, ← List.cons_append, escape_eq (c :: base) more count,
    escapeTags_plain c base (tagAt?_plain c base plain), List.cons_append]

theorem showable_cons : Showable (c :: rest) ↔ Showable rest := by
  have other := (apart_of_isPlain c plain).1
  have brackets := hasStray_other c rest (Or.inl other)
  have slashes : ['\\', '\\'] <:+ c :: rest ↔ ['\\', '\\'] <:+ rest := by
    rw [List.suffix_cons_iff, or_iff_right]
    exact fun same => other (List.cons.inj same).1.symm
  constructor
  · rintro ⟨clean, ends⟩
    exact ⟨fun held => clean (brackets.mpr held), fun held => ends (slashes.mpr held)⟩
  · rintro ⟨clean, ends⟩
    exact ⟨fun held => clean (brackets.mp held), fun held => ends (slashes.mp held)⟩

end Plain

/-! Plain characters before a text have no part in how it is escaped and shown. -/

section Front

variable (front rest : Text) (plain : front.all isPlain = true)
include plain

theorem escape_front : escape (front ++ rest) = front ++ escape rest := by
  induction front with
  | nil => rfl
  | cons c more ih =>
      rw [List.all_cons, Bool.and_eq_true] at plain
      rw [List.cons_append, escape_cons c _ plain.1, ih plain.2, List.cons_append]

theorem collapsed_front : collapsed (front ++ rest) = front ++ collapsed rest := by
  induction front with
  | nil => rfl
  | cons c more ih =>
      rw [List.all_cons, Bool.and_eq_true] at plain
      rw [List.cons_append, collapsed_cons c _ plain.1, ih plain.2, List.cons_append]

theorem showable_front : Showable (front ++ rest) ↔ Showable rest := by
  induction front with
  | nil => rfl
  | cons c more ih =>
      rw [List.all_cons, Bool.and_eq_true] at plain
      rw [List.cons_append, showable_cons c _ plain.1, ih plain.2]

end Front

end Outliner.Markup
