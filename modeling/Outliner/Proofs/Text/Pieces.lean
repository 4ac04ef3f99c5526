import Outliner.Text.Basic

namespace Outliner.Text

section Single

variable (separator : Char)

theorem exists_cutAt (text : Text) : ∃ piece pieces, cutAt separator text = piece :: pieces := by
  cases text with
  | nil => exact ⟨_, _, rfl⟩
  | cons c rest =>
      rw [cutAt]
      split
      · exact ⟨_, _, rfl⟩
      · split <;> exact ⟨_, _, rfl⟩

theorem cutAt_here (rest : Text) : cutAt separator (separator :: rest) = [] :: cutAt separator rest := by
  rw [cutAt, if_pos (beq_self_eq_true separator)]

theorem cutAt_pass (c : Char) (rest piece : Text) (pieces : List Text) (apart : c ≠ separator)
    (cut : cutAt separator rest = piece :: pieces) :
    cutAt separator (c :: rest) = (c :: piece) :: pieces := by
  rw [cutAt, if_neg (by simpa using apart), cut]

theorem cutAt_append (front rest piece : Text) (pieces : List Text) (apart : separator ∉ front)
    (cut : cutAt separator rest = piece :: pieces) :
    cutAt separator (front ++ rest) = (front ++ piece) :: pieces := by
  induction front with
  | nil => exact cut
  | cons c later ih =>
      rw [List.mem_cons, not_or] at apart
      exact cutAt_pass separator c _ _ _ (Ne.symm apart.1) (ih apart.2)

theorem cutAt_whole (text : Text) (apart : separator ∉ text) : cutAt separator text = [text] := by
  have cut := cutAt_append separator text [] [] [] apart rfl
  rwa [List.append_nil] at cut

theorem join_cutAt (text : Text) : join [separator] (cutAt separator text) = text := by
  induction text with
  | nil => rfl
  | cons c rest ih =>
      obtain ⟨piece, pieces, cut⟩ := exists_cutAt separator rest
      by_cases here : c = separator
      · rw [here, cutAt_here, join, cut, List.intercalate_cons_cons, ← cut, ← join, ih]
        rfl
      · rw [cutAt_pass separator c rest piece pieces here cut, join]
        rw [cut, join] at ih
        cases pieces with
        | nil => exact congrArg (c :: ·) ih
        | cons next others =>
            rw [List.intercalate_cons_cons] at ih ⊢
            exact congrArg (c :: ·) ih

theorem cutAtText_single (text : Text) : cutAtText [separator] text = cutAt separator text := by
  rw [cutAtText]
  induction text with
  | nil => rfl
  | cons c rest ih =>
      rw [cutAtTextFrom, cutAt]
      by_cases here : c = separator
      · rw [if_pos (by simp [here, List.isPrefixOf]), if_pos (by simpa using here)]
        exact congrArg _ ih
      · rw [if_neg (by simpa [List.isPrefixOf] using Ne.symm here), if_neg (by simpa using here), ih]

theorem cutAt_before (front rest : Text) (apart : separator ∉ front) :
    cutAt separator (front ++ separator :: rest) = front :: cutAt separator rest := by
  have cut := cutAt_append separator front _ _ _ apart (cutAt_here separator rest)
  rwa [List.append_nil] at cut

theorem mem_of_mem_cutAt (text piece : Text) (listed : piece ∈ cutAt separator text) (c : Char)
    (member : c ∈ piece) : c ∈ text := by
  induction text generalizing piece with
  | nil =>
      rw [List.mem_singleton.mp listed] at member
      cases member
  | cons d rest ih =>
      obtain ⟨first, others, cut⟩ := exists_cutAt separator rest
      rw [cut] at ih
      by_cases here : d = separator
      · rw [here, cutAt_here, cut, List.mem_cons] at listed
        rcases listed with rfl | later
        · cases member
        · exact List.mem_cons_of_mem d (ih piece later member)
      · rw [cutAt_pass separator d rest first others here cut, List.mem_cons] at listed
        rcases listed with rfl | later
        · exact List.mem_cons.mpr ((List.mem_cons.mp member).imp id
            (ih first List.mem_cons_self))
        · exact List.mem_cons_of_mem d (ih piece (List.mem_cons_of_mem first later) member)

theorem exists_cutAt_last (text : Text) :
    ∃ pieces last, cutAt separator text = pieces ++ [last] ∧ last <:+ text ∧
      ∀ rest piece others, cutAt separator rest = piece :: others →
        cutAt separator (text ++ rest) = pieces ++ (last ++ piece) :: others := by
  induction text with
  | nil => exact ⟨[], [], rfl, List.suffix_rfl, fun _ _ _ cut => cut⟩
  | cons c later ih =>
      obtain ⟨pieces, last, whole, ending, joined⟩ := ih
      have ends := ending.trans (List.suffix_cons c later)
      by_cases here : c = separator
      · refine ⟨[] :: pieces, last, ?_, ends, ?_⟩
        · rw [here, cutAt_here, whole]
          rfl
        · intro rest piece others cut
          rw [here, List.cons_append, cutAt_here, joined rest piece others cut]
          rfl
      · cases pieces with
        | nil =>
            refine ⟨[], c :: last, cutAt_pass separator c later last [] here whole, ?_, ?_⟩
            · obtain rfl : later = last := by
                have := join_cutAt separator later
                rw [whole] at this
                simpa [join, List.intercalate_singleton] using this.symm
              exact List.suffix_rfl
            · intro rest piece others cut
              exact cutAt_pass separator c _ _ _ here (joined rest piece others cut)
        | cons first more =>
            refine ⟨(c :: first) :: more, last, cutAt_pass separator c later _ _ here whole, ends, ?_⟩
            intro rest piece others cut
            exact cutAt_pass separator c _ _ _ here (joined rest piece others cut)

theorem cutAt_join (front rest : Text) :
    cutAt separator (front ++ separator :: rest) =
      cutAt separator front ++ cutAt separator rest := by
  obtain ⟨pieces, last, whole, _, joined⟩ := exists_cutAt_last separator front
  rw [joined _ _ _ (cutAt_here separator rest), whole, List.append_nil, List.append_assoc]
  rfl

end Single

theorem cutAtTextFrom_passing (separator : Text) (passing : Nat) (text : Text) :
    cutAtTextFrom separator passing text = cutAtText separator (text.drop passing) := by
  induction passing generalizing text with
  | zero => rfl
  | succ passing ih =>
      cases text with
      | nil => rfl
      | cons c rest => exact ih rest

theorem exists_cutAtText (separator text : Text) :
    ∃ piece pieces, cutAtText separator text = piece :: pieces := by
  cases text with
  | nil => exact ⟨_, _, rfl⟩
  | cons c rest =>
      rw [cutAtText, cutAtTextFrom]
      split
      · exact ⟨_, _, rfl⟩
      · split <;> exact ⟨_, _, rfl⟩

section Replacing

variable (old new : Text)

theorem replaceAll_here (rest : Text) (held : old ≠ []) :
    replaceAll old new (old ++ rest) = new ++ replaceAll old new rest := by
  cases old with
  | nil => exact absurd rfl held
  | cons first others =>
      have here : (first :: others).isPrefixOf (first :: (others ++ rest)) = true := by
        rw [List.isPrefixOf_iff_prefix]
        exact List.prefix_append (first :: others) rest
      have passed : (others ++ rest).drop ((first :: others).length - 1) = rest :=
        List.drop_left
      obtain ⟨piece, pieces, cut⟩ := exists_cutAtText (first :: others) rest
      rw [replaceAll, List.cons_append, cutAtText, cutAtTextFrom, if_pos here,
        cutAtTextFrom_passing, passed, replaceAll, cut]
      exact List.intercalate_cons_cons

theorem replaceAll_pass (c : Char) (rest : Text) (apart : old.isPrefixOf (c :: rest) = false) :
    replaceAll old new (c :: rest) = c :: replaceAll old new rest := by
  obtain ⟨piece, pieces, cut⟩ := exists_cutAtText old rest
  rw [replaceAll, cutAtText, cutAtTextFrom, apart, if_neg Bool.false_ne_true, ← cutAtText, cut,
    replaceAll, cut]
  cases pieces <;> rfl

theorem replaceAll_append (front rest : Text)
    (apart : ∀ c ∈ front, ∀ more, old.isPrefixOf (c :: more) = false) :
    replaceAll old new (front ++ rest) = front ++ replaceAll old new rest := by
  induction front with
  | nil => rfl
  | cons c later ih =>
      rw [List.forall_mem_cons] at apart
      rw [List.cons_append, replaceAll_pass old new c _ (apart.1 _), ih apart.2]
      rfl

end Replacing

section Mark

variable (a b : Char)

theorem isPrefixOf_mark (c : Char) (rest : Text) :
    [a, b].isPrefixOf (c :: rest) = true ↔ c = a ∧ rest.head? = some b := by
  rw [List.isPrefixOf_iff_prefix, List.cons_prefix_cons, eq_comm]
  apply and_congr_right
  intro _
  cases rest with
  | nil => simp
  | cons d later =>
      rw [List.cons_prefix_cons, List.head?_cons, Option.some.injEq, eq_comm]
      exact and_iff_left List.nil_prefix

theorem cutAtText_mark (rest : Text) :
    cutAtText [a, b] (a :: b :: rest) = [] :: cutAtText [a, b] rest := by
  have here : [a, b].isPrefixOf (a :: b :: rest) = true :=
    (isPrefixOf_mark a b a (b :: rest)).mpr ⟨rfl, rfl⟩
  rw [cutAtText, cutAtTextFrom, if_pos here, cutAtTextFrom_passing]
  rfl

theorem cutAtText_cons (c : Char) (rest piece : Text) (pieces : List Text)
    (apart : ¬ (c = a ∧ rest.head? = some b)) (cut : cutAtText [a, b] rest = piece :: pieces) :
    cutAtText [a, b] (c :: rest) = (c :: piece) :: pieces := by
  rw [← isPrefixOf_mark] at apart
  rw [cutAtText] at cut
  rw [cutAtText, cutAtTextFrom, if_neg apart, cut]

theorem cutAtText_append (front rest piece : Text) (pieces : List Text) (apart : ∀ c ∈ front, c ≠ a)
    (cut : cutAtText [a, b] rest = piece :: pieces) :
    cutAtText [a, b] (front ++ rest) = (front ++ piece) :: pieces := by
  induction front with
  | nil => exact cut
  | cons c later ih =>
      rw [List.forall_mem_cons] at apart
      exact cutAtText_cons a b c _ _ _ (fun both => apart.1 both.1) (ih apart.2)

theorem eq_of_cutAtText (text piece : Text) (cut : cutAtText [a, b] text = [piece]) :
    piece = text := by
  induction text generalizing piece with
  | nil =>
      injection cut with same
      exact same.symm
  | cons c rest ih =>
      by_cases here : c = a ∧ rest.head? = some b
      · obtain ⟨rfl, next⟩ := here
        obtain ⟨later, rfl⟩ := List.head?_eq_some_iff.mp next
        obtain ⟨first, others, later⟩ := exists_cutAtText [c, b] later
        rw [cutAtText_mark, later] at cut
        cases cut
      · obtain ⟨first, others, later⟩ := exists_cutAtText [a, b] rest
        rw [cutAtText_cons a b c rest first others here later] at cut
        injection cut with same empty
        rw [empty] at later
        rw [← same, ih first later]

theorem occursIn_cons (c : Char) (rest : Text) :
    occursIn [a, b] (c :: rest) = false ↔
      ¬ (c = a ∧ rest.head? = some b) ∧ occursIn [a, b] rest = false := by
  rw [occursIn, Bool.or_eq_false_iff, Bool.eq_false_iff, ne_eq, isPrefixOf_mark]

theorem cutAtText_of_absent (text : Text) (absent : occursIn [a, b] text = false) :
    cutAtText [a, b] text = [text] := by
  induction text with
  | nil => rfl
  | cons c rest ih =>
      rw [occursIn_cons] at absent
      exact cutAtText_cons a b c rest rest [] absent.1 (ih absent.2)

theorem cutAtText_before (distinct : a ≠ b) (text rest : Text)
    (absent : occursIn [a, b] text = false) :
    cutAtText [a, b] (text ++ a :: b :: rest) = text :: cutAtText [a, b] rest := by
  induction text with
  | nil => exact cutAtText_mark a b rest
  | cons c later ih =>
      rw [occursIn_cons] at absent
      apply cutAtText_cons a b c _ later _ _ (ih absent.2)
      rintro ⟨here, next⟩
      cases later with
      | nil => exact distinct (Option.some.inj next)
      | cons d others => exact absent.1 ⟨here, next⟩

end Mark

end Outliner.Text
