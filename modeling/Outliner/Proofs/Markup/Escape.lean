import Outliner.Markup.Render
import Outliner.Proofs.Markup.Tokens

namespace Outliner.Markup

def escapeTags (text : Text) : Text :=
  (tokens text).flatMap Token.escaped

def Token.doubled : Token → Token
  | .plain text => .plain text
  | .tag backslashes body => .tag (2 * backslashes + 1) body

theorem escapeTags_tag (count : Nat) (body rest : Text) (tag : isBody body = true) :
    escapeTags (List.replicate count '\\' ++ (bracketed body ++ rest)) =
      List.replicate (2 * count + 1) '\\' ++ (bracketed body ++ escapeTags rest) := by
  rw [escapeTags, tokens_tag count body rest tag, List.flatMap_cons, Token.escaped,
    List.append_assoc, escapeTags]

theorem escapeTags_plain (c : Char) (rest : Text) (free : tagAt? (c :: rest) = none) :
    escapeTags (c :: rest) = c :: escapeTags rest := by
  rw [escapeTags, tokens_plain c rest free, escapeTags]
  cases tokens rest with
  | nil => rfl
  | cons token more => cases token <;> rfl

theorem firstBracket?_tag (count : Nat) (body rest : Text) :
    firstBracket? (List.replicate count '\\' ++ (bracketed body ++ rest)) = some '[' := by
  induction count with
  | zero =>
      rw [bracketed_append]
      simp [firstBracket?, isInside]
  | succ count ih =>
      rw [List.replicate_succ, List.cons_append, firstBracket?_inside '\\' _ (by decide), ih]

theorem firstBracket?_escapeTags (text : Text) :
    firstBracket? (escapeTags text) = firstBracket? text := by
  induction text using byTags with
  | nil => rfl
  | tag count body rest valid ih =>
      rw [escapeTags_tag count body rest valid, firstBracket?_tag, firstBracket?_tag]
  | plain c rest free ih =>
      rw [escapeTags_plain c rest free]
      cases inside : isInside c with
      | true => rw [firstBracket?_inside c _ inside, ih, firstBracket?_inside c _ inside]
      | false => simp [firstBracket?, inside]

theorem closes_escapeTags (text : Text) : closes (escapeTags text) = closes text := by
  have brackets := firstBracket?_escapeTags text
  induction text using byTags with
  | nil => rfl
  | tag count body rest valid =>
      have dull (count : Nat) (more : Text) : closes
          (List.replicate count '\\' ++ (bracketed body ++ more)) = false := by
        rw [closes, (isDull_backslashes count _ (isDull_bracketed body more)).start, Bool.false_and]
      rw [escapeTags_tag count body rest valid, dull, dull]
  | plain c rest free ih =>
      rw [escapeTags_plain c rest free] at brackets ⊢
      rw [closes, closes, brackets, List.head?_cons, List.head?_cons]

theorem tagAt?_escapeTags (text : Text) (free : tagAt? text = none) :
    tagAt? (escapeTags text) = none := by
  induction text with
  | nil => rfl
  | cons c rest ih =>
      rw [escapeTags_plain c rest free]
      by_cases slash : c = '\\'
      · subst slash
        rw [tagAt?_backslash_eq_none_iff] at free ⊢
        exact ih free
      · rw [tagAt?_other_eq_none_iff c _ slash] at free ⊢
        by_cases bracket : c = '['
        · subst bracket
          rw [bodyAt?_eq_none_iff] at free ⊢
          rw [closes_escapeTags, free]
        · exact bodyAt?_other c _ bracket

theorem tokens_escapeTags (text : Text) :
    tokens (escapeTags text) = (tokens text).map Token.doubled := by
  induction text using byTags with
  | nil => rfl
  | tag count body rest valid ih =>
      rw [escapeTags_tag count body rest valid, tokens_tag _ body _ valid, ih,
        tokens_tag count body rest valid]
      rfl
  | plain c rest free ih =>
      have stays := tagAt?_escapeTags (c :: rest) free
      rw [escapeTags_plain c rest free] at stays ⊢
      rw [tokens_plain c _ stays, ih, tokens_plain c rest free]
      cases tokens rest with
      | nil => rfl
      | cons token more => cases token <;> rfl

theorem getLast?_escapeTags (text : Text) : (escapeTags text).getLast? = text.getLast? := by
  induction text using byTags with
  | nil => rfl
  | tag count body rest valid ih =>
      rw [escapeTags_tag count body rest valid]
      simp only [List.getLast?_append, ih, bracketed, List.getLast?_singleton]
      cases rest.getLast? <;> rfl
  | plain c rest free ih =>
      rw [escapeTags_plain c rest free, List.getLast?_cons, List.getLast?_cons, ih]

theorem tagAt?_backslashes (count : Nat) : tagAt? (List.replicate count '\\') = none := by
  induction count with
  | zero => rfl
  | succ count ih =>
      rw [List.replicate_succ, tagAt?_backslash, ih]
      rfl

theorem escapeTags_backslashes (count : Nat) :
    escapeTags (List.replicate count '\\') = List.replicate count '\\' := by
  induction count with
  | zero => rfl
  | succ count ih =>
      have free := tagAt?_backslashes (count + 1)
      rw [List.replicate_succ] at free ⊢
      rw [escapeTags_plain '\\' _ free, ih]

theorem exists_solid (text : Text) :
    ∃ base count, text = base ++ List.replicate count '\\' ∧ IsSolid base := by
  induction text using List.reverseRecOn with
  | nil => exact ⟨[], 0, rfl, nofun⟩
  | append_singleton front c ih =>
      by_cases slash : c = '\\'
      · obtain ⟨base, count, whole, solid⟩ := ih
        refine ⟨base, count + 1, ?_, solid⟩
        rw [whole, slash, List.append_assoc, List.replicate_succ']
      · refine ⟨front ++ [c], 0, (List.append_nil _).symm, ?_⟩
        rw [IsSolid, List.getLast?_concat]
        exact fun same => slash (Option.some.inj same)

def endSlashes (count : Nat) : Nat :=
  if count = 1 then 2 else count

section Ends

variable (base : Text) (solid : IsSolid base) (count : Nat)
include solid

theorem escapeTags_append_backslashes :
    escapeTags (base ++ List.replicate count '\\') =
      escapeTags base ++ List.replicate count '\\' := by
  induction base using byTags with
  | nil => exact escapeTags_backslashes count
  | tag before body rest valid ih =>
      rw [← List.append_assoc] at solid
      rw [List.append_assoc, List.append_assoc, escapeTags_tag before body _ valid,
        ih (isSolid_of_append _ rest solid), escapeTags_tag before body rest valid,
        List.append_assoc, List.append_assoc]
  | plain c rest free ih =>
      have dull := isDull_only_backslashes count
      have stays := tagAt?_append _ dull (c :: rest) (List.cons_ne_nil c rest) solid free
      rw [List.cons_append] at stays ⊢
      rw [escapeTags_plain c _ stays, ih (isSolid_of_append [c] rest solid),
        escapeTags_plain c rest free, List.cons_append]

theorem escape_eq :
    escape (base ++ List.replicate count '\\') =
      escapeTags base ++ List.replicate (endSlashes count) '\\' := by
  have escaped := escapeTags_append_backslashes base solid count
  have last : (escapeTags base).reverse.head? ≠ some '\\' := by
    rwa [List.head?_reverse, getLast?_escapeTags]
  rw [escapeTags] at escaped
  unfold escape
  simp only [escaped, List.reverse_append, List.reverse_replicate]
  -- From here on only the end counts, which is matched from behind.
  change (escapeTags base).reverse.head? ≠ _ at last
  generalize (escapeTags base).reverse = back at last
  match count, back with
  | 0, [] => rfl
  | 1, [] => exact List.append_assoc _ _ _
  | 0, c :: more =>
      have other : c ≠ '\\' := fun same => last (congrArg some same)
      simp [endSlashes, other]
  | 1, c :: more =>
      have other : c ≠ '\\' := fun same => last (congrArg some same)
      simp [endSlashes, other]
  | more + 2, _ => rfl

theorem tokens_escape (body rest : Text) (tag : isBody body = true) :
    tokens (escape (base ++ List.replicate count '\\') ++ (bracketed body ++ rest)) =
      (tokens base).map Token.doubled ++ .tag (endSlashes count) body :: tokens rest := by
  have ends : IsSolid (escapeTags base) := by
    rwa [IsSolid, getLast?_escapeTags]
  rw [escape_eq base solid count, List.append_assoc,
    tokens_append_tag (escapeTags base) ends _ body rest tag, tokens_escapeTags]

end Ends

end Outliner.Markup
