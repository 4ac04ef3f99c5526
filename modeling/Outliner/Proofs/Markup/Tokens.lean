import Mathlib.Data.List.Infix
import Mathlib.Data.List.TakeWhile
import Outliner.Markup.Token
import Outliner.Proofs.Text.Pieces

namespace Outliner.Markup

def isInside (c : Char) : Bool :=
  c != '[' && c != ']'

def isBody : Text → Bool
  | [] => false
  | c :: rest => startsTag c && rest.all isInside

def firstBracket? (text : Text) : Option Char :=
  (text.dropWhile isInside).head?

/-- Whether a bracket before the text would start a tag. -/
def closes (text : Text) : Bool :=
  text.head?.any startsTag && firstBracket? text == some ']'

theorem isInside_of_startsTag (c : Char) (starts : startsTag c = true) : isInside c = true := by
  rw [isInside, Bool.and_eq_true, bne_iff_ne, bne_iff_ne]
  constructor
  · rintro rfl
    exact absurd starts (by decide)
  · rintro rfl
    exact absurd starts (by decide)

theorem isInside_of_isBody (body : Text) (tag : isBody body = true) :
    ∀ c ∈ body, isInside c = true := by
  cases body with
  | nil => cases tag
  | cons c rest =>
      rw [isBody, Bool.and_eq_true, List.all_eq_true] at tag
      exact List.forall_mem_cons.mpr ⟨isInside_of_startsTag c tag.1, tag.2⟩

theorem firstBracket?_inside (c : Char) (rest : Text) (inside : isInside c = true) :
    firstBracket? (c :: rest) = firstBracket? rest := by
  rw [firstBracket?, List.dropWhile_cons_of_pos inside, firstBracket?]

theorem firstBracket?_append (front back : Text) :
    firstBracket? (front ++ back) = (firstBracket? front).or (firstBracket? back) := by
  induction front with
  | nil => rfl
  | cons c rest ih =>
      cases inside : isInside c with
      | true =>
          rw [List.cons_append, firstBracket?_inside c _ inside, ih,
            firstBracket?_inside c rest inside]
      | false => simp [firstBracket?, inside]

theorem bodyAt?_cons (text : Text) :
    bodyAt? ('[' :: text) = if closes text then some (text.takeWhile isInside) else none := by
  cases text with
  | nil => rfl
  | cons c rest =>
      rw [closes, List.head?_cons, Option.any_some]
      cases starts : startsTag c with
      | false => simp [bodyAt?, starts]
      | true =>
          have inside := isInside_of_startsTag c starts
          rw [firstBracket?_inside c rest inside, List.takeWhile_cons_of_pos inside, firstBracket?]
          simp only [bodyAt?, starts]
          rfl

theorem bodyAt?_isSome (text : Text) : (bodyAt? ('[' :: text)).isSome = closes text := by
  rw [bodyAt?_cons]
  cases closes text <;> rfl

theorem bodyAt?_eq_none_iff (text : Text) : bodyAt? ('[' :: text) = none ↔ closes text = false := by
  rw [← bodyAt?_isSome, Option.isSome_eq_false_iff, Option.isNone_iff_eq_none]

theorem bodyAt?_other (c : Char) (rest : Text) (other : c ≠ '[') : bodyAt? (c :: rest) = none := by
  unfold bodyAt?
  split
  · next same => exact absurd (List.cons.inj same).1 other
  · rfl

theorem bracketed_append (body rest : Text) :
    bracketed body ++ rest = '[' :: (body ++ ']' :: rest) := by
  rw [bracketed, List.cons_append, List.cons_append, List.append_assoc, List.singleton_append]

theorem bodyAt?_bracketed (body rest : Text) (tag : isBody body = true) :
    bodyAt? (bracketed body ++ rest) = some body := by
  have inside := isInside_of_isBody body tag
  have closed : closes (body ++ ']' :: rest) = true := by
    rw [closes, firstBracket?, List.dropWhile_append_of_pos inside]
    cases body with
    | nil => cases tag
    | cons c later =>
        rw [isBody, Bool.and_eq_true] at tag
        simp [tag.1, isInside]
  rw [bracketed_append, bodyAt?_cons, if_pos closed, List.takeWhile_append_of_pos inside]
  simp [isInside]

theorem bracketed_of_bodyAt? (text body : Text) (found : bodyAt? text = some body) :
    isBody body = true ∧ ∃ rest, text = bracketed body ++ rest := by
  cases text with
  | nil => cases found
  | cons c later =>
      by_cases bracket : c = '['
      · subst bracket
        rw [bodyAt?_cons] at found
        split at found
        · next closed =>
            cases later with
            | nil => cases closed
            | cons d more =>
                rw [closes, Bool.and_eq_true, beq_iff_eq, List.head?_cons, Option.any_some,
                  firstBracket?] at closed
                obtain ⟨rest, ends⟩ := List.head?_eq_some_iff.mp closed.2
                have whole := List.takeWhile_append_dropWhile (p := isInside) (l := d :: more)
                rw [ends, Option.some.inj found] at whole
                refine ⟨?_, rest, by rw [bracketed_append, whole]⟩
                rw [← Option.some.inj found,
                  List.takeWhile_cons_of_pos (isInside_of_startsTag d closed.1), isBody, closed.1,
                  Bool.true_and, List.all_eq_true]
                exact fun e member => List.mem_takeWhile_imp member
        · cases found
      · rw [bodyAt?_other c _ bracket] at found
        cases found

theorem tagAt?_backslash (text : Text) :
    tagAt? ('\\' :: text) = (tagAt? text).map fun found => (found.1 + 1, found.2) := by
  rw [tagAt?, tagAt?, List.dropWhile_cons_of_pos rfl, List.takeWhile_cons_of_pos rfl]
  cases bodyAt? (text.dropWhile fun c => c == '\\') <;> rfl

theorem tagAt?_other (c : Char) (rest : Text) (other : c ≠ '\\') :
    tagAt? (c :: rest) = (bodyAt? (c :: rest)).map ((0, ·)) := by
  have stays : (c == '\\') = false := by simpa using other
  simp only [tagAt?, List.dropWhile_cons, List.takeWhile_cons, stays]
  rfl

theorem tagAt?_backslash_eq_none_iff (text : Text) :
    tagAt? ('\\' :: text) = none ↔ tagAt? text = none := by
  rw [tagAt?_backslash, Option.map_eq_none_iff]

theorem tagAt?_other_eq_none_iff (c : Char) (rest : Text) (other : c ≠ '\\') :
    tagAt? (c :: rest) = none ↔ bodyAt? (c :: rest) = none := by
  rw [tagAt?_other c rest other, Option.map_eq_none_iff]

theorem tagAt?_replicate (count : Nat) (body rest : Text) (tag : isBody body = true) :
    tagAt? (List.replicate count '\\' ++ (bracketed body ++ rest)) = some (count, body) := by
  induction count with
  | zero =>
      rw [List.replicate_zero, List.nil_append, bracketed_append, tagAt?_other _ _ (by decide),
        ← bracketed_append, bodyAt?_bracketed body rest tag]
      rfl
  | succ count ih =>
      rw [List.replicate_succ, List.cons_append, tagAt?_backslash, ih]
      rfl

theorem eq_of_tagAt? (text : Text) (count : Nat) (body : Text)
    (found : tagAt? text = some (count, body)) :
    isBody body = true ∧
      ∃ rest, text = List.replicate count '\\' ++ (bracketed body ++ rest) := by
  induction text generalizing count with
  | nil => cases found
  | cons c later ih =>
      by_cases slash : c = '\\'
      · subst slash
        rw [tagAt?_backslash] at found
        obtain ⟨⟨fewer, same⟩, inner, counts⟩ := Option.map_eq_some_iff.mp found
        obtain ⟨rfl, rfl⟩ := Prod.mk.inj counts
        obtain ⟨tag, rest, whole⟩ := ih fewer inner
        exact ⟨tag, rest, by rw [whole]; rfl⟩
      · rw [tagAt?_other c later slash] at found
        obtain ⟨same, inner, counts⟩ := Option.map_eq_some_iff.mp found
        obtain ⟨rfl, rfl⟩ := Prod.mk.inj counts
        exact bracketed_of_bodyAt? _ _ inner

theorem tokensFrom_passing (passing : Nat) (text : Text) :
    tokensFrom passing text = tokens (text.drop passing) := by
  induction passing generalizing text with
  | zero => rfl
  | succ passing ih =>
      cases text with
      | nil => rfl
      | cons c rest => exact ih rest

@[simp] theorem tokens_nil : tokens [] = [] := rfl

theorem tokens_tag (count : Nat) (body rest : Text) (tag : isBody body = true) :
    tokens (List.replicate count '\\' ++ (bracketed body ++ rest)) =
      .tag count body :: tokens rest := by
  have found := tagAt?_replicate count body rest tag
  have ends : (List.replicate count '\\' ++ (bracketed body ++ rest)).drop
      (count + body.length + 2) = rest := by
    rw [← List.append_assoc, List.drop_left']
    simp [bracketed]
    omega
  cases start : List.replicate count '\\' ++ (bracketed body ++ rest) with
  | nil => rw [start] at found; cases found
  | cons c later =>
      rw [start] at found ends
      rw [tokens, tokensFrom, found]
      simp only
      rw [tokensFrom_passing, ← ends]
      rfl

def consPlain (c : Char) : List Token → List Token
  | .plain text :: more => .plain (c :: text) :: more
  | more => .plain [c] :: more

theorem tokens_plain (c : Char) (rest : Text) (free : tagAt? (c :: rest) = none) :
    tokens (c :: rest) = consPlain c (tokens rest) := by
  rw [tokens, tokensFrom, free, tokens]
  rfl

theorem byTags {motive : Text → Prop} (nil : motive [])
    (tag : ∀ count body rest, isBody body = true → motive rest →
      motive (List.replicate count '\\' ++ (bracketed body ++ rest)))
    (plain : ∀ c rest, tagAt? (c :: rest) = none → motive rest → motive (c :: rest))
    (text : Text) : motive text := by
  cases text with
  | nil => exact nil
  | cons c rest =>
      cases found : tagAt? (c :: rest) with
      | none => exact plain c rest found (byTags nil tag plain rest)
      | some start =>
          obtain ⟨valid, more, whole⟩ := eq_of_tagAt? (c :: rest) start.1 start.2 found
          have shorter : more.length < (c :: rest).length := by
            rw [whole]
            simp [bracketed]
            omega
          rw [whole]
          exact tag start.1 start.2 more valid (byTags nil tag plain more)
termination_by text.length
decreasing_by
  · exact Nat.lt_succ_self rest.length
  · exact shorter

/-- Some bracket starts a tag. -/
def HasTag (text : Text) : Prop :=
  ∃ rest, '[' :: rest <:+ text ∧ (bodyAt? ('[' :: rest)).isSome = true

theorem hasTag_cons (c : Char) (rest : Text) :
    HasTag (c :: rest) ↔ (bodyAt? (c :: rest)).isSome = true ∨ HasTag rest := by
  constructor
  · rintro ⟨more, ends, starts⟩
    rcases List.suffix_cons_iff.mp ends with here | later
    · rw [here] at starts
      exact Or.inl starts
    · exact Or.inr ⟨more, later, starts⟩
  · rintro (starts | ⟨more, ends, starts⟩)
    · by_cases bracket : c = '['
      · subst bracket
        exact ⟨rest, List.suffix_rfl, starts⟩
      · rw [bodyAt?_other c rest bracket] at starts
        cases starts
    · exact ⟨more, ends.trans (List.suffix_cons c rest), starts⟩

theorem hasTag_append (front back : Text) (plain : '[' ∉ front) :
    HasTag (front ++ back) ↔ HasTag back := by
  induction front with
  | nil => rfl
  | cons c rest ih =>
      rw [List.mem_cons, not_or] at plain
      rw [List.cons_append, hasTag_cons, bodyAt?_other c _ (Ne.symm plain.1), ih plain.2]
      exact or_iff_right nofun

theorem plain_of_tagless (text : Text) (tagless : ¬HasTag text) :
    ∀ token ∈ tokens text, ∃ plain, token = .plain plain := by
  induction text using byTags with
  | nil => exact fun token member => absurd member List.not_mem_nil
  | tag count body rest valid _ =>
      apply absurd _ tagless
      refine ⟨body ++ ']' :: rest, ?_, ?_⟩
      · rw [← bracketed_append]
        exact List.suffix_append _ _
      · rw [← bracketed_append, bodyAt?_bracketed body rest valid]
        rfl
  | plain c rest free ih =>
      have later := ih fun held => tagless ((hasTag_cons c rest).mpr (Or.inr held))
      rw [tokens_plain c rest free]
      cases starts : tokens rest with
      | nil => exact List.forall_mem_singleton.mpr ⟨_, rfl⟩
      | cons token more =>
          rw [starts, List.forall_mem_cons] at later
          obtain ⟨⟨plain, rfl⟩, others⟩ := later
          exact List.forall_mem_cons.mpr ⟨⟨_, rfl⟩, others⟩

structure IsDull (text : Text) : Prop where
  start : text.head?.any startsTag = false
  bracket : firstBracket? text ≠ some ']'

theorem isDull_backslashes (count : Nat) (text : Text) (dull : IsDull text) :
    IsDull (List.replicate count '\\' ++ text) := by
  induction count with
  | zero => exact dull
  | succ count ih =>
      rw [List.replicate_succ, List.cons_append]
      constructor
      · rw [List.head?_cons]
        decide
      · rw [firstBracket?_inside '\\' _ (by decide)]
        exact ih.bracket

theorem isDull_nil : IsDull [] :=
  ⟨rfl, nofun⟩

theorem isDull_only_backslashes (count : Nat) : IsDull (List.replicate count '\\') := by
  have dull := isDull_backslashes count [] isDull_nil
  rwa [List.append_nil] at dull

theorem isDull_bracketed (body rest : Text) : IsDull (bracketed body ++ rest) := by
  rw [bracketed_append]
  constructor
  · rw [List.head?_cons]
    decide
  · simp [firstBracket?, isInside]

def IsSolid (text : Text) : Prop :=
  text.getLast? ≠ some '\\'

instance decidableIsSolid (text : Text) : Decidable (IsSolid text) :=
  inferInstanceAs (Decidable (text.getLast? ≠ some '\\'))

theorem isSolid_of_append (front back : Text) (solid : IsSolid (front ++ back)) :
    IsSolid back := by
  intro ends
  apply solid
  rw [List.getLast?_append, ends, Option.some_or]

theorem isSolid_append (front back : Text) (early : IsSolid front) (late : IsSolid back) :
    IsSolid (front ++ back) := by
  rw [IsSolid, List.getLast?_append]
  cases last : back.getLast? with
  | none => rwa [Option.none_or]
  | some c =>
      rw [Option.some_or, ← last]
      exact late

section Dull

variable (suffix : Text) (dull : IsDull suffix)
include dull

theorem closes_append (text : Text) : closes (text ++ suffix) = closes text := by
  cases text with
  | nil =>
      rw [List.nil_append, closes, dull.start]
      rfl
  | cons c rest =>
      rw [closes, closes, firstBracket?_append, List.cons_append, List.head?_cons, List.head?_cons]
      cases firstBracket? (c :: rest) with
      | some bracket => rfl
      | none =>
          rw [Option.none_or, beq_false_of_ne dull.bracket]
          rfl

theorem tagAt?_append (text : Text) (held : text ≠ []) (solid : IsSolid text)
    (free : tagAt? text = none) : tagAt? (text ++ suffix) = none := by
  induction text with
  | nil => exact absurd rfl held
  | cons c rest ih =>
      by_cases slash : c = '\\'
      · subst slash
        have more : rest ≠ [] := by
          rintro rfl
          exact solid rfl
        rw [tagAt?_backslash_eq_none_iff] at free
        rw [List.cons_append, tagAt?_backslash_eq_none_iff]
        exact ih more (isSolid_of_append ['\\'] rest solid) free
      · rw [tagAt?_other_eq_none_iff c _ slash] at free
        rw [List.cons_append, tagAt?_other_eq_none_iff c _ slash]
        by_cases bracket : c = '['
        · subst bracket
          rw [bodyAt?_eq_none_iff] at free ⊢
          rw [closes_append suffix dull, free]
        · exact bodyAt?_other c _ bracket

end Dull

theorem head?_of_tokens (text plain : Text) (more : List Token)
    (starts : tokens text = .plain plain :: more) : plain.head? = text.head? := by
  cases text with
  | nil => cases starts
  | cons c rest =>
      cases found : tagAt? (c :: rest) with
      | none =>
          rw [tokens_plain c rest found] at starts
          cases later : tokens rest with
          | nil => rw [later] at starts; cases starts; rfl
          | cons token others => cases token <;> rw [later] at starts <;> cases starts <;> rfl
      | some start =>
          obtain ⟨valid, others, whole⟩ := eq_of_tagAt? (c :: rest) start.1 start.2 found
          rw [whole, tokens_tag _ _ _ valid] at starts
          cases starts

theorem consPlain_append (c : Char) (front back : List Token)
    (apart : ∀ text more, back ≠ .plain text :: more) :
    consPlain c (front ++ back) = consPlain c front ++ back := by
  cases front with
  | nil =>
      cases back with
      | nil => rfl
      | cons token more =>
          cases token with
          | plain text => exact absurd rfl (apart text more)
          | tag => rfl
  | cons token more => cases token <;> rfl

theorem tokens_append_tag (text : Text) (solid : IsSolid text) (count : Nat)
    (body rest : Text) (tag : isBody body = true) :
    tokens (text ++ (List.replicate count '\\' ++ (bracketed body ++ rest))) =
      tokens text ++ .tag count body :: tokens rest := by
  induction text using byTags with
  | nil => exact tokens_tag count body rest tag
  | tag before inner more valid ih =>
      rw [← List.append_assoc] at solid
      rw [tokens_tag before inner more valid, List.append_assoc, List.append_assoc,
        tokens_tag before inner _ valid, ih (isSolid_of_append _ more solid)]
      rfl
  | plain c more free ih =>
      -- The first bracket after the text is an opening one, which closes no tag of the text.
      have dull := isDull_backslashes count _ (isDull_bracketed body rest)
      have stays := tagAt?_append _ dull (c :: more) (List.cons_ne_nil c more) solid free
      rw [List.cons_append] at stays ⊢
      rw [tokens_plain c more free, tokens_plain c _ stays,
        ih (isSolid_of_append [c] more solid), consPlain_append c _ _ (by simp)]

end Outliner.Markup
