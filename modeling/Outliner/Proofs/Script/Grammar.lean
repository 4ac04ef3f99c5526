import Mathlib.Data.List.Forall2
import Outliner.Proofs.Text.Runs
import Outliner.Script.Signature

/-!
The grammar of the lines that start functions and methods, and that exactly these lines are taken
for such starts. There are three forms: the keyword with a name, a method with a type in front, and
one without.
-/

namespace Outliner.Script

open Text (Blank Stops)

def Spells (keyword word : Text) : Prop :=
  List.Forall₂ (fun letter c => foldsTo letter c = true) keyword word

def IsModifier (word : Text) : Prop :=
  Spells "static".toList word ∨ Spells "hidden".toList word

inductive Modifiers : Text → Prop
  | none : Modifiers []
  | more (word gap rest : Text) (modifier : IsModifier word) (blank : Blank gap) (held : gap ≠ [])
      (later : Modifiers rest) : Modifiers (word ++ gap ++ rest)

def LongestModifiers (line modifiers : Text) : Prop :=
  Modifiers modifiers ∧
    ∀ longer, Modifiers longer → longer <+: line → longer.length ≤ modifiers.length

/-- A text in which brackets are nested at most one deep. -/
inductive OneDeep : Text → Prop
  | nil : OneDeep []
  | plain (c : Char) (rest : Text) (opening : c ≠ '[') (closing : c ≠ ']') (later : OneDeep rest) :
      OneDeep (c :: rest)
  | group (inner rest : Text) (opening : '[' ∉ inner) (closing : ']' ∉ inner)
      (later : OneDeep rest) : OneDeep ('[' :: inner ++ ']' :: rest)

def IsWord (text : Text) : Prop :=
  ∀ c ∈ text, Text.isWord c = true

instance (text : Text) : Decidable (IsWord text) :=
  List.decidableBAll (fun c => Text.isWord c = true) text

def OpensBody (text : Text) : Prop :=
  ∃ before after, (text = before ++ after ∨ text = before ++ '{' :: after) ∧
    Blank before ∧ Blank after

/-- The keyword, whitespace and a name, which starts with a character of a word and goes on as long
as it can. -/
def KeywordForm (line name : Text) : Prop :=
  ∃ word gap rest, line = word ++ gap ++ name ++ rest ∧ Spells "function".toList word ∧
    Blank gap ∧ gap ≠ [] ∧ (∃ c more, name = c :: more ∧ Text.isWord c = true) ∧
    (∀ c ∈ name, isFunctionNameChar c = true) ∧ Stops isFunctionNameChar rest

def TypedForm (line type name : Text) : Prop :=
  ∃ modifiers gap space rest,
    line = modifiers ++ '[' :: type ++ ']' :: gap ++ name ++ space ++ '(' :: rest ∧
    Modifiers modifiers ∧ type ≠ [] ∧ OneDeep type ∧ Blank gap ∧ IsWord name ∧ Blank space

def BareForm (line name : Text) : Prop :=
  ∃ modifiers space inside after,
    line = modifiers ++ name ++ space ++ '(' :: inside ++ ')' :: after ∧
    LongestModifiers line modifiers ∧ IsWord name ∧ Blank space ∧ OpensBody after

/-- A name that is no word of a statement. -/
def NamesMethod (name : Text) : Prop :=
  name ≠ [] ∧ Text.lower name ∉ controlKeywords

/-- The function or method that a line starts. The forms are tried in order, and a line of the
second form is not tried as one of the third. -/
def Starts (line : Text) (inClass : Bool) (signature : Signature) : Prop :=
  KeywordForm line signature.name ∧ signature.returnType = none ∨
    (¬ ∃ name, KeywordForm line name) ∧ inClass = true ∧
      ((∃ type, TypedForm line type signature.name ∧ NamesMethod signature.name ∧
          signature.returnType = some (Text.strip type)) ∨
        (¬ ∃ type name, TypedForm line type name) ∧ BareForm line signature.name ∧
          NamesMethod signature.name ∧
          (∃ c, signature.name.head? = some c ∧ Text.isLetter c = true) ∧
          signature.returnType = none)

section Keywords

theorem afterKeyword?_eq_some_iff (keyword text rest : Text) :
    afterKeyword? keyword text = some rest ↔ ∃ word, text = word ++ rest ∧ Spells keyword word := by
  induction keyword generalizing text with
  | nil =>
      constructor
      · intro found
        injection found with same
        exact ⟨[], same, List.Forall₂.nil⟩
      · rintro ⟨word, rfl, spelled⟩
        cases spelled
        rfl
  | cons letter keyword ih =>
      constructor
      · intro found
        cases text with
        | nil => cases found
        | cons c text =>
            rw [afterKeyword?] at found
            split at found
            · next folds =>
                obtain ⟨word, rfl, spelled⟩ := (ih text).mp found
                exact ⟨c :: word, rfl, List.Forall₂.cons folds spelled⟩
            · cases found
      · rintro ⟨word, rfl, spelled⟩
        cases spelled with
        | cons folds others =>
            rw [List.cons_append, afterKeyword?, if_pos folds, ih]
            exact ⟨_, rfl, others⟩

theorem afterKeywordSpace?_spelled (keyword word gap text : Text) (spelled : Spells keyword word)
    (blank : Blank gap) (held : gap ≠ []) :
    afterKeywordSpace? keyword (word ++ gap ++ text) = some (Text.stripStart text) := by
  cases gap with
  | nil => exact absurd rfl held
  | cons c gap =>
      have found := (afterKeyword?_eq_some_iff keyword _ (c :: gap ++ text)).mpr
        ⟨word, List.append_assoc word (c :: gap) text, spelled⟩
      rw [Blank, List.forall_mem_cons] at blank
      rw [afterKeywordSpace?, found]
      simp only [List.cons_append, blank.1, if_true, Text.stripStart,
        List.dropWhile_append_of_pos blank.2]

theorem afterKeywordSpace?_eq_some_iff (keyword text rest : Text) :
    afterKeywordSpace? keyword text = some rest ↔ ∃ word gap, text = word ++ gap ++ rest ∧
      Spells keyword word ∧ Blank gap ∧ gap ≠ [] ∧ Stops Text.isSpace rest := by
  constructor
  · intro found
    rw [afterKeywordSpace?] at found
    split at found
    · next c later reached =>
        obtain ⟨word, rfl, spelled⟩ := (afterKeyword?_eq_some_iff keyword text _).mp reached
        split at found
        · next first =>
            injection found with same
            obtain ⟨blanks, whole, blank, stops⟩ := Text.exists_blank_front later
            rw [same] at whole stops
            refine ⟨word, c :: blanks, ?_, spelled, ?_, List.cons_ne_nil c blanks, stops⟩
            · rw [List.append_assoc, List.cons_append, ← whole]
            · exact List.forall_mem_cons.mpr ⟨first, blank⟩
        · cases found
    · cases found
  · rintro ⟨word, gap, rfl, spelled, blank, held, stops⟩
    rw [afterKeywordSpace?_spelled keyword word gap rest spelled blank held,
      Text.stripStart_of_stops rest stops]

theorem keywordFunction?_eq_some_iff (line name : Text) :
    keywordFunction? line = some name ↔ KeywordForm line name := by
  constructor
  · intro found
    rw [keywordFunction?] at found
    split at found
    · next c later reached =>
        obtain ⟨word, gap, rfl, spelled, blank, held, _⟩ :=
          (afterKeywordSpace?_eq_some_iff _ line _).mp reached
        split at found
        · next first =>
            injection found with same
            subst same
            refine ⟨word, gap, later.dropWhile isFunctionNameChar, ?_, spelled, blank, held,
              ⟨c, _, rfl, first⟩, ?_, Text.stops_dropWhile _ later⟩
            · rw [List.append_assoc (word ++ gap), List.cons_append, List.takeWhile_append_dropWhile]
            · rw [List.forall_mem_cons]
              exact ⟨by simp [isFunctionNameChar, first], List.all_eq_true.mp List.all_takeWhile⟩
        · cases found
    · cases found
  · rintro ⟨word, gap, rest, rfl, spelled, blank, held, ⟨c, more, rfl, first⟩, each, stops⟩
    rw [List.forall_mem_cons] at each
    have solid : Stops Text.isSpace (c :: more ++ rest) :=
      Text.stops_cons _ _ c (Text.isSpace_of_isWord c first)
    have reached := (afterKeywordSpace?_eq_some_iff "function".toList _ (c :: more ++ rest)).mpr
      ⟨word, gap, List.append_assoc (word ++ gap) (c :: more) rest, spelled, blank, held, solid⟩
    have run := Text.takeWhile_run isFunctionNameChar more rest each.2 stops
    rw [keywordFunction?, reached]
    simp only [List.cons_append, first, if_true, run]

end Keywords

section Modifiers

theorem head_of_spelled (letter : Char) (keyword word : Text)
    (spelled : Spells (letter :: keyword) word) : ∃ c rest, word = c :: rest ∧
      foldsTo letter c = true := by
  cases spelled with
  | cons folds others => exact ⟨_, _, rfl, folds⟩

theorem head_of_modifier (word : Text) (modifier : IsModifier word) :
    ∃ c rest, word = c :: rest ∧ (foldsTo 's' c = true ∨ foldsTo 'h' c = true) := by
  rcases modifier with spelled | spelled
  · obtain ⟨c, rest, same, folds⟩ := head_of_spelled 's' _ word spelled
    exact ⟨c, rest, same, Or.inl folds⟩
  · obtain ⟨c, rest, same, folds⟩ := head_of_spelled 'h' _ word spelled
    exact ⟨c, rest, same, Or.inr folds⟩

theorem foldsTo_s_iff (c : Char) : foldsTo 's' c = true ↔ c = 's' ∨ c = 'S' ∨ c = '\u017F' := by
  have upper : 's'.toUpper = 'S' := by decide
  simp [foldsTo, upper, or_assoc]

theorem foldsTo_h_iff (c : Char) : foldsTo 'h' c = true ↔ c = 'h' ∨ c = 'H' := by
  have upper : 'h'.toUpper = 'H' := by decide
  simp [foldsTo, upper]

theorem solid_modifier (c : Char) (folds : foldsTo 's' c = true ∨ foldsTo 'h' c = true) :
    Text.isSpace c = false := by
  rw [foldsTo_s_iff, foldsTo_h_iff] at folds
  rcases folds with (rfl | rfl | rfl) | rfl | rfl <;> decide

theorem stops_modifiers (modifiers rest : Text) (found : Modifiers modifiers)
    (stops : modifiers = [] → Stops Text.isSpace rest) :
    Stops Text.isSpace (modifiers ++ rest) := by
  cases found with
  | none => exact stops rfl
  | more word gap later modifier blank held others =>
      obtain ⟨c, more, rfl, folds⟩ := head_of_modifier word modifier
      exact Text.stops_cons _ _ c (solid_modifier c folds)

theorem afterModifier?_spelled (word gap text : Text) (modifier : IsModifier word)
    (blank : Blank gap) (held : gap ≠ []) :
    afterModifier? (word ++ gap ++ text) = some (Text.stripStart text) := by
  rw [afterModifier?, Option.or_eq_some_iff]
  rcases modifier with spelled | spelled
  · exact Or.inl (afterKeywordSpace?_spelled _ word gap text spelled blank held)
  · refine Or.inr ⟨?_, afterKeywordSpace?_spelled _ word gap text spelled blank held⟩
    rw [Option.eq_none_iff_forall_ne_some]
    intro rest other
    obtain ⟨_, _, same, spelledOther, _⟩ := (afterKeywordSpace?_eq_some_iff _ _ rest).mp other
    obtain ⟨c, _, rfl, folds⟩ := head_of_spelled 'h' _ word spelled
    obtain ⟨d, _, rfl, foldsOther⟩ := head_of_spelled 's' _ _ spelledOther
    simp only [List.cons_append, List.cons.injEq] at same
    rw [foldsTo_h_iff] at folds
    rw [← same.1, foldsTo_s_iff] at foldsOther
    rcases folds with rfl | rfl <;> exact absurd foldsOther (by decide)

theorem exists_modifier (text rest : Text) (found : afterModifier? text = some rest) :
    ∃ word gap, text = word ++ gap ++ rest ∧ IsModifier word ∧ Blank gap ∧ gap ≠ [] ∧
      rest.length < text.length := by
  have shorter (word gap : Text) (whole : text = word ++ gap ++ rest) (held : gap ≠ []) :
      rest.length < text.length := by
    have := List.length_pos_of_ne_nil held
    rw [whole, List.length_append, List.length_append]
    omega
  rw [afterModifier?, Option.or_eq_some_iff] at found
  rcases found with reached | ⟨_, reached⟩
  · obtain ⟨word, gap, whole, spelled, blank, held, _⟩ :=
      (afterKeywordSpace?_eq_some_iff _ text rest).mp reached
    exact ⟨word, gap, whole, Or.inl spelled, blank, held, shorter word gap whole held⟩
  · obtain ⟨word, gap, whole, spelled, blank, held, _⟩ :=
      (afterKeywordSpace?_eq_some_iff _ text rest).mp reached
    exact ⟨word, gap, whole, Or.inr spelled, blank, held, shorter word gap whole held⟩

theorem dropModifiersFrom_eq (count more : Nat) (text : Text) (bound : text.length ≤ count)
    (enough : text.length ≤ more) : dropModifiersFrom count text = dropModifiersFrom more text := by
  have none_of_empty (count : Nat) : dropModifiersFrom count [] = [] := by cases count <;> rfl
  induction count generalizing more text with
  | zero =>
      rw [List.length_eq_zero_iff.mp (Nat.le_zero.mp bound), none_of_empty, none_of_empty]
  | succ count ih =>
      cases more with
      | zero =>
          rw [List.length_eq_zero_iff.mp (Nat.le_zero.mp enough), none_of_empty, none_of_empty]
      | succ more =>
          rw [dropModifiersFrom, dropModifiersFrom]
          cases found : afterModifier? text with
          | none => rfl
          | some rest =>
              obtain ⟨_, _, _, _, _, _, shorter⟩ := exists_modifier text rest found
              exact ih more rest (by omega) (by omega)

theorem dropModifiers_none (text : Text) (plain : afterModifier? text = none) :
    dropModifiers text = text := by
  rw [dropModifiers]
  cases text with
  | nil => rfl
  | cons c text => rw [List.length_cons, dropModifiersFrom, plain]

theorem dropModifiers_some (text rest : Text) (found : afterModifier? text = some rest) :
    dropModifiers text = dropModifiers rest := by
  obtain ⟨_, _, _, _, _, _, shorter⟩ := exists_modifier text rest found
  rw [dropModifiers, dropModifiersFrom_eq text.length (rest.length + text.length + 1) text
    (Nat.le_refl _) (by omega), dropModifiersFrom, found]
  exact dropModifiersFrom_eq _ _ rest (by omega) (Nat.le_refl _)

theorem dropModifiers_spelled (word gap text : Text) (modifier : IsModifier word)
    (blank : Blank gap) (held : gap ≠ []) :
    dropModifiers (word ++ gap ++ text) = dropModifiers (Text.stripStart text) :=
  dropModifiers_some _ _ (afterModifier?_spelled word gap text modifier blank held)

theorem exists_modifiers (text : Text) :
    ∃ modifiers, text = modifiers ++ dropModifiers text ∧ Modifiers modifiers := by
  induction size : text.length using Nat.strongRecOn generalizing text with
  | ind count ih =>
      cases found : afterModifier? text with
      | none => exact ⟨[], by rw [dropModifiers_none text found, List.nil_append], Modifiers.none⟩
      | some rest =>
          obtain ⟨word, gap, whole, modifier, blank, held, shorter⟩ :=
            exists_modifier text rest found
          obtain ⟨modifiers, others, later⟩ := ih rest.length (by omega) rest rfl
          refine ⟨word ++ gap ++ modifiers, ?_,
            Modifiers.more word gap modifiers modifier blank held later⟩
          rw [dropModifiers_some text rest found, List.append_assoc (word ++ gap), ← others]
          exact whole

theorem length_dropModifiers_le (text : Text) : (dropModifiers text).length ≤ text.length := by
  obtain ⟨modifiers, whole, _⟩ := exists_modifiers text
  have size := congrArg List.length whole
  rw [List.length_append] at size
  omega

theorem length_dropModifiers_append (modifiers rest : Text) (found : Modifiers modifiers) :
    (dropModifiers (modifiers ++ rest)).length ≤ rest.length := by
  induction found with
  | none => exact length_dropModifiers_le rest
  | more word gap later modifier blank held others ih =>
      rw [List.append_assoc (word ++ gap), dropModifiers_spelled word gap _ modifier blank held]
      by_cases last : later = []
      · have dropped := (List.dropWhile_suffix Text.isSpace (l := rest)).length_le
        rw [last, List.nil_append]
        exact Nat.le_trans (length_dropModifiers_le _) dropped
      · have stops := stops_modifiers later rest others fun same => absurd same last
        rw [Text.stripStart_of_stops _ stops]
        exact ih

theorem dropModifiers_append (modifiers rest : Text) (found : Modifiers modifiers)
    (stops : Stops Text.isSpace rest) (plain : afterModifier? rest = none) :
    dropModifiers (modifiers ++ rest) = rest := by
  induction found with
  | none => exact dropModifiers_none rest plain
  | more word gap later modifier blank held others ih =>
      rw [List.append_assoc (word ++ gap), dropModifiers_spelled word gap _ modifier blank held,
        Text.stripStart_of_stops _ (stops_modifiers later rest others fun _ => stops)]
      exact ih

theorem dropModifiers_eq_iff (line rest : Text) :
    dropModifiers line = rest ↔
      ∃ modifiers, line = modifiers ++ rest ∧ LongestModifiers line modifiers := by
  obtain ⟨dropped, whole, found⟩ := exists_modifiers line
  have sizes := congrArg List.length whole
  rw [List.length_append] at sizes
  constructor
  · rintro rfl
    refine ⟨dropped, whole, found, ?_⟩
    rintro longer others ⟨rest, same⟩
    have bound := length_dropModifiers_append longer rest others
    have size := congrArg List.length same
    rw [same] at bound
    rw [List.length_append] at size
    omega
  · rintro ⟨modifiers, same, others, longest⟩
    have bound := length_dropModifiers_append modifiers rest others
    have most := longest dropped found ⟨_, whole.symm⟩
    have size := congrArg List.length same
    rw [← same] at bound
    rw [List.length_append] at size
    have joined := whole.symm.trans same
    exact (List.append_inj joined (by omega)).2

end Modifiers

section Groups

/-- What a reading takes from where it is: outside an inner group, or in one that is still to
close. -/
def OneDeepFrom : Bool → Text → Prop
  | false, body => OneDeep body
  | true, body =>
    ∃ inner rest, body = inner ++ ']' :: rest ∧ '[' ∉ inner ∧ ']' ∉ inner ∧ OneDeep rest

theorem oneDeepFrom_cons (inside : Bool) (c : Char) (body : Text) (opening : c ≠ '[')
    (closing : c ≠ ']') (shape : OneDeepFrom inside body) : OneDeepFrom inside (c :: body) := by
  cases inside with
  | false => exact OneDeep.plain c body opening closing shape
  | true =>
      obtain ⟨inner, rest, rfl, absent, absentToo, later⟩ := shape
      refine ⟨c :: inner, rest, rfl, ?_, ?_, later⟩
      · exact List.not_mem_cons_of_ne_of_not_mem (Ne.symm opening) absent
      · exact List.not_mem_cons_of_ne_of_not_mem (Ne.symm closing) absentToo

theorem groupFrom_plain (inside : Bool) (c : Char) (text : Text) (opening : c ≠ '[')
    (closing : c ≠ ']') :
    groupFrom inside (c :: text) =
      (groupFrom inside text).map fun (body, after) => (c :: body, after) :=
  groupFrom.eq_6 inside c text (fun _ same => closing same) (fun _ same => opening same)
    (fun _ same => opening same) (fun _ same => closing same)

theorem groupFrom_sound (inside : Bool) (text body rest : Text)
    (found : groupFrom inside text = some (body, rest)) :
    text = body ++ ']' :: rest ∧ OneDeepFrom inside body := by
  induction inside, text using groupFrom.induct generalizing body with
  | case1 => cases found
  | case2 text =>
      injection found with same
      injection same with empty whole
      rw [← empty, ← whole]
      exact ⟨rfl, OneDeep.nil⟩
  | case3 text ih =>
      obtain ⟨⟨later, after⟩, reached, same⟩ := Option.map_eq_some_iff.mp found
      injection same with own stays
      subst own stays
      obtain ⟨rfl, inner, others, rfl, opening, closing, shape⟩ := ih later reached
      exact ⟨rfl, OneDeep.group inner others opening closing shape⟩
  | case4 => cases found
  | case5 text ih =>
      obtain ⟨⟨later, after⟩, reached, same⟩ := Option.map_eq_some_iff.mp found
      injection same with own stays
      subst own stays
      obtain ⟨rfl, shape⟩ := ih later reached
      exact ⟨rfl, [], later, rfl, List.not_mem_nil, List.not_mem_nil, shape⟩
  | case6 inside c text closes opens opensInner closesInner ih =>
      have opening : c ≠ '[' := by
        cases inside with
        | false => exact opens rfl
        | true => exact opensInner rfl
      have closing : c ≠ ']' := by
        cases inside with
        | false => exact closes rfl
        | true => exact closesInner rfl
      rw [groupFrom_plain inside c text opening closing] at found
      obtain ⟨⟨later, after⟩, reached, same⟩ := Option.map_eq_some_iff.mp found
      injection same with own stays
      subst own stays
      obtain ⟨rfl, shape⟩ := ih later reached
      exact ⟨rfl, oneDeepFrom_cons inside c later opening closing shape⟩

theorem groupFrom_inner (inner text : Text) (opening : '[' ∉ inner) (closing : ']' ∉ inner) :
    groupFrom true (inner ++ ']' :: text) =
      (groupFrom false text).map fun (body, after) => (inner ++ ']' :: body, after) := by
  induction inner with
  | nil => rfl
  | cons c inner ih =>
      rw [List.mem_cons, not_or] at opening closing
      rw [List.cons_append, groupFrom_plain true c _ (Ne.symm opening.1) (Ne.symm closing.1),
        ih opening.2 closing.2, Option.map_map]
      rfl

theorem groupFrom_complete (body rest : Text) (shape : OneDeep body) :
    groupFrom false (body ++ ']' :: rest) = some (body, rest) := by
  induction shape with
  | nil => rfl
  | plain c later opening closing others ih =>
      rw [List.cons_append, groupFrom_plain false c _ opening closing, ih]
      rfl
  | group inner later opening closing others ih =>
      rw [List.append_assoc, List.cons_append, List.cons_append, groupFrom,
        groupFrom_inner inner _ opening closing, ih]
      rfl

theorem group?_eq_some_iff (text body rest : Text) :
    group? text = some (body, rest) ↔ text = '[' :: body ++ ']' :: rest ∧ OneDeep body := by
  constructor
  · intro found
    rw [group?.eq_def] at found
    split at found
    · next later =>
        obtain ⟨rfl, shape⟩ := groupFrom_sound false later body rest found
        exact ⟨rfl, shape⟩
    · cases found
  · rintro ⟨rfl, shape⟩
    exact groupFrom_complete body rest shape

end Groups

section Methods

theorem stops_parenthesis (space rest : Text) (blank : Blank space) :
    Stops Text.isWord (space ++ '(' :: rest) := by
  cases space with
  | nil => exact Text.stops_cons _ rest '(' (by decide)
  | cons c space =>
      rw [Blank, List.forall_mem_cons] at blank
      exact Text.stops_cons _ _ c (Text.isWord_of_isSpace c blank.1)

theorem nameBeforeParenthesis?_eq_some_iff (text name rest : Text) :
    nameBeforeParenthesis? text = some (name, rest) ↔
      ∃ space, text = name ++ space ++ '(' :: rest ∧ IsWord name ∧ Blank space := by
  constructor
  · intro found
    rw [nameBeforeParenthesis?] at found
    split at found
    · next later reached =>
        injection found with same
        injection same with own stays
        subst own stays
        obtain ⟨space, whole, blank, _⟩ :=
          Text.exists_blank_front (text.dropWhile Text.isWord)
        refine ⟨space, ?_, List.all_eq_true.mp List.all_takeWhile, blank⟩
        rw [← reached, List.append_assoc, ← whole, List.takeWhile_append_dropWhile]
    · cases found
  · rintro ⟨space, rfl, word, blank⟩
    have stops := stops_parenthesis space rest blank
    rw [nameBeforeParenthesis?, List.append_assoc, Text.takeWhile_run _ name _ word stops,
      Text.dropWhile_run _ name _ word stops,
      Text.stripStart_run space _ blank (Text.stops_cons _ rest '(' (by decide))]
    rfl

theorem nameBeforeParenthesis?_after_blanks (gap name space rest : Text) (blankGap : Blank gap)
    (word : IsWord name) (blank : Blank space) :
    nameBeforeParenthesis? (Text.stripStart (gap ++ (name ++ space ++ '(' :: rest))) =
      some (name, rest) := by
  rw [nameBeforeParenthesis?_eq_some_iff]
  cases name with
  | nil =>
      have joined : Blank (gap ++ space) := List.forall_mem_append.mpr ⟨blankGap, blank⟩
      rw [List.nil_append, ← List.append_assoc,
        Text.stripStart_run _ _ joined (Text.stops_cons _ rest '(' (by decide))]
      exact ⟨[], rfl, nofun, nofun⟩
  | cons c name =>
      have first := word c List.mem_cons_self
      refine ⟨space, ?_, word, blank⟩
      exact Text.stripStart_run gap _ blankGap
        (Text.stops_cons _ _ c (Text.isSpace_of_isWord c first))

theorem typedMethod?_eq_some_iff (line type name : Text) :
    typedMethod? line = some (type, name) ↔ TypedForm line type name := by
  constructor
  · intro found
    rw [typedMethod?] at found
    split at found
    · next c body rest reached =>
        obtain ⟨whole, shape⟩ := (group?_eq_some_iff _ _ _).mp reached
        obtain ⟨⟨name, after⟩, named, same⟩ := Option.map_eq_some_iff.mp found
        injection same with own stays
        subst own stays
        obtain ⟨space, spelled, word, blank⟩ := (nameBeforeParenthesis?_eq_some_iff _ _ _).mp named
        obtain ⟨gap, start, blankGap, _⟩ := Text.exists_blank_front rest
        obtain ⟨modifiers, split, modified⟩ := exists_modifiers line
        refine ⟨modifiers, gap, space, after, ?_, modified, List.cons_ne_nil c body, shape, blankGap,
          word, blank⟩
        rw [split, whole, start, spelled]
        simp
    · cases found
  · rintro ⟨modifiers, gap, space, rest, rfl, modified, held, shape, blankGap, word, blank⟩
    cases type with
    | nil => exact absurd rfl held
    | cons c body =>
        have split : modifiers ++ '[' :: c :: body ++ ']' :: gap ++ name ++ space ++ '(' :: rest =
            modifiers ++ ('[' :: c :: body ++ ']' :: (gap ++ (name ++ space ++ '(' :: rest))) := by
          simp
        have dropped := dropModifiers_append modifiers
          ('[' :: c :: body ++ ']' :: (gap ++ (name ++ space ++ '(' :: rest))) modified
          (Text.stops_cons _ _ '[' (by decide)) rfl
        rw [typedMethod?, split, dropped,
          (group?_eq_some_iff _ (c :: body) _).mpr ⟨rfl, shape⟩]
        simp only [nameBeforeParenthesis?_after_blanks gap name space rest blankGap word blank,
          Option.map_some]

theorem endsSignature_iff (text : Text) : endsSignature text = true ↔ OpensBody text := by
  obtain ⟨before, whole, blank, stops⟩ := Text.exists_blank_front text
  constructor
  · intro ends
    rw [endsSignature] at ends
    split at ends
    · next later reached =>
        refine ⟨before, later, Or.inr ?_, blank, List.all_eq_true.mp ends⟩
        rw [← reached]
        exact whole
    · next other _ =>
        refine ⟨before, [], Or.inl ?_, blank, nofun⟩
        rw [← List.isEmpty_iff.mp ends]
        exact whole
  · rintro ⟨front, after, rfl | rfl, blankFront, blankAfter⟩
    · have empty : Text.stripStart (front ++ after) = [] := by
        have joined : Blank (front ++ after) := List.forall_mem_append.mpr ⟨blankFront, blankAfter⟩
        have run := Text.stripStart_run (front ++ after) [] joined nofun
        rwa [List.append_nil] at run
      rw [endsSignature, empty]
      rfl
    · rw [endsSignature, Text.stripStart_run front _ blankFront
        (Text.stops_cons _ after '{' (by decide))]
      exact List.all_eq_true.mpr blankAfter

theorem parenthesis_not_mem (text : Text) (opens : OpensBody text) : ')' ∉ text := by
  have solid (blanks : Text) (blank : Blank blanks) : ')' ∉ blanks :=
    fun member => Text.isSpace_ne ')' ')' (blank ')' member) (by decide) rfl
  obtain ⟨before, after, rfl | rfl, blank, blankAfter⟩ := opens
  · simp [solid before blank, solid after blankAfter]
  · simp [solid before blank, solid after blankAfter]

theorem closesSignature_iff (text : Text) (single : '\n' ∉ text) :
    closesSignature text = true ↔
      ∃ inside after, text = inside ++ ')' :: after ∧ OpensBody after := by
  constructor
  · intro closes
    rw [closesSignature] at closes
    split at closes
    · next inside found =>
        obtain ⟨after, rfl, _⟩ := (Text.beforeLast?_eq_some_iff ')' text inside).mp found
        rw [Bool.and_eq_true] at closes
        refine ⟨inside, after, rfl, (endsSignature_iff after).mp ?_⟩
        simpa using closes.2
    · cases closes
  · rintro ⟨inside, after, rfl, opens⟩
    have found := (Text.beforeLast?_eq_some_iff ')' _ inside).mpr
      ⟨after, rfl, parenthesis_not_mem after opens⟩
    have plain : '\n' ∉ inside := fun member => single (List.mem_append_left _ member)
    rw [closesSignature, found]
    simp [plain, (endsSignature_iff after).mpr opens]

theorem single_after_name (line name space rest : Text) (single : '\n' ∉ line)
    (split : dropModifiers line = name ++ space ++ '(' :: rest) : '\n' ∉ rest := by
  obtain ⟨modifiers, whole, _⟩ := exists_modifiers line
  intro member
  rw [whole, split] at single
  simp [member] at single

theorem bareMethod?_eq_some_iff (line name : Text) (single : '\n' ∉ line) :
    bareMethod? line = some name ↔ BareForm line name := by
  constructor
  · intro found
    rw [bareMethod?] at found
    split at found
    · next own rest named =>
        obtain ⟨space, spelled, word, blank⟩ := (nameBeforeParenthesis?_eq_some_iff _ _ _).mp named
        split at found
        · next closes =>
            injection found with same
            subst same
            have plain := single_after_name line own space rest single spelled
            obtain ⟨inside, after, rfl, opens⟩ := (closesSignature_iff rest plain).mp closes
            obtain ⟨modifiers, whole, longest⟩ := (dropModifiers_eq_iff line _).mp spelled
            refine ⟨modifiers, space, inside, after, ?_, longest, word, blank, opens⟩
            simpa using whole
        · cases found
    · cases found
  · rintro ⟨modifiers, space, inside, after, split, longest, word, blank, opens⟩
    have rest : dropModifiers line = name ++ space ++ '(' :: (inside ++ ')' :: after) := by
      rw [dropModifiers_eq_iff]
      exact ⟨modifiers, by simpa using split, longest⟩
    have named := (nameBeforeParenthesis?_eq_some_iff _ name (inside ++ ')' :: after)).mpr
      ⟨space, rest, word, blank⟩
    have plain := single_after_name line name space _ single rest
    rw [bareMethod?, named]
    simp only [(closesSignature_iff _ plain).mpr ⟨inside, after, rfl, opens⟩, if_true]

theorem isMethodName_iff (name : Text) : isMethodName name = true ↔ NamesMethod name := by
  simp [isMethodName, NamesMethod]

theorem methodStart?_of_typed (line type name : Text) (typed : TypedForm line type name) :
    methodStart? line =
      if isMethodName name then some ⟨name, some (Text.strip type)⟩ else none := by
  rw [methodStart?, (typedMethod?_eq_some_iff line type name).mpr typed]

theorem typedMethod?_eq_none (line : Text) (untyped : ¬ ∃ type name, TypedForm line type name) :
    typedMethod? line = none := by
  rw [Option.eq_none_iff_forall_ne_some]
  rintro ⟨type, name⟩ found
  exact untyped ⟨type, name, (typedMethod?_eq_some_iff line type name).mp found⟩

theorem methodStart?_of_untyped (line : Text) (signature : Signature) (single : '\n' ∉ line)
    (untyped : ¬ ∃ type name, TypedForm line type name) :
    methodStart? line = some signature ↔
      BareForm line signature.name ∧ NamesMethod signature.name ∧
        (∃ c, signature.name.head? = some c ∧ Text.isLetter c = true) ∧
        signature.returnType = none := by
  obtain ⟨name, returnType⟩ := signature
  rw [methodStart?, typedMethod?_eq_none line untyped, ← bareMethod?_eq_some_iff line name single,
    ← isMethodName_iff]
  constructor
  · intro found
    split at found
    · next typed => cases typed
    · split at found
      · next c own bare =>
          split at found
          · next accepted =>
              rw [Bool.and_eq_true] at accepted
              injection found with same
              injection same with sameName sameType
              rw [← sameName, ← sameType]
              exact ⟨bare, accepted.1, ⟨c, rfl, accepted.2⟩, rfl⟩
          · cases found
      · cases found
  · rintro ⟨bare, method, ⟨c, first, letter⟩, rfl⟩
    cases name with
    | nil => cases first
    | cons d own =>
        injection first with same
        subst same
        simp only [bare, method, letter, Bool.and_self, if_true]

theorem methodStart?_eq_some_iff (line : Text) (signature : Signature) (single : '\n' ∉ line) :
    methodStart? line = some signature ↔
      (∃ type, TypedForm line type signature.name ∧ NamesMethod signature.name ∧
        signature.returnType = some (Text.strip type)) ∨
      (¬ ∃ type name, TypedForm line type name) ∧ BareForm line signature.name ∧
        NamesMethod signature.name ∧
        (∃ c, signature.name.head? = some c ∧ Text.isLetter c = true) ∧
        signature.returnType = none := by
  by_cases typed : ∃ type name, TypedForm line type name
  · obtain ⟨type, name, typed⟩ := typed
    rw [methodStart?_of_typed line type name typed]
    constructor
    · intro found
      split at found
      · next method =>
          injection found with same
          rw [← same]
          exact Or.inl ⟨type, typed, (isMethodName_iff name).mp method, rfl⟩
      · cases found
    · rintro (⟨own, ownTyped, method, shown⟩ | ⟨untyped, _⟩)
      · -- A line has one type and one name in this form, since the reader finds both.
        have found := (typedMethod?_eq_some_iff line type name).mpr typed
        rw [(typedMethod?_eq_some_iff line own _).mpr ownTyped] at found
        injection found with same
        injection same with sameType sameName
        rw [← sameName, (isMethodName_iff _).mpr method, if_pos rfl, ← sameType, ← shown]
      · exact absurd ⟨type, name, typed⟩ untyped
  · rw [methodStart?_of_untyped line signature single typed]
    constructor
    · intro bare
      exact Or.inr ⟨typed, bare⟩
    · rintro (⟨type, found, _⟩ | ⟨_, bare⟩)
      · exact absurd ⟨type, signature.name, found⟩ typed
      · exact bare

end Methods

/-- A line is taken for the start of a function or method exactly if it is one by the grammar, and
with the name and the type that it has by the grammar. -/
theorem functionStart?_eq_some_iff (line : Text) (inClass : Bool) (signature : Signature)
    (single : '\n' ∉ line) :
    functionStart? line inClass = some signature ↔ Starts line inClass signature := by
  rw [functionStart?, Starts, ← methodStart?_eq_some_iff line signature single]
  simp only [← keywordFunction?_eq_some_iff]
  cases keyword : keywordFunction? line with
  | some name =>
      constructor
      · intro found
        injection found with same
        rw [← same]
        exact Or.inl ⟨rfl, rfl⟩
      · rintro (⟨own, untyped⟩ | ⟨none_found, _⟩)
        · injection own with same
          rw [same, ← untyped]
        · exact absurd ⟨name, rfl⟩ none_found
  | none =>
      cases inClass with
      | false => simp
      | true => simp

example : functionStart? "hidden (x)".toList true = none := by decide

example : functionStart? "static static(x)".toList true = some ⟨"static".toList, none⟩ := by decide

/-- A method with two modifiers, a type with brackets inside and blanks before its list. -/
theorem functionStart?_tallied :
    '\n' ∉ "Static hidden [Tally[int]] Count ($x) \x7b".toList ∧
      Starts "Static hidden [Tally[int]] Count ($x) \x7b".toList true
        ⟨"Count".toList, some "Tally[int]".toList⟩ := by
  have single : '\n' ∉ "Static hidden [Tally[int]] Count ($x) \x7b".toList := by decide
  exact ⟨single, (functionStart?_eq_some_iff _ true _ single).mp (by decide)⟩

end Outliner.Script
