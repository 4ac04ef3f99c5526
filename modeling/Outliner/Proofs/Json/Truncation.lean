import Outliner.Proofs.Json.Grammar

/-!
A composite that is cut short is not taken for a complete one. Outside of strings the brackets of a
text are counted: a phrase of the grammar ends at the depth at which it starts, while inside of a
composite, wherever it is cut, the count stays above that depth. What the decoder accepts is a phrase,
so that it accepts no cut.
-/

namespace Outliner.Json

inductive Mode where
  | plain
  | quoted
  | escaped

/-- How many brackets are open at a place of a text, and what the place is part of. -/
structure Place where
  depth : Nat
  mode : Mode

namespace Place

def step (place : Place) (c : Char) : Place :=
  match place.mode with
  | .plain =>
    if c = '"' then ⟨place.depth, .quoted⟩
    else if c = '[' ∨ c = '\x7b' then ⟨place.depth + 1, .plain⟩
    else if c = ']' ∨ c = '\x7d' then ⟨place.depth - 1, .plain⟩
    else place
  | .quoted =>
    if c = '"' then ⟨place.depth, .plain⟩
    else if c = '\\' then ⟨place.depth, .escaped⟩
    else place
  | .escaped => ⟨place.depth, .quoted⟩

def after (place : Place) (text : Text) : Place :=
  text.foldl step place

def Above (floor : Nat) (place : Place) : Text → Prop
  | [] => floor ≤ place.depth
  | c :: rest => floor ≤ place.depth ∧ Above floor (place.step c) rest

@[simp] theorem after_cons (place : Place) (c : Char) (rest : Text) :
    place.after (c :: rest) = (place.step c).after rest := rfl

@[simp] theorem after_append (place : Place) (text more : Text) :
    place.after (text ++ more) = (place.after text).after more :=
  List.foldl_append

theorem above_start (floor : Nat) (place : Place) (text : Text) (above : Above floor place text) :
    floor ≤ place.depth := by
  cases text with
  | nil => exact above
  | cons c rest => exact above.1

theorem above_append (floor : Nat) (place : Place) (text more : Text)
    (first : Above floor place text) (second : Above floor (place.after text) more) :
    Above floor place (text ++ more) := by
  induction text generalizing place with
  | nil => exact second
  | cons c rest ih => exact ⟨first.1, ih (place.step c) first.2 second⟩

theorem above_mono (floor lower : Nat) (place : Place) (text : Text) (below : lower ≤ floor)
    (above : Above floor place text) : Above lower place text := by
  induction text generalizing place with
  | nil => exact Nat.le_trans below above
  | cons c rest ih => exact ⟨Nat.le_trans below above.1, ih (place.step c) above.2⟩

theorem above_cut (floor : Nat) (place : Place) (text cut : Text) (start : cut <+: text)
    (above : Above floor place text) : floor ≤ (place.after cut).depth := by
  induction cut generalizing place text with
  | nil => exact above_start floor place text above
  | cons c cut ih =>
      rcases start with ⟨rest, rfl⟩
      exact ih (place.step c) (cut ++ rest) (List.prefix_append cut rest) above.2

end Place

structure Level (text : Text) : Prop where
  stays : ∀ depth, Place.Above depth ⟨depth, .plain⟩ text
  returns : ∀ depth, Place.after ⟨depth, .plain⟩ text = ⟨depth, .plain⟩

theorem level_nil : Level [] where
  stays := fun depth => Nat.le_refl depth
  returns := fun _ => rfl

theorem level_append (text more : Text) (first : Level text) (second : Level more) :
    Level (text ++ more) where
  stays := by
    intro depth
    refine Place.above_append depth _ text more (first.stays depth) ?_
    rw [first.returns]
    exact second.stays depth
  returns := by
    intro depth
    rw [Place.after_append, first.returns, second.returns]

def isInert (c : Char) : Bool :=
  ['"', '[', '\x7b', ']', '\x7d'].all (· != c)

theorem step_inert (c : Char) (inert : isInert c = true) (depth : Nat) :
    Place.step ⟨depth, .plain⟩ c = ⟨depth, .plain⟩ := by
  simp only [isInert, List.all_cons, List.all_nil, Bool.and_true, Bool.and_eq_true, bne_iff_ne,
    ne_eq] at inert
  simp [Place.step, eq_comm (a := c), inert]

theorem level_cons (c : Char) (rest : Text) (inert : isInert c = true) (level : Level rest) :
    Level (c :: rest) where
  stays := by
    intro depth
    refine ⟨Nat.le_refl depth, ?_⟩
    rw [step_inert c inert]
    exact level.stays depth
  returns := by
    intro depth
    rw [Place.after_cons, step_inert c inert, level.returns]

theorem level_of_inert (text : Text) (inert : text.all isInert = true) : Level text := by
  induction text with
  | nil => exact level_nil
  | cons c rest ih =>
      rw [List.all_cons, Bool.and_eq_true] at inert
      exact level_cons c rest inert.1 (ih inert.2)

theorem level_blanks (blanks : Text) (blank : Blanks blanks) : Level blanks := by
  have each : [' ', '\t', '\n', '\r'].all isInert = true := by decide
  refine level_of_inert blanks (List.all_eq_true.mpr ?_)
  intro c among
  exact List.all_eq_true.mp each c (blank c among)

theorem level_digits (digits : Text) (each : digits.all Text.isAsciiDigit = true) :
    Level digits := by
  refine level_of_inert digits (List.all_eq_true.mpr ?_)
  intro c among
  have apart := not_mem_of_digit c ['"', '[', '\x7b', ']', '\x7d']
    (List.all_eq_true.mp each c among) (by decide)
  simpa [isInert, eq_comm (a := c)] using apart

theorem level_numeral (text : Text) (numeral : Numeral text) : Level text := by
  rcases numeral with ⟨sign, whole, fraction, exponent, signed, wholePart, fractionPart,
    exponentPart, rfl⟩
  have levelWhole : Level whole := by
    rcases wholePart with rfl | ⟨digits, _⟩
    · exact level_digits ['0'] (by decide)
    · exact level_digits whole digits.2
  have levelFraction : Level fraction := by
    rcases fractionPart with rfl | ⟨digits, formed, rfl⟩
    · exact level_nil
    · exact level_cons '.' digits (by decide) (level_digits digits formed.2)
  have levelExponent : Level exponent := by
    rcases exponentPart with rfl | ⟨mark, sign, digits, marked, signed, formed, rfl⟩
    · exact level_nil
    · have marks : ['e', 'E'].all isInert = true := by decide
      have signs : [[], ['+'], ['-']].all (·.all isInert) = true := by decide
      exact level_cons mark _ (List.all_eq_true.mp marks mark marked) (level_append sign digits
        (level_of_inert sign (List.all_eq_true.mp signs sign signed)) (level_digits digits formed.2))
  have signs : [[], ['-']].all (·.all isInert) = true := by decide
  exact level_append sign _ (level_of_inert sign (List.all_eq_true.mp signs sign signed))
    (level_append whole _ levelWhole (level_append fraction _ levelFraction levelExponent))

theorem hexLetter_apart (c : Char) (letter : HexLetter c) : c ≠ '"' ∧ c ≠ '\\' := by
  refine ⟨?_, ?_⟩
  · intro same
    rw [same] at letter
    exact absurd letter (by decide)
  · intro same
    rw [same] at letter
    exact absurd letter (by decide)

theorem characters_uncounted (body : Text) (characters : Characters body) (depth : Nat) :
    Place.Above depth ⟨depth, .quoted⟩ body ∧
      Place.after ⟨depth, .quoted⟩ body = ⟨depth, .quoted⟩ := by
  induction characters with
  | nil => exact ⟨Nat.le_refl depth, rfl⟩
  | raw noQuote noBackslash _ _ ih =>
      simpa [Place.Above, Place.step, noQuote, noBackslash] using ih
  | short known _ ih => simpa [Place.Above, Place.step] using ih
  | unit first second third fourth _ ih =>
      simpa [Place.Above, Place.step, hexLetter_apart _ first, hexLetter_apart _ second,
        hexLetter_apart _ third, hexLetter_apart _ fourth] using ih

theorem level_quoted (body : Text) (characters : Characters body) : Level (quoted body) := by
  have inside := characters_uncounted body characters
  refine ⟨?_, ?_⟩
  · intro depth
    refine ⟨Nat.le_refl depth, Place.above_append depth _ body ['"'] (inside depth).1 ?_⟩
    change Place.Above depth (Place.after ⟨depth, .quoted⟩ body) ['"']
    rw [(inside depth).2]
    exact ⟨Nat.le_refl depth, Nat.le_refl depth⟩
  · intro depth
    change Place.after ⟨depth, .quoted⟩ (body ++ ['"']) = ⟨depth, .plain⟩
    rw [Place.after_append, (inside depth).2]
    rfl

theorem step_opening (kind : Composite) (depth : Nat) :
    Place.step ⟨depth, .plain⟩ kind.opening = ⟨depth + 1, .plain⟩ := by
  cases kind <;> rfl

theorem step_closing (kind : Composite) (depth : Nat) :
    Place.step ⟨depth + 1, .plain⟩ kind.closing = ⟨depth, .plain⟩ := by
  cases kind <;> rfl

theorem above_opening (kind : Composite) (inner : Text) (level : Level inner) (depth : Nat) :
    Place.Above (depth + 1) (Place.step ⟨depth, .plain⟩ kind.opening) inner := by
  rw [step_opening]
  exact level.stays (depth + 1)

theorem level_enclosed (kind : Composite) (inner : Text) (level : Level inner) :
    Level (kind.opening :: (inner ++ [kind.closing])) where
  stays := by
    intro depth
    have inside := above_opening kind inner level depth
    refine ⟨Nat.le_refl depth, Place.above_append depth _ inner [kind.closing]
      (Place.above_mono (depth + 1) depth _ inner (Nat.le_succ depth) inside) ?_⟩
    rw [step_opening, level.returns]
    refine ⟨Nat.le_succ depth, ?_⟩
    rw [step_closing]
    exact Nat.le_refl depth
  returns := by
    intro depth
    rw [Place.after_cons, step_opening, Place.after_append, level.returns]
    exact step_closing kind depth

theorem level_phrase (role : Role) (text : Text) (formed : Phrase role text) : Level text := by
  induction formed with
  | @word word known =>
      have words : (wordValues.map Prod.fst).all (·.all isInert) = true := by decide
      exact level_of_inert word (List.all_eq_true.mp words word known)
  | number numeral => exact level_numeral _ numeral
  | string characters => exact level_quoted _ characters
  | composite _ ih => exact ih
  | empty kind blank => exact level_enclosed kind _ (level_blanks _ blank)
  | filled kind blank _ ih =>
      rw [← List.append_assoc]
      exact level_enclosed kind _ (level_append _ _ (level_blanks _ blank) ih)
  | item _ ih => exact ih
  | member characters between before _ ih =>
      exact level_append _ _ (level_quoted _ characters)
        (level_append _ _ (level_blanks _ between)
          (level_cons ':' _ (by decide) (level_append _ _ (level_blanks _ before) ih)))
  | last _ after ih => exact level_append _ _ ih (level_blanks _ after)
  | more _ after before _ ih others =>
      exact level_append _ _ ih (level_append _ _ (level_blanks _ after)
        (level_cons ',' _ (by decide) (level_append _ _ (level_blanks _ before) others)))

theorem level_of_decode (document : Text) (found : Value) (read : decode document = .ok found) :
    Level document := by
  rcases phrase_of_decode document found read with
    ⟨before, text, after, blankBefore, phrase, blankAfter, rfl⟩
  exact level_append before _ (level_blanks before blankBefore)
    (level_append text after (level_phrase _ text phrase) (level_blanks after blankAfter))

theorem open_of_cut (text cut : Text) (formed : Phrase .composite text) (start : cut <+: text)
    (short : cut ≠ text) (begun : cut ≠ []) (depth : Nat) :
    depth < (Place.after ⟨depth, .plain⟩ cut).depth := by
  have inside : ∃ (kind : Composite) (inner : Text), Level inner ∧
      text = kind.opening :: (inner ++ [kind.closing]) := by
    cases formed with
    | @empty blanks kind blank => exact ⟨kind, blanks, level_blanks blanks blank, rfl⟩
    | @filled before inner kind blank parts =>
        refine ⟨kind, before ++ inner, ?_, by rw [List.append_assoc]⟩
        exact level_append before inner (level_blanks before blank) (level_phrase _ inner parts)
  rcases inside with ⟨kind, inner, level, rfl⟩
  rcases List.exists_cons_of_ne_nil begun with ⟨first, rest, rfl⟩
  rw [List.cons_prefix_cons] at start
  rcases start with ⟨rfl, start⟩
  have unclosed : rest <+: inner := by
    rcases List.prefix_concat_iff.mp start with whole | inner
    · rw [whole] at short
      exact absurd rfl short
    · exact inner
  exact Place.above_cut (depth + 1) _ inner rest unclosed (above_opening kind inner level depth)

theorem not_blanks_of_mem (c : Char) (text : Text) (among : c ∈ text)
    (solid : c ∉ [' ', '\t', '\n', '\r']) : ¬Blanks text :=
  fun blank => solid (blank c among)

theorem not_blanks_of_phrase (text : Text) (formed : Phrase .value text) : ¬Blanks text := by
  cases formed with
  | word known =>
      have each : ∀ word ∈ wordValues.map Prod.fst, ¬Blanks word := by decide
      exact each text known
  | number numeral =>
      rcases numeral with ⟨sign, whole, fraction, exponent, _, wholePart, _, _, rfl⟩
      have digit : ∃ c ∈ whole, Text.isAsciiDigit c = true := by
        rcases wholePart with rfl | ⟨⟨some, digits⟩, _⟩
        · exact ⟨'0', by decide⟩
        · rcases List.exists_mem_of_ne_nil whole some with ⟨c, among⟩
          exact ⟨c, among, List.all_eq_true.mp digits c among⟩
      rcases digit with ⟨c, among, digit⟩
      exact not_blanks_of_mem c _ (by simp [among]) (not_mem_of_digit c _ digit (by decide))
  | string _ => exact not_blanks_of_mem '"' _ List.mem_cons_self (by decide)
  | composite formed =>
      cases formed with
      | empty kind _ => exact not_blanks_of_mem _ _ List.mem_cons_self (by cases kind <;> decide)
      | filled kind _ _ => exact not_blanks_of_mem _ _ List.mem_cons_self (by cases kind <;> decide)

theorem not_blanks_of_decode (document : Text) (found : Value)
    (read : decode document = .ok found) : ¬Blanks document := by
  rcases phrase_of_decode document found read with ⟨before, text, after, _, phrase, _, rfl⟩
  intro blank
  refine not_blanks_of_phrase text phrase ?_
  intro c among
  exact blank c (List.mem_append_right before (List.mem_append_left after among))

theorem decode_of_cut (before inner cut : Text) (blank : Blanks before)
    (formed : Phrase .composite inner) (start : cut <+: before ++ inner)
    (short : cut ≠ before ++ inner) : ∃ fault, decode cut = .error fault := by
  cases read : decode cut with
  | error fault => exact ⟨fault, rfl⟩
  | ok found =>
      by_cases early : cut <+: before
      · -- There are only blanks so far, but a value is more than blanks.
        refine absurd ?_ (not_blanks_of_decode cut found read)
        intro c among
        exact blank c (early.mem among)
      · -- The brackets of a value are closed at its end, but the composite is still open.
        rcases (List.prefix_or_prefix_of_prefix start (List.prefix_append before inner)).resolve_left
          early with ⟨taken, rfl⟩
        rw [List.prefix_append_right_inj] at start
        have unfinished : taken ≠ inner := fun whole => short (by rw [whole])
        have begun : taken ≠ [] := fun none => early (by simp [none])
        have stillOpen := open_of_cut inner taken formed start unfinished begun 0
        have closed := (level_of_decode _ found read).returns 0
        rw [Place.after_append, (level_blanks before blank).returns] at closed
        rw [closed] at stillOpen
        exact absurd stillOpen (Nat.lt_irrefl 0)

/-- A text that is cut anywhere before the end of its array or object has a single error as its
outline, at the level and path that are asked for. -/
theorem outline_of_cut (before inner cut : Text) (blank : Blanks before)
    (formed : Phrase .composite inner) (start : cut <+: before ++ inner)
    (short : cut ≠ before ++ inner) (level : Int) (path : Text) :
    ∃ message, outline cut level path =
      [{ name := "Invalid JSON: ".toList ++ message, kind := .error, path, level
         lines := [], children := [] }] := by
  rcases decode_of_cut before inner cut blank formed start short with ⟨fault, failed⟩
  refine ⟨fault.message cut, ?_⟩
  exact outline_of_fault cut level path fault failed

def pairText : Text :=
  "\x7b\"a\": [\"\\ud83d\\ude00\", -1.5e3]\x7d".toList

theorem phrase_pairText : Phrase .composite pairText := by
  have nothing : Blanks [] := by decide
  have space : Blanks [' '] := by decide
  have name : Characters ['a'] := .raw (by decide) (by decide) (by decide) .nil
  have pair : Characters "\\ud83d\\ude00".toList :=
    .unit (by decide) (by decide) (by decide) (by decide)
      (.unit (by decide) (by decide) (by decide) (by decide) .nil)
  have numeral : Numeral "-1.5e3".toList :=
    ⟨['-'], ['1'], ['.', '5'], ['e', '3'], by decide, .inr (by decide),
      .inr ⟨['5'], by decide, rfl⟩, .inr ⟨'e', [], ['3'], by decide, by decide, by decide, rfl⟩, rfl⟩
  have items : Phrase (.parts .array) "\"\\ud83d\\ude00\", -1.5e3".toList :=
    .more (.item (.string pair)) nothing space (.last (.item (.number numeral)) nothing)
  have member : Phrase (.part .object) "\"a\": [\"\\ud83d\\ude00\", -1.5e3]".toList :=
    .member name nothing space (.composite (.filled .array nothing items))
  exact .filled .object nothing (.last member nothing)

/-- The text ends within the second escape of the pair. -/
theorem outline_of_pairText_cut :
    ∃ message, outline " \x7b\"a\": [\"\\ud83d\\ud".toList 3 "a.json".toList =
      [{ name := "Invalid JSON: ".toList ++ message, kind := .error, path := "a.json".toList
         level := 3, lines := [], children := [] }] :=
  outline_of_cut [' '] pairText " \x7b\"a\": [\"\\ud83d\\ud".toList (by decide) phrase_pairText
    (by decide) (by decide) 3 "a.json".toList

end Outliner.Json
