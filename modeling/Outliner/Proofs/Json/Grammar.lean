import Outliner.Proofs.Json.Rendering

namespace Outliner.Json

def HexLetter (c : Char) : Prop :=
  '0' ≤ c ∧ c ≤ '9' ∨ 'a' ≤ c ∧ c ≤ 'f' ∨ 'A' ≤ c ∧ c ≤ 'F'

instance (c : Char) : Decidable (HexLetter c) :=
  inferInstanceAs (Decidable (_ ∨ _))

inductive Characters : Text → Prop where
  | nil : Characters []
  | raw {c : Char} {rest : Text} :
      c ≠ '"' → c ≠ '\\' → 0x20 ≤ c.toNat → Characters rest → Characters (c :: rest)
  | short {letter : Char} {rest : Text} :
      letter ∈ shortForms.map Prod.fst → Characters rest → Characters ('\\' :: letter :: rest)
  | unit {a b c d : Char} {rest : Text} :
      HexLetter a → HexLetter b → HexLetter c → HexLetter d → Characters rest →
      Characters ('\\' :: 'u' :: a :: b :: c :: d :: rest)

def quoted (body : Text) : Text :=
  '"' :: (body ++ ['"'])

def Digits (text : Text) : Prop :=
  text ≠ [] ∧ text.all Text.isAsciiDigit = true

instance (text : Text) : Decidable (Digits text) :=
  inferInstanceAs (Decidable (_ ∧ _))

def WholePart (text : Text) : Prop :=
  text = ['0'] ∨ Digits text ∧ text.head? ≠ some '0'

def FractionPart (text : Text) : Prop :=
  text = [] ∨ ∃ digits, Digits digits ∧ text = '.' :: digits

def ExponentPart (text : Text) : Prop :=
  text = [] ∨ ∃ mark sign digits, mark ∈ ['e', 'E'] ∧ sign ∈ [[], ['+'], ['-']] ∧
    Digits digits ∧ text = mark :: (sign ++ digits)

def Numeral (text : Text) : Prop :=
  ∃ sign whole fraction exponent, sign ∈ [[], ['-']] ∧ WholePart whole ∧ FractionPart fraction ∧
    ExponentPart exponent ∧ text = sign ++ (whole ++ (fraction ++ exponent))

def Composite.opening : Composite → Char
  | array => '['
  | object => '\x7b'

def Composite.closing : Composite → Char
  | array => ']'
  | object => '\x7d'

inductive Role where
  | value
  | composite
  | part (of : Composite)
  | parts (of : Composite)

/-- The texts of the grammar. Blanks may follow a part, but precede none. -/
inductive Phrase : Role → Text → Prop where
  | word {word : Text} : word ∈ wordValues.map Prod.fst → Phrase .value word
  | number {text : Text} : Numeral text → Phrase .value text
  | string {body : Text} : Characters body → Phrase .value (quoted body)
  | composite {text : Text} : Phrase .composite text → Phrase .value text
  | empty {blanks : Text} (kind : Composite) :
      Blanks blanks → Phrase .composite (kind.opening :: (blanks ++ [kind.closing]))
  | filled {before inner : Text} (kind : Composite) :
      Blanks before → Phrase (.parts kind) inner →
      Phrase .composite (kind.opening :: (before ++ (inner ++ [kind.closing])))
  | item {text : Text} : Phrase .value text → Phrase (.part .array) text
  | member {name between before text : Text} :
      Characters name → Blanks between → Blanks before → Phrase .value text →
      Phrase (.part .object) (quoted name ++ (between ++ ':' :: (before ++ text)))
  | last {text after : Text} {kind : Composite} :
      Phrase (.part kind) text → Blanks after → Phrase (.parts kind) (text ++ after)
  | more {text after before rest : Text} {kind : Composite} :
      Phrase (.part kind) text → Blanks after → Blanks before → Phrase (.parts kind) rest →
      Phrase (.parts kind) (text ++ (after ++ ',' :: (before ++ rest)))

def ReadsOnly {α : Type} (kind : Text → Prop) (read : Cursor → Except Fault (α × Cursor)) : Prop :=
  ∀ cursor found last, read cursor = .ok (found, last) →
    ∃ taken, kind taken ∧ cursor.rest = taken ++ last.rest

theorem hexLetter_of_hexValue? (c : Char) (value : Nat) (known : Text.hexValue? c = some value) :
    HexLetter c := by
  simp only [Text.hexValue?, Bool.and_eq_true, decide_eq_true_eq] at known
  split at known
  · next digit => exact .inl digit
  · split at known
    · next lower => exact .inr (.inl lower)
    · split at known
      · next upper => exact .inr (.inr upper)
      · cases known

theorem hexLetters_of_hexUnit? (a b c d : Char) (unit : Nat) (known : hexUnit? a b c d = some unit) :
    HexLetter a ∧ HexLetter b ∧ HexLetter c ∧ HexLetter d := by
  simp only [hexUnit?, Option.bind_eq_bind, Option.bind_eq_some_iff] at known
  rcases known with ⟨_, first, _, second, _, third, _, fourth, _⟩
  exact ⟨hexLetter_of_hexValue? _ _ first, hexLetter_of_hexValue? _ _ second,
    hexLetter_of_hexValue? _ _ third, hexLetter_of_hexValue? _ _ fourth⟩

theorem shortForm_of_shortEscape? (letter meant : Char) (known : shortEscape? letter = some meant) :
    letter ∈ shortForms.map Prod.fst := by
  unfold shortEscape? at known
  split at known <;> first | decide | cases known

def Escapes (passed : Text) : Prop :=
  ∀ rest, Characters rest → Characters ('\\' :: (passed ++ rest))

theorem escapes_unit (a b c d : Char) (unit : Nat) (digits : hexUnit? a b c d = some unit) :
    Escapes ['u', a, b, c, d] := by
  intro rest formed
  have letters := hexLetters_of_hexUnit? a b c d unit digits
  exact .unit letters.1 letters.2.1 letters.2.2.1 letters.2.2.2 formed

theorem numberedEscape_reads (position size : Nat) (meant : Point) (text : Text)
    (read : numberedEscape position text = .ok (meant, size)) :
    ∃ passed more, 'u' :: text = passed ++ more ∧ passed.length = size ∧ Escapes passed := by
  unfold numberedEscape at read
  split at read
  · next a b c d next later =>
      split at read
      · cases read
      · next unit first =>
          have single := escapes_unit a b c d unit first
          have alone : ∃ passed more, 'u' :: a :: b :: c :: d :: next :: later = passed ++ more ∧
              passed.length = 5 ∧ Escapes passed := ⟨_, next :: later, rfl, rfl, single⟩
          split at read
          · next e f g h _ _ _ =>
              split at read
              · cases read
              · next low second =>
                  split at read
                  · rw [Except.ok.injEq, Prod.mk.injEq] at read
                    refine ⟨['u', a, b, c, d, '\\', 'u', e, f, g, h], _, rfl, read.2, ?_⟩
                    intro rest formed
                    exact single _ (escapes_unit e f g h low second rest formed)
                  · rw [Except.ok.injEq, Prod.mk.injEq] at read
                    rwa [read.2] at alone
          · rw [Except.ok.injEq, Prod.mk.injEq] at read
            rwa [read.2] at alone
  · cases read

theorem escape_reads (start position size : Nat) (meant : Point) (text : Text)
    (read : escape start position text = .ok (meant, size)) :
    ∃ passed more, text = passed ++ more ∧ passed.length = size ∧ Escapes passed := by
  unfold escape at read
  split at read
  · cases read
  · exact numberedEscape_reads _ size meant _ read
  · next c rest _ =>
      split at read
      · next found known =>
          rw [Except.ok.injEq, Prod.mk.injEq] at read
          refine ⟨[c], rest, rfl, read.2, ?_⟩
          intro more formed
          exact .short (shortForm_of_shortEscape? c found known) formed
      · cases read

theorem later_of_prepend (point : Point) (result : Except Fault (List Point × Cursor))
    (found : List Point) (last : Cursor) (read : prepend point result = .ok (found, last)) :
    ∃ later, result = .ok (later, last) := by
  cases result with
  | error fault => cases read
  | ok result =>
      simp only [prepend, Except.map, Except.ok.injEq, Prod.mk.injEq] at read
      exact ⟨result.1, by rw [← read.2]⟩

/-- What is read of a string, apart from what is still passed over of its last escape. The induction
is on the text; an escape is taken whole where it starts, and the steps that pass over it drop it. -/
theorem stringFrom_reads (start passing position : Nat) (text : Text) (found : List Point)
    (last : Cursor)
    (read : stringFrom start passing position text = .ok (found, last)) :
    ∃ body, Characters body ∧ text.drop passing = body ++ '"' :: last.rest := by
  induction text generalizing passing position found with
  | nil => cases passing <;> cases read
  | cons c rest ih =>
      cases passing with
      | succ passing => exact ih passing (position + 1) found read
      | zero =>
          simp only [stringFrom, beq_iff_eq] at read
          split at read
          · next quote =>
              rw [Except.ok.injEq, Prod.mk.injEq] at read
              refine ⟨[], .nil, ?_⟩
              rw [quote, ← read.2]
              rfl
          · next noQuote =>
              split at read
              · next backslash =>
                  split at read
                  · next meant size escaped =>
                      rcases escape_reads start position size meant rest escaped with
                        ⟨passed, more, rfl, rfl, escapes⟩
                      rcases later_of_prepend meant _ found last read with ⟨found, read⟩
                      rcases ih _ _ found read with ⟨body, formed, split⟩
                      rw [List.drop_left] at split
                      refine ⟨'\\' :: (passed ++ body), escapes body formed, ?_⟩
                      rw [List.drop_zero, backslash, split, List.cons_append, List.append_assoc]
                  · cases read
              · next noBackslash =>
                  split at read
                  · cases read
                  · next shown =>
                      rcases later_of_prepend _ _ found last read with ⟨found, read⟩
                      rcases ih _ _ found read with ⟨body, formed, split⟩
                      refine ⟨c :: body, .raw noQuote noBackslash (by omega) formed, ?_⟩
                      rw [List.drop_zero] at split ⊢
                      rw [split, List.cons_append]

theorem string_reads : ReadsOnly (fun taken => ∃ body, Characters body ∧ taken = body ++ ['"'])
    string := by
  intro cursor found last read
  rcases stringFrom_reads _ _ _ _ found last read with ⟨body, formed, split⟩
  refine ⟨body ++ ['"'], ⟨body, formed, rfl⟩, ?_⟩
  rw [← List.append_cons]
  exact split

theorem digits_of_takeWhile (text : Text) (some : text.takeWhile Text.isAsciiDigit ≠ []) :
    Digits (text.takeWhile Text.isAsciiDigit) := by
  exact ⟨some, List.all_takeWhile⟩

theorem whole?_reads (text whole rest : Text) (read : whole? text = some (whole, rest)) :
    WholePart whole ∧ text = whole ++ rest := by
  unfold whole? at read
  split at read
  · rw [Option.some.injEq, Prod.mk.injEq] at read
    exact ⟨.inl read.1.symm, by rw [← read.1, ← read.2]; rfl⟩
  · next c later nonzero =>
      split at read
      · next digit =>
          rw [Option.some.injEq, Prod.mk.injEq] at read
          rw [← read.1, ← read.2]
          have digits : Digits (c :: later.takeWhile Text.isAsciiDigit) := by
            refine ⟨List.cons_ne_nil _ _, ?_⟩
            rw [List.all_cons, digit, List.all_takeWhile]
            rfl
          refine ⟨.inr ⟨digits, by simpa using nonzero⟩, ?_⟩
          rw [List.cons_append, List.takeWhile_append_dropWhile]
      · cases read
  · cases read

theorem fraction_reads (text : Text) :
    ∃ taken, FractionPart taken ∧ text = taken ++ (fraction text).2 := by
  unfold fraction
  split
  · next rest =>
      split
      · exact ⟨[], .inl rfl, rfl⟩
      · next some =>
          refine ⟨'.' :: rest.takeWhile Text.isAsciiDigit,
            .inr ⟨_, digits_of_takeWhile rest some, rfl⟩, ?_⟩
          rw [List.cons_append, List.takeWhile_append_dropWhile]
  · exact ⟨[], .inl rfl, rfl⟩

theorem exponent?_reads (text rest : Text) (power : Int)
    (read : exponent? text = some (power, rest)) :
    ∃ taken, ExponentPart taken ∧ text = taken ++ rest := by
  unfold exponent? at read
  split at read
  · next mark later =>
      split at read
      · next marked =>
          simp only [Bool.or_eq_true, beq_iff_eq] at marked
          split at read
          next negative digits signed =>
          have signs : ∃ sign, sign ∈ [[], ['+'], ['-']] ∧ later = sign ++ digits := by
            split at signed
            · rw [Prod.mk.injEq] at signed
              exact ⟨['-'], by decide, by rw [← signed.2]; rfl⟩
            · rw [Prod.mk.injEq] at signed
              exact ⟨['+'], by decide, by rw [← signed.2]; rfl⟩
            · rw [Prod.mk.injEq] at signed
              exact ⟨[], by decide, by rw [← signed.2]; rfl⟩
          rcases signs with ⟨sign, known, rfl⟩
          split at read
          · cases read
          · next some =>
              rw [Option.some.injEq, Prod.mk.injEq] at read
              refine ⟨mark :: (sign ++ digits.takeWhile Text.isAsciiDigit), .inr ⟨mark, sign, _,
                by simpa using marked, known, digits_of_takeWhile digits some, rfl⟩, ?_⟩
              rw [← read.2, List.cons_append, List.append_assoc, List.takeWhile_append_dropWhile]
      · cases read
  · cases read

theorem number?_reads (text rest : Text) (number : Number)
    (read : number? text = some (number, rest)) :
    ∃ taken, Numeral taken ∧ text = taken ++ rest := by
  unfold number? at read
  split at read
  next negative unsigned signed =>
  have signs : ∃ sign, sign ∈ [[], ['-']] ∧ text = sign ++ unsigned := by
    split at signed
    · rw [Prod.mk.injEq] at signed
      exact ⟨['-'], by decide, by rw [← signed.2]; rfl⟩
    · rw [Prod.mk.injEq] at signed
      exact ⟨[], by decide, by rw [← signed.2]; rfl⟩
  rcases signs with ⟨sign, known, rfl⟩
  simp only [Option.bind_eq_bind, Option.bind_eq_some_iff] at read
  rcases read with ⟨⟨whole, afterWhole⟩, wholeRead, read⟩
  rcases whole?_reads unsigned whole afterWhole wholeRead with ⟨wholeFormed, rfl⟩
  rcases fraction_reads afterWhole with ⟨fractional, fractionFormed, fractionSplit⟩
  have exponent : ∃ taken, ExponentPart taken ∧ (fraction afterWhole).2 = taken ++ rest := by
    split at read
    · next power later exponentRead =>
        rw [Option.pure_def, Option.some.injEq, Prod.mk.injEq] at read
        rw [read.2] at exponentRead
        exact exponent?_reads _ rest power exponentRead
    · rw [Option.pure_def, Option.some.injEq, Prod.mk.injEq] at read
      exact ⟨[], .inl rfl, read.2⟩
  rcases exponent with ⟨raised, exponentFormed, exponentSplit⟩
  refine ⟨sign ++ (whole ++ (fractional ++ raised)), ⟨sign, whole, fractional, raised, known,
    wholeFormed, fractionFormed, exponentFormed, rfl⟩, ?_⟩
  rw [List.append_assoc, List.append_assoc, List.append_assoc, ← exponentSplit, ← fractionSplit]

theorem stop_of_pure {α : Type} (given found : α) (stop last : Cursor)
    (done : (pure (given, stop) : Except Fault (α × Cursor)) = .ok (found, last)) : stop = last :=
  congrArg Prod.snd (Except.ok.inj done)

theorem blanks_skipped (cursor : Cursor) :
    ∃ blanks, Blanks blanks ∧ cursor.rest = blanks ++ cursor.skipBlank.rest := by
  refine ⟨cursor.rest.takeWhile isBlank, ?_, ?_⟩
  · intro c among
    have blank := List.all_eq_true.mp List.all_takeWhile c among
    simpa [isBlank, or_assoc] using blank
  · exact (List.prefix_iff_eq_append.mp (List.takeWhile_prefix isBlank)).symm

theorem word?_reads (text : Text) (meant : Value) (size : Nat)
    (read : word? text = some (meant, size)) :
    ∃ word ∈ wordValues.map Prod.fst, word.length = size ∧ word <+: text := by
  simp only [word?, Option.map_eq_some_iff, Prod.mk.injEq] at read
  rcases read with ⟨entry, found, _, rfl⟩
  have spelled := List.find?_some found
  exact ⟨entry.1, List.mem_map_of_mem (List.mem_of_find?_eq_some found), rfl,
    List.isPrefixOf_iff_prefix.mp spelled⟩

theorem simpleValue_reads : ReadsOnly (Phrase .value) simpleValue := by
  intro cursor found last read
  unfold simpleValue at read
  split at read
  · next meant size found =>
      rw [Except.ok.injEq, Prod.mk.injEq] at read
      rcases word?_reads cursor.rest meant size found with ⟨word, known, rfl, rest, split⟩
      refine ⟨word, .word known, ?_⟩
      rw [← read.2, Cursor.advance, ← split, List.drop_left]
  · split at read
    · next number rest numeral =>
        rcases exists_of_bind read with ⟨value, _, done⟩
        rcases number?_reads cursor.rest rest number numeral with ⟨taken, formed, split⟩
        refine ⟨taken, .number formed, ?_⟩
        rw [← stop_of_pure _ _ _ _ done]
        exact split
    · cases read

def Closed (kind : Composite) (taken : Text) : Prop :=
  ∃ inner, Phrase (.parts kind) inner ∧ taken = inner ++ [kind.closing]

section Parts

variable (kind : Composite) (cursor afterPart : Cursor) (text rest : Text)
  (formed : Phrase (.part kind) text) (split : cursor.rest = text ++ afterPart.rest)
include formed split

theorem closed_last (closing : afterPart.skipBlank.rest = kind.closing :: rest) :
    ∃ taken, Closed kind taken ∧ cursor.rest = taken ++ (afterPart.skipBlank.advance 1).rest := by
  rcases blanks_skipped afterPart with ⟨after, blank, skipped⟩
  refine ⟨_, ⟨text ++ after, .last formed blank, rfl⟩, ?_⟩
  rw [split, skipped, closing, rest_advance _ _ rest closing]
  simp only [List.append_assoc, List.singleton_append]

theorem closed_more (last : Cursor) (comma : afterPart.skipBlank.rest = ',' :: rest)
    (others : ∃ taken, Closed kind taken ∧
      (afterPart.skipBlank.advance 1).skipBlank.rest = taken ++ last.rest) :
    ∃ taken, Closed kind taken ∧ cursor.rest = taken ++ last.rest := by
  rcases others with ⟨_, ⟨inner, phrase, rfl⟩, later⟩
  rcases blanks_skipped afterPart with ⟨after, blank, skipped⟩
  rcases blanks_skipped (afterPart.skipBlank.advance 1) with ⟨before, blankBefore, skippedBefore⟩
  rw [rest_advance _ _ rest comma] at skippedBefore
  refine ⟨_, ⟨_, .more formed blank blankBefore phrase, rfl⟩, ?_⟩
  rw [split, skipped, comma, skippedBefore, later]
  simp only [List.append_assoc, List.cons_append]

end Parts

section Composites

variable (item : Reader) (reads : ReadsOnly (Phrase .value) item)
include reads

theorem itemsFrom_reads (count : Nat) : ReadsOnly (Closed .array) (itemsFrom item count) := by
  induction count with
  | zero => exact fun _ _ _ read => by cases read
  | succ count ih =>
      intro cursor found last read
      rcases exists_of_bind read with ⟨⟨value, afterValue⟩, valueRead, read⟩
      rcases reads cursor value afterValue valueRead with ⟨text, formed, split⟩
      simp only at read
      split at read
      · next rest closing =>
          rw [← stop_of_pure _ _ _ _ read]
          exact closed_last .array cursor afterValue text rest (.item formed) split closing
      · next rest comma =>
          rcases exists_of_bind read with ⟨⟨values, stop⟩, others, read⟩
          rw [← stop_of_pure _ _ _ _ read]
          exact closed_more .array cursor afterValue text rest (.item formed) split stop comma
            (ih _ values stop others)
      · cases read

omit reads in
theorem member_of_steps (cursor afterName afterValue : Cursor) (name : List Point)
    (later colonRest text : Text) (opening : cursor.rest = '"' :: later)
    (named : string (cursor.advance 1) = .ok (name, afterName))
    (colon : afterName.skipBlank.rest = ':' :: colonRest) (formed : Phrase .value text)
    (split : (afterName.skipBlank.advance 1).skipBlank.rest = text ++ afterValue.rest) :
    ∃ taken, Phrase (.part .object) taken ∧ cursor.rest = taken ++ afterValue.rest := by
  rcases string_reads _ name afterName named with ⟨_, ⟨body, characters, rfl⟩, quotedSplit⟩
  rcases blanks_skipped afterName with ⟨between, blankBetween, skipped⟩
  rcases blanks_skipped (afterName.skipBlank.advance 1) with ⟨before, blankBefore, skippedBefore⟩
  rw [rest_advance _ _ _ opening] at quotedSplit
  rw [rest_advance _ _ _ colon] at skippedBefore
  refine ⟨_, .member characters blankBetween blankBefore formed, ?_⟩
  rw [opening, quotedSplit, skipped, colon, skippedBefore, split]
  simp only [quoted, List.append_assoc, List.cons_append]

theorem membersFrom_reads (count : Nat) : ReadsOnly (Closed .object) (membersFrom item count) := by
  induction count with
  | zero => exact fun _ _ _ read => by cases read
  | succ count ih =>
      intro cursor found last read
      unfold membersFrom at read
      split at read
      · next later opening =>
          rcases exists_of_bind read with ⟨⟨name, afterName⟩, named, read⟩
          simp only at read
          split at read
          · next colonRest colon =>
              rcases exists_of_bind read with ⟨⟨value, afterValue⟩, valueRead, read⟩
              rcases reads _ value afterValue valueRead with ⟨text, formed, split⟩
              rcases member_of_steps cursor afterName afterValue name later colonRest text opening
                named colon formed split with ⟨taken, member, whole⟩
              simp only at read
              split at read
              · next rest closing =>
                  rw [← stop_of_pure _ _ _ _ read]
                  exact closed_last .object cursor afterValue taken rest member whole closing
              · next rest comma =>
                  rcases exists_of_bind read with ⟨⟨members, stop⟩, others, read⟩
                  rw [← stop_of_pure _ _ _ _ read]
                  exact closed_more .object cursor afterValue taken rest member whole stop comma
                    (ih _ members stop others)
              · cases read
          · cases read
      · cases read

def Ending (kind : Composite) (taken : Text) : Prop :=
  Phrase .composite (kind.opening :: taken)

omit reads in
theorem ending_of_closed (kind : Composite) (cursor : Cursor) (rest : Text)
    (parts : ∃ taken, Closed kind taken ∧ cursor.skipBlank.rest = taken ++ rest) :
    ∃ taken, Ending kind taken ∧ cursor.rest = taken ++ rest := by
  rcases parts with ⟨_, ⟨inner, phrase, rfl⟩, later⟩
  rcases blanks_skipped cursor with ⟨before, blank, skipped⟩
  refine ⟨_, .filled kind blank phrase, ?_⟩
  rw [skipped, later, ← List.append_assoc]

omit reads in
theorem ending_of_empty (kind : Composite) (cursor : Cursor) (rest : Text)
    (closing : cursor.skipBlank.rest = kind.closing :: rest) :
    ∃ taken, Ending kind taken ∧ cursor.rest = taken ++ (cursor.skipBlank.advance 1).rest := by
  rcases blanks_skipped cursor with ⟨blanks, blank, skipped⟩
  refine ⟨_, .empty kind blank, ?_⟩
  rw [rest_advance _ _ rest closing, skipped, closing]
  exact List.append_cons _ _ _

theorem arrayRest_reads : ReadsOnly (Ending .array) (arrayRest item) := by
  intro cursor found last read
  unfold arrayRest at read
  simp only at read
  split at read
  · next rest closing =>
      rw [← stop_of_pure _ _ _ _ read]
      exact ending_of_empty .array cursor rest closing
  · rcases exists_of_bind read with ⟨⟨values, stop⟩, itemsRead, read⟩
    rw [← stop_of_pure _ _ _ _ read]
    exact ending_of_closed .array cursor stop.rest
      (itemsFrom_reads item reads _ _ values stop itemsRead)

theorem objectRest_reads : ReadsOnly (Ending .object) (objectRest item) := by
  intro cursor found last read
  unfold objectRest at read
  simp only at read
  split at read
  · next rest closing =>
      rw [← stop_of_pure _ _ _ _ read]
      exact ending_of_empty .object cursor rest closing
  · rcases exists_of_bind read with ⟨⟨members, stop⟩, membersRead, read⟩
    rw [← stop_of_pure _ _ _ _ read]
    exact ending_of_closed .object cursor stop.rest
      (membersFrom_reads item reads _ _ members stop membersRead)

end Composites

theorem composite_of_ending (kind : Composite) (cursor last : Cursor) (later : Text)
    (opening : cursor.rest = kind.opening :: later)
    (ending : ∃ taken, Ending kind taken ∧ (cursor.advance 1).rest = taken ++ last.rest) :
    ∃ taken, Phrase .value taken ∧ cursor.rest = taken ++ last.rest := by
  rcases ending with ⟨taken, formed, split⟩
  rw [rest_advance _ _ _ opening] at split
  exact ⟨kind.opening :: taken, .composite formed, by rw [opening, split, List.cons_append]⟩

theorem text_reads (cursor last : Cursor) (found : Value) (later : Text)
    (opening : cursor.rest = '"' :: later)
    (read : (string (cursor.advance 1) >>= fun (points, last) => pure (.text (shown points), last)) =
      .ok (found, last)) :
    ∃ taken, Phrase .value taken ∧ cursor.rest = taken ++ last.rest := by
  rcases exists_of_bind read with ⟨⟨points, stop⟩, stringRead, read⟩
  rcases string_reads _ points stop stringRead with ⟨_, ⟨body, characters, rfl⟩, split⟩
  rw [rest_advance _ _ _ opening] at split
  refine ⟨quoted body, .string characters, ?_⟩
  rw [← stop_of_pure _ _ _ _ read, opening, split, quoted, List.cons_append]

theorem value_reads (depth : Nat) : ReadsOnly (Phrase .value) (value depth) := by
  -- The depth only matters where a composite is opened, so that one step serves every depth.
  have level : ∀ depth, (∀ below, depth = below + 1 → ReadsOnly (Phrase .value) (value below)) →
      ReadsOnly (Phrase .value) (value depth) := by
    intro depth inner cursor found last read
    unfold value at read
    split at read
    · next later opening => exact text_reads cursor last found later opening read
    · cases read
    · cases read
    · next later below opening =>
        exact composite_of_ending .array cursor last later opening
          (arrayRest_reads _ (inner below rfl) _ found last read)
    · next later below opening =>
        exact composite_of_ending .object cursor last later opening
          (objectRest_reads _ (inner below rfl) _ found last read)
    · exact simpleValue_reads cursor found last read
  induction depth with
  | zero => exact level 0 (fun _ deeper => by cases deeper)
  | succ depth ih =>
      refine level (depth + 1) ?_
      intro below deeper
      rwa [← Nat.succ.inj deeper]

theorem phrase_of_decode (document : Text) (found : Value) (read : decode document = .ok found) :
    ∃ before text after, Blanks before ∧ Phrase .value text ∧ Blanks after ∧
      document = before ++ (text ++ after) := by
  unfold decode at read
  simp only at read
  split at read
  · cases read
  · rcases exists_of_bind read with ⟨⟨result, last⟩, valueRead, read⟩
    rcases value_reads _ _ result last valueRead with ⟨text, formed, split⟩
    rcases blanks_skipped ⟨0, document⟩ with ⟨before, blankBefore, skippedBefore⟩
    rcases blanks_skipped last with ⟨after, blankAfter, skippedAfter⟩
    simp only at read
    split at read
    · next finished =>
        refine ⟨before, text, after, blankBefore, formed, blankAfter, ?_⟩
        rw [List.isEmpty_iff.mp finished, List.append_nil] at skippedAfter
        rw [← skippedAfter, ← split, ← skippedBefore]
    · cases read

theorem phrase_of_rendering (document : Document) (text : Text)
    (nested : document.depth ≤ depthLimit) (rendered : document.Renders text) :
    ∃ before inner after, Blanks before ∧ Phrase .value inner ∧ Blanks after ∧
      text = before ++ (inner ++ after) :=
  phrase_of_decode text document.value (decode_rendering document text nested rendered)

end Outliner.Json
