import Outliner.Proofs.Json.Document

namespace Outliner.Json

def Delimited (rest : Text) : Prop :=
  ∀ c later, rest = c :: later → c ∈ [' ', '\t', '\n', '\r', ',', ']', '\x7d']

theorem delimited_blanks (blanks rest : Text) (blank : Blanks blanks) (delimited : Delimited rest) :
    Delimited (blanks ++ rest) := by
  intro c later split
  cases blanks with
  | nil => exact delimited c later split
  | cons first blanks =>
      have among := blank first List.mem_cons_self
      rw [List.cons_append, List.cons.injEq] at split
      rw [← split.1]
      exact List.mem_append_left [',', ']', '\x7d'] among

theorem delimited_cons (closer : Char) (rest : Text) (closing : closer ∈ [',', ']', '\x7d']) :
    Delimited (closer :: rest) := by
  intro c later split
  rw [List.cons.injEq] at split
  rw [← split.1]
  exact List.mem_append_right [' ', '\t', '\n', '\r'] closing

theorem not_mem_of_digit (c : Char) (others : Text) (digit : Text.isAsciiDigit c = true)
    (none : others.any Text.isAsciiDigit = false) : c ∉ others := by
  intro among
  rw [List.any_eq_true.mpr ⟨c, among, digit⟩] at none
  exact nomatch none

theorem word?_digit (c : Char) (later : Text) (digit : Text.isAsciiDigit c = true) :
    word? (c :: later) = none ∧ word? ('-' :: c :: later) = none := by
  have apart := not_mem_of_digit c ['n', 't', 'f', 'N', 'I', '-'] digit (by decide)
  simp only [List.mem_cons, List.not_mem_nil, or_false, not_or, eq_comm (a := c)] at apart
  simp [word?, wordValues, List.isPrefixOf, apart]

theorem isAsciiDigit_ofNat (size : Nat) : ∀ c ∈ Text.ofNat size, Text.isAsciiDigit c = true := by
  intro c among
  exact Nat.isDigit_of_mem_toDigits (by decide) (by decide) among

theorem ofNat_eq_cons (size : Nat) :
    ∃ c later, Text.ofNat size = c :: later ∧ Text.isAsciiDigit c = true := by
  have digits := isAsciiDigit_ofNat size
  cases numeral : Text.ofNat size with
  | nil => exact absurd numeral Nat.toDigits_ne_nil
  | cons c later =>
      rw [numeral] at digits
      exact ⟨c, later, rfl, digits c List.mem_cons_self⟩

theorem head_ofNat (size : Nat) (positive : 0 < size) : (Text.ofNat size).head? ≠ some '0' := by
  induction size using Nat.strongRecOn with
  | ind size ih =>
      rw [Text.ofNat, Nat.toDigits_eq_if (by decide)]
      by_cases single : size < 10
      · have shown : ∀ digit < 10, 0 < digit → digit.digitChar ≠ '0' := by decide
        simp [single, shown size single positive]
      · rw [if_neg single, List.head?_append_of_ne_nil _ Nat.toDigits_ne_nil]
        exact ih (size / 10) (by omega) (by omega)

theorem digitsValue_ofNat (size : Nat) : Text.digitsValue (Text.ofNat size) = size :=
  Nat.ofDigitChars_ten_toDigits

theorem number_ends (rest : Text) (delimited : Delimited rest) :
    rest.takeWhile Text.isAsciiDigit = [] ∧ rest.dropWhile Text.isAsciiDigit = rest ∧
      fraction rest = ([], rest) ∧ exponent? rest = none := by
  cases rest with
  | nil => exact ⟨rfl, rfl, rfl, rfl⟩
  | cons c later =>
      have among := delimited c later rfl
      simp only [List.mem_cons, List.not_mem_nil, or_false] at among
      rcases among with rfl | rfl | rfl | rfl | rfl | rfl | rfl <;> exact ⟨rfl, rfl, rfl, rfl⟩

theorem whole?_ofNat (size : Nat) (rest : Text) (delimited : Delimited rest) :
    whole? (Text.ofNat size ++ rest) = some (Text.ofNat size, rest) := by
  have ends := number_ends rest delimited
  rcases Nat.eq_zero_or_pos size with rfl | positive
  · rfl
  · have first := head_ofNat size positive
    have digits := isAsciiDigit_ofNat size
    rcases ofNat_eq_cons size with ⟨c, later, numeral, digit⟩
    rw [numeral] at first digits
    have others := (List.forall_mem_cons.mp digits).2
    have nonzero : c = '0' → False := by simpa using first
    rw [numeral, List.cons_append, whole?, if_pos digit, List.takeWhile_append_of_pos others,
      List.dropWhile_append_of_pos others, ends.1, ends.2.1, List.append_nil]
    exact nonzero

def sign (negative : Bool) : Text :=
  if negative then ['-'] else []

theorem number?_numeral (negative : Bool) (size : Nat) (rest : Text) (delimited : Delimited rest) :
    number? (sign negative ++ (Text.ofNat size ++ rest)) =
      some (⟨negative, Text.ofNat size, [], none⟩, rest) := by
  have ends := number_ends rest delimited
  have whole := whole?_ofNat size rest delimited
  cases negative with
  | true => simp [sign, number?, whole, ends]
  | false =>
      rcases ofNat_eq_cons size with ⟨c, later, numeral, digit⟩
      have unsigned : ∀ other, Text.ofNat size ++ rest = '-' :: other → False := by
        intro other same
        rw [numeral, List.cons_append, List.cons.injEq] at same
        rw [same.1] at digit
        exact absurd digit (by decide)
      rw [sign, if_neg Bool.false_ne_true, List.nil_append, number?]
      · simp [whole, ends]
      · exact unsigned

theorem value_numeral (negative : Bool) (size : Nat) (short : (Text.ofNat size).length ≤ 4300) :
    Number.value ⟨negative, Text.ofNat size, [], none⟩ =
      .ok (.integer (if negative then -size else size)) := by
  have within : ¬Text.digitLimit < (Text.ofNat size).length := Nat.not_lt.mpr short
  simp only [Number.value, within, digitsValue_ofNat, if_false]

theorem simpleValue_numeral (negative : Bool) (size : Nat) (cursor : Cursor) (rest : Text)
    (short : (Text.ofNat size).length ≤ 4300) (delimited : Delimited rest)
    (ahead : cursor.rest = sign negative ++ (Text.ofNat size ++ rest)) :
    ∃ last, simpleValue cursor = .ok (.integer (if negative then -size else size), last) ∧
      last.rest = rest := by
  have noWord : word? cursor.rest = none := by
    rcases ofNat_eq_cons size with ⟨c, later, numeral, digit⟩
    rw [ahead, numeral]
    cases negative with
    | true => exact (word?_digit c _ digit).2
    | false => exact (word?_digit c _ digit).1
  have number : number? cursor.rest = some (⟨negative, Text.ofNat size, [], none⟩, rest) := by
    rw [ahead]
    exact number?_numeral negative size rest delimited
  simp only [simpleValue, noWord, number, value_numeral negative size short]
  exact ⟨_, rfl, rfl⟩

theorem simpleValue_word (word : Text) (meant : Value) (cursor : Cursor) (rest : Text)
    (known : word? cursor.rest = some (meant, word.length)) (ahead : cursor.rest = word ++ rest) :
    ∃ last, simpleValue cursor = .ok (meant, last) ∧ last.rest = rest := by
  simp only [simpleValue, known]
  refine ⟨_, rfl, ?_⟩
  rw [Cursor.advance, ahead, List.drop_left]

end Outliner.Json
