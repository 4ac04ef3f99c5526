import Outliner.Proofs.Json.Document

namespace Outliner.Json

theorem hexValue?_of_hexDigit (value : Nat) (c : Char) (digit : HexDigit value c) :
    Text.hexValue? c = some value := by
  have lower : ∀ index : Fin 16,
      Text.hexValue? "0123456789abcdef".toList[index] = some index.val := by decide
  have upper : ∀ index : Fin 16,
      Text.hexValue? "0123456789ABCDEF".toList[index] = some index.val := by decide
  rcases digit with found | found
  · rcases List.getElem?_eq_some_iff.mp found with ⟨bound, rfl⟩
    exact lower ⟨value, bound⟩
  · rcases List.getElem?_eq_some_iff.mp found with ⟨bound, rfl⟩
    exact upper ⟨value, bound⟩

theorem hexUnit?_of_hexUnit (unit : Nat) (a b c d : Char) (digits : HexUnit unit a b c d) :
    hexUnit? a b c d = some unit := by
  have first := hexValue?_of_hexDigit _ _ digits.1
  have second := hexValue?_of_hexDigit _ _ digits.2.1
  have third := hexValue?_of_hexDigit _ _ digits.2.2.1
  have fourth := hexValue?_of_hexDigit _ _ digits.2.2.2
  have whole : ((unit / 0x1000 * 16 + unit / 0x100 % 0x10) * 16 + unit / 0x10 % 0x10) * 16 +
      unit % 0x10 = unit := by omega
  simp only [hexUnit?, first, second, third, fourth, Option.bind_eq_bind, Option.bind_some,
    Option.pure_def, whole]

theorem not_surrogate (c : Char) :
    isHighSurrogate c.toNat = false ∧ isLowSurrogate c.toNat = false := by
  have valid : c.toNat < 0xD800 ∨ 0xDFFF < c.toNat ∧ c.toNat < 0x110000 := c.valid
  simp only [isHighSurrogate, isLowSurrogate, Bool.and_eq_false_iff, decide_eq_false_iff_not]
  omega

theorem unitPoint_toNat (c : Char) : unitPoint c.toNat = .char c := by
  rw [unitPoint, (not_surrogate c).1, (not_surrogate c).2]
  exact congrArg Point.char (Char.ofNat_toNat c)

theorem numberedEscape_unit (position : Nat) (c a₁ a₂ a₃ a₄ next : Char) (later : Text)
    (digits : HexUnit c.toNat a₁ a₂ a₃ a₄) :
    numberedEscape position (a₁ :: a₂ :: a₃ :: a₄ :: next :: later) = .ok (.char c, 5) := by
  simp only [numberedEscape, hexUnit?_of_hexUnit _ _ _ _ _ digits, (not_surrogate c).1,
    unitPoint_toNat]

theorem numberedEscape_pair (position high low : Nat) (a₁ a₂ a₃ a₄ b₁ b₂ b₃ b₄ next : Char)
    (later : Text) (first : HexUnit high a₁ a₂ a₃ a₄) (second : HexUnit low b₁ b₂ b₃ b₄)
    (isHigh : isHighSurrogate high = true) (isLow : isLowSurrogate low = true) :
    numberedEscape position
        (a₁ :: a₂ :: a₃ :: a₄ :: '\\' :: 'u' :: b₁ :: b₂ :: b₃ :: b₄ :: next :: later) =
      .ok (.char (joinSurrogates high low), 11) := by
  simp only [numberedEscape, hexUnit?_of_hexUnit _ _ _ _ _ first,
    hexUnit?_of_hexUnit _ _ _ _ _ second, isHigh, isLow, if_true]

theorem isHighSurrogate_of_above (c : Char) (above : 0x10000 ≤ c.toNat) :
    isHighSurrogate (0xD800 + (c.toNat - 0x10000) / 0x400) = true := by
  have valid : c.toNat < 0xD800 ∨ 0xDFFF < c.toNat ∧ c.toNat < 0x110000 := c.valid
  simp only [isHighSurrogate, Bool.and_eq_true, decide_eq_true_eq]
  omega

theorem isLowSurrogate_remainder (offset : Nat) :
    isLowSurrogate (0xDC00 + offset % 0x400) = true := by
  simp only [isLowSurrogate, Bool.and_eq_true, decide_eq_true_eq]
  omega

theorem joinSurrogates_of_above (c : Char) (above : 0x10000 ≤ c.toNat) :
    joinSurrogates (0xD800 + (c.toNat - 0x10000) / 0x400)
      (0xDC00 + (c.toNat - 0x10000) % 0x400) = c := by
  have back : 0x10000 + (0xD800 + (c.toNat - 0x10000) / 0x400 - 0xD800) * 0x400 +
      (0xDC00 + (c.toNat - 0x10000) % 0x400 - 0xDC00) = c.toNat := by omega
  rw [joinSurrogates, back, Char.ofNat_toNat]

theorem escape_short (start position : Nat) (form : Char × Char) (rest : Text)
    (known : form ∈ shortForms) :
    escape start position (form.1 :: rest) = .ok (.char form.2, 1) := by
  simp only [shortForms, List.mem_cons, List.not_mem_nil, or_false] at known
  rcases known with rfl | rfl | rfl | rfl | rfl | rfl | rfl | rfl <;> rfl

theorem stringFrom_passing (start position : Nat) (passed more : Text) :
    stringFrom start passed.length position (passed ++ more) =
      stringFrom start 0 (position + passed.length) more := by
  induction passed generalizing position with
  | nil => rfl
  | cons c passed ih =>
      have onward : position + 1 + passed.length = position + (passed.length + 1) := by omega
      rw [List.length_cons, List.cons_append, stringFrom, ih, onward]

theorem stringFrom_escape (start position : Nat) (meant : Point) (passed more : Text)
    (escaped : escape start position (passed ++ more) = .ok (meant, passed.length)) :
    stringFrom start 0 position ('\\' :: (passed ++ more)) =
      prepend meant (stringFrom start 0 (position + (passed.length + 1)) more) := by
  have onward : position + 1 + passed.length = position + (passed.length + 1) := by omega
  have noQuote : ('\\' == '"') = false := rfl
  simp only [stringFrom, noQuote, escaped, stringFrom_passing, onward, beq_self_eq_true, if_true,
    Bool.false_eq_true, if_false]

theorem stringFrom_form (start position : Nat) (c : Char) (form more : Text)
    (formed : CharForm c form) (followed : more ≠ []) :
    stringFrom start 0 position (form ++ more) =
      prepend (.char c) (stringFrom start 0 (position + form.length) more) := by
  rcases List.exists_cons_of_ne_nil followed with ⟨next, later, rfl⟩
  cases formed with
  | raw noQuote noBackslash shown =>
      have noControl : ¬c.toNat ≤ 0x1F := by omega
      rw [List.singleton_append, stringFrom, if_neg (by simpa using noQuote),
        if_neg (by simpa using noBackslash), if_neg noControl]
      rfl
  | short known =>
      exact stringFrom_escape start position (.char c) [_] _ (escape_short start position _ _ known)
  | unit digits =>
      exact stringFrom_escape start position (.char c) ['u', _, _, _, _] _
        (numberedEscape_unit _ c _ _ _ _ next later digits)
  | pair above first second =>
      have read := numberedEscape_pair (position + 1) _ _ _ _ _ _ _ _ _ _ next later first second
        (isHighSurrogate_of_above c above) (isLowSurrogate_remainder _)
      rw [joinSurrogates_of_above c above] at read
      exact stringFrom_escape start position (.char c) ['u', _, _, _, _, '\\', 'u', _, _, _, _] _ read

theorem stringFrom_spelled (start position : Nat) (text written rest : Text)
    (spelled : Spelled text written) :
    stringFrom start 0 position (written ++ '"' :: rest) =
      .ok (text.map .char, ⟨position + written.length + 1, rest⟩) := by
  induction spelled generalizing position with
  | nil => rfl
  | @cons c text form written formed _ ih =>
      have onward : position + form.length + written.length + 1 =
          position + (form ++ written).length + 1 := by
        rw [List.length_append]
        omega
      rw [List.append_assoc, stringFrom_form start position c form _ formed (by simp), ih, onward]
      rfl

theorem string_spelled (cursor : Cursor) (text written rest : Text)
    (spelled : Spelled text written) (ahead : cursor.rest = written ++ '"' :: rest) :
    ∃ last, string cursor = .ok (text.map .char, last) ∧ last.rest = rest := by
  rw [string, ahead, stringFrom_spelled _ _ text written rest spelled]
  exact ⟨_, rfl, rfl⟩

theorem shown_char (text : Text) : shown (text.map .char) = text := by
  rw [shown, List.map_map]
  exact List.map_id text

end Outliner.Json
