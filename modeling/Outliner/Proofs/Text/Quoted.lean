import Outliner.Proofs.Text.LowerCase
import Outliner.Text.Quoted

namespace Outliner.Text

theorem mem_toDigits (n : Nat) : ∀ c ∈ Nat.toDigits 16 n, ∃ digit < 16, c = Nat.digitChar digit := by
  induction n using Nat.strongRecOn with
  | ind n ih =>
      rw [Nat.toDigits_eq_if (by decide)]
      by_cases single : n < 16
      · rw [if_pos single]
        intro c member
        exact ⟨n, single, List.mem_singleton.mp member⟩
      · rw [if_neg single, List.forall_mem_append]
        refine ⟨ih (n / 16) (by omega), ?_⟩
        intro c member
        exact ⟨n % 16, Nat.mod_lt n (by decide), List.mem_singleton.mp member⟩

theorem hexValue?_digitChar : ∀ digit < 16, hexValue? (Nat.digitChar digit) = some digit := by decide

def hexNumber (digits : Text) : Nat :=
  digits.foldl (fun n c => 16 * n + (hexValue? c).getD 0) 0

theorem hexNumber_append (digits : Text) (c : Char) :
    hexNumber (digits ++ [c]) = 16 * hexNumber digits + (hexValue? c).getD 0 := by
  rw [hexNumber, List.foldl_append]
  rfl

theorem hexNumber_toDigits (n : Nat) : hexNumber (Nat.toDigits 16 n) = n := by
  induction n using Nat.strongRecOn with
  | ind n ih =>
      rw [Nat.toDigits_eq_if (by decide)]
      by_cases single : n < 16
      · rw [if_pos single, ← List.nil_append [n.digitChar], hexNumber_append,
          hexValue?_digitChar n single]
        exact Nat.zero_add n
      · rw [if_neg single, hexNumber_append, ih (n / 16) (by omega),
          hexValue?_digitChar (n % 16) (Nat.mod_lt n (by decide)), Option.getD_some]
        exact Nat.div_add_mod n 16

section Hex

variable (width n : Nat)

theorem hex_eq : hex width n =
    List.replicate (width - (Nat.toDigits 16 n).length) '0' ++ Nat.toDigits 16 n := rfl

theorem mem_hex : ∀ c ∈ hex width n, ∃ digit < 16, c = Nat.digitChar digit := by
  rw [hex_eq, List.forall_mem_append]
  refine ⟨?_, mem_toDigits n⟩
  intro c member
  exact ⟨0, by decide, List.eq_of_mem_replicate member⟩

theorem hexNumber_hex : hexNumber (hex width n) = n := by
  have zeros (count : Nat) (digits : Text) :
      hexNumber (List.replicate count '0' ++ digits) = hexNumber digits := by
    induction count with
    | zero => rfl
    | succ count ih => exact ih
  rw [hex_eq, zeros, hexNumber_toDigits]

theorem length_hex (fits : (Nat.toDigits 16 n).length ≤ width) : (hex width n).length = width := by
  rw [hex_eq, List.length_append, List.length_replicate]
  omega

theorem hexValue?_of_mem_hex : ∀ c ∈ hex width n, (hexValue? c).isSome = true := by
  intro c member
  obtain ⟨digit, small, rfl⟩ := mem_hex width n c member
  rw [hexValue?_digitChar digit small]
  rfl

theorem lower_hex : lower (hex width n) = hex width n := by
  have low : ∀ digit < 16, IsLower (Nat.digitChar digit) := by
    unfold IsLower
    decide
  apply lower_of_isLower
  intro c member
  obtain ⟨digit, small, rfl⟩ := mem_hex width n c member
  exact low digit small

end Hex

theorem ne_of_mem_hex (width n : Nat) (c other : Char) (member : c ∈ hex width n)
    (none : hexValue? other = none) : c ≠ other := by
  rintro rfl
  have some := hexValue?_of_mem_hex width n c member
  rw [none] at some
  cases some

section Numbered

variable (c : Char)

theorem numbered_short (large : 0xFF < c.toNat) (small : c.toNat ≤ 0xFFFF) :
    numbered c = '\\' :: 'u' :: hex 4 c.toNat := by
  simp only [numbered]
  rw [if_neg (by omega), if_pos small]

theorem numbered_long (large : 0xFFFF < c.toNat) :
    numbered c = '\\' :: 'U' :: hex 8 c.toNat := by
  simp only [numbered]
  rw [if_neg (by omega), if_neg (by omega)]

end Numbered

end Outliner.Text
