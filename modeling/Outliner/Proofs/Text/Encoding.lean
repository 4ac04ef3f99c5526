import Outliner.Text.Utf8

namespace Outliner.Text.Utf8

theorem following_eq (lead : UInt8) :
    following lead =
      if lead.toNat < 0x80 then some (0, 0, 0)
      else if 0xC2 ≤ lead.toNat ∧ lead.toNat ≤ 0xDF then some (1, 0x80, 0xBF)
      else if lead.toNat = 0xE0 then some (2, 0xA0, 0xBF)
      else if lead.toNat = 0xED then some (2, 0x80, 0x9F)
      else if 0xE1 ≤ lead.toNat ∧ lead.toNat ≤ 0xEF then some (2, 0x80, 0xBF)
      else if lead.toNat = 0xF0 then some (3, 0x90, 0xBF)
      else if 0xF1 ≤ lead.toNat ∧ lead.toNat ≤ 0xF3 then some (3, 0x80, 0xBF)
      else if lead.toNat = 0xF4 then some (3, 0x80, 0x8F)
      else none := by
  simp only [following, UInt8.lt_iff_toNat_lt, UInt8.le_iff_toNat_le, Bool.and_eq_true,
    decide_eq_true_eq, beq_iff_eq, ← UInt8.toNat_inj]
  rfl

theorem toNat_byte (n : Nat) (small : n < 256) : (UInt8.ofNat n).toNat = n := by
  rw [UInt8.toNat_ofNat']
  exact Nat.mod_eq_of_lt small

theorem continuation_cons (count : Nat) (low high : UInt8) (code size : Nat) (b : UInt8)
    (rest : List UInt8) (above : low.toNat ≤ b.toNat) (below : b.toNat ≤ high.toNat) :
    continuation (count + 1) low high code size (b :: rest) =
      continuation count 0x80 0xBF (code * 64 + (b.toNat - 0x80)) (size + 1) rest := by
  rw [continuation, if_pos]
  simp only [Bool.and_eq_true, decide_eq_true_eq, UInt8.le_iff_toNat_le]
  exact ⟨above, below⟩

theorem unitsFrom_pass (bytes rest : List UInt8) :
    unitsFrom bytes.length (bytes ++ rest) = unitsFrom 0 rest := by
  induction bytes with
  | nil => rfl
  | cons b bytes ih => rw [List.length_cons, List.cons_append, unitsFrom, ih]

theorem continuation_six (count : Nat) (low high : UInt8) (code size bits : Nat)
    (rest : List UInt8) (small : bits < 64) (above : low.toNat ≤ bits + 128)
    (below : bits + 128 ≤ high.toNat) :
    continuation (count + 1) low high code size (UInt8.ofNat (bits + 128) :: rest) =
      continuation count 0x80 0xBF (code * 64 + bits) (size + 1) rest := by
  have byte := toNat_byte (bits + 128) (by omega)
  rw [continuation_cons count low high code size _ rest (by omega) (by omega), byte,
    Nat.add_sub_cancel]

theorem leadBits_zero (lead : UInt8) : leadBits lead 0 = lead.toNat := rfl

theorem leadBits_one (lead : UInt8) : leadBits lead 1 = lead.toNat - 0xC0 := rfl

theorem leadBits_two (lead : UInt8) : leadBits lead 2 = lead.toNat - 0xE0 := rfl

theorem leadBits_three (lead : UInt8) : leadBits lead 3 = lead.toNat - 0xF0 := rfl

section Lengths

variable (code : Nat) (rest : List UInt8)

theorem unit_one (small : code ≤ 127) :
    unit (UInt8.ofNat code) rest = .char (Char.ofNat code) 1 := by
  have lead := toNat_byte code (by omega)
  have found : following (UInt8.ofNat code) = some (0, 0, 0) := by
    rw [following_eq, lead, if_pos (by omega)]
  simp only [unit, found, continuation, leadBits_zero, lead]

theorem unit_two (large : 127 < code) (small : code ≤ 2047) :
    unit (UInt8.ofNat (code / 64 % 32 + 192)) (UInt8.ofNat (code % 64 + 128) :: rest) =
      .char (Char.ofNat code) 2 := by
  have lead := toNat_byte (code / 64 % 32 + 192) (by omega)
  have found : following (UInt8.ofNat (code / 64 % 32 + 192)) = some (1, 0x80, 0xBF) := by
    rw [following_eq, lead, if_neg (by omega), if_pos (by omega)]
  have whole : (code / 64 % 32 + 192 - 0xC0) * 64 + code % 64 = code := by omega
  simp only [unit, found, leadBits_one, lead]
  rw [continuation_six _ _ _ _ _ _ _ (by omega) (by simp) (by simp; omega), continuation, whole]

theorem following_three (large : 2047 < code) (small : code ≤ 65535)
    (valid : code < 0xD800 ∨ 0xDFFF < code) :
    ∃ low high, following (UInt8.ofNat (code / 4096 % 16 + 224)) = some (2, low, high) ∧
      low.toNat ≤ code / 64 % 64 + 128 ∧ code / 64 % 64 + 128 ≤ high.toNat := by
  rw [following_eq, toNat_byte (code / 4096 % 16 + 224) (by omega), if_neg (by omega),
    if_neg (by omega)]
  split
  · exact ⟨_, _, rfl, by simp; omega, by simp; omega⟩
  · split
    · exact ⟨_, _, rfl, by simp, by simp; omega⟩
    · rw [if_pos (by omega)]
      exact ⟨_, _, rfl, by simp, by simp; omega⟩

theorem unit_three (large : 2047 < code) (small : code ≤ 65535)
    (valid : code < 0xD800 ∨ 0xDFFF < code) :
    unit (UInt8.ofNat (code / 4096 % 16 + 224))
        (UInt8.ofNat (code / 64 % 64 + 128) :: UInt8.ofNat (code % 64 + 128) :: rest) =
      .char (Char.ofNat code) 3 := by
  have lead := toNat_byte (code / 4096 % 16 + 224) (by omega)
  obtain ⟨low, high, found, above, below⟩ := following_three code large small valid
  have whole : ((code / 4096 % 16 + 224 - 0xE0) * 64 + code / 64 % 64) * 64 + code % 64 = code := by
    omega
  simp only [unit, found, leadBits_two, lead]
  rw [continuation_six _ _ _ _ _ _ _ (by omega) above below,
    continuation_six _ _ _ _ _ _ _ (by omega) (by simp) (by simp; omega), continuation, whole]

theorem following_four (large : 65535 < code) (small : code < 0x110000) :
    ∃ low high, following (UInt8.ofNat (code / 262144 % 8 + 240)) = some (3, low, high) ∧
      low.toNat ≤ code / 4096 % 64 + 128 ∧ code / 4096 % 64 + 128 ≤ high.toNat := by
  rw [following_eq, toNat_byte (code / 262144 % 8 + 240) (by omega), if_neg (by omega),
    if_neg (by omega), if_neg (by omega), if_neg (by omega), if_neg (by omega)]
  split
  · exact ⟨_, _, rfl, by simp; omega, by simp; omega⟩
  · split
    · exact ⟨_, _, rfl, by simp, by simp; omega⟩
    · rw [if_pos (by omega)]
      exact ⟨_, _, rfl, by simp, by simp; omega⟩

theorem unit_four (large : 65535 < code) (small : code < 0x110000) :
    unit (UInt8.ofNat (code / 262144 % 8 + 240))
        (UInt8.ofNat (code / 4096 % 64 + 128) :: UInt8.ofNat (code / 64 % 64 + 128) ::
          UInt8.ofNat (code % 64 + 128) :: rest) =
      .char (Char.ofNat code) 4 := by
  have lead := toNat_byte (code / 262144 % 8 + 240) (by omega)
  obtain ⟨low, high, found, above, below⟩ := following_four code large small
  have whole : (((code / 262144 % 8 + 240 - 0xF0) * 64 + code / 4096 % 64) * 64 +
      code / 64 % 64) * 64 + code % 64 = code := by
    omega
  simp only [unit, found, leadBits_three, lead]
  rw [continuation_six _ _ _ _ _ _ _ (by omega) above below,
    continuation_six _ _ _ _ _ _ _ (by omega) (by simp) (by simp; omega),
    continuation_six _ _ _ _ _ _ _ (by omega) (by simp) (by simp; omega), continuation, whole]

end Lengths

theorem unit_encode (c : Char) (rest : List UInt8) :
    ∃ lead tail, String.utf8EncodeChar c = lead :: tail ∧
      unit lead (tail ++ rest) = .char c (tail.length + 1) := by
  have same : Char.ofNat c.val.toNat = c := Char.ofNat_toNat c
  have valid : c.val.toNat < 0xD800 ∨ 0xDFFF < c.val.toNat ∧ c.val.toNat < 0x110000 := c.valid
  simp only [String.utf8EncodeChar]
  split
  · next small =>
      refine ⟨_, _, rfl, ?_⟩
      rw [unit_one _ _ small, same]
      rfl
  · split
    · next large small =>
        refine ⟨_, _, rfl, ?_⟩
        rw [List.singleton_append, unit_two _ _ (by omega) small, same]
        rfl
    · split
      · next large small =>
          refine ⟨_, _, rfl, ?_⟩
          rw [List.cons_append, List.singleton_append,
            unit_three _ _ (by omega) small (by omega), same]
          rfl
      · next large =>
          refine ⟨_, _, rfl, ?_⟩
          rw [List.cons_append, List.cons_append, List.singleton_append,
            unit_four _ _ (by omega) (by omega), same]
          rfl

theorem units_encode (c : Char) (rest : List UInt8) :
    ∃ size, units (String.utf8EncodeChar c ++ rest) = .char c size :: units rest := by
  obtain ⟨lead, tail, bytes, read⟩ := unit_encode c rest
  refine ⟨tail.length + 1, ?_⟩
  rw [bytes, List.cons_append, units, unitsFrom, read]
  exact congrArg _ (unitsFrom_pass tail rest)

theorem decode?_encode (text : Text) : decode? (encode text) = some text := by
  rw [decode?]
  induction text with
  | nil => rfl
  | cons c rest ih =>
      obtain ⟨size, first⟩ := units_encode c (encode rest)
      rw [encode, List.flatMap_cons, ← encode, first, List.mapM_cons, ih]
      rfl

end Outliner.Text.Utf8
