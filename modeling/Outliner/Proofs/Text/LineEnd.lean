import Outliner.Proofs.Text.Encoding

namespace Outliner.Text

/-- The ways to write a newline. -/
inductive LineEnd where
  | lineFeed
  | both
  | carriageReturn
deriving DecidableEq, Repr

namespace LineEnd

def characters : LineEnd → Text
  | lineFeed => ['\n']
  | both => ['\r', '\n']
  | carriageReturn => ['\r']

def write (style : LineEnd) (text : Text) : Text :=
  text.flatMap fun c => if c = '\n' then style.characters else [c]

theorem write_cons (style : LineEnd) (c : Char) (rest : Text) :
    style.write (c :: rest) = (if c = '\n' then style.characters else [c]) ++ style.write rest :=
  rfl

theorem lineFeed_not_mem_write (text : Text) : '\n' ∉ carriageReturn.write text := by
  intro member
  obtain ⟨c, _, among⟩ := List.mem_flatMap.mp member
  split at among
  · exact absurd among (by decide)
  · next other => exact other (List.mem_singleton.mp among).symm

end LineEnd

theorem unifyNewlines_cons (c : Char) (rest : Text)
    (alone : c = '\r' → rest.head? ≠ some '\n') :
    unifyNewlines (c :: rest) = (if c = '\r' then '\n' else c) :: unifyNewlines rest := by
  rw [unifyNewlines]
  · simp only [beq_iff_eq]
  · rintro later rfl rfl
    exact alone rfl rfl

theorem unifyNewlines_write (style : LineEnd) (text : Text) (plain : '\r' ∉ text) :
    unifyNewlines (style.write text) = text := by
  induction text with
  | nil => rfl
  | cons c rest ih =>
      rw [List.mem_cons, not_or] at plain
      have later := ih plain.2
      rw [LineEnd.write_cons]
      by_cases newline : c = '\n'
      · rw [if_pos newline, newline]
        cases style with
        | lineFeed => exact congrArg _ later
        | both => exact congrArg _ later
        | carriageReturn =>
            have unpaired : (LineEnd.carriageReturn.write rest).head? ≠ some '\n' := fun first =>
              LineEnd.lineFeed_not_mem_write rest (List.mem_of_head? first)
            rw [LineEnd.characters, List.singleton_append,
              unifyNewlines_cons '\r' _ (fun _ => unpaired), if_pos rfl, later]
      · rw [if_neg newline, List.singleton_append,
          unifyNewlines_cons c _ (fun same => absurd same.symm plain.1),
          if_neg (Ne.symm plain.1), later]

namespace Utf8

theorem decodeLossy_of_decode? (bytes : List UInt8) (text : Text)
    (decoded : decode? bytes = some text) : decodeLossy bytes = text := by
  rw [decode?] at decoded
  rw [decodeLossy]
  generalize units bytes = found at decoded
  induction found generalizing text with
  | nil =>
      injection decoded
  | cons unit rest ih =>
      rw [List.mapM_cons] at decoded
      cases unit with
      | damaged size => cases decoded
      | char c size =>
          obtain ⟨first, same, later⟩ := Option.bind_eq_some_iff.mp decoded
          obtain ⟨others, read, whole⟩ := Option.bind_eq_some_iff.mp later
          injection same with same
          injection whole with whole
          rw [List.map_cons, ih others read, ← whole, ← same]

theorem decodeLossy_encode (text : Text) : decodeLossy (encode text) = text :=
  decodeLossy_of_decode? (encode text) text (decode?_encode text)

theorem dropMark_mark (bytes : List UInt8) : dropMark (mark ++ bytes) = bytes := rfl

theorem mark_eq : mark = String.utf8EncodeChar '\uFEFF' := by decide

theorem head_of_mark (text : Text) (bytes : List UInt8) (marked : encode text = mark ++ bytes) :
    text.head? = some '\uFEFF' := by
  have decoded := decode?_encode text
  obtain ⟨size, first⟩ := units_encode '\uFEFF' bytes
  rw [marked, mark_eq, decode?, first, List.mapM_cons] at decoded
  obtain ⟨c, same, later⟩ := Option.bind_eq_some_iff.mp decoded
  obtain ⟨others, _, whole⟩ := Option.bind_eq_some_iff.mp later
  injection same with same
  injection whole with whole
  rw [← whole, ← same, List.head?_cons]

theorem encode_of_cut_mark (text : Text) (short : (encode text).length < 3)
    (cut : (encode text).isPrefixOf mark = true) : encode text = [] := by
  have decoded := decode?_encode text
  obtain ⟨rest, whole⟩ := List.isPrefixOf_iff_prefix.mp cut
  match found : encode text with
  | [] => rfl
  | [a] =>
      rw [found] at decoded whole
      injection whole with first
      rw [first] at decoded
      exact absurd decoded (by simp [show decode? [0xEF] = none from rfl])
  | [a, b] =>
      rw [found] at decoded whole
      injection whole with first whole
      injection whole with second
      rw [first, second] at decoded
      exact absurd decoded (by simp [show decode? [0xEF, 0xBB] = none from rfl])
  | a :: b :: c :: others =>
      rw [found] at short
      simp only [List.length_cons] at short
      omega

theorem dropMark_encode (text : Text) (unmarked : text.head? ≠ some '\uFEFF') :
    dropMark (encode text) = encode text := by
  rw [dropMark]
  split
  · next short =>
      split
      · next cut => exact (encode_of_cut_mark text short cut).symm
      · rfl
  · rw [if_neg]
    intro marked
    obtain ⟨rest, whole⟩ := List.isPrefixOf_iff_prefix.mp marked
    exact unmarked (head_of_mark text rest whole.symm)

/-- The bytes of a file that holds a text, with newlines of one style, with or without a byte order
mark. -/
def file (style : LineEnd) (marked : Bool) (text : Text) : List UInt8 :=
  (if marked then mark else []) ++ encode (style.write text)

theorem head_write (style : LineEnd) (text : Text) (unmarked : text.head? ≠ some '\uFEFF') :
    (style.write text).head? ≠ some '\uFEFF' := by
  cases text with
  | nil => nofun
  | cons c rest =>
      rw [LineEnd.write_cons]
      split
      · cases style <;> simp [LineEnd.characters]
      · exact unmarked

theorem readSource_file (style : LineEnd) (marked : Bool) (text : Text) (plain : '\r' ∉ text)
    (unmarked : text.head? ≠ some '\uFEFF') : readSource (file style marked text) = text := by
  have bytes : dropMark (file style marked text) = encode (style.write text) := by
    cases marked with
    | true => exact dropMark_mark _
    | false => exact dropMark_encode _ (head_write style text unmarked)
  rw [readSource, bytes, decodeLossy_encode, unifyNewlines_write style text plain]

end Utf8

end Outliner.Text
