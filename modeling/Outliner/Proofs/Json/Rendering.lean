import Outliner.Proofs.Json.Numerals
import Outliner.Proofs.Json.Spelling
import Outliner.Proofs.Json.Writable

/-!
Decoding inverts rendering: whatever the blanks and the forms of the characters, a rendering of a
document is read as the value of the document, and so it has the outline of that value.
-/

namespace Outliner.Json

theorem isBlank_of_blanks (blanks : Text) (blank : Blanks blanks) :
    ∀ c ∈ blanks, isBlank c = true := by
  have each : [' ', '\t', '\n', '\r'].all isBlank = true := by decide
  intro c among
  exact List.all_eq_true.mp each c (blank c among)

theorem rest_skipBlank (cursor : Cursor) (blanks rest : Text) (blank : Blanks blanks)
    (solid : rest.takeWhile isBlank = []) (ahead : cursor.rest = blanks ++ rest) :
    cursor.skipBlank.rest = rest := by
  have passed : cursor.rest.takeWhile isBlank = blanks := by
    rw [ahead, List.takeWhile_append_of_pos (isBlank_of_blanks blanks blank), solid,
      List.append_nil]
  rw [Cursor.skipBlank, Cursor.advance, passed, ahead, List.drop_left]

theorem rest_advance (cursor : Cursor) (token : Char) (rest : Text)
    (ahead : cursor.rest = token :: rest) : (cursor.advance 1).rest = rest := by
  rw [Cursor.advance, ahead, List.drop_one, List.tail_cons]

theorem token_after_blanks (cursor : Cursor) (blanks : Text) (token : Char) (rest : Text)
    (blank : Blanks blanks) (solid : isBlank token = false)
    (ahead : cursor.rest = blanks ++ token :: rest) :
    cursor.skipBlank.rest = token :: rest ∧ (cursor.skipBlank.advance 1).rest = rest := by
  have stops : (token :: rest).takeWhile isBlank = [] := by
    rw [List.takeWhile_cons, solid, if_neg Bool.false_ne_true]
  have skipped := rest_skipBlank cursor blanks _ blank stops ahead
  exact ⟨skipped, rest_advance _ token rest skipped⟩

def Reads (reader : Reader) (text : Text) (meant : Value) : Prop :=
  ∀ (cursor : Cursor) (rest : Text), Delimited rest → cursor.rest = text ++ rest →
    ∃ last, reader cursor = .ok (meant, last) ∧ last.rest = rest

/-- A text that starts with a token other than a closing one. -/
def Starts (text : Text) : Prop :=
  ∃ c later, text = c :: later ∧ c ∉ [' ', '\t', '\n', '\r', ']', '\x7d', '\uFEFF']

theorem starts_append (text rest : Text) (starts : Starts text) : Starts (text ++ rest) := by
  rcases starts with ⟨c, later, rfl, token⟩
  exact ⟨c, later ++ rest, rfl, token⟩

theorem solid_of_starts (text : Text) (starts : Starts text) : text.takeWhile isBlank = [] := by
  rcases starts with ⟨c, later, rfl, token⟩
  have solid : isBlank c = false := by
    simp only [List.mem_cons, not_or] at token
    simp [isBlank, token]
  rw [List.takeWhile_cons, solid, if_neg Bool.false_ne_true]

section Lists

variable {α β : Type}

/-- A reader of lists takes a text for one part, which ends the list at the closing bracket and
precedes the other parts at a comma. -/
structure ReadsPart (closer : Char) (read : Nat → Cursor → Except Fault (List β × Cursor))
    (text : Text) (part : β) : Prop where
  last : ∀ (count : Nat) (cursor : Cursor) (blanks rest : Text), Blanks blanks →
    cursor.rest = text ++ (blanks ++ closer :: rest) →
    ∃ last, read (count + 1) cursor = .ok ([part], last) ∧ last.rest = rest
  more : ∀ (count : Nat) (cursor : Cursor) (blanks rest : Text), Blanks blanks →
    cursor.rest = text ++ (blanks ++ ',' :: rest) →
    ∃ next : Cursor, next.rest = rest ∧
      read (count + 1) cursor =
        (read count next.skipBlank).map fun (parts, last) => (part :: parts, last)

variable (written : α → Text → Prop) (starts : ∀ part text, written part text → Starts text)
include starts

theorem starts_listed (parts : List α) (inner : Text) (listed : Listed written parts inner) :
    Starts inner := by
  cases listed with
  | last first _ => exact starts_append _ _ (starts _ _ first)
  | more first _ _ _ => exact starts_append _ _ (starts _ _ first)

theorem length_listed (parts : List α) (inner : Text) (listed : Listed written parts inner) :
    parts.length ≤ inner.length := by
  induction listed with
  | @last part text after first _ =>
      rcases starts part text first with ⟨c, later, rfl, _⟩
      simp
  | @more part parts text after before rest first _ _ _ ih =>
      simp only [List.length_append, List.length_cons]
      omega

theorem read_listed (meaning : α → β) (closer : Char)
    (read : Nat → Cursor → Except Fault (List β × Cursor)) (parts : List α) (inner : Text)
    (listed : Listed written parts inner)
    (reads : ∀ part ∈ parts, ∀ text, written part text →
      ReadsPart closer read text (meaning part))
    (count : Nat) (cursor : Cursor) (rest : Text) (enough : parts.length ≤ count)
    (ahead : cursor.rest = inner ++ closer :: rest) :
    ∃ last, read count cursor = .ok (parts.map meaning, last) ∧ last.rest = rest := by
  induction listed generalizing count cursor with
  | @last part text blanks first blank =>
      cases count with
      | zero => exact nomatch enough
      | succ count =>
          rw [List.append_assoc] at ahead
          exact (reads part List.mem_cons_self text first).last count cursor blanks rest blank ahead
  | @more part parts text blanks before later first blank blankBefore others ih =>
      cases count with
      | zero => exact nomatch enough
      | succ count =>
          rw [List.forall_mem_cons] at reads
          simp only [List.append_assoc, List.cons_append] at ahead
          rcases (reads.1 text first).more count cursor blanks _ blank ahead with
            ⟨next, left, step⟩
          have solid := solid_of_starts _ (starts_append later (closer :: rest)
            (starts_listed written starts parts later others))
          have skipped := rest_skipBlank next before _ blankBefore solid left
          rcases ih reads.2 count next.skipBlank (Nat.le_of_succ_le_succ enough) skipped with
            ⟨last, found, done⟩
          refine ⟨last, ?_, done⟩
          rw [step, found]
          rfl

theorem read_after_blanks (meaning : α → β) (closer : Char) (closing : closer ∈ [']', '\x7d'])
    (read : Nat → Cursor → Except Fault (List β × Cursor)) (parts : List α) (inner : Text)
    (listed : Listed written parts inner)
    (reads : ∀ part ∈ parts, ∀ text, written part text →
      ReadsPart closer read text (meaning part))
    (cursor : Cursor) (before rest : Text) (blank : Blanks before)
    (ahead : cursor.rest = before ++ (inner ++ closer :: rest)) :
    (∀ later, cursor.skipBlank.rest ≠ closer :: later) ∧
      ∃ last, read cursor.skipBlank.rest.length cursor.skipBlank = .ok (parts.map meaning, last) ∧
        last.rest = rest := by
  have opening := starts_append inner (closer :: rest)
    (starts_listed written starts parts inner listed)
  have start := rest_skipBlank cursor before _ blank (solid_of_starts _ opening) ahead
  have enough : parts.length ≤ cursor.skipBlank.rest.length := by
    have fewer := length_listed written starts parts inner listed
    rw [start, List.length_append]
    omega
  refine ⟨?_, read_listed written starts meaning closer read parts inner listed reads _ _ rest
    enough start⟩
  intro later closed
  rcases opening with ⟨c, others, split, token⟩
  rw [start, split, List.cons.injEq] at closed
  rw [closed.1] at token
  apply token
  simp only [List.mem_cons, List.not_mem_nil, or_false] at closing
  rcases closing with rfl | rfl
  · decide
  · decide

end Lists

theorem readsPart_item (item : Reader) (text : Text) (meant : Value)
    (reads : Reads item text meant) : ReadsPart ']' (itemsFrom item) text meant where
  last := by
    intro count cursor blanks rest blank ahead
    have delimited := delimited_blanks blanks _ blank (delimited_cons ']' rest (by decide))
    rcases reads cursor _ delimited ahead with ⟨after, found, left⟩
    have closing := token_after_blanks after blanks ']' rest blank rfl left
    simp only [itemsFrom, found, closing.1, bind, Except.bind]
    exact ⟨_, rfl, closing.2⟩
  more := by
    intro count cursor blanks rest blank ahead
    have delimited := delimited_blanks blanks _ blank (delimited_cons ',' rest (by decide))
    rcases reads cursor _ delimited ahead with ⟨after, found, left⟩
    have comma := token_after_blanks after blanks ',' rest blank rfl left
    refine ⟨after.skipBlank.advance 1, comma.2, ?_⟩
    simp only [itemsFrom, found, comma.1, bind, Except.bind]
    cases itemsFrom item count (after.skipBlank.advance 1).skipBlank <;> rfl

theorem starts_written (document : Document) (text : Text) (written : Written document text) :
    Starts text := by
  cases written with
  | null => exact ⟨'n', _, rfl, by decide⟩
  | true => exact ⟨'t', _, rfl, by decide⟩
  | false => exact ⟨'f', _, rfl, by decide⟩
  | natural size short =>
      rcases ofNat_eq_cons size with ⟨c, later, numeral, digit⟩
      refine ⟨c, later, numeral, ?_⟩
      exact not_mem_of_digit c _ digit (by decide)
  | negative size short => exact ⟨'-', _, rfl, by decide⟩
  | text spelled => exact ⟨'"', _, rfl, by decide⟩
  | emptyArray blank => exact ⟨'[', _, rfl, by decide⟩
  | array blank listed => exact ⟨'[', _, rfl, by decide⟩
  | emptyObject blank => exact ⟨'\x7b', _, rfl, by decide⟩
  | object blank listed => exact ⟨'\x7b', _, rfl, by decide⟩

theorem starts_writtenMember (member : Text × Document) (text : Text)
    (written : WrittenMember member text) : Starts text := by
  cases written
  exact ⟨'"', _, rfl, by decide⟩

theorem read_member (item : Reader) (member : Text × Document) (text : Text)
    (written : WrittenMember member text)
    (reads : ∀ inner, Written member.2 inner → Reads item inner member.2.value)
    (cursor : Cursor) (rest : Text) (delimited : Delimited rest)
    (ahead : cursor.rest = text ++ rest) :
    ∃ quoted afterName later after, cursor.rest = '"' :: quoted ∧
      string (cursor.advance 1) = .ok (member.1.map .char, afterName) ∧
      afterName.skipBlank.rest = ':' :: later ∧
      item (afterName.skipBlank.advance 1).skipBlank = .ok (member.2.value, after) ∧
      after.rest = rest := by
  cases written with
  | @mk name spelled between before inner document formed blankBetween blankBefore valued =>
      simp only [List.append_assoc, List.cons_append] at ahead
      rcases string_spelled (cursor.advance 1) name spelled _ formed
        (rest_advance cursor '"' _ ahead) with ⟨afterName, named, left⟩
      have colon := token_after_blanks afterName between ':' _ blankBetween rfl left
      have solid := solid_of_starts _ (starts_append inner rest (starts_written _ _ valued))
      have start := rest_skipBlank _ before _ blankBefore solid colon.2
      rcases reads inner valued _ rest delimited start with ⟨after, found, done⟩
      exact ⟨_, afterName, _, after, ahead, named, colon.1, found, done⟩

theorem readsPart_member (item : Reader) (member : Text × Document) (text : Text)
    (written : WrittenMember member text)
    (reads : ∀ inner, Written member.2 inner → Reads item inner member.2.value) :
    ReadsPart '\x7d' (membersFrom item) text (member.1.map .char, member.2.value) where
  last := by
    intro count cursor blanks rest blank ahead
    have delimited := delimited_blanks blanks _ blank (delimited_cons '\x7d' rest (by decide))
    rcases read_member item member text written reads cursor _ delimited ahead with
      ⟨quoted, afterName, later, after, opening, named, colon, found, left⟩
    have closing := token_after_blanks after blanks '\x7d' rest blank rfl left
    simp only [membersFrom, opening, named, colon, found, closing.1, bind, Except.bind]
    exact ⟨_, rfl, closing.2⟩
  more := by
    intro count cursor blanks rest blank ahead
    have delimited := delimited_blanks blanks _ blank (delimited_cons ',' rest (by decide))
    rcases read_member item member text written reads cursor _ delimited ahead with
      ⟨quoted, afterName, later, after, opening, named, colon, found, left⟩
    have comma := token_after_blanks after blanks ',' rest blank rfl left
    refine ⟨after.skipBlank.advance 1, comma.2, ?_⟩
    simp only [membersFrom, opening, named, colon, found, comma.1, bind, Except.bind]
    cases membersFrom item count (after.skipBlank.advance 1).skipBlank <;> rfl

theorem arrayRest_written (item : Reader) (items : List Document) (inner : Text)
    (listed : Listed Written items inner)
    (reads : ∀ part ∈ items, ∀ text, Written part text → Reads item text part.value)
    (cursor : Cursor) (before rest : Text) (blank : Blanks before)
    (ahead : cursor.rest = before ++ (inner ++ ']' :: rest)) :
    ∃ last, arrayRest item cursor = .ok ((Document.array items).value, last) ∧
      last.rest = rest := by
  have parts : ∀ part ∈ items, ∀ text, Written part text →
      ReadsPart ']' (itemsFrom item) text part.value := by
    intro part among text written
    exact readsPart_item item text _ (reads part among text written)
  rcases read_after_blanks Written starts_written Document.value ']' (by decide) (itemsFrom item)
    items inner listed parts cursor before rest blank ahead with ⟨nonempty, last, found, done⟩
  refine ⟨last, ?_, done⟩
  -- `nonempty` rules out the empty array in the match on what is left
  simp only [arrayRest, found]
  rw [Document.value, Document.itemValues_eq_map]
  rfl

theorem put_points (name : Text) (value : Value) (members : List (Text × Value)) :
    put (name.map Point.char) value (members.map fun member => (member.1.map .char, member.2)) =
      (put name value members).map fun member => (member.1.map .char, member.2) := by
  induction members with
  | nil => rfl
  | cons first rest ih =>
      have same : first.1.map Point.char = name.map .char ↔ first.1 = name :=
        List.map_inj_right fun _ _ => Point.char.inj
      simp only [List.map_cons, put, same, ih]
      split <;> rfl

theorem collapse_points (members : List (Text × Value)) :
    (collapse (members.map fun member => (member.1.map Point.char, member.2))).map
        (fun member => (shown member.1, member.2)) = collapse members := by
  have points : collapse (members.map fun member => (member.1.map Point.char, member.2)) =
      (collapse members).map fun member => (member.1.map .char, member.2) := by
    induction members using List.reverseRecOn with
    | nil => rfl
    | append_singleton members member ih =>
        rw [collapse, collapse, List.map_append, List.foldl_append, List.foldl_append, ← collapse,
          ← collapse, ih]
        exact put_points member.1 member.2 (collapse members)
  rw [points, List.map_map]
  simp only [Function.comp_def, shown_char, List.map_id']

theorem objectRest_written (item : Reader) (members : List (Text × Document)) (inner : Text)
    (listed : Listed WrittenMember members inner)
    (reads : ∀ part ∈ members, ∀ text, Written part.2 text → Reads item text part.2.value)
    (cursor : Cursor) (before rest : Text) (blank : Blanks before)
    (ahead : cursor.rest = before ++ (inner ++ '\x7d' :: rest)) :
    ∃ last, objectRest item cursor = .ok ((Document.object members).value, last) ∧
      last.rest = rest := by
  have parts : ∀ part ∈ members, ∀ text, WrittenMember part text →
      ReadsPart '\x7d' (membersFrom item) text (part.1.map .char, part.2.value) := by
    intro part among text written
    exact readsPart_member item part text written (reads part among)
  rcases read_after_blanks WrittenMember starts_writtenMember _ '\x7d' (by decide)
    (membersFrom item) members inner listed parts cursor before rest blank ahead with
    ⟨nonempty, last, found, done⟩
  refine ⟨last, ?_, done⟩
  simp only [objectRest, found]
  rw [Document.value, Document.memberValues_eq_map, ← collapse_eq_settled, ← collapse_points,
    List.map_map]
  rfl

section Values

variable (depth : Nat) (cursor : Cursor)

theorem value_simple (c : Char) (later : Text) (ahead : cursor.rest = c :: later)
    (plain : c ∉ ['"', '[', '\x7b']) : value depth cursor = simpleValue cursor := by
  have apart : ∀ opener ∈ ['"', '[', '\x7b'], ∀ tail, cursor.rest = opener :: tail → False := by
    intro opener among tail same
    rw [ahead, List.cons.injEq] at same
    rw [same.1] at plain
    exact plain among
  unfold value
  split
  · next same => exact (apart '"' (by decide) _ same).elim
  · next same => exact (apart '[' (by decide) _ same).elim
  · next same => exact (apart '\x7b' (by decide) _ same).elim
  · next same => exact (apart '[' (by decide) _ same).elim
  · next same => exact (apart '\x7b' (by decide) _ same).elim
  · rfl

theorem value_text (later : Text) (ahead : cursor.rest = '"' :: later) :
    value depth cursor =
      (string (cursor.advance 1)).map fun (points, last) => (.text (shown points), last) := by
  unfold value
  simp only [ahead]
  cases string (cursor.advance 1) <;> rfl

theorem value_array (later : Text) (ahead : cursor.rest = '[' :: later) :
    value (depth + 1) cursor = arrayRest (value depth) (cursor.advance 1) := by
  unfold value
  simp only [ahead]

theorem value_object (later : Text) (ahead : cursor.rest = '\x7b' :: later) :
    value (depth + 1) cursor = objectRest (value depth) (cursor.advance 1) := by
  unfold value
  simp only [ahead]

theorem reads_word (word : Text) (meant : Value)
    (known : ∀ rest, word? (word ++ rest) = some (meant, word.length))
    (opening : ∃ c later, word = c :: later ∧ c ∉ ['"', '[', '\x7b']) :
    Reads (value depth) word meant := by
  intro cursor rest _ ahead
  rcases opening with ⟨c, later, rfl, plain⟩
  rw [value_simple depth cursor c _ ahead plain]
  exact simpleValue_word _ meant cursor rest (by rw [ahead, known]) ahead

theorem reads_numeral (negative : Bool) (size : Nat) (short : (Text.ofNat size).length ≤ 4300) :
    Reads (value depth) (sign negative ++ Text.ofNat size)
      (.integer (if negative then -size else size)) := by
  intro cursor rest delimited ahead
  rw [List.append_assoc] at ahead
  have simple : value depth cursor = simpleValue cursor := by
    cases negative with
    | true => exact value_simple depth cursor '-' _ ahead (by decide)
    | false =>
        rcases ofNat_eq_cons size with ⟨c, later, numeral, digit⟩
        have plain := not_mem_of_digit c ['"', '[', '\x7b'] digit (by decide)
        rw [numeral] at ahead
        exact value_simple depth cursor c _ ahead plain
  rw [simple]
  exact simpleValue_numeral negative size cursor rest short delimited ahead

theorem reads_text (meant written : Text) (spelled : Spelled meant written) :
    Reads (value depth) ('"' :: (written ++ ['"'])) (.text meant) := by
  intro cursor rest _ ahead
  simp only [List.cons_append, List.append_assoc, List.nil_append] at ahead
  rcases string_spelled (cursor.advance 1) meant written rest spelled
    (rest_advance cursor '"' _ ahead) with ⟨last, found, done⟩
  rw [value_text depth cursor _ ahead, found]
  refine ⟨last, ?_, done⟩
  simp only [Except.map, shown_char]

theorem reads_array (items : List Document) (text : Text) (written : Written (.array items) text)
    (each : ∀ part ∈ items, ∀ text, Written part text → Reads (value depth) text part.value) :
    Reads (value (depth + 1)) text (Document.array items).value := by
  intro cursor rest _ ahead
  cases written with
  | @emptyArray blanks blank =>
      simp only [List.cons_append, List.append_assoc, List.nil_append] at ahead
      have closing := token_after_blanks _ blanks ']' rest blank rfl
        (rest_advance cursor '[' _ ahead)
      rw [value_array depth cursor _ ahead]
      simp only [arrayRest, closing.1]
      exact ⟨_, rfl, closing.2⟩
  | @array _ before inner blank listed =>
      simp only [List.cons_append, List.append_assoc, List.nil_append] at ahead
      rw [value_array depth cursor _ ahead]
      exact arrayRest_written (value depth) items inner listed each _ before rest blank
        (rest_advance cursor '[' _ ahead)

theorem reads_object (members : List (Text × Document)) (text : Text)
    (written : Written (.object members) text)
    (each : ∀ part ∈ members, ∀ text, Written part.2 text →
      Reads (value depth) text part.2.value) :
    Reads (value (depth + 1)) text (Document.object members).value := by
  intro cursor rest _ ahead
  cases written with
  | @emptyObject blanks blank =>
      simp only [List.cons_append, List.append_assoc, List.nil_append] at ahead
      have closing := token_after_blanks _ blanks '\x7d' rest blank rfl
        (rest_advance cursor '\x7b' _ ahead)
      rw [value_object depth cursor _ ahead]
      simp only [objectRest, closing.1]
      exact ⟨_, rfl, closing.2⟩
  | @object _ before inner blank listed =>
      simp only [List.cons_append, List.append_assoc, List.nil_append] at ahead
      rw [value_object depth cursor _ ahead]
      exact objectRest_written (value depth) members inner listed each _ before rest blank
        (rest_advance cursor '\x7b' _ ahead)

end Values

/-- Every text of a document is read as its value. The induction is on the depth that is left to the
reader, since the parts of a composite are read with one level less. -/
theorem reads_value (depth : Nat) (document : Document) (text : Text)
    (written : Written document text) (nested : document.depth ≤ depth) :
    Reads (value depth) text document.value := by
  induction depth using Nat.strongRecOn generalizing document text with
  | ind depth ih =>
      cases document with
      | null =>
          cases written
          exact reads_word depth _ _ (fun _ => rfl) ⟨'n', _, rfl, by decide⟩
      | bool value =>
          cases written with
          | true => exact reads_word depth _ _ (fun _ => rfl) ⟨'t', _, rfl, by decide⟩
          | false => exact reads_word depth _ _ (fun _ => rfl) ⟨'f', _, rfl, by decide⟩
      | integer value short =>
          cases written with
          | natural size => exact reads_numeral depth false size (by simpa using short)
          | negative size => exact reads_numeral depth true size (by simpa using short)
      | text value =>
          cases written with
          | text spelled => exact reads_text depth value _ spelled
      | array items =>
          cases depth with
          | zero => exact nomatch nested
          | succ depth =>
              have within := Nat.le_of_succ_le_succ nested
              apply reads_array depth items text written
              intro part among text written
              have shallow := Document.depth_le_itemsDepth items part among
              exact ih depth (Nat.lt_succ_self depth) part text written
                (Nat.le_trans shallow within)
      | object members =>
          cases depth with
          | zero => exact nomatch nested
          | succ depth =>
              have within := Nat.le_of_succ_le_succ nested
              rw [Document.membersDepth_eq_itemsDepth] at within
              apply reads_object depth members text written
              intro part among text written
              have shallow := Document.depth_le_itemsDepth _ part.2 (List.mem_map_of_mem among)
              exact ih depth (Nat.lt_succ_self depth) part.2 text written
                (Nat.le_trans shallow within)

theorem no_byteOrderMark (before text : Text) (blank : Blanks before) (starts : Starts text) :
    ∀ later, before ++ text ≠ '\uFEFF' :: later := by
  intro later marked
  cases before with
  | nil =>
      rcases starts with ⟨c, others, rfl, token⟩
      rw [List.nil_append, List.cons.injEq] at marked
      rw [marked.1] at token
      exact absurd token (by decide)
  | cons c others =>
      have among := blank c List.mem_cons_self
      rw [List.cons_append, List.cons.injEq] at marked
      rw [marked.1] at among
      exact absurd among (by decide)

theorem decode_rendering (document : Document) (text : Text)
    (nested : document.depth ≤ depthLimit) (rendered : document.Renders text) :
    decode text = .ok document.value := by
  rcases rendered with ⟨before, inner, after, blankBefore, written, blankAfter, rfl⟩
  have starts := starts_append inner after (starts_written document inner written)
  have unmarked := no_byteOrderMark before (inner ++ after) blankBefore starts
  have start := rest_skipBlank ⟨0, before ++ (inner ++ after)⟩ before _ blankBefore
    (solid_of_starts _ starts) rfl
  have delimited : Delimited (after ++ []) := delimited_blanks after [] blankAfter nofun
  rw [List.append_nil] at delimited
  rcases reads_value depthLimit document inner written nested _ after delimited start with
    ⟨last, found, left⟩
  have finished := rest_skipBlank last after [] blankAfter rfl (by rw [left, List.append_nil])
  -- `unmarked` rules out the mark in the match on the text
  simp only [decode, found, finished, bind, Except.bind, List.isEmpty_nil, if_true]
  rfl

/-- Decoding and mirroring agree. However a document is rendered, the outline of the text is that
of the document's value. -/
theorem outline_of_rendering (document : Document) (text : Text) (level : Int) (path : Text)
    (nested : document.depth ≤ 600) (rendered : document.Renders text) :
    outline text level path = mirror document.value level path := by
  have within : document.depth ≤ depthLimit := Nat.le_trans nested (by decide)
  exact outline_of_decode document.value level path text
    (decode_rendering document text within rendered)

/-- A name that is repeated in another spelling, with a member in between. -/
def mixedDocument : Document :=
  .object [(['a'], .integer 1 (by decide)),
    (['\n', '😀'], .array [.null, .bool true, .array [], .integer (-12) (by decide)]),
    (['a'], .text ['é', '/'])]

def mixedText : Text :=
  " \x7b\"a\" :1,\t\"\\n\\uD83d\\uDe00\":[null , true,[ ],-12]\r\n, ".toList ++
    "\"\\u0061\": \"é\\/\" \x7d\n".toList

theorem renders_mixedText : mixedDocument.Renders mixedText := by
  have none : Blanks [] := by decide
  have space : Blanks [' '] := by decide
  have tab : Blanks ['\t'] := by decide
  have line : Blanks ['\r', '\n'] := by decide
  have plain := Spelled.cons (CharForm.raw (c := 'a') (by decide) (by decide) (by decide)) .nil
  have numbered := Spelled.cons
    (CharForm.unit (c := 'a') (by decide : HexUnit 0x61 '0' '0' '6' '1')) .nil
  have pair := CharForm.pair (c := '😀') (by decide) (by decide : HexUnit 0xD83D 'D' '8' '3' 'd')
    (by decide : HexUnit 0xDE00 'D' 'e' '0' '0')
  have escaped := Spelled.cons
    (CharForm.short (c := '\n') (by decide : ('n', '\n') ∈ shortForms)) (.cons pair .nil)
  have slashed := Spelled.cons (CharForm.raw (c := 'é') (by decide) (by decide) (by decide))
    (.cons (CharForm.short (c := '/') (by decide : ('/', '/') ∈ shortForms)) .nil)
  have items := Listed.more Written.null space space (.more Written.true none none
    (.more (Written.emptyArray space) none none (.last (Written.negative 12 (by decide)) none)))
  have members := Listed.more (WrittenMember.mk plain space none (.natural 1 (by decide))) none tab
    (.more (WrittenMember.mk escaped none none (.array none items)) line space
      (.last (WrittenMember.mk numbered none space (.text slashed)) space))
  exact ⟨[' '], _, ['\n'], space, .object none members, by decide, by decide⟩

theorem outline_mixedText :
    mixedDocument.depth ≤ 600 ∧ mixedDocument.Renders mixedText ∧
      mixedDocument.value = .object [(['a'], .text ['é', '/']),
        (['\n', '😀'], .array [.null, .bool true, .array [], .integer (-12)])] ∧
      outline mixedText 0 "box.json".toList = mirror mixedDocument.value 0 "box.json".toList := by
  have nested : mixedDocument.depth ≤ 600 := by decide
  exact ⟨nested, renders_mixedText, rfl,
    outline_of_rendering mixedDocument mixedText 0 _ nested renders_mixedText⟩

end Outliner.Json
