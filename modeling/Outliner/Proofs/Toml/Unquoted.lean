import Outliner.Proofs.Toml.Written

namespace Outliner.Toml

theorem endsOddBackslashes_concat (text : Text) (c : Char) :
    endsOddBackslashes (text ++ [c]) = (c == '\\' && !endsOddBackslashes text) := by
  rw [endsOddBackslashes, endsOddBackslashes, List.reverse_append, List.reverse_singleton,
    List.singleton_append, List.takeWhile_cons]
  by_cases same : c = '\\'
  · rw [if_pos (by simpa using same), List.length_cons, same]
    rcases Nat.mod_two_eq_zero_or_one (text.reverse.takeWhile (· == '\\')).length with even | odd
    · simp [Nat.add_mod, even]
    · simp [Nat.add_mod, odd]
  · rw [if_neg (by simpa using same)]
    simp [same]

theorem endsOddBackslashes_append (text : Text) (c : Char) (rest : Text)
    (apart : ∀ d ∈ c :: rest, d ≠ '\\') : endsOddBackslashes (text ++ c :: rest) = false := by
  induction rest generalizing text c with
  | nil =>
      have own := apart c List.mem_cons_self
      rw [endsOddBackslashes_concat]
      simp [own]
  | cons d later ih =>
      rw [List.append_cons]
      exact ih (text ++ [c]) d (List.forall_mem_cons.mp apart).2

section Even

variable (before : Text) (even : endsOddBackslashes before = false)
include even

theorem odd_backslash : endsOddBackslashes (before ++ ['\\']) = true := by
  rw [endsOddBackslashes_concat, even]
  rfl

theorem even_pair : endsOddBackslashes (before ++ ['\\', '\\']) = false := by
  rw [List.append_cons, endsOddBackslashes_concat, odd_backslash before even]
  rfl

end Even

theorem even_form (hides : Char → Bool) (before : Text)
    (even : endsOddBackslashes before = false) (c : Char) (written : Text)
    (kind : Form hides c written) : endsOddBackslashes (before ++ written) = false := by
  have escaped (letter : Char) (digits : Text) (apart : ∀ d ∈ letter :: digits, d ≠ '\\') :
      endsOddBackslashes (before ++ '\\' :: letter :: digits) = false := by
    rw [List.append_cons]
    exact endsOddBackslashes_append (before ++ ['\\']) letter digits apart
  cases kind with
  | quote => exact escaped '"' [] (by simp)
  | backslash => exact even_pair before even
  | short => exact escaped 'u' _ (ne_of_mem_digits 'u' '\\' 4 _ (by decide) rfl)
  | long => exact escaped 'U' _ (ne_of_mem_digits 'U' '\\' 8 _ (by decide) rfl)
  | plain _ _ _ backslash =>
      exact endsOddBackslashes_append before c [] (by simpa using backslash)

def closedFrom (before text : Text) : Except Fault Unit :=
  match Text.cutAt '"' text with
  | [] => .ok ()
  | piece :: pieces => nothingAfterClose false false 0 ((before ++ piece) :: pieces)

theorem closedFrom_pass (before front rest : Text) (apart : '"' ∉ front) :
    closedFrom before (front ++ rest) = closedFrom (before ++ front) rest := by
  obtain ⟨piece, pieces, cut⟩ := Text.exists_cutAt '"' rest
  simp only [closedFrom, Text.cutAt_append '"' front rest piece pieces apart cut, cut,
    List.append_assoc]

theorem closedFrom_quote (before rest : Text) (odd : endsOddBackslashes before = true) :
    closedFrom before ('"' :: rest) = closedFrom [] rest := by
  have held : before.isEmpty = false := by
    cases before with
    | nil => cases odd
    | cons c later => rfl
  obtain ⟨piece, pieces, cut⟩ := Text.exists_cutAt '"' rest
  simp only [closedFrom, Text.cutAt_here, cut, List.append_nil, List.nil_append]
  rw [nothingAfterClose, held, if_neg Bool.false_ne_true, if_pos odd]

theorem closedFrom_end (before : Text) (even : endsOddBackslashes before = false) :
    closedFrom before ['"'] = .ok () := by
  rw [closedFrom, Text.cutAt_here]
  cases before with
  | nil => rfl
  | cons c rest =>
      simp only [List.append_nil, nothingAfterClose, even, List.isEmpty_cons, Bool.false_eq_true,
        if_false, Bool.not_false, Bool.true_or, if_true, Text.cutAt, List.isEmpty_nil]

theorem closedFrom_formed (before text : Text) (even : endsOddBackslashes before = false)
    (large : ∀ c ∈ text, isHidden c = true → 0xFF < c.toNat) :
    closedFrom before (formed isHidden text ++ ['"']) = .ok () := by
  induction text generalizing before with
  | nil => exact closedFrom_end before even
  | cons c rest ih =>
      rw [List.forall_mem_cons] at large
      have kind := form_kind isHidden c large.1
      have next := even_form isHidden before even c _ kind
      rw [formed, List.flatMap_cons, List.append_assoc, ← formed]
      have pass (written : Text) (after : endsOddBackslashes (before ++ written) = false)
          (apart : '"' ∉ written) :
          closedFrom before (written ++ (formed isHidden rest ++ ['"'])) = .ok () := by
        rw [closedFrom_pass before written _ apart]
        exact ih (before ++ written) after large.2
      generalize form isHidden c = written at kind next
      cases kind with
      | quote =>
          rw [List.cons_append, ← List.singleton_append, closedFrom_pass before ['\\'] _ (by decide),
            List.singleton_append, closedFrom_quote _ _ (odd_backslash before even)]
          exact ih [] rfl large.2
      | backslash => exact pass _ next (by decide)
      | short =>
          apply pass _ next
          rw [List.mem_cons, not_or]
          exact ⟨by decide, fun digit => ne_of_mem_digits 'u' '"' 4 _ (by decide) rfl _ digit rfl⟩
      | long =>
          apply pass _ next
          rw [List.mem_cons, not_or]
          exact ⟨by decide, fun digit => ne_of_mem_digits 'U' '"' 8 _ (by decide) rfl _ digit rfl⟩
      | plain _ _ quote _ => exact pass _ next (by simpa using quote.symm)

theorem checkClosed_formed (text : Text) (large : ∀ c ∈ text, isHidden c = true → 0xFF < c.toNat) :
    checkClosed '"' ('"' :: formed isHidden text ++ ['"']) = .ok () := by
  cases text with
  | nil => rfl
  | cons c rest =>
      have closed := closedFrom_formed [] (c :: rest) rfl large
      -- The text does not open with a quote, so that the literal has no three quotes.
      obtain ⟨d, later, whole, differ⟩ :=
        exists_formed_cons isHidden c rest (large c List.mem_cons_self)
      rw [checkClosed, List.cons_append, List.drop_one, List.tail_cons, whole, List.cons_append]
      rw [closedFrom, whole, List.cons_append] at closed
      obtain ⟨piece, pieces, cut⟩ := Text.exists_cutAt '"' (later ++ ['"'])
      rw [Text.cutAt_pass '"' d _ piece pieces differ cut] at closed ⊢
      exact closed

def escapesFrom (text : Text) : Except Fault Unit :=
  checkEscapes false ((Text.cutAt '\\' text).drop 1)

theorem escapesFrom_pass (c : Char) (rest : Text) (apart : c ≠ '\\') :
    escapesFrom (c :: rest) = escapesFrom rest := by
  obtain ⟨piece, pieces, cut⟩ := Text.exists_cutAt '\\' rest
  rw [escapesFrom, escapesFrom, Text.cutAt_pass '\\' c rest piece pieces apart cut, cut]
  rfl

theorem escapesFrom_append (front rest : Text) (apart : ∀ c ∈ front, c ≠ '\\') :
    escapesFrom (front ++ rest) = escapesFrom rest := by
  induction front with
  | nil => rfl
  | cons c later ih =>
      rw [List.forall_mem_cons] at apart
      rw [List.cons_append, escapesFrom_pass c _ apart.1, ih apart.2]

theorem escapesFrom_known (c : Char) (rest : Text) (apart : c ≠ '\\')
    (known : ((escapes.lookup c).isNone && c != 'u' && c != 'U') = false) :
    escapesFrom ('\\' :: c :: rest) = escapesFrom rest := by
  obtain ⟨piece, pieces, cut⟩ := Text.exists_cutAt '\\' rest
  rw [escapesFrom, Text.cutAt_here, Text.cutAt_pass '\\' c rest piece pieces apart cut, List.drop_one,
    List.tail_cons, checkEscapes, known, Bool.false_and, if_neg Bool.false_ne_true, escapesFrom, cut,
    List.drop_one, List.tail_cons]

theorem escapesFrom_pair (rest : Text) :
    escapesFrom ('\\' :: '\\' :: rest) = escapesFrom rest := by
  rw [escapesFrom, Text.cutAt_here, Text.cutAt_here, List.drop_one, List.tail_cons, checkEscapes,
    Bool.not_false]
  cases rest with
  | nil => rfl
  | cons c later =>
      obtain ⟨piece, pieces, cut⟩ := Text.exists_cutAt '\\' later
      by_cases backslash : c = '\\'
      · rw [backslash, Text.cutAt_here, checkEscapes, escapesFrom, Text.cutAt_here]
        rfl
      · rw [escapesFrom, Text.cutAt_pass '\\' c later piece pieces backslash cut, checkEscapes]
        simp only [Bool.not_true, Bool.and_false, Bool.false_eq_true, if_false, List.drop_one,
          List.tail_cons]

theorem escapesFrom_formed (text rest : Text)
    (large : ∀ c ∈ text, isHidden c = true → 0xFF < c.toNat) :
    escapesFrom (formed isHidden text ++ rest) = escapesFrom rest := by
  induction text with
  | nil => rfl
  | cons c later ih =>
      rw [List.forall_mem_cons] at large
      have kind := form_kind isHidden c large.1
      rw [formed, List.flatMap_cons, List.append_assoc, ← formed, ← ih large.2]
      generalize form isHidden c = written at kind
      cases kind with
      | quote => exact escapesFrom_known '"' _ (by decide) (by decide)
      | backslash => exact escapesFrom_pair _
      | short =>
          exact (escapesFrom_known 'u' _ (by decide) (by decide)).trans (escapesFrom_append _ _
            fun d digit => Text.ne_of_mem_hex 4 _ d '\\' digit rfl)
      | long =>
          exact (escapesFrom_known 'U' _ (by decide) (by decide)).trans (escapesFrom_append _ _
            fun d digit => Text.ne_of_mem_hex 8 _ d '\\' digit rfl)
      | plain _ _ _ backslash => exact escapesFrom_pass c _ backslash

structure Spells (width : Nat) (c : Char) : Prop where
  length : (Text.hex width c.toNat).length = width
  checked : checkHex (Text.hex width c.toNat) = .ok ()
  read : charOfHex (Text.hex width c.toNat) = .ok c

theorem charOfHex_hex (width : Nat) (c : Char) : charOfHex (Text.hex width c.toNat) = .ok c := by
  have valid : c.toNat < 0xD800 ∨ 0xDFFF < c.toNat ∧ c.toNat < 0x110000 := c.valid
  have number := Text.hexNumber_hex width c.toNat
  rw [Text.hexNumber] at number
  have whole : (0xD800 ≤ c.toNat && c.toNat ≤ 0xDFFF) = false := by
    rw [Bool.and_eq_false_iff, decide_eq_false_iff_not, decide_eq_false_iff_not]
    omega
  rw [charOfHex, number, if_neg (by omega), if_neg (by omega), whole, if_neg Bool.false_ne_true,
    Char.ofNat_toNat]

theorem checkHex_of_first (digits : Text) (held : digits ≠ [])
    (each : ∀ c ∈ digits, (Text.hexValue? c).isSome = true)
    (first : ∀ rest, digits = 'd' :: rest → ∃ c later, rest = c :: later ∧ '0' ≤ c ∧ c ≤ '7') :
    checkHex digits = .ok () := by
  have all : (digits.any fun c => (Text.hexValue? c).isNone) = false := by
    rw [List.any_eq_false]
    intro c member none
    rw [Option.isNone_iff_eq_none] at none
    have some := each c member
    rw [none] at some
    cases some
  unfold checkHex
  rw [all, if_neg Bool.false_ne_true]
  split
  · exact absurd rfl held
  · next rest =>
      obtain ⟨c, later, rfl, low, high⟩ := first rest rfl
      simp only [low, high, decide_true, Bool.and_true, if_true]
  · rfl

theorem spells_short (c : Char) (small : c.toNat ≤ 0xFFFF) : Spells 4 c := by
  have valid : c.toNat < 0xD800 ∨ 0xDFFF < c.toNat ∧ c.toNat < 0x110000 := c.valid
  have length := Text.length_hex 4 c.toNat
    ((Nat.length_toDigits_le_iff (by decide) (by decide)).mpr (by omega))
  refine ⟨length, ?_, charOfHex_hex 4 c⟩
  apply checkHex_of_first
  · intro empty
    rw [empty] at length
    cases length
  · exact Text.hexValue?_of_mem_hex 4 c.toNat
  · intro rest whole
    have number := Text.hexNumber_hex 4 c.toNat
    have digits := Text.mem_hex 4 c.toNat
    rw [whole] at length number digits
    match rest with
    | [x, y, z] =>
        obtain ⟨high, small, rfl⟩ := digits x (by simp)
        obtain ⟨next, _, rfl⟩ := digits y (by simp)
        obtain ⟨low, _, rfl⟩ := digits z (by simp)
        -- A number that starts so is not that of a surrogate.
        have bound : high < 8 := by
          simp only [Text.hexNumber, List.foldl_cons, List.foldl_nil, Text.hexValue?_digitChar, *,
            Option.getD_some, show Text.hexValue? 'd' = some 13 from rfl] at number
          omega
        have bounds : ∀ digit < 8, '0' ≤ digit.digitChar ∧ digit.digitChar ≤ '7' := by decide
        exact ⟨_, _, rfl, bounds high bound⟩

theorem spells_long (c : Char) : Spells 8 c := by
  have valid : c.toNat < 0xD800 ∨ 0xDFFF < c.toNat ∧ c.toNat < 0x110000 := c.valid
  have short : (Nat.toDigits 16 c.toNat).length ≤ 6 :=
    (Nat.length_toDigits_le_iff (by decide) (by decide)).mpr (by omega)
  have length := Text.length_hex 8 c.toNat (by omega)
  refine ⟨length, ?_, charOfHex_hex 8 c⟩
  have zero : ∃ rest, Text.hex 8 c.toNat = '0' :: rest := by
    obtain ⟨count, more⟩ : ∃ count, 8 - (Nat.toDigits 16 c.toNat).length = count + 1 :=
      ⟨7 - (Nat.toDigits 16 c.toNat).length, by omega⟩
    rw [Text.hex_eq, more]
    exact ⟨_, rfl⟩
  obtain ⟨rest, whole⟩ := zero
  apply checkHex_of_first
  · rw [whole]
    exact List.cons_ne_nil '0' rest
  · exact Text.hexValue?_of_mem_hex 8 c.toNat
  · intro later same
    rw [whole] at same
    cases same

/-- The reading of escapes by number from a place in a literal. The flag tells that one has been
read: a mark counts from then on, whatever stands before it. -/
def numbersFrom (letter : Char) (width : Nat) (seen : Bool) (done text : Text) : Except Fault Text :=
  match Text.cutAtText ['\\', letter] text with
  | [] => .ok done
  | piece :: pieces =>
    readNumbered ['\\', letter] width (!seen && endsOddBackslashes (done ++ piece)) (done ++ piece)
      pieces

section Numbers

variable (letter : Char) (width : Nat)

theorem replaceNumbered_eq (literal : Text) :
    replaceNumbered ['\\', letter] width literal = numbersFrom letter width false [] literal := by
  obtain ⟨piece, pieces, cut⟩ := Text.exists_cutAtText ['\\', letter] literal
  rw [replaceNumbered, numbersFrom, cut]
  cases pieces with
  | nil =>
      rw [Text.eq_of_cutAtText '\\' letter literal piece cut]
      rfl
  | cons second rest => rfl

theorem numbersFrom_nil (seen : Bool) (done : Text) :
    numbersFrom letter width seen done [] = .ok done := by
  simp only [numbersFrom, Text.cutAtText, Text.cutAtTextFrom, List.append_nil, readNumbered]

theorem numbersFrom_pass (seen : Bool) (done : Text) (c : Char) (rest : Text)
    (apart : ¬ (c = '\\' ∧ rest.head? = some letter)) :
    numbersFrom letter width seen done (c :: rest) =
      numbersFrom letter width seen (done ++ [c]) rest := by
  obtain ⟨piece, pieces, cut⟩ := Text.exists_cutAtText ['\\', letter] rest
  simp only [numbersFrom, Text.cutAtText_cons '\\' letter c rest piece pieces apart cut, cut,
    List.append_assoc, List.singleton_append]

theorem numbersFrom_append (seen : Bool) (done front rest : Text)
    (apart : ∀ c ∈ front, c ≠ '\\') :
    numbersFrom letter width seen done (front ++ rest) =
      numbersFrom letter width seen (done ++ front) rest := by
  induction front generalizing done with
  | nil => rw [List.nil_append, List.append_nil]
  | cons c later ih =>
      rw [List.forall_mem_cons] at apart
      rw [List.cons_append, numbersFrom_pass _ _ _ _ _ _ (fun both => apart.1 both.1), ih _ apart.2,
        List.append_assoc, List.singleton_append]

theorem endsOddBackslashes_after (before : Text) (c : Char) (text : Text) (apart : c ≠ '\\') :
    endsOddBackslashes (before ++ c :: text) = endsOddBackslashes text := by
  have stop : (c :: before.reverse).takeWhile (· == '\\') = [] := by
    rw [List.takeWhile_cons, if_neg (by simpa using apart)]
  rw [endsOddBackslashes, endsOddBackslashes, List.reverse_append, List.reverse_cons,
    List.append_assoc, List.singleton_append, List.takeWhile_append, stop]
  split
  · next whole => rw [List.append_nil, whole]
  · rfl

theorem numbersFrom_odd (apart : letter ≠ '\\') (done rest : Text)
    (odd : endsOddBackslashes done = true) :
    numbersFrom letter width false done ('\\' :: rest) =
      numbersFrom letter width false (done ++ ['\\']) rest := by
  by_cases here : rest.head? = some letter
  · obtain ⟨later, rfl⟩ := List.head?_eq_some_iff.mp here
    obtain ⟨piece, pieces, cut⟩ := Text.exists_cutAtText ['\\', letter] later
    have after := endsOddBackslashes_after (done ++ ['\\']) letter piece apart
    rw [List.append_assoc, List.singleton_append] at after
    rw [numbersFrom_pass letter width false (done ++ ['\\']) letter later (fun both => apart both.1)]
    simp only [numbersFrom, Text.cutAtText_mark, cut, List.append_nil, odd, Bool.not_false,
      Bool.true_and, readNumbered, List.append_assoc, List.cons_append, List.nil_append, after]
  · exact numbersFrom_pass letter width false done '\\' rest (fun both => here both.2)

theorem numbersFrom_number (c : Char) (spells : Spells width c) (seen : Bool) (done rest : Text)
    (counts : seen = false → endsOddBackslashes done = false) :
    numbersFrom letter width seen done ('\\' :: letter :: Text.hex width c.toNat ++ rest) =
      numbersFrom letter width true (done ++ [c]) rest := by
  obtain ⟨piece, pieces, cut⟩ := Text.exists_cutAtText ['\\', letter] rest
  have digits := Text.cutAtText_append '\\' letter (Text.hex width c.toNat) rest piece pieces
    (fun d digit => Text.ne_of_mem_hex width _ d '\\' digit rfl) cut
  have flag : (!seen && endsOddBackslashes done) = false := by
    cases seen with
    | false => exact counts rfl
    | true => rfl
  have taken : (Text.hex width c.toNat ++ piece).take width = Text.hex width c.toNat := by
    rw [List.take_append_of_le_length (Nat.le_of_eq spells.length.symm),
      List.take_of_length_le (Nat.le_of_eq spells.length)]
  simp only [numbersFrom, List.cons_append, Text.cutAtText_mark, digits, List.append_nil, flag,
    readNumbered, taken, Text.lower_hex, spells.checked, spells.read, cut, bind, Except.bind,
    List.drop_left, Bool.not_true, Bool.false_and, List.append_assoc, List.nil_append]

end Numbers

inductive Stage (letter : Char) (width : Nat) (reads : Char → Bool) : Char → Text → Text → Prop where
  | quote (unread : reads '"' = false) : Stage letter width reads '"' ['\\', '"'] ['\\', '"']
  | backslash (unread : reads '\\' = false) :
    Stage letter width reads '\\' ['\\', '\\'] ['\\', '\\']
  | read (c : Char) (own : reads c = true) (spells : Spells width c) :
    Stage letter width reads c ('\\' :: letter :: Text.hex width c.toNat) [c]
  | kept (c : Char) (unread : reads c = false) (other : Char) (digits : Nat) (differ : other ≠ letter)
    (apart : other ≠ '\\') :
    Stage letter width reads c ('\\' :: other :: Text.hex digits c.toNat)
      ('\\' :: other :: Text.hex digits c.toNat)
  | plain (c : Char) (unread : reads c = false) (backslash : c ≠ '\\') :
    Stage letter width reads c [c] [c]

section Stages

variable (letter : Char) (width : Nat) (reads : Char → Bool) (mark : letter ∉ ['"', '\\'])
  (before after : Char → Text) (text : Text)
  (stages : ∀ c ∈ text, Stage letter width reads c (before c) (after c))
include mark stages

theorem head_stages (first : (text.flatMap before ++ ['"']).head? = some letter) :
    text.head? = some letter := by
  simp only [List.mem_cons, List.not_mem_nil, or_false, not_or] at mark
  cases text with
  | nil => exact absurd (Option.some.inj first).symm mark.1
  | cons c rest =>
      have stage := stages c List.mem_cons_self
      rw [List.flatMap_cons, List.append_assoc] at first
      generalize before c = written at stage first
      generalize after c = left at stage
      cases stage with
      | read => exact absurd (Option.some.inj first).symm mark.2
      | quote => exact absurd (Option.some.inj first).symm mark.2
      | backslash => exact absurd (Option.some.inj first).symm mark.2
      | kept => exact absurd (Option.some.inj first).symm mark.2
      | plain => exact first

theorem numbersFrom_seen (done : Text)
    (absent : Text.occursIn ['\\', letter] text = false) :
    numbersFrom letter width true done (text.flatMap before ++ ['"']) =
      .ok (done ++ text.flatMap after ++ ['"']) := by
  have apart := mark
  simp only [List.mem_cons, List.not_mem_nil, or_false, not_or] at apart
  induction text generalizing done with
  | nil =>
      rw [List.flatMap_nil, List.nil_append, numbersFrom_pass _ _ _ _ _ _ (by simp), numbersFrom_nil,
        List.flatMap_nil, List.append_nil]
  | cons c rest ih =>
      rw [List.forall_mem_cons] at stages
      rw [Text.occursIn_cons] at absent
      have later (done : Text) := ih stages.2 done absent.2
      have next := head_stages letter width reads mark before after rest stages.2
      have stage := stages.1
      rw [List.flatMap_cons, List.flatMap_cons, List.append_assoc]
      generalize before c = written at stage
      generalize after c = left at stage
      cases stage with
      | quote =>
          rw [List.cons_append, List.cons_append, numbersFrom_pass, numbersFrom_pass, List.nil_append,
            later]
          · simp
          · simp
          · simpa using Ne.symm apart.1
      | backslash =>
          rw [List.cons_append, List.cons_append, numbersFrom_pass, numbersFrom_pass, List.nil_append,
            later]
          · simp
          · rintro ⟨_, same⟩
            exact absent.1 ⟨rfl, next same⟩
          · simpa using Ne.symm apart.2
      | read c own spells =>
          rw [numbersFrom_number letter width c spells true done _ nofun, later]
          simp
      | kept c unread other digits differ backslash =>
          rw [List.cons_append, numbersFrom_pass, numbersFrom_append, later]
          · simp
          · exact ne_of_mem_digits other '\\' digits _ backslash rfl
          · simpa using differ
      | plain c unread backslash =>
          rw [List.singleton_append, numbersFrom_pass _ _ _ _ _ _ (fun both => backslash both.1), later]
          simp

theorem numbersFrom_stages (done : Text) (even : endsOddBackslashes done = false)
    (absent : Text.occursIn ['\\', letter] (text.dropWhile (!reads ·)) = false) :
    numbersFrom letter width false done (text.flatMap before ++ ['"']) =
      .ok (done ++ text.flatMap after ++ ['"']) := by
  have apart := mark
  simp only [List.mem_cons, List.not_mem_nil, or_false, not_or] at apart
  induction text generalizing done with
  | nil =>
      rw [List.flatMap_nil, List.nil_append, numbersFrom_pass _ _ _ _ _ _ (by simp), numbersFrom_nil,
        List.flatMap_nil, List.append_nil]
  | cons c rest ih =>
      rw [List.forall_mem_cons] at stages
      have later (unread : reads c = false) (done : Text) (even : endsOddBackslashes done = false) :=
        ih stages.2 done even (by
          rw [List.dropWhile_cons, unread] at absent
          exact absent)
      have stage := stages.1
      rw [List.flatMap_cons, List.flatMap_cons, List.append_assoc]
      generalize before c = written at stage
      generalize after c = left at stage
      cases stage with
      | quote unread =>
          rw [List.cons_append, List.cons_append, numbersFrom_pass, numbersFrom_pass, List.nil_append,
            later unread]
          · simp
          · exact endsOddBackslashes_append _ '"' [] (by simp)
          · simp
          · simpa using Ne.symm apart.1
      | backslash unread =>
          rw [List.cons_append, List.cons_append, numbersFrom_pass,
            numbersFrom_odd letter width apart.2 _ _ (odd_backslash done even), List.nil_append,
            later unread]
          · simp
          · rw [List.append_assoc]
            exact even_pair done even
          · simpa using Ne.symm apart.2
      | read c own spells =>
          have absent : Text.occursIn ['\\', letter] rest = false := by
            rw [List.dropWhile_cons, own, Bool.not_true, if_neg Bool.false_ne_true,
              Text.occursIn_cons] at absent
            exact absent.2
          rw [numbersFrom_number letter width c spells false done _ (fun _ => even),
            numbersFrom_seen letter width reads mark before after rest stages.2 _ absent]
          simp
      | kept c unread other digits differ backslash =>
          rw [List.cons_append, numbersFrom_pass, numbersFrom_append, later unread]
          · simp
          · exact endsOddBackslashes_append _ other _
              (ne_of_mem_digits other '\\' digits _ backslash rfl)
          · exact ne_of_mem_digits other '\\' digits _ backslash rfl
          · simpa using differ
      | plain c unread backslash =>
          rw [List.singleton_append, numbersFrom_pass _ _ _ _ _ _ (fun both => backslash both.1),
            later unread]
          · simp
          · exact endsOddBackslashes_append done c [] (by simpa using backslash)

end Stages

section Hidden

variable (c : Char) (hidden : isHidden c = true)
include hidden

theorem hidden_ne : c ≠ '"' ∧ c ≠ '\\' := by
  constructor
  · rintro rfl
    exact absurd hidden (by decide)
  · rintro rfl
    exact absurd hidden (by decide)

theorem form_eq (hides : Char → Bool) :
    form hides c = if hides c then Text.numbered c else [c] := by
  obtain ⟨quote, backslash⟩ := hidden_ne c hidden
  simp [form, quote, backslash]

end Hidden

theorem stage_short (c : Char) (large : isHidden c = true → 0xFF < c.toNat) :
    Stage 'u' 4 isShort c (form isHidden c) (form isLong c) := by
  have kind := form_kind isHidden c large
  generalize form isHidden c = written at kind
  cases kind with
  | quote => exact .quote (by decide)
  | backslash => exact .backslash (by decide)
  | short _ hidden _ small =>
      have left : form isLong c = [c] := by
        rw [form_eq c hidden, if_neg]
        simp only [isLong, hidden, Bool.true_and, decide_eq_true_eq]
        omega
      rw [left]
      exact .read c (by simp [isShort, hidden, small]) (spells_short c small)
  | long _ hidden large =>
      have left : form isLong c = '\\' :: 'U' :: Text.hex 8 c.toNat := by
        rw [form_eq c hidden, if_pos (by simp [isLong, hidden, large]), Text.numbered_long c large]
      rw [left]
      refine .kept c ?_ 'U' 8 (by decide) (by decide)
      simp only [isShort, hidden, Bool.true_and, decide_eq_false_iff_not]
      omega
  | plain _ shown quote backslash =>
      have left : form isLong c = [c] := by simp [form, quote, backslash, isLong, shown]
      rw [left]
      exact .plain c (by simp [isShort, shown]) backslash

theorem stage_long (c : Char) :
    Stage 'U' 8 isLong c (form isLong c) (form (fun _ => false) c) := by
  have large (long : isLong c = true) : isHidden c = true ∧ 0xFFFF < c.toNat := by
    simpa [isLong] using long
  have kind := form_kind isLong c (fun long => by have := (large long).2; omega)
  generalize form isLong c = written at kind
  cases kind with
  | quote => exact .quote (by decide)
  | backslash => exact .backslash (by decide)
  | short _ long _ small => exact absurd (large long).2 (by omega)
  | long _ long _ =>
      have left : form (fun _ => false) c = [c] := form_eq c (large long).1 fun _ => false
      rw [left]
      exact .read c long (spells_long c)
  | plain _ short quote backslash =>
      have left : form (fun _ => false) c = [c] := by simp [form, quote, backslash]
      rw [left]
      exact .plain c short backslash

theorem unescape_plain (c : Char) (rest : Text) (apart : c ≠ '\\') :
    unescape (c :: rest) = (unescape rest).map (c :: ·) := by
  rw [unescape]
  intro _ _ same
  exact absurd same apart

theorem unescape_formed (text : Text) :
    unescape (formed (fun _ => false) text ++ ['"']) = .ok (text ++ ['"']) := by
  induction text with
  | nil => rfl
  | cons c rest ih =>
      rw [formed, List.flatMap_cons, List.append_assoc, ← formed]
      have kind := form_kind (fun _ => false) c fun hidden => absurd hidden Bool.false_ne_true
      generalize form (fun _ => false) c = written at kind
      cases kind with
      | quote =>
          rw [List.cons_append, List.cons_append, List.nil_append, unescape, ih]
          rfl
      | backslash =>
          rw [List.cons_append, List.cons_append, List.nil_append, unescape, ih]
          rfl
      | short _ hidden => cases hidden
      | long _ hidden => cases hidden
      | plain _ _ _ backslash =>
          rw [List.singleton_append, unescape_plain c _ backslash, ih]
          rfl

theorem unquote_plain (text : Text) (opening : ['"', '"'].isPrefixOf (text ++ ['"']) = false) :
    unquote '"' ('"' :: text ++ ['"']) = text := by
  cases text with
  | nil => rfl
  | cons c rest =>
      have single : (c == '"' && (rest ++ ['"']).head?.all (· == c)) = false := by
        rw [List.cons_append, Bool.eq_false_iff, ne_eq, Text.isPrefixOf_mark] at opening
        rw [Bool.eq_false_iff, ne_eq, Bool.and_eq_true, beq_iff_eq]
        rintro ⟨rfl, next⟩
        apply opening
        refine ⟨rfl, ?_⟩
        cases head : (rest ++ ['"']).head? with
        | none => simp at head
        | some d =>
            rw [head] at next
            exact congrArg some (by simpa using next)
      simp only [unquote, List.cons_append, single, Bool.false_eq_true, if_false]
      exact inner_enclosed '"' '"' (c :: rest)

theorem stringValue_formed (text : Text) (legible : Legible text) :
    stringValue '"' ('"' :: formed isHidden text ++ ['"']) = .ok text := by
  have closed := checkClosed_formed text legible.hidden
  have known : checkEscapes false
      ((Text.cutAt '\\' ('"' :: formed isHidden text ++ ['"'])).drop 1) = .ok () := by
    rw [← escapesFrom, List.cons_append, escapesFrom_pass '"' _ (by decide),
      escapesFrom_formed text _ legible.hidden]
    rfl
  have short : replaceNumbered "\\u".toList 4 ('"' :: formed isHidden text ++ ['"']) =
      .ok ('"' :: formed isLong text ++ ['"']) := by
    have stages := numbersFrom_stages 'u' 4 isShort (by decide) (form isHidden) (form isLong) text
      (fun c member => stage_short c (legible.hidden c member)) ['"'] rfl legible.short
    rw [← formed, ← formed] at stages
    exact (replaceNumbered_eq 'u' 4 _).trans
      ((numbersFrom_pass 'u' 4 false [] '"' _ (fun both => absurd both.1 (by decide))).trans stages)
  have long : replaceNumbered "\\U".toList 8 ('"' :: formed isLong text ++ ['"']) =
      .ok ('"' :: formed (fun _ => false) text ++ ['"']) := by
    have stages := numbersFrom_stages 'U' 8 isLong (by decide) (form isLong) (form fun _ => false)
      text (fun c _ => stage_long c) ['"'] rfl legible.long
    rw [← formed, ← formed] at stages
    exact (replaceNumbered_eq 'U' 8 _).trans
      ((numbersFrom_pass 'U' 8 false [] '"' _ (fun both => absurd both.1 (by decide))).trans stages)
  have plain : unescape ('"' :: formed (fun _ => false) text ++ ['"']) =
      .ok ('"' :: text ++ ['"']) := by
    rw [List.cons_append, unescape_plain '"' _ (by decide), unescape_formed text]
    rfl
  simp only [stringValue, closed, known, short, long, plain, bind, Except.bind,
    unquote_plain text legible.opening, beq_self_eq_true, if_true]
  rfl

end Outliner.Toml
