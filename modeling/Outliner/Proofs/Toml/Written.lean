import Outliner.Proofs.Text.Pieces
import Outliner.Proofs.Text.Quoted
import Outliner.Toml.Render

namespace Outliner.Toml

/-- A character that is written by number. -/
def isHidden (c : Char) : Bool :=
  !Text.isPrintable c

def isShort (c : Char) : Bool :=
  isHidden c && c.toNat ≤ 0xFFFF

def isLong (c : Char) : Bool :=
  isHidden c && 0xFFFF < c.toNat

/-- Whether the written form of a text can be told from other texts: no character is written with
two digits, nothing looks like the mark of such an escape, nothing after the first escape of a
length looks like the mark of a further one, and the text does not seem to open with three
quotes. -/
def isLegible (text : Text) : Bool :=
  text.all (fun c => !isHidden c || 0xFF < c.toNat) &&
    !Text.occursIn "\\x".toList text &&
    !Text.occursIn "\\u".toList (text.dropWhile (!isShort ·)) &&
    !Text.occursIn "\\U".toList (text.dropWhile (!isLong ·)) &&
    !"\"\"".toList.isPrefixOf (text ++ ['"'])

structure Legible (text : Text) : Prop where
  hidden : ∀ c ∈ text, isHidden c = true → 0xFF < c.toNat
  unmarked : Text.occursIn ['\\', 'x'] text = false
  short : Text.occursIn ['\\', 'u'] (text.dropWhile (!isShort ·)) = false
  long : Text.occursIn ['\\', 'U'] (text.dropWhile (!isLong ·)) = false
  opening : ['"', '"'].isPrefixOf (text ++ ['"']) = false

theorem legible_of_isLegible (text : Text) (held : isLegible text = true) : Legible text := by
  simp only [isLegible, Bool.and_eq_true, Bool.not_eq_true', List.all_eq_true, Bool.or_eq_true,
    decide_eq_true_eq] at held
  obtain ⟨⟨⟨⟨hidden, unmarked⟩, short⟩, long⟩, opening⟩ := held
  refine ⟨?_, unmarked, short, long, opening⟩
  intro c member own
  rcases hidden c member with shown | large
  · rw [shown] at own
    cases own
  · exact large

def form (hides : Char → Bool) (c : Char) : Text :=
  if c == '"' || c == '\\' then ['\\', c]
  else if hides c then Text.numbered c
  else [c]

def formed (hides : Char → Bool) (text : Text) : Text :=
  text.flatMap (form hides)

inductive Form (hides : Char → Bool) : Char → Text → Prop where
  | quote : Form hides '"' ['\\', '"']
  | backslash : Form hides '\\' ['\\', '\\']
  | short (c : Char) (hidden : hides c = true) (large : 0xFF < c.toNat) (small : c.toNat ≤ 0xFFFF) :
    Form hides c ('\\' :: 'u' :: Text.hex 4 c.toNat)
  | long (c : Char) (hidden : hides c = true) (large : 0xFFFF < c.toNat) :
    Form hides c ('\\' :: 'U' :: Text.hex 8 c.toNat)
  | plain (c : Char) (shown : hides c = false) (quote : c ≠ '"') (backslash : c ≠ '\\') :
    Form hides c [c]

section Forms

variable (hides : Char → Bool)

theorem form_kind (c : Char) (large : hides c = true → 0xFF < c.toNat) :
    Form hides c (form hides c) := by
  rw [form]
  split
  · next escaped =>
      rw [Bool.or_eq_true, beq_iff_eq, beq_iff_eq] at escaped
      rcases escaped with rfl | rfl
      · exact .quote
      · exact .backslash
  · next other =>
      rw [Bool.or_eq_true, beq_iff_eq, beq_iff_eq, not_or] at other
      split
      · next hidden =>
          by_cases small : c.toNat ≤ 0xFFFF
          · rw [Text.numbered_short c (large hidden) small]
            exact .short c hidden (large hidden) small
          · rw [Text.numbered_long c (by omega)]
            exact .long c hidden (by omega)
      · next shown => exact .plain c (by simpa using shown) other.1 other.2

theorem head_formed (text : Text) (large : ∀ c ∈ text, hides c = true → 0xFF < c.toNat) (mark : Char)
    (other : mark ≠ '\\') (first : (formed hides text).head? = some mark) :
    text.head? = some mark := by
  cases text with
  | nil => cases first
  | cons c rest =>
      have kind := form_kind hides c (large c List.mem_cons_self)
      rw [formed, List.flatMap_cons] at first
      generalize form hides c = written at kind first
      cases kind with
      | plain c => exact first
      | _ => exact absurd (Option.some.inj first).symm other

theorem exists_formed_cons (c : Char) (rest : Text) (large : hides c = true → 0xFF < c.toNat) :
    ∃ d later, formed hides (c :: rest) = d :: later ∧ d ≠ '"' := by
  have kind := form_kind hides c large
  rw [formed, List.flatMap_cons]
  generalize form hides c = written at kind
  cases kind with
  | plain _ _ quote _ => exact ⟨c, _, rfl, quote⟩
  | _ => exact ⟨'\\', _, rfl, by decide⟩

end Forms

theorem ne_of_mem_digits (mark other : Char) (width n : Nat) (apart : mark ≠ other)
    (none : Text.hexValue? other = none) : ∀ c ∈ mark :: Text.hex width n, c ≠ other := by
  rw [List.forall_mem_cons]
  exact ⟨apart, fun c member => Text.ne_of_mem_hex width n c other member none⟩

theorem isPrefixOf_apart (mark c : Char) (rest : Text) (other : c ≠ '\\' ∨ rest.head? ≠ some mark) :
    ['\\', mark].isPrefixOf (c :: rest) = false := by
  rw [Bool.eq_false_iff, ne_eq, Text.isPrefixOf_mark]
  rintro ⟨own, next⟩
  rcases other with differ | differ
  · exact differ own
  · exact differ next

theorem occursIn_append_apart (mark : Char) (front rest : Text) (apart : ∀ c ∈ front, c ≠ '\\') :
    Text.occursIn ['\\', mark] (front ++ rest) = Text.occursIn ['\\', mark] rest := by
  induction front with
  | nil => rfl
  | cons c later ih =>
      rw [List.forall_mem_cons] at apart
      rw [List.cons_append, Text.occursIn, isPrefixOf_apart mark c _ (Or.inl apart.1),
        Bool.false_or, ih apart.2]

theorem occursIn_formed (hides : Char → Bool) (mark : Char) (text : Text)
    (other : mark ∉ ['"', '\\', 'u', 'U'])
    (large : ∀ c ∈ text, hides c = true → 0xFF < c.toNat)
    (absent : Text.occursIn ['\\', mark] text = false) :
    Text.occursIn ['\\', mark] (formed hides text) = false := by
  simp only [List.mem_cons, List.not_mem_nil, or_false, not_or] at other
  induction text with
  | nil => rfl
  | cons c rest ih =>
      rw [List.forall_mem_cons] at large
      rw [Text.occursIn_cons] at absent
      have later := ih large.2 absent.2
      have kind := form_kind hides c large.1
      rw [formed] at later ⊢
      rw [List.flatMap_cons]
      have numbered (letter : Char) (width n : Nat) (apart : letter ≠ '\\') (differ : mark ≠ letter) :
          Text.occursIn ['\\', mark]
            ('\\' :: letter :: Text.hex width n ++ rest.flatMap (form hides)) = false := by
        rw [List.cons_append, Text.occursIn, occursIn_append_apart mark (letter :: _) _
          (ne_of_mem_digits letter '\\' width n apart rfl), later, Bool.or_false]
        exact isPrefixOf_apart mark '\\' _ (Or.inr fun same => differ (Option.some.inj same).symm)
      generalize form hides c = written at kind
      cases kind with
      | quote =>
          rw [List.cons_append, Text.occursIn, occursIn_append_apart mark ['"'] _ (by simp), later,
            Bool.or_false]
          exact isPrefixOf_apart mark '\\' _ (Or.inr fun same => other.1 (Option.some.inj same).symm)
      | backslash =>
          rw [List.cons_append, List.cons_append, List.nil_append, Text.occursIn, Text.occursIn,
            later, Bool.or_false,
            isPrefixOf_apart mark '\\' ('\\' :: _)
              (Or.inr fun same => other.2.1 (Option.some.inj same).symm), Bool.false_or]
          refine isPrefixOf_apart mark '\\' _ (Or.inr fun same => absent.1 ⟨rfl, ?_⟩)
          exact head_formed hides rest large.2 mark other.2.1 same
      | short => exact numbered 'u' 4 _ (by decide) other.2.2.1
      | long => exact numbered 'U' 8 _ (by decide) other.2.2.2
      | plain _ _ _ backslash =>
          rw [occursIn_append_apart mark [c] _ (by simpa using backslash), later]

theorem not_mem_formed (hides : Char → Bool) (d : Char) (text : Text)
    (apart : d ∉ ['"', '\\', 'u', 'U']) (none : Text.hexValue? d = none)
    (large : ∀ c ∈ text, hides c = true → 0xFF < c.toNat) (absent : d ∉ text) :
    d ∉ formed hides text := by
  simp only [List.mem_cons, List.not_mem_nil, or_false, not_or] at apart
  rw [formed, List.mem_flatMap]
  rintro ⟨c, member, within⟩
  have kind := form_kind hides c (large c member)
  have numbered (letter : Char) (width n : Nat) (differ : d ≠ letter)
      (among : d ∈ '\\' :: letter :: Text.hex width n) : False := by
    rcases List.mem_cons.mp among with same | digit
    · exact apart.2.1 same
    · exact ne_of_mem_digits letter d width n (Ne.symm differ) none d digit rfl
  generalize form hides c = written at kind within
  cases kind with
  | quote => simp [apart] at within
  | backslash => simp [apart] at within
  | short => exact numbered 'u' 4 _ apart.2.2.1 within
  | long => exact numbered 'U' 8 _ apart.2.2.2 within
  | plain =>
      rw [List.mem_singleton] at within
      exact absent (within ▸ member)

section Chars

variable (c : Char) (large : isHidden c = true → 0xFF < c.toNat)
include large

theorem not_control (control : Char) (hidden : isHidden control = true)
    (small : control.toNat ≤ 0xFF) : c ≠ control := by
  rintro rfl
  exact absurd (large hidden) (by omega)

theorem quotedChar_double : Text.quotedChar '"' c = form isHidden c := by
  have tab := not_control c large '\t' (by decide) (by decide)
  have feed := not_control c large '\n' (by decide) (by decide)
  have turn := not_control c large '\r' (by decide) (by decide)
  cases shown : Text.isPrintable c <;> simp [Text.quotedChar, form, isHidden, shown, tab, feed, turn]

theorem quotedChar_single : Text.quotedChar '\'' c =
    if c = '\'' then ['\\', '\''] else if c = '"' then ['"'] else form isHidden c := by
  have tab := not_control c large '\t' (by decide) (by decide)
  have feed := not_control c large '\n' (by decide) (by decide)
  have turn := not_control c large '\r' (by decide) (by decide)
  by_cases single : c = '\''
  · rw [if_pos single, single]
    rfl
  · by_cases double : c = '"'
    · rw [if_neg single, if_pos double, double]
      decide
    · cases shown : Text.isPrintable c <;>
        simp [Text.quotedChar, form, isHidden, shown, tab, feed, turn, single, double]

end Chars

section Text

variable (text : Text) (large : ∀ c ∈ text, isHidden c = true → 0xFF < c.toNat)
include large

theorem head_single : (text.flatMap (Text.quotedChar '\'')).head? ≠ some '\'' := by
  cases text with
  | nil => nofun
  | cons c rest =>
      have own := large c List.mem_cons_self
      rw [List.flatMap_cons, quotedChar_single c own]
      split
      · simp
      · next single =>
          split
          · simp
          · have kind := form_kind isHidden c own
            generalize form isHidden c = written at kind
            cases kind with
            | plain c => simpa using single
            | _ => simp

theorem unescape_single :
    Text.replaceAll ['\\', '\''] ['\''] (text.flatMap (Text.quotedChar '\'')) =
      text.flatMap fun c => if c = '"' then ['"'] else form isHidden c := by
  induction text with
  | nil => rfl
  | cons c rest ih =>
      rw [List.forall_mem_cons] at large
      have next := head_single rest large.2
      rw [List.flatMap_cons, List.flatMap_cons, quotedChar_single c large.1, ← ih large.2]
      have pass (front : List Char) (apart : ∀ d ∈ front, d ≠ '\\') (more : Text) :
          Text.replaceAll ['\\', '\''] ['\''] (front ++ more) =
            front ++ Text.replaceAll ['\\', '\''] ['\''] more :=
        Text.replaceAll_append _ _ front more fun d member later =>
          isPrefixOf_apart '\'' d later (Or.inl (apart d member))
      have numbered (letter : Char) (width n : Nat) (apart : letter ≠ '\\')
          (differ : letter ≠ '\'') (more : Text) :
          Text.replaceAll ['\\', '\''] ['\''] ('\\' :: letter :: Text.hex width n ++ more) =
            '\\' :: letter :: Text.hex width n ++ Text.replaceAll ['\\', '\''] ['\''] more := by
        rw [List.cons_append, Text.replaceAll_pass, pass _ (ne_of_mem_digits letter '\\' width n apart rfl)]
        · rfl
        · exact isPrefixOf_apart '\'' '\\' _ (Or.inr fun same => differ (Option.some.inj same))
      by_cases single : c = '\''
      · subst single
        exact Text.replaceAll_here ['\\', '\''] ['\''] _ nofun
      · rw [if_neg single]
        by_cases double : c = '"'
        · subst double
          exact pass ['"'] (by simp) _
        · rw [if_neg double]
          have kind := form_kind isHidden c large.1
          generalize form isHidden c = written at kind
          cases kind with
          | quote => exact absurd rfl double
          | backslash =>
              rw [List.cons_append, List.cons_append, List.nil_append, Text.replaceAll_pass,
                Text.replaceAll_pass]
              · rfl
              · exact isPrefixOf_apart '\'' '\\' _ (Or.inr next)
              · exact isPrefixOf_apart '\'' '\\' _ (Or.inr (by simp))
          | short => exact numbered 'u' 4 _ (by decide) (by decide) _
          | long => exact numbered 'U' 8 _ (by decide) (by decide) _
          | plain _ _ _ backslash => exact pass [c] (by simpa using backslash) _

theorem escape_double :
    Text.replaceAll ['"'] ['\\', '"']
        (text.flatMap fun c => if c = '"' then ['"'] else form isHidden c) =
      formed isHidden text := by
  induction text with
  | nil => rfl
  | cons c rest ih =>
      rw [List.forall_mem_cons] at large
      rw [formed, List.flatMap_cons, List.flatMap_cons, ← formed, ← ih large.2]
      by_cases double : c = '"'
      · subst double
        exact Text.replaceAll_here ['"'] ['\\', '"'] _ nofun
      · rw [if_neg double]
        apply Text.replaceAll_append
        intro d member more
        have apart : d ≠ '"' := by
          have kind := form_kind isHidden c large.1
          generalize form isHidden c = written at kind member
          cases kind with
          | quote => exact absurd rfl double
          | backslash =>
              rintro rfl
              exact absurd member (by decide)
          | short =>
              rcases List.mem_cons.mp member with rfl | digit
              · decide
              · exact ne_of_mem_digits 'u' '"' 4 _ (by decide) rfl d digit
          | long =>
              rcases List.mem_cons.mp member with rfl | digit
              · decide
              · exact ne_of_mem_digits 'U' '"' 8 _ (by decide) rfl d digit
          | plain =>
              rw [List.mem_singleton.mp member]
              exact double
        simp [List.isPrefixOf, apart.symm]

end Text

theorem inner_enclosed (first last : Char) (text : Text) :
    inner (first :: text ++ [last]) = text := by
  simp [inner]

theorem renderText_legible (text : Text) (legible : Legible text) :
    renderText text = .ok ('"' :: formed isHidden text ++ ['"']) := by
  have escaped :
      (if (Text.quoted text).head? == some '\'' then
        Text.replaceAll "\"".toList "\\\"".toList
          (Text.replaceAll "\\'".toList "'".toList (inner (Text.quoted text)))
      else inner (Text.quoted text)) = formed isHidden text := by
    simp only [Text.quoted, inner_enclosed]
    by_cases double : Text.quoteFor text = '"'
    · rw [double]
      rw [formed, List.flatMap_def, List.flatMap_def]
      apply congrArg List.flatten
      apply List.map_congr_left
      intro c member
      exact quotedChar_double c (legible.hidden c member)
    · have single : Text.quoteFor text = '\'' := by
        rw [Text.quoteFor] at double ⊢
        split
        · next held => exact absurd (if_pos held) double
        · rfl
      rw [single]
      exact (congrArg _ (unescape_single text legible.hidden)).trans
        (escape_double text legible.hidden)
  have uncut : Text.cutAtText "\\x".toList (formed isHidden text) = [formed isHidden text] :=
    Text.cutAtText_of_absent '\\' 'x' _
      (occursIn_formed isHidden 'x' text (by decide) legible.hidden legible.unmarked)
  simp only [renderText, escaped, uncut, joinAllNumbered]
  rfl

end Outliner.Toml
