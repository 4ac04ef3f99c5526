import Outliner.Proofs.Text.Strip
import Outliner.Proofs.Toml.Unquoted
import Outliner.Toml.Document

namespace Outliner.Toml

def literal (text : Text) : Text :=
  '"' :: formed isHidden text ++ ['"']

def piece (text : Text) : Text :=
  ' ' :: literal text

structure Listable (text : Text) : Prop where
  legible : Legible text
  comma : ',' ∉ text

def listForm (texts : List Text) : Text :=
  renderItems (texts.map literal)

theorem listForm_eq (texts : List Text) :
    listForm texts = '[' :: texts.flatMap (fun text => piece text ++ [',']) ++ [']'] := by
  rw [listForm, renderItems, List.flatMap_map]
  rfl

theorem render_texts (texts : List Text) (legible : ∀ text ∈ texts, Legible text) :
    (Value.array (texts.map .text)).render = .ok (listForm texts) := by
  have all : renderAll (texts.map .text) = .ok (texts.map literal) := by
    induction texts with
    | nil => rfl
    | cons text rest ih =>
        rw [List.forall_mem_cons] at legible
        rw [List.map_cons, renderAll, ih legible.2, Value.render, renderText_legible text legible.1]
        rfl
  rw [Value.render, all]
  rfl

theorem isTripleOpen_of_ne (first second : Char) (rest : Text) (differ : first ≠ second) :
    isTripleOpen (first :: second :: rest) = false := by
  unfold isTripleOpen
  split
  · next a b _ _ _ _ _ _ whole _ =>
      injection whole with here later
      injection later with next _
      rw [← here, ← next, beq_false_of_ne differ]
      rfl
  · rfl

section Piece

variable (text : Text)

theorem strip_piece : Text.strip (piece text) = literal text := by
  rw [piece, Text.strip_cons_blank ' ' _ (by decide), literal, List.cons_append]
  apply Text.strip_of_solid_ends _ _ (by decide)
  exact Text.endsSolid_concat ('"' :: formed isHidden text) '"' (by decide)

theorem comma_not_mem_piece (listable : Listable text) : ',' ∉ piece text := by
  have inside := not_mem_formed isHidden ',' text (by decide) (by decide) listable.legible.hidden
    listable.comma
  simp [piece, literal, inside]

theorem even_formed (hides : Char → Bool) (before : Text)
    (even : endsOddBackslashes before = false)
    (large : ∀ c ∈ text, hides c = true → 0xFF < c.toNat) :
    endsOddBackslashes (before ++ formed hides text) = false := by
  induction text generalizing before with
  | nil => exact (congrArg _ (List.append_nil before)).trans even
  | cons c rest ih =>
      rw [List.forall_mem_cons] at large
      have next := even_form hides before even c _ (form_kind hides c large.1)
      rw [formed, List.flatMap_cons, ← List.append_assoc]
      exact ih _ next large.2

theorem endsInString_piece (legible : Legible text) : endsInString (piece text) = false := by
  have even := even_formed text isHidden [] rfl legible.hidden
  rw [List.nil_append, endsOddBackslashes] at even
  have bounded : isBounded (literal text) = true := by
    rw [literal, List.cons_append, isBounded, List.reverse_append]
    simp only [List.reverse_singleton, List.singleton_append, beq_self_eq_true, Bool.true_and]
    rw [beq_iff_eq] at *
    simpa using even
  have single : isTripleOpen (literal text) = false := by
    rw [literal]
    cases text with
    | nil => rfl
    | cons c rest =>
        obtain ⟨d, later, whole, differ⟩ :=
          exists_formed_cons isHidden c rest (legible.hidden c List.mem_cons_self)
        rw [whole]
        exact isTripleOpen_of_ne '"' d _ (Ne.symm differ)
  rw [endsInString, strip_piece, bounded, single]
  rfl

end Piece

theorem cutAt_pieces (texts : List Text) (listable : ∀ text ∈ texts, Listable text) :
    Text.cutAt ',' (texts.flatMap fun text => piece text ++ [',']) = texts.map piece ++ [[]] := by
  induction texts with
  | nil => rfl
  | cons text rest ih =>
      rw [List.forall_mem_cons] at listable
      rw [List.flatMap_cons, List.append_assoc, List.singleton_append,
        Text.cutAt_before ',' _ _ (comma_not_mem_piece text listable.1), ih listable.2]
      rfl

theorem joinStringsFrom_pieces (text : Text) (texts : List Text)
    (legible : ∀ other ∈ text :: texts, Legible other) :
    joinStringsFrom (piece text) (texts.map piece ++ [[]]) =
      .ok ((text :: texts).map piece ++ [[]]) := by
  induction texts generalizing text with
  | nil =>
      have closed := endsInString_piece text (legible text List.mem_cons_self)
      simp only [List.map_nil, List.nil_append, joinStringsFrom, closed, Bool.false_eq_true, if_false,
        List.isEmpty_nil, if_true, List.map_cons, List.cons_append]
  | cons next rest ih =>
      rw [List.forall_mem_cons] at legible
      have closed := endsInString_piece text legible.1
      have more : (rest.map piece ++ [[]]).isEmpty = false := by simp
      simp only [List.map_cons, List.cons_append, joinStringsFrom, closed, more, Bool.false_eq_true,
        if_false]
      rw [ih next legible.2]
      rfl

theorem elements_listForm (text : Text) (texts : List Text)
    (listable : ∀ other ∈ text :: texts, Listable other) :
    elements (listForm (text :: texts)) = .ok ((text :: texts).map piece ++ [[]]) := by
  have contents : inner (listForm (text :: texts)) =
      (text :: texts).flatMap fun text => piece text ++ [','] := by
    rw [listForm_eq]
    exact inner_enclosed '[' ']' _
  have opening : ∃ rest, (text :: texts).flatMap (fun text => piece text ++ [',']) =
      ' ' :: '"' :: rest := ⟨_, rfl⟩
  obtain ⟨rest, start⟩ := opening
  have first (more : Text) : ∃ later, Text.strip (' ' :: '"' :: more) = '"' :: later := by
    rw [Text.strip_cons_blank ' ' _ (by decide)]
    exact Text.strip_cons_solid '"' more (by decide)
  obtain ⟨whole, stripped⟩ := first rest
  obtain ⟨part, before⟩ := first (rest.takeWhile (· != '['))
  have noArray : (Text.strip ((' ' :: '"' :: rest).takeWhile (· != '['))).isEmpty = false := by
    rw [List.takeWhile_cons_of_pos (by decide), List.takeWhile_cons_of_pos (by decide), before]
    rfl
  have joined := joinStringsFrom_pieces text texts fun other member => (listable other member).legible
  have cut := cutAt_pieces (text :: texts) listable
  rw [start] at cut contents
  have strings : isTextArray (listForm (text :: texts)) = true := by
    rw [isTextArray, contents, stripped]
    rfl
  simp only [elements, contents, noArray, Bool.and_false, Bool.false_eq_true, if_false, stripped,
    strings, if_true, cut]
  rw [if_neg (by simp), List.map_cons, List.cons_append]
  cases texts with
  | nil => exact joined
  | cons next others => exact joined

section Words

variable (c : Char) (rest : Text) (apart : c ≠ 't' ∧ c ≠ 'f')
include apart

theorem noWord : isTrueWord (c :: rest) = false ∧ isFalseWord (c :: rest) = false := by
  constructor
  · rw [isTrueWord, beq_eq_false_iff_ne]
    rintro same
    exact apart.1 (List.head_eq_of_cons_eq same)
  · rw [isFalseWord, beq_eq_false_iff_ne]
    rintro same
    exact apart.2 (List.head_eq_of_cons_eq same)

theorem noWord_lower (low : Text.IsLower c) :
    (isTrueWord (Text.lower (c :: rest)) || isFalseWord (Text.lower (c :: rest))) = false := by
  rw [Text.lower, Text.lowerAfter, if_neg (by simpa using low.2), low.1, List.singleton_append,
    (noWord c _ apart).1, (noWord c _ apart).2]
  rfl

end Words

theorem readNested_literal (depth : Nat) (strict : Bool) (text : Text) (legible : Legible text) :
    readNested (depth + 1) strict (literal text) = .ok (.text text) := by
  have low : Text.IsLower '"' := by unfold Text.IsLower; decide
  have word := noWord '"' (formed isHidden text ++ ['"']) (by decide)
  have lower := noWord_lower '"' (formed isHidden text ++ ['"']) (by decide) low
  have value := stringValue_formed text legible
  rw [List.cons_append] at value
  rw [literal, List.cons_append, readNested]
  simp only [word, lower, value, Bool.false_eq_true, if_false]
  rfl

theorem readElements_pieces (read : ValueReader) (texts : List Text) (first : Option Value)
    (same : first.all (Value.sameType (.text []))= true)
    (reads : ∀ text ∈ texts, read true (literal text) = .ok (.text text)) :
    readElements read first (texts.map piece ++ [[]]) = .ok (texts.map .text) := by
  induction texts generalizing first with
  | nil => rfl
  | cons text rest ih =>
      rw [List.forall_mem_cons] at reads
      have kept : first.any (!·.sameType (.text text)) = false := by
        cases first with
        | none => rfl
        | some value =>
            cases value with
            | text other => rfl
            | _ => cases same
      have next : (some (first.getD (.text text))).all (Value.sameType (.text [])) = true := by
        cases first with
        | none => rfl
        | some value => exact same
      have held : (literal text).isEmpty = false := rfl
      rw [List.map_cons, List.cons_append, readElements]
      simp only [strip_piece, held, Bool.false_eq_true, if_false, reads.1, bind, Except.bind, kept,
        ih _ next reads.2]
      rfl

theorem readValue_listForm (strict : Bool) (text : Text) (texts : List Text)
    (listable : ∀ other ∈ text :: texts, Listable other) :
    readValue strict (listForm (text :: texts)) = .ok (.array ((text :: texts).map .text)) := by
  have low : Text.IsLower '[' := by unfold Text.IsLower; decide
  have pieces := elements_listForm text texts listable
  rw [listForm_eq, List.cons_append] at pieces
  rw [readValue, listForm_eq, List.cons_append]
  generalize (text :: texts).flatMap (fun text => piece text ++ [',']) ++ [']'] = rest at pieces ⊢
  have word := noWord '[' rest (by decide)
  have lower := noWord_lower '[' rest (by decide) low
  have read := readElements_pieces (readNested (rest.length + 1)) (text :: texts) none rfl
    fun other member => readNested_literal rest.length true other (listable other member).legible
  rw [List.length_cons, readNested]
  simp only [word, lower, Bool.false_eq_true, if_false, pieces, read, bind, Except.bind]
  rfl

theorem readValue_flag (strict flag : Bool) :
    readValue strict (if flag then "true".toList else "false".toList) = .ok (.bool flag) := by
  cases flag <;> rfl

end Outliner.Toml
