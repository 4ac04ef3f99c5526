import Outliner.Proofs.Settings.View
import Outliner.Proofs.Toml.Lists

namespace Outliner.Toml

inductive PlainValue : Value → Prop where
  | flag (value : Bool) : PlainValue (.bool value)
  | list (text : Text) (texts : List Text) (listable : ∀ other ∈ text :: texts, Listable other) :
    PlainValue (.array ((text :: texts).map .text))

def itemText : Value → Text
  | .text value => literal value
  | _ => []

def valueText : Value → Text
  | .bool value => if value then "true".toList else "false".toList
  | .array items => renderItems (items.map itemText)
  | _ => []

theorem valueText_list (texts : List Text) :
    valueText (.array (texts.map .text)) = listForm texts := by
  rw [valueText, List.map_map]
  rfl

def entryLine (entry : Text × Value) : Text :=
  entry.1 ++ " = ".toList ++ valueText entry.2

section Bare

variable (name : Text) (bare : isBareName name = true)
include bare

theorem bare_ne (c other : Char) (member : c ∈ name) (apart : isBareChar other = false) :
    c ≠ other := by
  rw [isBareName, Bool.and_eq_true, List.all_eq_true] at bare
  rintro rfl
  have held := bare.2 c member
  rw [apart] at held
  cases held

theorem bare_not_mem (other : Char) (apart : isBareChar other = false) : other ∉ name :=
  fun member => bare_ne name bare other other member apart rfl

theorem exists_bare_cons : ∃ c rest, name = c :: rest := by
  cases name with
  | nil => cases bare
  | cons c rest => exact ⟨c, rest, rfl⟩

end Bare

theorem of_isBareChar (p : Char → Bool)
    (checked : ∀ n < 128, isBareChar (Char.ofNat n) = true → p (Char.ofNat n) = true) (c : Char)
    (bare : isBareChar c = true) : p c = true := by
  have small : c.toNat < 128 := by
    simp only [isBareChar, Text.isAsciiDigit, Bool.or_eq_true, Bool.and_eq_true, decide_eq_true_eq,
      beq_iff_eq, Char.le_def, UInt32.le_iff_toNat_le] at bare
    rcases bare with (((⟨_, high⟩ | ⟨_, high⟩) | ⟨_, high⟩) | rfl) | rfl
    · exact Nat.lt_of_le_of_lt high (by decide)
    · exact Nat.lt_of_le_of_lt high (by decide)
    · exact Nat.lt_of_le_of_lt high (by decide)
    · decide
    · decide
  have held := checked c.toNat small
  rw [Char.ofNat_toNat] at held
  exact held bare

theorem isSpace_of_isBareChar (c : Char) (bare : isBareChar c = true) :
    Text.isSpace c = false := by
  have solid := of_isBareChar (!Text.isSpace ·) (by decide) c bare
  simpa using solid

theorem strip_bare (name : Text) (bare : isBareName name = true) (blanks : Text)
    (blank : blanks = [] ∨ blanks = [' ']) : Text.strip (name ++ blanks) = name := by
  have solid (c : Char) (member : c ∈ name) : Text.isSpace c = false := by
    rw [isBareName, Bool.and_eq_true, List.all_eq_true] at bare
    exact isSpace_of_isBareChar c (bare.2 c member)
  obtain ⟨c, rest, rfl⟩ := exists_bare_cons name bare
  have whole := Text.strip_of_solid_ends c rest (solid c List.mem_cons_self)
    (Text.endsSolid_of_solid _ solid)
  rcases blank with rfl | rfl
  · rw [List.append_nil, whole]
  · have start (more : Text) : Text.stripStart (c :: more) = c :: more := by
      rw [Text.stripStart, List.dropWhile_cons_of_neg (by simp [solid c List.mem_cons_self])]
    rw [Text.strip, start, Text.stripEnd, Text.dropEndWhile] at whole
    rw [List.cons_append, Text.strip, start, Text.stripEnd, Text.dropEndWhile, ← List.cons_append,
      List.reverse_append, List.reverse_singleton, List.singleton_append,
      List.dropWhile_cons_of_pos (by decide), whole]

theorem quotePieces_plain (line : Text) (double : '"' ∉ line) (single : '\'' ∉ line) :
    quotePieces line = [line] := by
  rw [quotePieces, Text.cutAt_whole '"' line double]
  simp only [Text.cutAt_whole '\'' line single, List.append_nil]

theorem quotePieces_quoted (front rest : Text) (double : '"' ∉ front) (single : '\'' ∉ front) :
    quotePieces (front ++ '"' :: rest) = front :: Text.cutAt '"' rest := by
  obtain ⟨piece, pieces, cut⟩ := Text.exists_cutAt '"' rest
  have none : front.contains '\'' = false := by simpa using single
  rw [quotePieces, Text.cutAt_before '"' front rest double, cut]
  simp only [none, Bool.false_eq_true, if_false, Text.cutAt_whole '\'' front single,
    List.singleton_append]

theorem cutsToPlain_first (separator : Char) (front more : Text) (pieces : List Text) :
    cutsToPlain [separator] false ((front ++ separator :: more) :: pieces) = 1 := by
  have cuts : 0 < (Text.cutAtText [separator] (front ++ separator :: more)).length - 1 := by
    rw [Text.cutAtText_single]
    induction front with
    | nil =>
        obtain ⟨piece, others, cut⟩ := Text.exists_cutAt separator more
        rw [List.nil_append, Text.cutAt_here, cut]
        simp
    | cons c rest ih =>
        obtain ⟨piece, others, cut⟩ := Text.exists_cutAt separator (rest ++ separator :: more)
        rw [cut] at ih
        by_cases here : c = separator
        · rw [here, List.cons_append, Text.cutAt_here, cut]
          simp
        · rw [List.cons_append, Text.cutAt_pass separator c _ piece others here cut]
          exact ih
  rw [cutsToPlain]
  simp only [Bool.not_false, cuts, decide_true, Bool.and_self, if_true]

theorem keyNames_bare (key : Text) (bare : isBareName key = true) : keyNames key = .ok ([], key) := by
  have dot : key.contains '.' = false := by simpa using bare_not_mem key bare '.' (by decide)
  obtain ⟨c, rest, rfl⟩ := exists_bare_cons key bare
  have quote : isQuote c = false := by
    have first := bare_ne _ bare c '"' List.mem_cons_self (by decide)
    have second := bare_ne _ bare c '\'' List.mem_cons_self (by decide)
    simp [isQuote, first, second]
  rw [keyNames, dot]
  cases last : (c :: rest).getLast? with
  | none => simp at last
  | some d => simp only [Bool.false_eq_true, if_false, List.head?_cons, quote, Bool.and_false]

section Plain

variable (value : Value) (plain : PlainValue value)
include plain

theorem render_plain : value.render = .ok (valueText value) := by
  cases plain with
  | flag value => rfl
  | list text texts listable =>
      rw [render_texts _ fun other member => (listable other member).legible, valueText_list]

theorem readValue_plain (strict : Bool) : readValue strict (valueText value) = .ok value := by
  cases plain with
  | flag value => exact readValue_flag strict value
  | list text texts listable =>
      rw [valueText_list]
      exact readValue_listForm strict text texts listable

theorem valueText_ends : ∃ c rest, valueText value = c :: rest ∧ Text.isSpace c = false ∧
    Text.EndsSolid (c :: rest) ∧ isQuote c = false ∧
      (c = '[' → (c :: rest).getLast? = some ']') := by
  cases plain with
  | flag value =>
      cases value
      · exact ⟨'f', "alse".toList, rfl, by decide, Text.endsSolid_concat "fals".toList 'e' (by decide),
          by decide, by decide⟩
      · exact ⟨'t', "rue".toList, rfl, by decide, Text.endsSolid_concat "tru".toList 'e' (by decide),
          by decide, by decide⟩
  | list text texts listable =>
      rw [valueText_list, listForm_eq]
      refine ⟨'[', (text :: texts).flatMap (fun text => piece text ++ [',']) ++ [']'], rfl, by decide,
        ?_, by decide, ?_⟩
      · rw [← List.cons_append]
        exact Text.endsSolid_concat _ ']' (by decide)
      · intro _
        rw [← List.cons_append, List.getLast?_concat]

theorem quotePieces_entryLine (key : Text) (bare : isBareName key = true) :
    ∃ more pieces, quotePieces (entryLine (key, value)) =
      ((key ++ [' ']) ++ '=' :: more) :: pieces := by
  have double := bare_not_mem key bare '"' (by decide)
  have single := bare_not_mem key bare '\'' (by decide)
  cases plain with
  | flag value =>
      rw [entryLine, quotePieces_plain _ (by cases value <;> simp [valueText, double])
        (by cases value <;> simp [valueText, single])]
      exact ⟨_, [], by rw [List.append_assoc, List.append_assoc]; rfl⟩
  | list text texts listable =>
      have opening : ∃ rest, entryLine (key, .array ((text :: texts).map .text)) =
          (key ++ " = [ ".toList) ++ '"' :: rest := by
        refine ⟨formed isHidden text ++ ['"'] ++ [','] ++
          texts.flatMap (fun text => piece text ++ [',']) ++ [']'], ?_⟩
        rw [entryLine, valueText_list, listForm_eq, List.flatMap_cons, piece, literal]
        simp
      obtain ⟨rest, whole⟩ := opening
      rw [whole, quotePieces_quoted _ _ (by simp [double]) (by simp [single])]
      exact ⟨" [ ".toList, _, by rw [List.append_assoc]; rfl⟩

theorem isOpen_plain : isOpen (valueText value) = .ok false := by
  obtain ⟨c, rest, whole, _, _, quote, closed⟩ := valueText_ends value plain
  rw [whole, isOpen]
  by_cases short : (c :: rest).length < 3
  · rw [if_pos short]
    rfl
  · have own : openString (c :: rest) = .ok (c :: rest) := by
      rw [openString, if_neg]
      rw [Bool.and_eq_true, Bool.and_eq_true, List.head?_cons]
      rintro ⟨⟨bracket, open'⟩, _⟩
      rw [closed (by simpa using bracket)] at open'
      simp at open'
    rw [if_neg short]
    simp only [own, bind, Except.bind, quote, Bool.not_false, if_true]
    rfl

theorem ofLine_entryLine (key : Text) (bare : isBareName key = true) :
    ∃ strict, Assignment.ofLine (entryLine (key, value)) = .ok ⟨key, valueText value, strict⟩ := by
  have sign : '=' ∉ key ++ [' '] := by
    have absent := bare_not_mem key bare '=' (by decide)
    simp [absent]
  have line : entryLine (key, value) = (key ++ [' ']) ++ '=' :: ' ' :: valueText value := by
    rw [entryLine, List.append_assoc, List.append_assoc]
    rfl
  obtain ⟨more, quoted, pieces⟩ := quotePieces_entryLine value plain key bare
  obtain ⟨c, rest, whole, solid, ends, _⟩ := valueText_ends value plain
  have stripped : Text.strip (' ' :: valueText value) = valueText value := by
    rw [Text.strip_cons_blank ' ' _ (by decide), whole]
    exact Text.strip_of_solid_ends c rest solid ends
  have name : Text.strip (Text.join ['='] [key ++ [' ']]) = key := by
    rw [Text.join, List.intercalate_singleton]
    exact strip_bare key bare [' '] (Or.inr rfl)
  have joined := Text.join_cutAt '=' (' ' :: valueText value)
  obtain ⟨first, others, cut⟩ := Text.exists_cutAt '=' (' ' :: valueText value)
  have settled : isSettled (' ' :: valueText value) = .ok true := rfl
  have settle (strict : Bool) (later : List Text) :
      settle strict [key ++ [' ']] first (' ' :: valueText value) later =
        .ok ⟨key, valueText value, strict⟩ := by
    cases later <;>
      simp only [settle, settled, bind, Except.bind, if_true, Assignment.make, name, stripped] <;> rfl
  refine ⟨isStrictNumber (' ' :: valueText value), ?_⟩
  rw [cut] at joined
  rw [line] at pieces ⊢
  simp only [Assignment.ofLine, pieces, cutsToPlain_first, Text.cutAt_before '=' _ _ sign, cut,
    List.length_cons, Nat.add_sub_cancel, Nat.min_eq_left (Nat.le_add_left 1 _), List.drop_succ_cons,
    List.drop_zero, List.take_succ_cons, List.take_zero, joined]
  exact settle _ others

end Plain

theorem get?_eq_none (key : Text) (table : Table) (fresh : key ∉ table.map (·.1)) :
    Table.get? key table = none := by
  induction table with
  | nil => rfl
  | cons entry rest ih =>
      rw [List.map_cons, List.mem_cons, not_or] at fresh
      rw [Table.get?, if_neg (by simpa using Ne.symm fresh.1), ih fresh.2]

theorem insert_fresh (key : Text) (value : Value) (table : Table)
    (fresh : key ∉ table.map (·.1)) : Table.insert key value table = table ++ [(key, value)] := by
  induction table with
  | nil => rfl
  | cons entry rest ih =>
      rw [List.map_cons, List.mem_cons, not_or] at fresh
      rw [Table.insert, if_neg (by simpa using Ne.symm fresh.1), ih fresh.2]
      rfl

section Last

variable (key : Text) (old : Value) (table : Table) (fresh : key ∉ table.map (·.1))
include fresh

theorem get?_last : Table.get? key (table ++ [(key, old)]) = some old := by
  rw [← insert_fresh key old table fresh, Table.get?_insert, if_pos rfl]

theorem insert_last (new : Value) :
    Table.insert key new (table ++ [(key, old)]) = table ++ [(key, new)] := by
  induction table with
  | nil => simp [Table.insert]
  | cons entry rest ih =>
      rw [List.map_cons, List.mem_cons, not_or] at fresh
      rw [List.cons_append, Table.insert, if_neg (by simpa using Ne.symm fresh.1), ih fresh.2]
      rfl

end Last

def Document.within (sections : Table) (name : Text) (entries : Table) : Document where
  value := .table (sections ++ [(name, .table entries)])
  place := [.entry name]

theorem assign_entryLine (key : Text) (value : Value) (entries : Table)
    (bare : isBareName key = true) (plain : PlainValue value) (fresh : key ∉ entries.map (·.1)) :
    assign readValue (entryLine (key, value)) (.table entries) =
      .ok (.table (entries ++ [(key, value)]), none) := by
  obtain ⟨strict, line⟩ := ofLine_entryLine value plain key bare
  have names := keyNames_bare key bare
  have closed := isOpen_plain value plain
  have read := readValue_plain value plain strict
  have none : Table.has key entries = false := by
    rw [Table.has, get?_eq_none key entries fresh]
    rfl
  simp only [assign, line, names, within, closed, read, addEntry, none, bind, Except.bind,
    insert_fresh key value entries fresh, Bool.false_eq_true, if_false]
  rfl

theorem step_entryLine (sections : Table) (name key : Text) (value : Value) (entries : Table)
    (outside : name ∉ sections.map (·.1)) (bare : isBareName key = true) (plain : PlainValue value)
    (fresh : key ∉ entries.map (·.1)) :
    (Document.within sections name entries).step (entryLine (key, value)) =
      .ok (Document.within sections name (entries ++ [(key, value)])) := by
  obtain ⟨c, rest, whole⟩ := exists_bare_cons key bare
  have own (other : Char) (apart : isBareChar other = false) : c ≠ other :=
    bare_ne key bare c other (by rw [whole]; exact List.mem_cons_self) apart
  have stripped : Text.strip (entryLine (key, value)) = entryLine (key, value) := by
    obtain ⟨d, more, ends, _, solid, _⟩ := valueText_ends value plain
    have inside : isBareChar c = true := by
      rw [whole, isBareName, Bool.and_eq_true, List.all_eq_true] at bare
      exact bare.2 c List.mem_cons_self
    have last : Text.EndsSolid (entryLine (key, value)) := by
      rw [entryLine, ends, Text.endsSolid_append _ _ (List.cons_ne_nil d more)]
      exact solid
    rw [entryLine, whole, List.append_assoc, List.cons_append] at last ⊢
    exact Text.strip_of_solid_ends c _ (isSpace_of_isBareChar c inside) last
  have head : (entryLine (key, value)).head? = some c := by
    rw [entryLine, whole]
    rfl
  have sign : (entryLine (key, value)).contains '=' = true := by simp [entryLine]
  have added := assign_entryLine key value entries bare plain fresh
  have place := get?_last name (.table entries) sections outside
  have changed := insert_last name (.table entries) sections outside
    (.table (entries ++ [(key, value)]))
  show Document.takeLine _ _ = _
  rw [stripped, Document.takeLine, head]
  split
  · next none => cases none
  · next bracket => exact absurd (Option.some.inj bracket) (own '[' (by decide))
  · next brace => exact absurd (Option.some.inj brace) (own '\x7b' (by decide))
  · rw [if_pos sign]
    simp only [Document.within, modifyAt, place, added, changed, bind, Except.bind, pure, Except.pure]

theorem ofLine_header (name : Text) (bare : isBareName name = true) :
    Header.ofLine ('[' :: name ++ [']']) = .ok ⟨[name], false⟩ := by
  have absent (other : Char) (apart : isBareChar other = false) : other ∉ name :=
    bare_not_mem name bare other apart
  obtain ⟨c, rest, whole⟩ := exists_bare_cons name bare
  have own (other : Char) (apart : isBareChar other = false) : c ≠ other :=
    bare_ne name bare c other (by rw [whole]; exact List.mem_cons_self) apart
  have quoted : quotePieces (name ++ [']']) = [name ++ [']']] :=
    quotePieces_plain _ (by simp [absent '"' (by decide)]) (by simp [absent '\'' (by decide)])
  have cut : Text.cutAtText [']'] (name ++ [']']) = [name, []] := by
    rw [Text.cutAtText_single]
    exact Text.cutAt_before ']' name [] (absent ']' (by decide))
  have stripped := strip_bare name bare [] (Or.inl rfl)
  rw [List.append_nil] at stripped
  have quote : startsQuoted name = false := by
    rw [whole]
    simp [startsQuoted, isQuote, own '"' (by decide), own '\'' (by decide)]
  have names : headerNamesFrom none [name] = .ok [name] := by
    simp only [headerNamesFrom, stripped, quote, bare, Bool.false_eq_true, if_false, if_true]
    rfl
  have body : Header.ofBody false (name ++ [']']) = .ok ⟨[name], false⟩ := by
    have once := cutsToPlain_first ']' name [] []
    have parts : cutTimes [']'] 1 (name ++ [']']) = [name, []] := by
      rw [cutTimes, cut]
      rfl
    have plain : Text.cutAt '.' (Text.join [']'] [name]) = [name] := by
      rw [Text.join, List.intercalate_singleton, Text.cutAt_whole '.' name (absent '.' (by decide))]
    have blank : (Text.strip (([name, []] : List Text).getLast?.getD [])).isEmpty = true := by
      rfl
    have front : ([name, []] : List Text).dropLast = [name] := rfl
    simp only [Header.ofBody, Bool.false_eq_true, if_false, show "]".toList = [']'] from rfl, quoted,
      once, parts, blank, front, plain, names, bind, Except.bind, List.length_cons, List.length_nil,
      Bool.not_true, Bool.or_false]
    rfl
  rw [Header.ofLine, List.cons_append, List.drop_one, List.tail_cons]
  split
  · next empty => simp at empty
  · next body bracket =>
      rw [whole] at bracket
      exact absurd (List.head_eq_of_cons_eq bracket) (own '[' (by decide))
  · exact body

theorem step_header (sections : Table) (place : List Step) (name : Text)
    (bare : isBareName name = true) (fresh : name ∉ sections.map (·.1)) :
    (Document.step { value := .table sections, place := place } ('[' :: name ++ [']'])) =
      .ok (Document.within sections name []) := by
  have stripped : Text.strip ('[' :: name ++ [']']) = '[' :: name ++ [']'] := by
    rw [List.cons_append]
    apply Text.strip_of_solid_ends _ _ (by decide)
    exact Text.endsSolid_concat ('[' :: name) ']' (by decide)
  have header := ofLine_header name bare
  have held : name.isEmpty = false := by
    obtain ⟨c, rest, rfl⟩ := exists_bare_cons name bare
    rfl
  have none := get?_eq_none name sections fresh
  have added := insert_fresh name (.table []) sections fresh
  have opened : Header.openBelow false [name] (.table sections) [] =
      .ok ⟨.table (sections ++ [(name, .table [])]), [.entry name], []⟩ := by
    simp only [Header.openBelow, held, none, added, Header.fresh, bind, Except.bind, pure, Except.pure,
      Bool.false_eq_true, if_false, List.isEmpty_nil, if_true, Bool.not_false, Bool.and_false]
  show Document.takeLine _ _ = _
  rw [stripped, Document.takeLine]
  simp only [List.cons_append, List.head?_cons]
  rw [List.cons_append] at header
  simp only [header, opened, bind, Except.bind, pure, Except.pure, Document.within]

theorem step_blank (document : Document) (none : document.pending = none) :
    document.step [] = .ok document := by
  rw [Document.step, none]
  rfl

end Outliner.Toml
