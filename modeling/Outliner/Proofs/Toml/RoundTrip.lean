import Outliner.Proofs.Text.LineEnd
import Outliner.Proofs.Toml.Passes

namespace Outliner.Toml

structure PlainEntries (entries : Table) : Prop where
  distinct : (entries.map (·.1)).Nodup
  bare : ∀ entry ∈ entries, isBareName entry.1 = true
  plain : ∀ entry ∈ entries, PlainValue entry.2

structure PlainSections (sections : Sections) : Prop where
  distinct : (sections.map (·.1)).Nodup
  bare : ∀ part ∈ sections, isBareName part.1 = true
  entries : ∀ part ∈ sections, PlainEntries part.2

def Sections.table (sections : Sections) : Table :=
  sections.map fun part => (part.1, .table part.2)

theorem Sections.names_table (sections : Sections) :
    sections.table.map (·.1) = sections.map (·.1) := by
  rw [Sections.table, List.map_map]
  rfl

def entriesText (entries : Table) : Text :=
  entries.flatMap fun entry => entryLine entry ++ ['\n']

def sectionText (part : Text × Table) : Text :=
  header part.1 ++ entriesText part.2

def documentText : Sections → Text
  | [] => []
  | part :: rest => sectionText part ++ rest.flatMap fun part => '\n' :: sectionText part

def EndsOnce (text : Text) : Prop :=
  ∃ front c, text = front ++ [c, '\n'] ∧ c ≠ '\n'

theorem EndsOnce.append (front text : Text) (once : EndsOnce text) : EndsOnce (front ++ text) := by
  obtain ⟨more, c, rfl, other⟩ := once
  exact ⟨front ++ more, c, (List.append_assoc _ _ _).symm, other⟩

theorem EndsOnce.take_reverse (text : Text) (once : EndsOnce text) :
    text.isEmpty = false ∧ (text.reverse.take 2 == ['\n', '\n']) = false := by
  obtain ⟨front, c, rfl, other⟩ := once
  constructor
  · simp
  · rw [List.reverse_append, beq_eq_false_iff_ne]
    rintro same
    injection same with _ next
    injection next with same
    exact other same

theorem endsOnce_sectionText (part : Text × Table) (plain : PlainEntries part.2) :
    EndsOnce (sectionText part) := by
  obtain ⟨name, entries⟩ := part
  rcases List.eq_nil_or_concat entries with rfl | ⟨front, entry, rfl⟩
  · exact ⟨'[' :: name, ']', by simp [sectionText, header, entriesText], by decide⟩
  · have value := plain.plain entry (by simp)
    have last : EndsOnce (entryLine entry ++ ['\n']) := by
      obtain ⟨c, rest, whole, _, solid, _⟩ := valueText_ends entry.2 value
      rcases List.eq_nil_or_concat (c :: rest) with empty | ⟨before, d, ends⟩
      · cases empty
      · rw [List.concat_eq_append] at ends
        have other : Text.isSpace d = false := solid d (by rw [ends, List.getLast?_concat])
        rw [entryLine, whole, ends]
        refine ⟨entry.1 ++ " = ".toList ++ before, d, by simp, ?_⟩
        rintro rfl
        exact absurd other (by decide)
    rw [sectionText, entriesText, List.concat_eq_append, List.flatMap_append, List.flatMap_singleton,
      ← List.append_assoc]
    exact last.append _

theorem renderKey_bare (key : Text) (bare : isBareName key = true) : renderKey key = .ok key := by
  have line : (key.getLast? == some '\n') = false := by
    rw [beq_eq_false_iff_ne]
    intro last
    exact bare_not_mem key bare '\n' (by decide) (List.mem_of_getLast? last)
  simp only [renderKey, line, Bool.false_eq_true, if_false, bare, if_true]

theorem addToBody_plain (body : BodyWriter) (levels : Nat) (name : Text) (done : Body)
    (entry : Text × Value) (bare : isBareName entry.1 = true) (plain : PlainValue entry.2) :
    addToBody body levels name done entry =
      .ok { done with entries := done.entries ++ (entryLine entry ++ ['\n']) } := by
  obtain ⟨key, value⟩ := entry
  have written := render_plain value plain
  have named := renderKey_bare key bare
  have line : done.entries ++ key ++ " = ".toList ++ valueText value ++ ['\n'] =
      done.entries ++ (entryLine (key, value) ++ ['\n']) := by
    simp [entryLine]
  cases plain with
  | flag value =>
      simp only [addToBody, named, written, bind, Except.bind, line]
      rfl
  | list text texts listable =>
      have none : ((text :: texts).map Value.text).any Value.isTable = false := by
        rw [List.any_eq_false]
        intro item member
        obtain ⟨other, _, rfl⟩ := List.mem_map.mp member
        exact Bool.false_ne_true
      simp only [addToBody, named, written, none, bind, Except.bind, line, Bool.false_eq_true, if_false]
      rfl

theorem renderBody_plain (levels : Nat) (name : Text) (entries : Table) (plain : PlainEntries entries) :
    renderBody (levels + 1) name entries = .ok (entriesText entries, []) := by
  have each (done : Body) (more : Table) (bare : ∀ entry ∈ more, isBareName entry.1 = true)
      (plain : ∀ entry ∈ more, PlainValue entry.2) :
      more.foldlM (addToBody (renderBody levels) levels name) done =
        .ok { done with entries := done.entries ++ entriesText more } := by
    induction more generalizing done with
    | nil => simp [entriesText]; rfl
    | cons entry rest ih =>
        rw [List.forall_mem_cons] at bare plain
        rw [List.foldlM_cons, addToBody_plain _ _ _ done entry bare.1 plain.1]
        show List.foldlM _ _ _ = _
        rw [ih _ bare.2 plain.2, entriesText, entriesText, List.flatMap_cons]
        simp
  rw [renderBody, each {} entries plain.bare plain.plain]
  simp [bind, Except.bind, pure, Except.pure]

theorem insert_sections_fresh (name : Text) (table : Table) (sections : Sections)
    (fresh : name ∉ sections.map (·.1)) :
    Sections.insert name table sections = sections ++ [(name, table)] := by
  induction sections with
  | nil => rfl
  | cons part rest ih =>
      rw [List.map_cons, List.mem_cons, not_or] at fresh
      rw [Sections.insert, if_neg (by simpa using Ne.symm fresh.1), ih fresh.2]
      rfl

theorem renderBody_table (levels : Nat) (sections : Sections) (plain : PlainSections sections) :
    renderBody (levels + 1) [] sections.table = .ok ([], sections) := by
  have each (done : Body) (more : Sections) (bare : ∀ part ∈ more, isBareName part.1 = true)
      (distinct : ((done.sections ++ more).map (·.1)).Nodup) :
      more.table.foldlM (addToBody (renderBody levels) levels []) done =
        .ok { done with sections := done.sections ++ more } := by
    induction more generalizing done with
    | nil => simp [Sections.table]; rfl
    | cons part rest ih =>
        obtain ⟨name, entries⟩ := part
        rw [List.forall_mem_cons] at bare
        have fresh : name ∉ done.sections.map (·.1) := by
          rw [List.map_append, List.nodup_append] at distinct
          intro member
          exact distinct.2.2 name member name (by simp) rfl
        have added : addToBody (renderBody levels) levels [] done (name, .table entries) =
            .ok { done with sections := done.sections ++ [(name, entries)] } := by
          simp only [addToBody, renderKey_bare name bare.1, bind, Except.bind,
            insert_sections_fresh name entries done.sections fresh]
          rfl
        rw [Sections.table, List.map_cons, List.foldlM_cons, added]
        show List.foldlM _ _ _ = _
        rw [← Sections.table, ih _ bare.2 (by simpa using distinct)]
        simp
  rw [renderBody, each {} sections plain.bare (by simpa using plain.distinct)]
  simp [bind, Except.bind, pure, Except.pure]

def separated (written : Text) : Text :=
  if written.isEmpty || written.reverse.take 2 == ['\n', '\n'] then written else written ++ ['\n']

section Sections

variable (write : Text × Sections → Text × Table → Except Fault (Text × Sections))

theorem foldlM_later (written : Text) (sections : Sections) (once : EndsOnce written)
    (plain : ∀ part ∈ sections, PlainEntries part.2)
    (each : ∀ part ∈ sections, ∀ written,
      write (written, []) part = .ok (separated written ++ sectionText part, [])) :
    sections.foldlM write (written, []) =
      .ok (written ++ sections.flatMap fun part => '\n' :: sectionText part, []) := by
  induction sections generalizing written with
  | nil =>
      rw [List.flatMap_nil, List.append_nil]
      rfl
  | cons part rest ih =>
      rw [List.forall_mem_cons] at plain each
      have apart : separated written = written ++ ['\n'] := by
        obtain ⟨held, ending⟩ := EndsOnce.take_reverse written once
        rw [separated, held, ending]
        rfl
      have next := (endsOnce_sectionText part plain.1).append (written ++ ['\n'])
      rw [List.foldlM_cons, each.1 written, apart]
      show List.foldlM _ _ _ = _
      rw [ih _ next plain.2 each.2, List.flatMap_cons]
      simp

theorem foldlM_document (sections : Sections) (plain : ∀ part ∈ sections, PlainEntries part.2)
    (each : ∀ part ∈ sections, ∀ written,
      write (written, []) part = .ok (separated written ++ sectionText part, [])) :
    sections.foldlM write ([], []) = .ok (documentText sections, []) := by
  cases sections with
  | nil => rfl
  | cons part rest =>
      rw [List.forall_mem_cons] at plain each
      rw [List.foldlM_cons, each.1 []]
      show List.foldlM _ _ _ = _
      exact foldlM_later write _ rest (endsOnce_sectionText part plain.1) plain.2 each.2

end Sections

theorem renderSections_none (body : BodyWriter) (levels : Nat) (done : Text) :
    renderSections body levels done [] = .ok done := by
  cases levels <;> rfl

theorem renderSections_plain (levels : Nat) (sections : Sections) (plain : PlainSections sections) :
    renderSections (renderBody (levels + 1)) (levels + 1) [] sections =
      .ok (documentText sections) := by
  cases sections with
  | nil => rfl
  | cons part rest =>
      rw [renderSections, if_neg (by simp), foldlM_document _ (part :: rest) plain.entries]
      · exact renderSections_none _ levels _
      · intro part member written
        have body := renderBody_plain levels part.1 part.2 (plain.entries part member)
        simp only [body, bind, Except.bind, List.isEmpty_nil, Bool.not_true, Bool.and_false,
          Bool.false_eq_true, if_false, separated, sectionText, List.append_assoc]
        rfl

theorem render_plain_sections (sections : Sections) (plain : PlainSections sections) :
    render sections.table = .ok (documentText sections) := by
  simp only [render, renderBody_table _ sections plain, bind, Except.bind]
  exact renderSections_plain _ sections plain

def Reads (document : Document) (text : Text) (next : Document) : Prop :=
  ∀ rest, (Text.cutAt '\n' (text ++ rest)).foldlM Document.step document =
    (Text.cutAt '\n' rest).foldlM Document.step next

theorem Reads.append (first middle last : Document) (text more : Text)
    (before : Reads first text middle) (after : Reads middle more last) :
    Reads first (text ++ more) last := by
  intro rest
  rw [List.append_assoc, before, after]

theorem reads_line (document next : Document) (line : Text) (single : '\n' ∉ line)
    (stepped : document.step line = .ok next) : Reads document (line ++ ['\n']) next := by
  intro rest
  rw [List.append_assoc, List.singleton_append, Text.cutAt_before '\n' line rest single,
    List.foldlM_cons, stepped]
  rfl

theorem control_not_mem_valueText (control : Char) (hidden : isHidden control = true)
    (small : control.toNat ≤ 0xFF) (none : Text.hexValue? control = none) (value : Value)
    (plain : PlainValue value) : control ∉ valueText value := by
  have other (c : Char) (shown : isHidden c = false) : control ≠ c := by
    rintro rfl
    rw [shown] at hidden
    cases hidden
  cases plain with
  | flag value =>
      intro member
      have shown : (valueText (.bool value)).all (!isHidden ·) = true := by cases value <;> decide
      have own := List.all_eq_true.mp shown control member
      rw [hidden] at own
      cases own
  | list text texts listable =>
      rw [valueText_list, listForm_eq, List.mem_append, List.mem_cons, List.mem_singleton, not_or,
        not_or]
      refine ⟨⟨other '[' (by decide), ?_⟩, other ']' (by decide)⟩
      rw [List.mem_flatMap]
      rintro ⟨item, member, within⟩
      have legible := (listable item member).legible
      have absent : control ∉ item := by
        intro inside
        exact absurd (legible.hidden control inside hidden) (by omega)
      have formed := not_mem_formed isHidden control item
        (by simp [other '"' (by decide), other '\\' (by decide), other 'u' (by decide),
          other 'U' (by decide)])
        none legible.hidden absent
      simp [piece, literal, formed, other ' ' (by decide), other '"' (by decide),
        other ',' (by decide)] at within

section Controls

variable (control : Char) (hidden : isHidden control = true) (small : control.toNat ≤ 0xFF)
  (none : Text.hexValue? control = none) (apart : isBareChar control = false)
include hidden small none apart

theorem control_not_mem_entryLine (entry : Text × Value) (bare : isBareName entry.1 = true)
    (plain : PlainValue entry.2) : control ∉ entryLine entry := by
  have key := bare_not_mem entry.1 bare control apart
  have value := control_not_mem_valueText control hidden small none entry.2 plain
  have sign : control ∉ " = ".toList := by
    have shown : " = ".toList.all (!isHidden ·) = true := by decide
    intro member
    have own := List.all_eq_true.mp shown control member
    rw [hidden] at own
    cases own
  rw [entryLine, List.mem_append, List.mem_append, not_or, not_or]
  exact ⟨⟨key, sign⟩, value⟩

theorem control_not_mem_header (name : Text) (bare : isBareName name = true) :
    control ∉ '[' :: name ++ [']'] := by
  have inside := bare_not_mem name bare control apart
  have brackets : control ≠ '[' ∧ control ≠ ']' := by
    constructor
    · rintro rfl
      exact absurd hidden (by decide)
    · rintro rfl
      exact absurd hidden (by decide)
  simp [inside, brackets]

end Controls

theorem header_eq (name : Text) : header name = '[' :: name ++ [']'] ++ ['\n'] := by
  simp [header]

theorem reads_entries (sections : Table) (name : Text) (entries more : Table)
    (outside : name ∉ sections.map (·.1)) (distinct : ((entries ++ more).map (·.1)).Nodup)
    (bare : ∀ entry ∈ more, isBareName entry.1 = true) (plain : ∀ entry ∈ more, PlainValue entry.2) :
    Reads (Document.within sections name entries) (entriesText more)
      (Document.within sections name (entries ++ more)) := by
  induction more generalizing entries with
  | nil =>
      rw [List.append_nil]
      intro rest
      rfl
  | cons entry later ih =>
      obtain ⟨key, value⟩ := entry
      rw [List.forall_mem_cons] at bare plain
      have fresh : key ∉ entries.map (·.1) := by
        rw [List.map_append, List.nodup_append] at distinct
        intro member
        exact distinct.2.2 key member key (by simp) rfl
      have line := reads_line _ _ (entryLine (key, value))
        (control_not_mem_entryLine '\n' (by decide) (by decide) rfl (by decide) _ bare.1 plain.1)
        (step_entryLine sections name key value entries outside bare.1 plain.1 fresh)
      rw [entriesText, List.flatMap_cons, ← entriesText, List.append_cons entries]
      exact line.append _ _ _ _ _ (ih (entries ++ [(key, value)]) (by simpa using distinct) bare.2
        plain.2)

theorem reads_section (sections : Table) (place : List Step) (part : Text × Table)
    (bare : isBareName part.1 = true) (fresh : part.1 ∉ sections.map (·.1))
    (plain : PlainEntries part.2) :
    Reads { value := .table sections, place := place } (sectionText part)
      { value := .table (sections ++ [(part.1, .table part.2)]), place := [.entry part.1] } := by
  have opened := reads_line _ _ _
    (control_not_mem_header '\n' (by decide) (by decide) rfl (by decide) part.1 bare)
    (step_header sections place part.1 bare fresh)
  rw [sectionText, header_eq]
  exact opened.append _ _ _ _ _
    (reads_entries sections part.1 [] part.2 fresh plain.distinct plain.bare plain.plain)

theorem reads_sections (done : Table) (place : List Step) (sections : Sections)
    (distinct : ((done ++ sections.table).map (·.1)).Nodup)
    (bare : ∀ part ∈ sections, isBareName part.1 = true)
    (plain : ∀ part ∈ sections, PlainEntries part.2) :
    ∃ last, Reads { value := .table done, place := place }
      (sections.flatMap fun part => '\n' :: sectionText part)
      { value := .table (done ++ sections.table), place := last } := by
  induction sections generalizing done place with
  | nil =>
      refine ⟨place, ?_⟩
      rw [Sections.table, List.map_nil, List.append_nil]
      intro rest
      rfl
  | cons part later ih =>
      rw [List.forall_mem_cons] at bare plain
      have fresh : part.1 ∉ done.map (·.1) := by
        rw [List.map_append, List.nodup_append] at distinct
        intro member
        exact distinct.2.2 _ member _ (by simp [Sections.table]) rfl
      have blank := reads_line { value := .table done, place := place } _ [] (by simp)
        (step_blank _ rfl)
      have own := reads_section done place part bare.1 fresh plain.1
      obtain ⟨last, rest⟩ := ih (done ++ [(part.1, .table part.2)]) [.entry part.1]
        (by simpa [Sections.table] using distinct) bare.2 plain.2
      refine ⟨last, ?_⟩
      rw [List.flatMap_cons, Sections.table, List.map_cons, ← Sections.table, List.append_cons done]
      exact (blank.append _ _ _ _ _ own).append _ _ _ _ _ rest

theorem reads_document (sections : Sections) (plain : PlainSections sections) :
    ∃ last, Reads {} (documentText sections) { value := .table sections.table, place := last } := by
  cases sections with
  | nil => exact ⟨[], fun _ => rfl⟩
  | cons part later =>
      have bare := List.forall_mem_cons.mp plain.bare
      have entries := List.forall_mem_cons.mp plain.entries
      have first := reads_section [] [] part bare.1 (by simp) entries.1
      have distinct := plain.distinct
      rw [← Sections.names_table] at distinct
      obtain ⟨last, rest⟩ := reads_sections [(part.1, .table part.2)] [.entry part.1] later distinct
        bare.2 entries.2
      exact ⟨last, first.append _ _ _ _ _ rest⟩

theorem keeps_entriesText (entries : Table) (plain : PlainEntries entries) :
    Layout.Keeps Layout.atLine (entriesText entries) Layout.atLine := by
  obtain ⟨-, bare, plain⟩ := plain
  induction entries with
  | nil => exact Layout.keeps_nil Layout.atLine
  | cons entry rest ih =>
      rw [List.forall_mem_cons] at bare plain
      exact Layout.keeps_append _ _ _ _ _ (Layout.keeps_entryLine entry bare.1 plain.1)
        (ih bare.2 plain.2)

theorem keeps_sectionText (part : Text × Table) (bare : isBareName part.1 = true)
    (plain : PlainEntries part.2) :
    Layout.Keeps Layout.atLine (sectionText part) Layout.atLine :=
  Layout.keeps_append _ _ _ _ _ (Layout.keeps_header part.1 bare) (keeps_entriesText part.2 plain)

theorem keeps_documentText (sections : Sections) (plain : PlainSections sections) :
    Layout.Keeps Layout.atLine (documentText sections) Layout.atLine := by
  have later (sections : Sections) (bare : ∀ part ∈ sections, isBareName part.1 = true)
      (plain : ∀ part ∈ sections, PlainEntries part.2) :
      Layout.Keeps Layout.atLine (sections.flatMap fun part => '\n' :: sectionText part)
        Layout.atLine := by
    induction sections with
    | nil => exact Layout.keeps_nil Layout.atLine
    | cons part rest ih =>
        rw [List.forall_mem_cons] at bare plain
        exact Layout.keeps_append _ _ _ _ _
          (Layout.keeps_append _ _ _ _ _ Layout.keeps_blank
            (keeps_sectionText part bare.1 plain.1)) (ih bare.2 plain.2)
  cases sections with
  | nil => exact Layout.keeps_nil Layout.atLine
  | cons part rest =>
      have bare := List.forall_mem_cons.mp plain.bare
      have entries := List.forall_mem_cons.mp plain.entries
      exact Layout.keeps_append _ _ _ _ _ (keeps_sectionText part bare.1 entries.1)
        (later rest bare.2 entries.2)

theorem return_not_mem_documentText (sections : Sections) (plain : PlainSections sections) :
    '\r' ∉ documentText sections := by
  have inside (part : Text × Table) (member : part ∈ sections) : '\r' ∉ sectionText part := by
    have named := control_not_mem_header '\r' (by decide) (by decide) rfl (by decide) part.1
      (plain.bare part member)
    rw [sectionText, header_eq, List.mem_append, List.mem_append, not_or, not_or]
    refine ⟨⟨named, by decide⟩, ?_⟩
    rw [entriesText, List.mem_flatMap]
    rintro ⟨entry, listed, among⟩
    have own := plain.entries part member
    have line := control_not_mem_entryLine '\r' (by decide) (by decide) rfl (by decide) entry
      (own.bare entry listed) (own.plain entry listed)
    simp [line] at among
  cases sections with
  | nil => simp [documentText]
  | cons part rest =>
      rw [List.forall_mem_cons] at inside
      rw [documentText, List.mem_append, not_or, List.mem_flatMap]
      refine ⟨inside.1, ?_⟩
      rintro ⟨other, member, among⟩
      rcases List.mem_cons.mp among with same | within
      · exact absurd same (by decide)
      · exact inside.2 other member within

theorem unifyNewlines_plain (text : Text) (plain : '\r' ∉ text) : Text.unifyNewlines text = text := by
  induction text with
  | nil => rfl
  | cons c rest ih =>
      rw [List.mem_cons, not_or] at plain
      rw [Text.unifyNewlines_cons c rest (fun same => absurd same.symm plain.1),
        if_neg (Ne.symm plain.1), ih plain.2]

theorem parse_documentText (sections : Sections) (plain : PlainSections sections) :
    parse (Text.unifyNewlines (documentText sections)) = .ok sections.table := by
  have kept := Layout.layout_of_keeps _ (keeps_documentText sections plain)
  obtain ⟨last, reads⟩ := reads_document sections plain
  have lines := reads []
  rw [List.append_nil] at lines
  have final : (Text.cutAt '\n' (documentText sections)).foldlM Document.step {} =
      .ok { value := .table sections.table, place := last } := lines
  rw [unifyNewlines_plain _ (return_not_mem_documentText sections plain), parse]
  simp only [kept, final, bind, Except.bind]
  rfl

end Outliner.Toml
