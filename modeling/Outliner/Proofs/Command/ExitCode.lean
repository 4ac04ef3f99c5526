import Outliner.Command.Run
import Outliner.Proofs.Display.NodeLabels
import Outliner.Proofs.Display.Styles
import Outliner.Proofs.Settings.SetOutcome

/-!
The exit code of the command that changes a setting. It reports on the change of the file, and after
the change it prints a message with the value that was stored, whose own markup can have a fault.
-/

namespace Outliner

namespace Command

open Markup

def successMark : Text :=
  Display.styled "green".toList "✓".toList

/-- The message of a change that was made. -/
def storedMarkup (setting : Setting) (stored : SettingValue) : Text :=
  successMark ++ ' ' :: setting.key ++ " = ".toList ++ settingText stored

theorem tokens_successMark (rest : Text) :
    tokens (successMark ++ rest) = tokens successMark ++ tokens rest := by
  have apart (rest : Text) := tokens_append_tag "[green]✓".toList (by decide) 0 "/green".toList rest
    (by decide)
  have whole := apart []
  simp only [List.replicate_zero, List.nil_append, tokens_nil, List.append_nil] at apart whole
  have cut : successMark = "[green]✓".toList ++ bracketed "/green".toList := by decide
  rw [cut, whole, List.append_assoc, apart, List.append_assoc]
  rfl

theorem foldlM_successMark :
    ∃ mark, (tokens successMark).foldlM Showing.step {} = .ok mark ∧
      mark.opened = [] ∧ mark.spans.map Span.style = ["green".toList] := by
  have shown : ((tokens successMark).foldlM Showing.step {}).toOption.map
      (fun mark => (mark.opened, mark.spans.map Span.style)) = some ([], ["green".toList]) := by
    decide +kernel
  obtain ⟨mark, held, same⟩ := Option.map_eq_some_iff.mp shown
  obtain ⟨opened, spans⟩ := Prod.mk.inj same
  exact ⟨mark, ok_of_toOption held, opened, spans⟩

theorem render_message (rest : Text) (tagless : ¬HasTag rest) :
    ∃ shown, render (successMark ++ rest) = .ok shown ∧ shown.styles = ["green".toList] := by
  obtain ⟨mark, marked, opened, spans⟩ := foldlM_successMark
  refine ⟨(mark.append (collapsed rest)).finish, ?_, ?_⟩
  · rw [render, tokens_successMark, List.foldlM_append, marked]
    show (List.foldlM _ _ _ >>= _) = _
    rw [Showing.foldlM_tagless mark rest tagless]
    rfl
  · show (mark.opened.map _ ++ mark.spans).map Span.style = _
    rw [opened, List.map_nil, List.nil_append, spans]

theorem isReadable_green : Display.IsReadable "green".toList := by
  have read : (Style.ofWords {} (Text.words "green".toList)).toOption.isSome = true := by
    decide +kernel
  obtain ⟨style, held⟩ := Option.isSome_iff_exists.mp read
  exact ⟨style, ok_of_toOption held⟩

theorem tryPrint_stored (width : Nat) (setting : Setting) (stored : SettingValue)
    (tagless : ¬HasTag (settingText stored)) :
    ∃ output, Display.tryPrint width (storedMarkup setting stored) = .ok output := by
  have plain : '[' ∉ ' ' :: setting.key ++ " = ".toList := by
    cases setting with
    | toggle choice => cases choice <;> decide
    | extensions => decide
    | skippedDirs => decide
  rw [← hasTag_append _ _ plain] at tagless
  obtain ⟨shown, rendered, styles⟩ := render_message _ tagless
  apply Display.tryPrint_ok width _ shown (by rw [storedMarkup, ← rendered]; simp)
  rw [styles, List.forall_mem_singleton]
  exact isReadable_green

/-- The flag for help stands before two dashes, and no other flag does. -/
def AsksHelp (key value : Text) : Prop :=
  key = "--help".toList ∧
      (value = "--help".toList ∨ value = "--".toList ∨ FlagTable.isFlags value = false) ∨
    FlagTable.isFlags key = false ∧ value = "--help".toList

instance (key value : Text) : Decidable (AsksHelp key value) :=
  inferInstanceAs (Decidable (_ ∨ _))

section Arguments

variable (argument : Text)

theorem flags?_plain (dashed : FlagTable.isFlags argument = true) :
    FlagTable.flags? {} argument = if argument = "--help".toList then some [.help] else none := by
  unfold FlagTable.isFlags at dashed
  split at dashed
  · next c rest =>
      rw [FlagTable.flags?]
      by_cases asked : '-' :: c :: rest = "--help".toList
      · rw [if_pos asked, asked]
        rfl
      · have unknown : List.lookup ('-' :: c :: rest) [("--help".toList, Flag.help)] = none := by
          rw [List.lookup_cons, beq_false_of_ne asked, List.lookup_nil]
        rw [if_neg asked, unknown]
        split
        · rfl
        · split <;> rfl
  · cases dashed

theorem split?_flags (dashed : FlagTable.isFlags argument = true) (rest : List Text) :
    FlagTable.split? {} (argument :: rest) =
      if argument = "--".toList then some ([], rest)
      else if argument = "--help".toList then
        (FlagTable.split? {} rest).map fun (flags, operands) => (.help :: flags, operands)
      else none := by
  rw [FlagTable.split?, if_pos dashed, flags?_plain argument dashed]
  simp only [beq_iff_eq]
  split
  · rfl
  · split
    · cases FlagTable.split? {} rest <;> rfl
    · rfl

theorem split?_operand (plain : FlagTable.isFlags argument = false) (rest : List Text) :
    FlagTable.split? {} (argument :: rest) =
      (FlagTable.split? {} rest).map fun (flags, operands) => (flags, argument :: operands) := by
  have operand : (argument == "--".toList) = false := by
    rw [beq_eq_false_iff_ne]
    rintro rfl
    cases plain
  rw [FlagTable.split?, operand, plain]
  cases FlagTable.split? {} rest <;> rfl

theorem argument_cases :
    FlagTable.isFlags argument = false ∨ argument = "--".toList ∨ argument = "--help".toList ∨
      FlagTable.isFlags argument = true ∧ argument ≠ "--".toList ∧ argument ≠ "--help".toList := by
  by_cases ended : argument = "--".toList
  · exact Or.inr (Or.inl ended)
  · by_cases asked : argument = "--help".toList
    · exact Or.inr (Or.inr (Or.inl asked))
    · cases dashed : FlagTable.isFlags argument with
      | false => exact Or.inl rfl
      | true => exact Or.inr (Or.inr (Or.inr ⟨rfl, ended, asked⟩))

end Arguments

section Pair

variable (key value : Text)

theorem asksHelp_operand (plain : FlagTable.isFlags key = false) :
    AsksHelp key value ↔ value = "--help".toList := by
  constructor
  · rintro (⟨rfl, _⟩ | ⟨_, same⟩)
    · cases plain
    · exact same
  · intro same
    exact Or.inr ⟨plain, same⟩

theorem asksHelp_help :
    AsksHelp "--help".toList value ↔
      value = "--help".toList ∨ value = "--".toList ∨ FlagTable.isFlags value = false := by
  constructor
  · rintro (⟨_, shown⟩ | ⟨plain, _⟩)
    · exact shown
    · cases plain
  · intro shown
    exact Or.inl ⟨rfl, shown⟩

theorem not_asksHelp (dashed : FlagTable.isFlags key = true) (noHelp : key ≠ "--help".toList) :
    ¬AsksHelp key value := by
  rintro (⟨same, _⟩ | ⟨plain, _⟩)
  · exact noHelp same
  · rw [dashed] at plain
    cases plain

variable (page : List Text) (make : List Flag → List Text → Option Command)

theorem read?_operand (plain : FlagTable.isFlags key = false) :
    read? {} page [key, value] make =
      if value = "--help".toList then some (.help page)
      else if value = "--".toList then make [] [key]
      else if FlagTable.isFlags value then none
      else make [] [key, value] := by
  rw [read?, split?_operand key plain]
  rcases argument_cases value with last | rfl | rfl | ⟨dashed, noEnd, noHelp⟩
  · have noHelp : value ≠ "--help".toList := by
      rintro rfl
      cases last
    have noEnd : value ≠ "--".toList := by
      rintro rfl
      cases last
    rw [split?_operand value last, if_neg noHelp, if_neg noEnd, last]
    rfl
  · rfl
  · rfl
  · rw [split?_flags value dashed, if_neg noEnd, if_neg noHelp, if_neg noHelp, if_neg noEnd,
      if_pos dashed]
    rfl

theorem read?_help :
    read? {} page ["--help".toList, value] make =
      if AsksHelp "--help".toList value then some (.help page) else none := by
  rw [read?, split?_flags _ rfl]
  rcases argument_cases value with last | rfl | rfl | ⟨dashed, noEnd, noHelp⟩
  · rw [split?_operand value last, if_pos ((asksHelp_help value).mpr (Or.inr (Or.inr last)))]
    rfl
  · rfl
  · rfl
  · have silent : ¬AsksHelp "--help".toList value := by
      rw [asksHelp_help, not_or, not_or, dashed]
      exact ⟨noHelp, noEnd, nofun⟩
    rw [split?_flags value dashed, if_neg noEnd, if_neg noHelp, if_neg silent]
    rfl

end Pair

theorem read?_pair (page : List Text) (key value : Text) :
    read? {} page [key, value] (fun _ operands =>
      match operands with
      | [key, value] => some (.setSetting key value)
      | _ => none) =
      if AsksHelp key value then some (.help page)
      else if FlagTable.isFlags key || FlagTable.isFlags value then none
      else some (.setSetting key value) := by
  rcases argument_cases key with plain | rfl | rfl | ⟨dashed, noEnd, noHelp⟩
  · simp only [read?_operand key value page _ plain, asksHelp_operand key value plain, plain,
      Bool.false_or]
    split
    · rfl
    · split
      · next ended => rw [ended]; rfl
      · rfl
  · rw [if_neg (not_asksHelp _ value rfl (by decide))]
    rfl
  · rw [read?_help]
    rfl
  · rw [read?, split?_flags key dashed, if_neg noEnd, if_neg noHelp, dashed,
      if_neg (not_asksHelp key value dashed noHelp)]
    rfl

theorem ofGroup?_command (table : FlagTable) (page : List Text) (name : Text) (rest : List Text)
    (read : Text → List Text → Option Command)
    (flagless : table.split? (name :: rest) = some ([], name :: rest)) :
    ofGroup? table page [] (name :: rest) read = read name rest := by
  rw [ofGroup?, flagless]
  rfl

theorem parse_setSetting (key value : Text) :
    Invocation.parse? ["config".toList, "set".toList, key, value] =
      if AsksHelp key value then some ⟨false, .help ["config".toList, "set".toList]⟩
      else if FlagTable.isFlags key || FlagTable.isFlags value then none
      else some ⟨false, .setSetting key value⟩ := by
  have outer : mainFlags.split? ["config".toList, "set".toList, key, value] =
      some ([], ["config".toList, "set".toList, key, value]) := rfl
  have inner : settingsFlags.split? ["set".toList, key, value] =
      some ([], ["set".toList, key, value]) := rfl
  have parsed : parse? "config".toList ["set".toList, key, value] =
      ofSettings? "set".toList [key, value] := by
    rw [← ofGroup?_command settingsFlags ["config".toList] _ _ ofSettings? inner]
    show (settingsFlags.split? _ >>= _) = _
    rw [inner]
    rfl
  have named : ofSettings? "set".toList [key, value] = _ :=
    read?_pair ["config".toList, "set".toList] key value
  rw [Invocation.parse?, outer]
  show (ofGroup? _ _ _ _ _ >>= _) = _
  rw [ofGroup?_command _ _ _ _ _ outer, parsed, named]
  split
  · rfl
  · split <;> rfl

theorem files_say (context : Context) (notices : List Notice) (markup : Text) :
    (context.say notices markup).files = context.files := by
  rw [Context.say]
  split <;> rfl

section Set

variable (context : Context) (key value input : Text)

theorem files_runSetSetting : (runSetSetting context key value).files =
    (Store.set context.files context.settings key value).files := by
  rw [runSetSetting]
  split
  · rw [files_say]
  · split
    · rfl
    · rw [files_say]

theorem exit_runSetSetting : (runSetSetting context key value).exit = 0 ↔
    ∃ setting stored output,
      (Store.set context.files context.settings key value).result = .ok (setting, stored) ∧
        Display.tryPrint context.width (storedMarkup setting stored) = .ok output := by
  rw [runSetSetting]
  cases ended : (Store.set context.files context.settings key value).result with
  | error error =>
      refine iff_of_false ?_ ?_
      · simp only
        split <;> exact Nat.one_ne_zero
      · rintro ⟨setting, stored, output, same, _⟩
        cases same
  | ok pair =>
      obtain ⟨setting, stored⟩ := pair
      show (Context.say _ _ (storedMarkup setting stored)).exit = 0 ↔ _
      rw [Context.say]
      cases printed : Display.tryPrint context.width (storedMarkup setting stored) with
      | ok output => exact iff_of_true rfl ⟨_, _, output, rfl, printed⟩
      | error fault =>
          refine iff_of_false Nat.one_ne_zero ?_
          rintro ⟨_, _, output, same, done⟩
          cases same
          rw [printed] at done
          cases done

/-- The value of a setting is in the file: it is the entry of the setting in the table that has been
written, and if what is written is read again as that table, the file has it. -/
def Stores (setting : Setting) (stored : SettingValue) (after : Entry) : Prop :=
  ∃ changed written,
    Store.Plans context.files context.settings key value setting stored changed ∧
    setting.entry? changed = some stored.toToml ∧ Toml.render changed = .ok written ∧
    after.read context.settings = .ok (Text.Utf8.encode written) ∧
    (Toml.parse (Text.unifyNewlines written) = .ok changed →
      Store.loadTable after context.settings = .ok (changed, []))

theorem stores_of_set (setting : Setting) (stored : SettingValue)
    (ended : (Store.set context.files context.settings key value).result = .ok (setting, stored)) :
    Stores context key value setting stored
      (Store.set context.files context.settings key value).files := by
  obtain ⟨changed, written, plans, _, rendered, read⟩ :=
    (Store.stored_iff context.files context.settings key value setting stored).mp ended
  refine ⟨changed, written, plans, ?_, rendered, read, ?_⟩
  · obtain ⟨_, table, _, edits⟩ := plans
    cases edits with
    | absent held =>
        rw [Setting.entry?, Toml.Table.get?_insert, if_pos rfl]
        simp only [Toml.Table.get?, beq_self_eq_true, if_true]
    | present held =>
        rw [Setting.entry?, Toml.Table.get?_insert, if_pos rfl]
        simp only [Toml.Table.get?_insert, if_true]
  · intro parsed
    rw [Store.loadTable, Entry.isPresent_of_read _ _ _ read, read]
    simp only [Bool.not_true, Bool.false_eq_true, if_false, Text.Utf8.decode?_encode, parsed]

theorem files_of_unsaid (unsaid : ¬∃ setting stored output,
      (Store.set context.files context.settings key value).result = .ok (setting, stored) ∧
        Display.tryPrint context.width (storedMarkup setting stored) = .ok output) :
    let after := (Store.set context.files context.settings key value).files
    after = context.files ∨
      (∃ setting stored fault, Stores context key value setting stored after ∧
        HasTag (settingText stored) ∧
        Display.tryPrint context.width (storedMarkup setting stored) = .error fault) ∨
      ∃ setting stored changed fault,
        Store.Plans context.files context.settings key value setting stored changed ∧
        Toml.render changed = .error fault ∧ after.read context.settings = .ok [] := by
  intro after
  cases ended : (Store.set context.files context.settings key value).result with
  | error error =>
      rcases Store.files_of_error context.files context.settings key value error ended with
        same | ⟨setting, stored, changed, fault, plans, rendered, _, emptied⟩
      · exact Or.inl same
      · exact Or.inr (Or.inr ⟨setting, stored, changed, fault, plans, rendered, emptied⟩)
  | ok pair =>
      obtain ⟨setting, stored⟩ := pair
      have kept := stores_of_set context key value setting stored ended
      cases printed : Display.tryPrint context.width (storedMarkup setting stored) with
      | ok output => exact absurd ⟨setting, stored, output, ended, printed⟩ unsaid
      | error fault =>
          refine Or.inr (Or.inl ⟨setting, stored, fault, kept, ?_, printed⟩)
          by_contra tagless
          obtain ⟨output, done⟩ := tryPrint_stored context.width setting stored tagless
          rw [printed] at done
          cases done

theorem run_setSetting :
    let report := Invocation.run context ["config".toList, "set".toList, key, value] input
    let given := runSetSetting context key value
    let page := ["config".toList, "set".toList]
    AsksHelp key value ∧ report.exit = 0 ∧ report.output = context.help page ∧
        report.files = context.files ∨
      ¬AsksHelp key value ∧ (FlagTable.isFlags key || FlagTable.isFlags value) = true ∧
        report.exit = 2 ∧ report.files = context.files ∨
      ¬AsksHelp key value ∧ (FlagTable.isFlags key || FlagTable.isFlags value) = false ∧
        report.exit = given.exit ∧ report.files = given.files := by
  intro report given page
  simp only [report, Invocation.run, parse_setSetting]
  by_cases asked : AsksHelp key value
  · rw [if_pos asked]
    exact Or.inl ⟨asked, rfl, rfl, rfl⟩
  · rw [if_neg asked]
    cases FlagTable.isFlags key || FlagTable.isFlags value with
    | true => exact Or.inr (Or.inl ⟨asked, rfl, rfl, rfl⟩)
    | false => exact Or.inr (Or.inr ⟨asked, rfl, rfl, rfl⟩)

/-- What the exit code of the command tells. The help page is shown with zero, and the files are as
they were. Otherwise the value is in the file with zero, and without it the files are as they were,
but that the value is in the file if its own tags are faulty markup, and that a table without a
written form has emptied the file. -/
theorem set_exit_tells :
    let report := Invocation.run context ["config".toList, "set".toList, key, value] input
    (report.exit = 0 ↔ AsksHelp key value ∨
      (FlagTable.isFlags key || FlagTable.isFlags value) = false ∧
      ∃ setting stored output,
        (Store.set context.files context.settings key value).result = .ok (setting, stored) ∧
          Display.tryPrint context.width (storedMarkup setting stored) = .ok output) ∧
    (AsksHelp key value → report.files = context.files ∧
      report.output = context.help ["config".toList, "set".toList]) ∧
    (report.exit = 0 → ¬AsksHelp key value →
      ∃ setting stored, Stores context key value setting stored report.files) ∧
    (report.exit ≠ 0 → report.files = context.files ∨
      (∃ setting stored fault, Stores context key value setting stored report.files ∧
        HasTag (settingText stored) ∧
        Display.tryPrint context.width (storedMarkup setting stored) = .error fault) ∨
      ∃ setting stored changed fault,
        Store.Plans context.files context.settings key value setting stored changed ∧
        Toml.render changed = .error fault ∧ report.files.read context.settings = .ok []) := by
  intro report
  rcases run_setSetting context key value input with
    ⟨asked, exit, output, files⟩ | ⟨silent, dashed, exit, files⟩ | ⟨silent, plain, exit, files⟩
  · exact ⟨iff_of_true exit (Or.inl asked), fun _ => ⟨files, output⟩,
      fun _ other => absurd asked other, fun _ => Or.inl files⟩
  · have nonzero : report.exit ≠ 0 := by
      rw [exit]
      decide
    refine ⟨iff_of_false nonzero ?_, fun asked => absurd asked silent,
      fun zero => absurd zero nonzero, fun _ => Or.inl files⟩
    rintro (asked | ⟨plain, _⟩)
    · exact silent asked
    · rw [dashed] at plain
      cases plain
  · rw [files_runSetSetting] at files
    rw [plain, exit, exit_runSetSetting, files]
    refine ⟨?_, fun asked => absurd asked silent, ?_, ?_⟩
    · rw [or_iff_right silent, and_iff_right rfl]
    · rintro ⟨setting, stored, output, ended, _⟩ _
      exact ⟨setting, stored, stores_of_set context key value setting stored ended⟩
    · intro unsaid
      exact files_of_unsaid context key value (mt (exit_runSetSetting context key value).mpr unsaid)

end Set

/-- A place without any file. -/
def blankContext : Context where
  files := .dir []
  settings := homePath
  width := 80

/-- A closing tag as the name of a folder is stored, and then the message of the change fails. -/
theorem closing_tag_is_stored :
    let report := Invocation.run blankContext
      ["config".toList, "set".toList, "skip_dirs".toList, "[/b]".toList] []
    report.exit = 1 ∧ report.failure = some (.markup .unmatched) ∧
      blankContext.files.read homePath = .error .notFound ∧
      report.files.read homePath =
        .ok (Text.Utf8.encode "[scan]\nskip_dirs = [ \"[/b]\",]\n".toList) := by
  decide +kernel

end Command

end Outliner
