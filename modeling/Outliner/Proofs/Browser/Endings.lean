import Outliner.Proofs.Browser.Turns

/-!
A session is a fold over its lines. The first line that quits or misnumbers ends it, and the tree at
the end is what the lines before that one made of the tree at the start, flag by flag.
-/

namespace Outliner.Browser

instance (text : Text) : Decidable (Text.IsDigits text) :=
  inferInstanceAs (Decidable (_ ∧ _))

instance (line : Text) : Decidable (Quits line) :=
  inferInstanceAs (Decidable (_ ∨ _))

instance (line : Text) : Decidable (Misnumbers line) :=
  inferInstanceAs (Decidable (_ ∧ _))

/-- A line of one kind comes before any of the other. -/
def ComesFirst (kind other : Text → Prop) (lines : List Text) : Prop :=
  ∃ before line after, lines = before ++ line :: after ∧ kind line ∧
    ∀ earlier ∈ before, ¬ other earlier

def turns (lines : List Text) : List Text :=
  lines.takeWhile fun line => decide (¬ Quits line ∧ ¬ Misnumbers line)

/-- What is printed when the session is left. -/
def farewell (width : Nat) : Text :=
  Display.print width (Display.styled "cyan".toList "Goodbye!".toList)

theorem comesFirst_nil (kind other : Text → Prop) : ¬ ComesFirst kind other [] := by
  intro first
  rcases first with ⟨before, line, after, empty, _⟩
  simp at empty

theorem comesFirst_cons (kind other : Text → Prop) (line : Text) (rest : List Text) :
    ComesFirst kind other (line :: rest) ↔ kind line ∨ ¬ other line ∧ ComesFirst kind other rest := by
  constructor
  · intro first
    rcases first with ⟨before, found, after, same, own, clear⟩
    cases before with
    | nil =>
        rcases List.cons.inj same with ⟨rfl, _⟩
        exact Or.inl own
    | cons earlier before =>
        rcases List.cons.inj same with ⟨rfl, later⟩
        rw [List.forall_mem_cons] at clear
        exact Or.inr ⟨clear.1, before, found, after, later, own, clear.2⟩
  · intro own
    rcases own with own | ⟨clear, before, found, after, rfl, own, others⟩
    · exact ⟨[], line, rest, rfl, own, nofun⟩
    · refine ⟨line :: before, found, after, rfl, own, ?_⟩
      rw [List.forall_mem_cons]
      exact ⟨clear, others⟩

section Runs

variable (width : Nat) (tree : Node)

theorem run_quit (line : Text) (rest : List Text) (quits : Quits line) :
    run width tree (line :: rest) = ⟨screen width tree ++ farewell width, .goodbye, tree⟩ := by
  simp only [run, ofLine_quit line quits]
  rfl

theorem run_notNumber (line : Text) (rest : List Text) (wrong : Misnumbers line) :
    (run width tree (line :: rest)).ending = .notNumber ∧
      (run width tree (line :: rest)).root = tree := by
  simp only [run, ending?_notNumber line wrong, and_self]

theorem run_turn (line : Text) (rest : List Text) (stays : ¬ Quits line)
    (right : ¬ Misnumbers line) :
    ∃ shown, run width tree (line :: rest) =
      { run width (turn tree line) rest with
        output := shown ++ (run width (turn tree line) rest).output } := by
  simp only [run, ending?_turn line stays right]
  exact ⟨_, rfl⟩

/-- The tree at the end, by induction on the lines. -/
theorem root_run (lines : List Text) :
    (run width tree lines).root = (turns lines).foldl turn tree := by
  induction lines generalizing tree with
  | nil => rfl
  | cons line rest ih =>
      by_cases quits : Quits line
      · rw [run_quit width tree line rest quits]
        simp [turns, quits]
      · by_cases wrong : Misnumbers line
        · rw [(run_notNumber width tree line rest wrong).2]
          simp [turns, wrong]
        · obtain ⟨shown, same⟩ := run_turn width tree line rest quits wrong
          have more : turns (line :: rest) = line :: turns rest := by
            simp [turns, quits, wrong]
          rw [same, more, List.foldl_cons]
          exact ih (turn tree line)

theorem ending_run_goodbye (lines : List Text) :
    (run width tree lines).ending = .goodbye ↔ ComesFirst Quits Misnumbers lines := by
  induction lines generalizing tree with
  | nil => simp [run, comesFirst_nil]
  | cons line rest ih =>
      rw [comesFirst_cons]
      by_cases quits : Quits line
      · simp [run_quit width tree line rest quits, quits]
      · by_cases wrong : Misnumbers line
        · simp [(run_notNumber width tree line rest wrong).1, quits, wrong]
        · obtain ⟨shown, same⟩ := run_turn width tree line rest quits wrong
          simp [same, ih, quits, wrong]

theorem ending_run_notNumber (lines : List Text) :
    (run width tree lines).ending = .notNumber ↔ ComesFirst Misnumbers Quits lines := by
  induction lines generalizing tree with
  | nil => simp [run, comesFirst_nil]
  | cons line rest ih =>
      rw [comesFirst_cons]
      by_cases quits : Quits line
      · simp [run_quit width tree line rest quits, quits, not_misnumbers_of_quits line quits]
      · by_cases wrong : Misnumbers line
        · simp [(run_notNumber width tree line rest wrong).1, wrong]
        · obtain ⟨shown, same⟩ := run_turn width tree line rest quits wrong
          simp [same, ih, quits, wrong]

theorem ending_run_endOfInput (lines : List Text) :
    (run width tree lines).ending = .endOfInput ↔
      ∀ line ∈ lines, ¬ Quits line ∧ ¬ Misnumbers line := by
  induction lines generalizing tree with
  | nil => simp [run]
  | cons line rest ih =>
      rw [List.forall_mem_cons]
      by_cases quits : Quits line
      · simp [run_quit width tree line rest quits, quits]
      · by_cases wrong : Misnumbers line
        · simp [(run_notNumber width tree line rest wrong).1, wrong]
        · obtain ⟨shown, same⟩ := run_turn width tree line rest quits wrong
          simp [same, ih, quits, wrong]

theorem output_run_goodbye (lines : List Text) (left : (run width tree lines).ending = .goodbye) :
    farewell width <:+ (run width tree lines).output := by
  induction lines generalizing tree with
  | nil => cases left
  | cons line rest ih =>
      by_cases quits : Quits line
      · rw [run_quit width tree line rest quits]
        exact List.suffix_append _ _
      · by_cases wrong : Misnumbers line
        · rw [(run_notNumber width tree line rest wrong).1] at left
          cases left
        · obtain ⟨shown, same⟩ := run_turn width tree line rest quits wrong
          rw [same] at left ⊢
          exact (ih (turn tree line) left).trans (List.suffix_append _ _)

theorem alike_foldl_turn (lines : List Text) : Alike [lines.foldl turn tree] [tree] := by
  induction lines generalizing tree with
  | nil => rfl
  | cons line rest ih => exact (ih (turn tree line)).trans (turn_turn tree line).alike

end Runs

/-- A session on any tree and any input. The first line that quits or misnumbers decides how it
ends, the end of the input if there is none. The tree at the end is the fold of the lines before
over the opened tree, each of which makes its turn, and differs from the tree at the start in its
flags only. -/
theorem browse_folds_turns (width : Nat) (root : Node) (input : Text) :
    ((browse width root input).ending = .goodbye ↔
      ComesFirst Quits Misnumbers (inputLines input)) ∧
    ((browse width root input).ending = .notNumber ↔
      ComesFirst Misnumbers Quits (inputLines input)) ∧
    ((browse width root input).ending = .endOfInput ↔
      ∀ line ∈ inputLines input, ¬ Quits line ∧ ¬ Misnumbers line) ∧
    ((browse width root input).ending = .goodbye →
      farewell width <:+ (browse width root input).output) ∧
    (browse width root input).root = (turns (inputLines input)).foldl turn (opened root) ∧
    (∀ line tree, Turn line tree (turn tree line)) ∧
    Alike [(browse width root input).root] [root] := by
  have folded : (browse width root input).root =
      (turns (inputLines input)).foldl turn (opened root) :=
    root_run width (opened root) (inputLines input)
  refine ⟨ending_run_goodbye width (opened root) (inputLines input),
    ending_run_notNumber width (opened root) (inputLines input),
    ending_run_endOfInput width (opened root) (inputLines input), ?_, folded, ?_, ?_⟩
  · intro left
    have last := output_run_goodbye width (opened root) (inputLines input) left
    exact last.trans (List.suffix_append _ _)
  · intro line tree
    exact turn_turn tree line
  · rw [folded]
    have opening : Alike [opened root] [root] := alike_root root true root.children rfl
    exact (alike_foldl_turn (opened root) _).trans opening

end Outliner.Browser
