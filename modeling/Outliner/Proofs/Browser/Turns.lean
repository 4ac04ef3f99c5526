import Outliner.Browser.Session
import Outliner.Proofs.Outline.Flags
import Outliner.Proofs.Text.Digits

namespace Outliner.Browser

def word (line : Text) : Text :=
  Text.lower (Text.strip line)

def Quits (line : Text) : Prop :=
  line = [] ∨ word line = "q".toList ∨ word line = "quit".toList ∨ word line = "exit".toList

/-- The line is made of digits that write no number. -/
def Misnumbers (line : Text) : Prop :=
  Text.IsDigits (Text.strip line) ∧ Choice.number? (Text.strip line) = none

/-- The line is made of digits that write a number. -/
def Numbers (line : Text) (number : Nat) : Prop :=
  Text.IsDigits (Text.strip line) ∧ Choice.number? (Text.strip line) = some number

/-- Two trees before and after a line that does not end the session, flag by flag. -/
structure Turn (line : Text) (tree after : Node) : Prop where
  alike : Alike [after] [tree]
  expand : word line = "a".toList → ∀ address,
    flagAt? [after] address = (flagAt? [tree] address).map fun _ => true
  collapse : word line = "c".toList → ∀ address, flagAt? [after] address =
    if address = [0] then flagAt? [tree] address else (flagAt? [tree] address).map fun _ => false
  flip : ∀ number row, Numbers line number → 1 ≤ number → (rows tree)[number - 1]? = some row →
    nodeAt? [tree] row.address = some row.node ∧ ∀ address, flagAt? [after] address =
      if address = row.address ∧ row.node.children ≠ [] then (flagAt? [tree] address).map not
      else flagAt? [tree] address
  keep : word line ≠ "a".toList → word line ≠ "c".toList →
    (∀ number, Numbers line number → ¬ (1 ≤ number ∧ number ≤ (rows tree).length)) → after = tree

def turn (tree : Node) (line : Text) : Node :=
  choose tree (Choice.ofLine line)

section Lines

variable (line : Text)

theorem ofLine_eq_ofWord (held : line ≠ []) :
    Choice.ofLine line = Choice.ofWord (word line) := by
  have filled : line.isEmpty = false := by simpa using held
  rw [Choice.ofLine, filled]
  rfl

theorem ofLine_of_word (text : Text) (held : text ≠ []) (same : word line = text) :
    Choice.ofLine line = Choice.ofWord text := by
  rw [← same] at held ⊢
  apply ofLine_eq_ofWord line
  intro empty
  rw [empty] at held
  exact held rfl

theorem ofLine_quit (quits : Quits line) : Choice.ofLine line = .quit := by
  rcases quits with rfl | short | long | exit
  · rfl
  · exact ofLine_of_word line _ (by decide) short
  · exact ofLine_of_word line _ (by decide) long
  · exact ofLine_of_word line _ (by decide) exit

theorem ofWord_digits (text : Text) (digits : Text.IsDigits text) :
    Choice.ofWord text = match Choice.number? text with
      | some number => .row number text
      | none => .notNumber := by
  obtain ⟨held, each⟩ := digits
  have letters (other : Text) (c : Char) (first : other.head? = some c)
      (plain : Text.isDigit c = false) : text ≠ other := by
    intro same
    rw [← same] at first
    rw [each c (List.mem_of_head? first)] at plain
    cases plain
  have noQuit : Choice.quitWords.contains text = false := by
    have quit := letters ['q'] 'q' rfl (by decide)
    have whole := letters ['q', 'u', 'i', 't'] 'q' rfl (by decide)
    have exit := letters ['e', 'x', 'i', 't'] 'e' rfl (by decide)
    simp [Choice.quitWords, quit, whole, exit]
  have noExpand : (text == ['a']) = false := by
    simpa using letters ['a'] 'a' rfl (by decide)
  have noCollapse : (text == ['c']) = false := by
    simpa using letters ['c'] 'c' rfl (by decide)
  have isDigits : (!text.isEmpty && text.all Text.isDigit) = true := by
    simpa [held] using each
  rw [Choice.ofWord, noQuit, noExpand, noCollapse, isDigits]
  rfl

theorem ofLine_digits (digits : Text.IsDigits (Text.strip line)) :
    Choice.ofLine line = match Choice.number? (Text.strip line) with
      | some number => .row number (Text.strip line)
      | none => .notNumber := by
  have same : word line = Text.strip line := Text.lower_of_isDigits _ digits
  rw [ofLine_of_word line _ digits.1 same, ofWord_digits _ digits]

theorem ofLine_notNumber (wrong : Misnumbers line) : Choice.ofLine line = .notNumber := by
  rw [ofLine_digits line wrong.1, wrong.2]

theorem ofLine_row (number : Nat) (numbered : Numbers line number) :
    Choice.ofLine line = .row number (Text.strip line) := by
  rw [ofLine_digits line numbered.1, numbered.2]

theorem ofLine_expandAll (same : word line = "a".toList) : Choice.ofLine line = .expandAll :=
  ofLine_of_word line _ (by decide) same

theorem ofLine_collapseAll (same : word line = "c".toList) : Choice.ofLine line = .collapseAll :=
  ofLine_of_word line _ (by decide) same

theorem ofLine_unknown (stays : ¬ Quits line) (noExpand : word line ≠ "a".toList)
    (noCollapse : word line ≠ "c".toList) (noDigits : ¬ Text.IsDigits (Text.strip line)) :
    Choice.ofLine line = .unknown (word line) := by
  simp only [Quits, not_or] at stays
  have noQuit : Choice.quitWords.contains (word line) = false := by
    simpa [Choice.quitWords] using stays.2
  have plain : (!(word line).isEmpty && (word line).all Text.isDigit) = false := by
    rw [← Text.isDigits_lower] at noDigits
    rw [Bool.eq_false_iff]
    intro digits
    apply noDigits
    simpa [Text.IsDigits, word] using digits
  have noA : (word line == ['a']) = false := by simpa using noExpand
  have noC : (word line == ['c']) = false := by simpa using noCollapse
  rw [ofLine_eq_ofWord line stays.1, Choice.ofWord, noQuit, noA, noC, plain]
  rfl

theorem choose_ofLine (tree : Node) (noExpand : word line ≠ "a".toList)
    (noCollapse : word line ≠ "c".toList)
    (noRow : ∀ number, Numbers line number → ¬ (1 ≤ number ∧ number ≤ (rows tree).length)) :
    choose tree (Choice.ofLine line) = tree := by
  by_cases quits : Quits line
  · rw [ofLine_quit line quits]
    rfl
  · by_cases digits : Text.IsDigits (Text.strip line)
    · cases read : Choice.number? (Text.strip line) with
      | none =>
          rw [ofLine_notNumber line ⟨digits, read⟩]
          rfl
      | some number =>
          have outside := noRow number ⟨digits, read⟩
          rw [ofLine_row line number ⟨digits, read⟩]
          cases number with
          | zero => rfl
          | succ index =>
              have past : (rows tree)[index]? = none := by
                rw [List.getElem?_eq_none_iff]
                omega
              simp only [choose, past]
    · rw [ofLine_unknown line quits noExpand noCollapse digits]
      rfl

theorem ending?_quit (quits : Quits line) : ending? (Choice.ofLine line) = some .goodbye := by
  rw [ofLine_quit line quits]
  rfl

theorem ending?_notNumber (wrong : Misnumbers line) :
    ending? (Choice.ofLine line) = some .notNumber := by
  rw [ofLine_notNumber line wrong]
  rfl

theorem not_misnumbers_of_quits (quits : Quits line) : ¬ Misnumbers line := by
  intro wrong
  have same := ending?_notNumber line wrong
  rw [ending?_quit line quits] at same
  cases same

theorem ending?_turn (stays : ¬ Quits line) (right : ¬ Misnumbers line) :
    ending? (Choice.ofLine line) = none := by
  by_cases expand : word line = "a".toList
  · rw [ofLine_expandAll line expand]
    rfl
  · by_cases collapse : word line = "c".toList
    · rw [ofLine_collapseAll line collapse]
      rfl
    · by_cases digits : Text.IsDigits (Text.strip line)
      · cases read : Choice.number? (Text.strip line) with
        | none => exact absurd ⟨digits, read⟩ right
        | some number =>
            rw [ofLine_row line number ⟨digits, read⟩]
            rfl
      · rw [ofLine_unknown line stays expand collapse digits]
        rfl

end Lines

section Trees

variable (tree : Node)

theorem singleton_modifyAt (address : List Nat) :
    [(modifyAt Node.toggle address [tree]).headD tree] = modifyAt Node.toggle address [tree] := by
  obtain ⟨after, only⟩ := List.length_eq_one_iff.mp (length_modifyAt address [tree])
  rw [only]
  rfl

theorem choose_row (index : Nat) (text : Text) (row : Row) (found : (rows tree)[index]? = some row) :
    choose tree (.row (index + 1) text) =
      if row.node.hasChildren then (modifyAt Node.toggle row.address [tree]).headD tree
      else tree := by
  simp only [choose, found]

theorem alike_choose (choice : Choice) : Alike [choose tree choice] [tree] := by
  cases choice with
  | expandAll => exact alike_setExpanded true [tree]
  | collapseAll =>
      exact alike_root tree tree.expanded _ (alike_setExpanded false tree.children)
  | row number text =>
      cases number with
      | zero => rfl
      | succ index =>
          cases found : (rows tree)[index]? with
          | none =>
              simp only [choose, found]
              rfl
          | some row =>
              rw [choose_row tree index text row found]
              split
              · rw [singleton_modifyAt]
                exact alike_modifyAt row.address [tree]
              · rfl
  | _ => rfl

theorem flagAt?_collapseAll (address : List Nat) :
    flagAt? [choose tree .collapseAll] address =
      if address = [0] then flagAt? [tree] address
      else (flagAt? [tree] address).map fun _ => false := by
  have below := flagAt?_setExpanded false tree.children
  match address with
  | [] => rfl
  | [0] => rfl
  | 0 :: next :: rest =>
      rw [if_neg (by simp), flagAt?_cons, flagAt?_cons]
      exact below (next :: rest)
  | (index + 1) :: rest =>
      rw [if_neg (by simp), flagAt?_cons, flagAt?_cons]
      rfl

theorem flagAt?_row (index : Nat) (text : Text) (row : Row)
    (found : (rows tree)[index]? = some row) (address : List Nat) :
    flagAt? [choose tree (.row (index + 1) text)] address =
      if address = row.address ∧ row.node.children ≠ [] then (flagAt? [tree] address).map not
      else flagAt? [tree] address := by
  rw [choose_row tree index text row found]
  split
  · next held =>
      have some_below : row.node.children ≠ [] := by simpa [Node.hasChildren] using held
      rw [singleton_modifyAt, flagAt?_modifyAt]
      simp [some_below]
  · next childless =>
      have none_below : row.node.children = [] := by simpa [Node.hasChildren] using childless
      simp [none_below]

theorem turn_turn (line : Text) : Turn line tree (turn tree line) where
  alike := alike_choose tree (Choice.ofLine line)
  expand := by
    intro same address
    rw [turn, ofLine_expandAll line same]
    exact flagAt?_setExpanded true [tree] address
  collapse := by
    intro same address
    rw [turn, ofLine_collapseAll line same]
    exact flagAt?_collapseAll tree address
  flip := by
    intro number row numbered positive found
    have shown := nodeAt?_of_mem_visibleRows [tree] 0 row (List.mem_of_getElem? found)
    refine ⟨shown, ?_⟩
    intro address
    cases number with
    | zero => omega
    | succ index =>
        rw [turn, ofLine_row line (index + 1) numbered]
        exact flagAt?_row tree index (Text.strip line) row found address
  keep := by
    intro noExpand noCollapse noRow
    exact choose_ofLine line tree noExpand noCollapse noRow

end Trees

end Outliner.Browser
