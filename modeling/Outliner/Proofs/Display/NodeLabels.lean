import Outliner.Display.Label
import Outliner.Proofs.Fallible
import Outliner.Proofs.Markup.Shown

/-!
What the label of a node shows: its icon, its name and its first line as they stand, but for
backslashes that escaping does not keep.
-/

namespace Outliner

namespace Markup

theorem visible_of_all (text : Text) (shown : text.all (!isHidden ·) = true) :
    ∀ c ∈ text, isHidden c = false := by
  intro c member
  rw [← Bool.not_eq_true']
  exact List.all_eq_true.mp shown c member

structure IsStyle (style : Text) : Prop where
  body : isBody style = true
  whole : style.takeWhile (· != '=') = style
  opens : style.head? ≠ some '/'
  normal : normalStyle style = .ok style
  stripped : Text.strip style = style
  visible : ∀ c ∈ style, isHidden c = false

namespace IsStyle

variable (style : Text) (isStyle : IsStyle style)
include isStyle

theorem closing_body : isBody ('/' :: style) = true := by
  rw [isBody, Bool.and_eq_true, List.all_eq_true]
  exact ⟨by decide, isInside_of_isBody style isStyle.body⟩

theorem ofBody_eq : Tag.ofBody style = .ok ⟨style, none⟩ := by
  have rest := List.takeWhile_append_dropWhile (p := (· != '=')) (l := style)
  rw [isStyle.whole, List.append_right_eq_self] at rest
  rw [Tag.ofBody, isStyle.whole, isStyle.normal, Text.afterFirst?, rest]
  rfl

theorem apply_opening (showing : Showing) :
    showing.apply style =
      .ok { showing with opened := (showing.text.length, ⟨style, none⟩) :: showing.opened } := by
  have opens := isStyle.opens
  rw [Showing.apply, isStyle.whole]
  split
  · next rest => exact absurd rfl opens
  · rw [ofBody_eq style isStyle]
    rfl

theorem closeTag_last (start : Nat) (others : List (Nat × Tag)) :
    closeTag ((start, ⟨style, none⟩) :: others) style = .ok ((start, ⟨style, none⟩), others) := by
  have held : style.isEmpty = false := by
    cases style with
    | nil => cases isStyle.body
    | cons c rest => rfl
  simp only [closeTag, held, isStyle.normal, bind, Except.bind, pure, Except.pure,
    List.find?_cons, List.eraseP_cons, beq_self_eq_true, Tag.checkClosed, Option.any_none,
    Bool.and_false, Bool.false_eq_true, if_false, cond_true]

theorem apply_closing (text : Text) (spans : List Span) (start : Nat)
    (others : List (Nat × Tag)) :
    ∃ spans', Showing.apply ⟨text, spans, (start, ⟨style, none⟩) :: others⟩ ('/' :: style) =
      .ok ⟨text, spans', others⟩ := by
  have name : ('/' :: style).takeWhile (· != '=') = '/' :: style := by
    rw [List.takeWhile_cons_of_pos (by decide), isStyle.whole]
  simp only [Showing.apply, name, isStyle.stripped, closeTag_last style isStyle, bind, Except.bind,
    pure, Except.pure]
  exact ⟨_, rfl⟩

theorem step_closing (text : Text) (spans : List Span) (start : Nat) (others : List (Nat × Tag))
    (count : Nat) :
    ∃ after : Showing,
      Showing.step ⟨text, spans, (start, ⟨style, none⟩) :: others⟩
          (.tag (endSlashes count) ('/' :: style)) = .ok after ∧
        after.text = text ++ (ending count ('/' :: style)).filter (!isHidden ·) := by
  rw [Showing.step, ending]
  by_cases odd : endSlashes count % 2 = 1
  · rw [if_pos (beq_iff_eq.mpr odd), if_pos odd]
    exact ⟨_, rfl, rfl⟩
  · rw [if_neg fun same => odd (eq_of_beq same), if_neg odd, List.append_nil]
    obtain ⟨spans', closed⟩ := apply_closing style isStyle
      (text ++ (List.replicate (endSlashes count / 2) '\\').filter (!isHidden ·)) spans start others
    exact ⟨_, closed, rfl⟩

theorem foldlM_styled (showing : Showing) (base : Text) (solid : IsSolid base) (count : Nat)
    (rest : Text) :
    ∃ after : Showing,
      (tokens (Display.styled style (escape (base ++ List.replicate count '\\')) ++ rest)).foldlM
          Showing.step showing =
        (tokens rest).foldlM Showing.step after ∧
      after.text = showing.text ++
        (collapsed base ++ ending count ('/' :: style)).filter (!isHidden ·) := by
  have opened : tokens (Display.styled style (escape (base ++ List.replicate count '\\')) ++ rest) =
      .tag 0 style :: ((tokens base).map Token.doubled ++
        .tag (endSlashes count) ('/' :: style) :: tokens rest) := by
    have first := tokens_tag 0 style (escape (base ++ List.replicate count '\\') ++
      (bracketed ('/' :: style) ++ rest)) isStyle.body
    rw [tokens_escape base solid count _ rest (closing_body style isStyle)] at first
    rw [← first, Display.styled, List.append_assoc, List.append_assoc]
    rfl
  obtain ⟨after, closed, text⟩ := step_closing style isStyle
    (showing.text ++ (collapsed base).filter (!isHidden ·)) showing.spans showing.text.length
    showing.opened count
  have started : Showing.step showing (.tag 0 style) =
      .ok { showing with opened := (showing.text.length, ⟨style, none⟩) :: showing.opened } := by
    show (showing.append []).apply style = _
    rw [Showing.append_nil, apply_opening style isStyle]
  refine ⟨after, ?_, by rw [text, List.filter_append, List.append_assoc]⟩
  rw [opened, List.foldlM_cons, started]
  show List.foldlM _ _ _ = _
  rw [List.foldlM_append, Showing.foldlM_doubled]
  show List.foldlM _ _ _ = _
  rw [List.foldlM_cons]
  exact congrArg (· >>= _) closed

theorem filter_shown (base : Text) (count : Nat) (visible : ∀ c ∈ base, isHidden c = false) :
    (collapsed base ++ ending count ('/' :: style)).filter (!isHidden ·) =
      collapsed base ++ ending count ('/' :: style) := by
  rw [List.filter_eq_self]
  intro c member
  rw [Bool.not_eq_true']
  rcases List.mem_append.mp member with held | ends
  · exact visible c ((collapsed_sublist base).subset held)
  · rw [ending, List.mem_append] at ends
    rcases ends with slashes | closing
    · rw [List.eq_of_mem_replicate slashes]
      decide
    · split at closing
      · simp only [bracketed, List.mem_append, List.mem_cons, List.not_mem_nil, or_false] at closing
        rcases closing with (rfl | rfl | named) | rfl
        · decide
        · decide
        · exact isStyle.visible c named
        · decide
      · cases closing

end IsStyle

theorem normalStyle_kind (kind : Kind) : normalStyle kind.style = .ok kind.style := by
  apply ok_of_toOption
  cases kind <;> decide +kernel

theorem isStyle_kind (kind : Kind) : IsStyle kind.style where
  body := by cases kind <;> decide
  whole := by cases kind <;> decide
  opens := by cases kind <;> decide
  normal := normalStyle_kind kind
  stripped := by cases kind <;> decide
  visible := visible_of_all _ (by cases kind <;> decide)

end Markup

namespace Node

/-- The line that a label shows after the name. -/
def caption? (node : Node) : Option Text :=
  if node.kind = .object ∨ node.kind = .arrayItem then node.lines.head? else none

def separator (node : Node) : Text :=
  (if node.kind = .arrayItem ∧ node.children = [] then ": " else "  ").toList

def heading (node : Node) : Text :=
  (node.kind.icon?.map fun icon => [icon, ' ']).getD []

/-- The icon, the name and the line of a node as they stand. -/
def verbatim (node : Node) : Text :=
  node.heading ++ (node.name ++ (node.caption?.map (node.separator ++ ·)).getD [])

open Markup

variable (node : Node)

theorem summary_eq :
    node.summary = node.caption?.map fun line => node.separator ++ escape line := by
  rcases node with ⟨name, kind, path, level, expanded, lines, children, itemKind⟩
  cases lines <;> cases children <;> cases kind <;> rfl

theorem plain_separator : node.separator.all isPlain = true := by
  rw [separator]
  split <;> decide

theorem isSolid_separator : IsSolid node.separator := by
  rw [separator]
  split <;> decide

theorem visible_separator : ∀ c ∈ node.separator, isHidden c = false := by
  rw [separator]
  split <;> exact visible_of_all _ (by decide)

theorem label_eq :
    node.label = node.heading ++ (Display.styled node.kind.style (escape node.name) ++
      (node.caption?.map fun line => Display.dim (escape (node.separator ++ line))).getD []) := by
  rw [label, summary_eq, Option.map_map, List.append_assoc]
  simp only [escape_front _ _ node.plain_separator]
  rfl

theorem foldlM_heading (markup rest : Text) :
    (tokens (node.heading ++ (Display.styled node.kind.style markup ++ rest))).foldlM
        Showing.step {} =
      (tokens (Display.styled node.kind.style markup ++ rest)).foldlM Showing.step
        ⟨node.heading, [], []⟩ := by
  have body := (isStyle_kind node.kind).body
  have solid : IsSolid node.heading := by
    rw [heading]
    cases node.kind <;> decide
  have shown : (tokens node.heading).foldlM Showing.step {} = .ok ⟨node.heading, [], []⟩ := by
    rw [heading]
    cases node.kind <;> rfl
  have whole (rest : Text) := tokens_append_tag node.heading solid 0 node.kind.style rest body
  simp only [← tokens_tag 0 node.kind.style _ body, List.replicate_zero, List.nil_append] at whole
  rw [Display.styled, List.append_assoc, List.append_assoc, whole, List.foldlM_append, shown]
  rfl

theorem foldlM_caption (showing : Showing)
    (clean : ∀ line, node.caption? = some line → ∀ c ∈ line, isHidden c = false) :
    ∃ (after : Showing) (tail : Text),
      (tokens ((node.caption?.map fun line =>
          Display.dim (escape (node.separator ++ line))).getD [])).foldlM Showing.step showing =
        .ok after ∧
      after.text = showing.text ++ tail ∧ tail.head? ≠ some '\\' ∧
      (tail = (node.caption?.map (node.separator ++ ·)).getD [] ↔
        ∀ line, node.caption? = some line → Showable line) := by
  cases shown : node.caption? with
  | none => exact ⟨showing, [], rfl, (List.append_nil _).symm, nofun, iff_of_true rfl nofun⟩
  | some line =>
      obtain ⟨base, count, rfl, solid⟩ := exists_solid line
      have style := isStyle_kind .container
      have ends : IsSolid (node.separator ++ base) :=
        isSolid_append _ base node.isSolid_separator solid
      have visible : ∀ c ∈ node.separator ++ base, isHidden c = false := by
        intro c member
        rcases List.mem_append.mp member with apart | own
        · exact node.visible_separator c apart
        · exact clean _ shown c (List.mem_append_left _ own)
      obtain ⟨after, folded, text⟩ := style.foldlM_styled _ showing (node.separator ++ base) ends
        count []
      rw [List.append_nil, List.append_assoc] at folded
      rw [style.filter_shown _ _ count visible] at text
      -- The separator comes first, so that no backslash at the end of the name meets the line.
      refine ⟨after, _, folded, text, ?_, ?_⟩
      · rw [collapsed_front _ base node.plain_separator, separator]
        split
        · exact fun same => absurd (Option.some.inj same) (by decide)
        · exact fun same => absurd (Option.some.inj same) (by decide)
      · have same := shown_eq_iff (node.separator ++ base) ends count ('/' :: Kind.style .container)
          [] [] nofun
        rw [List.append_nil, List.append_nil, and_iff_left rfl, List.append_assoc,
          showable_front _ _ node.plain_separator] at same
        refine same.trans ⟨?_, ?_⟩
        · rintro showable line held
          rwa [← Option.some.inj held]
        · exact fun showable => showable _ rfl

/-- A label shows the name and the line of its node as they stand if and only if no backslash in
them stands before a bracket that starts no tag, and neither of them ends in two backslashes. -/
theorem label_verbatim_iff (clean : ∀ c ∈ node.name, isHidden c = false)
    (cleanLine : ∀ line, node.caption? = some line → ∀ c ∈ line, isHidden c = false) :
    ∃ shown, render node.label = .ok shown ∧
      (shown.text = node.verbatim ↔
        Showable node.name ∧ ∀ line, node.caption? = some line → Showable line) := by
  obtain ⟨base, count, whole, solid⟩ := exists_solid node.name
  have visible : ∀ c ∈ base, isHidden c = false := fun c member =>
    clean c (by rw [whole]; exact List.mem_append_left _ member)
  have style := isStyle_kind node.kind
  obtain ⟨named, folded, text⟩ := style.foldlM_styled _ ⟨node.heading, [], []⟩ base solid count
    ((node.caption?.map fun line => Display.dim (escape (node.separator ++ line))).getD [])
  obtain ⟨after, tail, ended, total, apart, same⟩ := node.foldlM_caption named cleanLine
  have shown : (tokens node.label).foldlM Showing.step {} = .ok after := by
    rw [label_eq, whole]
    exact (node.foldlM_heading _ _).trans (folded.trans ended)
  refine ⟨after.finish, by rw [render, shown]; rfl, ?_⟩
  show after.text = _ ↔ _
  rw [total, text, style.filter_shown _ base count visible, verbatim, whole, ← same,
    List.append_assoc, List.append_assoc, List.append_assoc, List.append_right_inj]
  exact shown_eq_iff base solid count _ tail _ apart

/-- An element whose name is full of brackets, with a line that ends in a backslash. -/
def shareNode : Node where
  name := "[0] [/x] [bold".toList
  kind := .arrayItem
  lines := ["\\\\[host]\\c$\\".toList]

theorem label_verbatim_shareNode :
    ∃ shown, render shareNode.label = .ok shown ∧
      shown.text = "[0] [/x] [bold: \\\\[host]\\c$\\".toList := by
  have clean := visible_of_all shareNode.name (by decide)
  have cleanLine : ∀ line, shareNode.caption? = some line → ∀ c ∈ line, isHidden c = false := by
    rintro line held
    rw [← Option.some.inj held]
    exact visible_of_all _ (by decide)
  obtain ⟨shown, rendered, same⟩ := label_verbatim_iff shareNode clean cleanLine
  refine ⟨shown, rendered, same.mpr ⟨by decide, ?_⟩⟩
  rintro line held
  rw [← Option.some.inj held]
  decide

/-- A property whose value is a pattern with escaped brackets. -/
def patternNode : Node where
  name := "pattern: \\[A-Z\\]+".toList
  kind := .property

/-- A property whose value is two backslashes. -/
def slashesNode : Node where
  name := "share: \\\\".toList
  kind := .property

/-- The backslash before a bracket that starts no tag is not shown, nor is one of two backslashes at
the end of a name. -/
theorem label_loses_backslashes :
    ((render patternNode.label).toOption.map Spanned.text = some "pattern: [A-Z\\]+".toList ∧
      patternNode.verbatim = "pattern: \\[A-Z\\]+".toList) ∧
    (render slashesNode.label).toOption.map Spanned.text = some "share: \\".toList ∧
      slashesNode.verbatim = "share: \\\\".toList := by
  decide +kernel

end Node

end Outliner
