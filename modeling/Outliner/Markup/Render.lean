import Outliner.Markup.Literal
import Outliner.Markup.Spanned
import Outliner.Markup.Style
import Outliner.Markup.Token

namespace Outliner.Markup

/-- Controls that are never shown: bell, backspace, vertical tab, form feed, carriage return. -/
def isHidden (c : Char) : Bool :=
  c == '\x07' || c == '\x08' || c == '\x0B' || c == '\x0C' || c == '\r'

/-- A tag that has been opened: the normal form of its name, and what stands after a sign of
equality. -/
structure Tag where
  name : Text
  parameters : Option Text
deriving DecidableEq, Repr

namespace Tag

def ofBody (body : Text) : Except Fault Tag := do
  let name ← normalStyle (body.takeWhile (· != '='))
  return ⟨name, Text.afterFirst? '=' body⟩

/-- Whether a tag names an action instead of a style. -/
def isAction (tag : Tag) : Bool :=
  tag.name.head? == some '@'

def checkClosed (tag : Tag) : Except Fault Unit :=
  if tag.isAction && tag.parameters.any (fun text => !text.isEmpty && !areArguments text) then
    .error .badArguments
  else .ok ()

def style (tag : Tag) (isClosed : Bool) : Text :=
  if isClosed && tag.isAction then []
  else match tag.parameters with
    | none => tag.name
    | some words => tag.name ++ ' ' :: words

end Tag

/-- Closes the last tag of a name, or the last of all if the name is empty. The open tags come last
first, each with the place where it starts; there has to be such a tag. -/
def closeTag (opened : List (Nat × Tag)) (name : Text) :
    Except Fault ((Nat × Tag) × List (Nat × Tag)) := do
  let isMeant ← if name.isEmpty then pure fun _ => true else do
    let normal ← normalStyle name
    pure fun (entry : Nat × Tag) => entry.2.name == normal
  match opened.find? isMeant with
  | none => .error .unmatched
  | some (start, tag) =>
    tag.checkClosed
    return ((start, tag), opened.eraseP isMeant)

structure Showing where
  text : Text := []
  spans : List Span := []
  opened : List (Nat × Tag) := []

namespace Showing

def append (showing : Showing) (text : Text) : Showing :=
  { showing with text := showing.text ++ text.filter (!isHidden ·) }

def spanOf (showing : Showing) (isClosed : Bool) : Nat × Tag → Span
  | (start, tag) => ⟨start, showing.text.length, tag.style isClosed⟩

def apply (showing : Showing) (body : Text) : Except Fault Showing := do
  match body.takeWhile (· != '=') with
  | '/' :: rest =>
    let (entry, opened) ← closeTag showing.opened (Text.strip rest)
    return { showing with opened, spans := showing.spanOf true entry :: showing.spans }
  | _ =>
    let tag ← Tag.ofBody body
    return { showing with opened := (showing.text.length, tag) :: showing.opened }

def step (showing : Showing) : Token → Except Fault Showing
  | .plain text => return showing.append (Text.replaceAll "\\[".toList "[".toList text)
  | .tag backslashes body =>
    let shown := List.replicate (backslashes / 2) '\\'
    if backslashes % 2 == 1 then return showing.append (shown ++ bracketed body)
    else (showing.append shown).apply body

def finish (showing : Showing) : Spanned :=
  ⟨showing.text, showing.opened.map (showing.spanOf false) ++ showing.spans⟩

end Showing

def render (markup : Text) : Except Fault Spanned := do
  let showing ← (tokens markup).foldlM Showing.step {}
  return showing.finish

/-- What markup without faults shows. -/
def shown (markup : Text) : Spanned :=
  (render markup).toOption.getD {}

def Spanned.checkStyles (text : Spanned) : Except Fault Unit :=
  text.spans.forM fun span => do
    let _ ← Style.ofWords {} (Text.words span.style)
    return ()

end Outliner.Markup
