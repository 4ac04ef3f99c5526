import Outliner.Markup.Token
import Outliner.Outline.Node

namespace Outliner

def Kind.style : Kind → Text
  | folder => "bold blue".toList
  | file => "bold white".toList
  | classType => "bold magenta".toList
  | function => "cyan".toList
  | container => "dim".toList
  | parameter => "green".toList
  | localVariable => "yellow".toList
  | object => "bold cyan".toList
  | arrayItem => "white".toList
  | property => "green".toList
  | error => "bold red".toList

def Kind.icon? : Kind → Option Char
  | folder => some '📁'
  | file => some '📄'
  | classType => some '🏛'
  | function => some 'ƒ'
  | error => some '✗'
  | _ => none

namespace Display

def styled (style markup : Text) : Text :=
  Markup.bracketed style ++ markup ++ Markup.bracketed ('/' :: style)

def dim (markup : Text) : Text :=
  styled "dim".toList markup

end Display

namespace Node

/-- What a label shows after the name: the first line of a composite value or an element, after a
colon if the element holds no others. -/
def summary (node : Node) : Option Text :=
  let isElement := node.kind == .arrayItem
  match node.lines with
  | line :: _ =>
    if isElement || node.kind == .object then
      some ((if isElement && !node.hasChildren then ": " else "  ").toList ++ Markup.escape line)
    else none
  | [] => none

def label (node : Node) : Text :=
  let icon := (node.kind.icon?.map fun icon => [icon, ' ']).getD []
  icon ++ Display.styled node.kind.style (Markup.escape node.name) ++
    (node.summary.map Display.dim).getD []

end Node

end Outliner
