import Outliner.Text.Basic

/-!
Markup: text with tags in brackets, such as `[bold]`. A tag after an odd number of backslashes is
text.
-/

namespace Outliner.Markup

inductive Token where
  | plain (text : Text)
  /-- A tag without its brackets, and the number of backslashes before it. -/
  | tag (backslashes : Nat) (body : Text)
deriving DecidableEq, Repr

def startsTag (c : Char) : Bool :=
  ('a' ≤ c && c ≤ 'z') || c == '#' || c == '/' || c == '@'

def bodyAt? : Text → Option Text
  | '[' :: c :: rest =>
    let isInside := fun (d : Char) => d != '[' && d != ']'
    if startsTag c && (rest.dropWhile isInside).head? == some ']' then
      some (c :: rest.takeWhile isInside)
    else none
  | _ => none

def tagAt? (text : Text) : Option (Nat × Text) :=
  let isBackslash := fun (c : Char) => c == '\\'
  (bodyAt? (text.dropWhile isBackslash)).map (((text.takeWhile isBackslash).length, ·))

/-- The tokens of a text; the first argument counts the characters of the last tag that are still to
be passed over. -/
def tokensFrom : Nat → Text → List Token
  | _, [] => []
  | passing + 1, _ :: rest => tokensFrom passing rest
  | 0, c :: rest =>
    match tagAt? (c :: rest) with
    | some (backslashes, body) =>
      .tag backslashes body :: tokensFrom (backslashes + body.length + 1) rest
    | none =>
      match tokensFrom 0 rest with
      | .plain text :: more => .plain (c :: text) :: more
      | more => .plain [c] :: more

def tokens (markup : Text) : List Token :=
  tokensFrom 0 markup

def bracketed (body : Text) : Text :=
  '[' :: body ++ [']']

/-- A token as text: the backslashes before a tag are doubled, and one more is put there. -/
def Token.escaped : Token → Text
  | .plain text => text
  | .tag backslashes body => List.replicate (2 * backslashes + 1) '\\' ++ bracketed body

/-- A text as markup that shows it. A single backslash at the end is doubled, because a tag may
follow. -/
def escape (text : Text) : Text :=
  let escaped := (tokens text).flatMap Token.escaped
  match escaped.reverse with
  | '\\' :: '\\' :: _ => escaped
  | '\\' :: _ => escaped ++ ['\\']
  | _ => escaped

end Outliner.Markup
