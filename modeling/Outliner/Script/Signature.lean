import Outliner.Script.Keyword
import Outliner.Text.LowerCase

namespace Outliner.Script

/-- Reads what follows an opening bracket up to the closing one: the text between them and the rest.
The flag tells whether the reading is inside an inner group. -/
def groupFrom : Bool → Text → Option (Text × Text)
  | _, [] => none
  | false, ']' :: rest => some ([], rest)
  | false, '[' :: rest => (groupFrom true rest).map fun (body, after) => ('[' :: body, after)
  | true, '[' :: _ => none
  | true, ']' :: rest => (groupFrom false rest).map fun (body, after) => (']' :: body, after)
  | inner, c :: rest => (groupFrom inner rest).map fun (body, after) => (c :: body, after)

def group? : Text → Option (Text × Text)
  | '[' :: rest => groupFrom false rest
  | _ => none

structure Signature where
  name : Text
  returnType : Option Text := none
deriving DecidableEq, Repr

/-- The name with the return type in brackets before it. An empty type is not shown. -/
def Signature.displayName (signature : Signature) : Text :=
  match signature.returnType with
  | some (c :: type) => '[' :: c :: type ++ "] ".toList ++ signature.name
  | _ => signature.name

/-- Words that take parentheses or a block without naming a method. -/
def controlKeywords : List Text :=
  ["if", "elseif", "else", "while", "for", "foreach", "do", "switch", "try", "catch", "finally",
    "param", "return", "throw", "until", "trap"].map String.toList

def isMethodName (name : Text) : Bool :=
  !name.isEmpty && !controlKeywords.contains (Text.lower name)

def classStart? (line : Text) : Option Text :=
  match afterKeywordSpace? "class".toList line with
  | some (c :: rest) =>
    if c == '_' || isBasicLetter c then some (c :: rest.takeWhile Text.isWord) else none
  | _ => none

def isFunctionNameChar (c : Char) : Bool :=
  Text.isWord c || c == ':' || c == '.' || c == '-'

def keywordFunction? (line : Text) : Option Text :=
  match afterKeywordSpace? "function".toList line with
  | some (c :: rest) =>
    if Text.isWord c then some (c :: rest.takeWhile isFunctionNameChar) else none
  | _ => none

def afterModifier? (text : Text) : Option Text :=
  (afterKeywordSpace? "static".toList text).or (afterKeywordSpace? "hidden".toList text)

def dropModifiersFrom : Nat → Text → Text
  | 0, text => text
  | count + 1, text =>
    match afterModifier? text with
    | some rest => dropModifiersFrom count rest
    | none => text

def dropModifiers (text : Text) : Text :=
  dropModifiersFrom text.length text

/-- A name at the start of a text and what follows the opening parenthesis after it. The name may be
empty. -/
def nameBeforeParenthesis? (text : Text) : Option (Text × Text) :=
  match Text.stripStart (text.dropWhile Text.isWord) with
  | '(' :: rest => some (text.takeWhile Text.isWord, rest)
  | _ => none

def typedMethod? (line : Text) : Option (Text × Text) :=
  match group? (dropModifiers line) with
  | some (c :: type, rest) =>
    (nameBeforeParenthesis? (Text.stripStart rest)).map fun (name, _) => (c :: type, name)
  | _ => none

def endsSignature (text : Text) : Bool :=
  match Text.stripStart text with
  | '{' :: rest => rest.all Text.isSpace
  | rest => rest.isEmpty

/-- A parenthesised list is closed on the line of its opening, and after its last closing
parenthesis the signature ends. -/
def closesSignature (text : Text) : Bool :=
  match Text.beforeLast? ')' text with
  | some inside => !inside.contains '\n' && endsSignature (text.drop (inside.length + 1))
  | none => false

/-- The name of a method without a type. -/
def bareMethod? (line : Text) : Option Text :=
  match nameBeforeParenthesis? (dropModifiers line) with
  | some (name, rest) => if closesSignature rest then some name else none
  | none => none

/-- The method that a line inside a class body starts. A line with a type in front is not tried as
one without. -/
def methodStart? (line : Text) : Option Signature :=
  match typedMethod? line with
  | some (type, name) => if isMethodName name then some ⟨name, some (Text.strip type)⟩ else none
  | none =>
    match bareMethod? line with
    | some (c :: name) =>
      if isMethodName (c :: name) && Text.isLetter c then some ⟨c :: name, none⟩ else none
    | _ => none

/-- The function or method that a line starts; methods are recognised only inside a class. -/
def functionStart? (line : Text) (inClass : Bool) : Option Signature :=
  match keywordFunction? line with
  | some name => some ⟨name, none⟩
  | none => if inClass then methodStart? line else none

/-- The text between the first opening and the last closing parenthesis, if it mentions a
variable. -/
def inlineList? (line : Text) : Option Text :=
  match (Text.afterFirst? '(' line).bind (Text.beforeLast? ')') with
  | some inside => if inside.contains '$' then some inside else none
  | none => none

/-- The variable that a line assigns; a comparison is no assignment. -/
def assignment? : Text → Option Text
  | '$' :: rest =>
    let name := rest.takeWhile Text.isWord
    match Text.stripStart (rest.dropWhile Text.isWord) with
    | '=' :: '=' :: _ => none
    | '=' :: _ => if name.isEmpty then none else some name
    | _ => none
  | _ => none

end Outliner.Script
