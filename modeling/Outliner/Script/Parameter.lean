import Outliner.Script.Signature

namespace Outliner.Script

structure Parameter where
  name : Text
  type : Option Text := none
deriving DecidableEq, Repr

def Parameter.displayName (parameter : Parameter) : Text :=
  match parameter.type with
  | some (c :: type) => parameter.name ++ " : ".toList ++ c :: type
  | _ => parameter.name

def startsWithWord (keyword body : Text) : Bool :=
  match afterKeyword? keyword (Text.stripStart body) with
  | some (c :: _) => !Text.isWord c
  | some [] => true
  | none => false

def isCall (body : Text) : Bool :=
  let isNameChar := fun c => Text.isWord c || c == '.'
  match Text.stripStart body with
  | c :: rest =>
    isNameChar c &&
      match Text.stripStart (rest.dropWhile isNameChar) with
      | '(' :: arguments => (Text.stripEnd arguments).getLast? == some ')'
      | _ => false
  | [] => false

def isAttribute (body : Text) : Bool :=
  startsWithWord "parameter".toList body || startsWithWord "cmdletbinding".toList body ||
    isCall body

/-- Replaces every attribute by a blank. The first argument counts the characters of the last
attribute that are still to be passed over. -/
def blankAttributesFrom : Nat → Text → Text
  | _, [] => []
  | passing + 1, _ :: rest => blankAttributesFrom passing rest
  | 0, c :: rest =>
    match group? (c :: rest) with
    | some (body, _) =>
      if isAttribute body then ' ' :: blankAttributesFrom (body.length + 1) rest
      else c :: blankAttributesFrom 0 rest
    | none => c :: blankAttributesFrom 0 rest

def blankAttributes (text : Text) : Text :=
  blankAttributesFrom 0 text

def typeOfGroup (body : Text) : Option Text :=
  match Text.strip body with
  | [] => body.getLast?.map ([·])
  | type => some type

def findType? : Text → Option Text
  | [] => none
  | c :: rest =>
    match (group? (c :: rest)).bind fun (body, _) => typeOfGroup body with
    | some type => some type
    | none => findType? rest

def findVariable? : Text → Option (Text × Text)
  | [] => none
  | c :: rest =>
    let name := rest.takeWhile Text.isWord
    if c == '$' && !name.isEmpty then some ([], name)
    else (findVariable? rest).map fun (before, name) => (c :: before, name)

def constantNames : List Text :=
  ["true", "false", "null"].map String.toList

def Parameter.parse? (text : Text) : Option Parameter :=
  match findVariable? (blankAttributes text) with
  | some (before, name) =>
    if constantNames.contains (Text.lower name) then none else some ⟨name, findType? before⟩
  | none => none

def Parameter.parseList (text : Text) : List Parameter :=
  (Text.cutAt ',' (blankAttributes text)).filterMap Parameter.parse?

end Outliner.Script
