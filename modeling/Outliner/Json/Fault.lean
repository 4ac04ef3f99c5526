import Outliner.Text.Basic

namespace Outliner.Json

inductive Cause where
  | byteOrderMark
  | expectingValue
  | extraData
  | expectingName
  | expectingColon
  | expectingComma
  | unterminatedString
  | controlCharacter
  | badEscape
  | badUnicodeEscape
deriving DecidableEq, Repr

inductive Composite where
  | array
  | object
deriving DecidableEq, Repr

inductive Fault where
  | malformed (cause : Cause) (position : Nat)
  | tooManyDigits (count : Nat)
  | unwritable
  | tooDeep (opened : Composite)
deriving DecidableEq, Repr

def Cause.message : Cause → Text
  | byteOrderMark => "Unexpected UTF-8 BOM (decode using utf-8-sig)".toList
  | expectingValue => "Expecting value".toList
  | extraData => "Extra data".toList
  | expectingName => "Expecting property name enclosed in double quotes".toList
  | expectingColon => "Expecting ':' delimiter".toList
  | expectingComma => "Expecting ',' delimiter".toList
  | unterminatedString => "Unterminated string starting at".toList
  | controlCharacter => "Invalid control character at".toList
  | badEscape => "Invalid \\escape".toList
  | badUnicodeEscape => "Invalid \\uXXXX escape".toList

def Composite.name : Composite → Text
  | array => "array".toList
  | object => "object".toList

def lineOf (text : Text) (position : Nat) : Nat :=
  (text.take position).count '\n' + 1

def columnOf (text : Text) (position : Nat) : Nat :=
  ((text.take position).reverse.takeWhile (· != '\n')).length + 1

def Fault.message (document : Text) : Fault → Text
  | malformed cause position =>
    cause.message ++ ": line ".toList ++ Text.ofNat (lineOf document position) ++
      " column ".toList ++ Text.ofNat (columnOf document position) ++
      " (char ".toList ++ Text.ofNat position ++ ")".toList
  | tooManyDigits count =>
    "Exceeds the limit (".toList ++ Text.ofNat Text.digitLimit ++
      " digits) for integer string conversion: value has ".toList ++ Text.ofNat count ++
      " digits; use sys.set_int_max_str_digits() to increase the limit".toList
  | unwritable =>
    "Exceeds the limit (".toList ++ Text.ofNat Text.digitLimit ++
      " digits) for integer string conversion; ".toList ++
      "use sys.set_int_max_str_digits() to increase the limit".toList
  | tooDeep opened =>
    "maximum recursion depth exceeded while decoding a JSON ".toList ++ opened.name ++
      " from a unicode string".toList

end Outliner.Json
