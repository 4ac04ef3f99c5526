import Outliner.Text.Line

namespace Outliner.Text.Utf8

inductive Unit where
  | char (c : Char) (size : Nat)
  | damaged (size : Nat)

def following (lead : UInt8) : Option (Nat × UInt8 × UInt8) :=
  if lead < 0x80 then some (0, 0, 0)
  else if 0xC2 ≤ lead && lead ≤ 0xDF then some (1, 0x80, 0xBF)
  else if lead == 0xE0 then some (2, 0xA0, 0xBF)
  else if lead == 0xED then some (2, 0x80, 0x9F)
  else if 0xE1 ≤ lead && lead ≤ 0xEF then some (2, 0x80, 0xBF)
  else if lead == 0xF0 then some (3, 0x90, 0xBF)
  else if 0xF1 ≤ lead && lead ≤ 0xF3 then some (3, 0x80, 0xBF)
  else if lead == 0xF4 then some (3, 0x80, 0x8F)
  else none

def leadBits (lead : UInt8) (count : Nat) : Nat :=
  match count with
  | 0 => lead.toNat
  | 1 => lead.toNat - 0xC0
  | 2 => lead.toNat - 0xE0
  | _ => lead.toNat - 0xF0

def continuation : Nat → UInt8 → UInt8 → Nat → Nat → List UInt8 → Unit
  | 0, _, _, code, size, _ => .char (Char.ofNat code) size
  | _ + 1, _, _, _, size, [] => .damaged size
  | count + 1, low, high, code, size, b :: rest =>
    if low ≤ b && b ≤ high then
      continuation count 0x80 0xBF (code * 64 + (b.toNat - 0x80)) (size + 1) rest
    else .damaged size

/-- The first unit of a byte sequence. A damaged part is as long as it could still have become a
character. -/
def unit (lead : UInt8) (rest : List UInt8) : Unit :=
  match following lead with
  | none => .damaged 1
  | some (count, low, high) => continuation count low high (leadBits lead count) 1 rest

/-- The units of a byte sequence; the first argument counts the bytes of the last unit that are
still to be passed over. -/
def unitsFrom : Nat → List UInt8 → List Unit
  | _, [] => []
  | passing + 1, _ :: rest => unitsFrom passing rest
  | 0, lead :: rest =>
    match unit lead rest with
    | .char c size => .char c size :: unitsFrom (size - 1) rest
    | .damaged size => .damaged size :: unitsFrom (size - 1) rest

def units (bytes : List UInt8) : List Unit :=
  unitsFrom 0 bytes

/-- The text of a byte sequence, in which each damaged part reads as one replacement character. -/
def decodeLossy (bytes : List UInt8) : Text :=
  (units bytes).map fun
    | .char c _ => c
    | .damaged _ => '\uFFFD'

def decode? (bytes : List UInt8) : Option Text :=
  (units bytes).mapM fun
    | .char c _ => some c
    | .damaged _ => none

def encode (text : Text) : List UInt8 :=
  text.flatMap String.utf8EncodeChar

def mark : List UInt8 := [0xEF, 0xBB, 0xBF]

/-- The bytes after an initial byte order mark. A file that ends inside the mark is empty. -/
def dropMark (bytes : List UInt8) : List UInt8 :=
  if bytes.length < 3 then
    if bytes.isPrefixOf mark then [] else bytes
  else if mark.isPrefixOf bytes then bytes.drop 3
  else bytes

/-- The text of a source file: without its byte order mark, damage replaced, newlines unified. -/
def readSource (bytes : List UInt8) : Text :=
  unifyNewlines (decodeLossy (dropMark bytes))

end Outliner.Text.Utf8
