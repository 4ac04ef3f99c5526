import Outliner.Markup.Spanned
import Outliner.Text.Cluster
import Outliner.Text.Pattern

namespace Outliner.Display

open Text Text.Pattern

def decimalDigit : Pattern :=
  char isAsciiDigit

def hexDigit : Pattern :=
  char fun c => (hexValue? c).isSome

def wordChar : Pattern :=
  char isWord

def anyChar : Pattern :=
  char fun _ => true

def isPathChar (c : Char) : Bool :=
  isWord c || "-.+".toList.contains c

def tagPattern : Pattern :=
  sequence [
    mark (one '<'),
    mark (most (char fun c => isWord c || "-.:|".toList.contains c)),
    mark (most anyChar),
    mark (one '>')]

def attributePattern : Pattern :=
  sequence [
    mark (between 1 50 wordChar),
    one '=',
    optional (mark (sequence [optional (one '"'), mostOnce wordChar, optional (one '"')]))]

def bracePattern : Pattern :=
  mark (oneOf "[]\x7b\x7d()")

def hexGroups (count least most : Nat) (separator : Char) : Pattern :=
  sequence [
    times (count - 1) (sequence [between least most hexDigit, one separator]),
    between least most hexDigit]

def shortAddress : Pattern :=
  sequence [
    times 3 (sequence [between 1 3 decimalDigit, one '.']),
    between 1 3 decimalDigit]

def longAddress : Pattern :=
  sequence [
    between 1 7 (sequence [between 1 4 hexDigit, one ':', optional (one ':')]),
    between 1 4 hexDigit]

def deviceAddress (bytes : Nat) : Pattern :=
  firstOf [
    hexGroups bytes 1 2 '-',
    hexGroups bytes 1 2 ':',
    hexGroups (bytes / 2) 4 4 '.']

def identifier : Pattern :=
  sequence [
    times 8 hexDigit, one '-', times 4 hexDigit, one '-', times 4 hexDigit, one '-',
    times 4 hexDigit, one '-', times 12 hexDigit]

def plainNumber : Pattern :=
  sequence [mostOnce decimalDigit, optional (one '.'), most decimalDigit]

def exponent (isGreedy : Bool) : Pattern :=
  sequence [
    one 'e',
    optional (oneOf "-+"),
    many isGreedy 1 none (char fun c => (decimalValue? c).isSome)]

def signedNumber : Pattern :=
  sequence [optional (one '-'), plainNumber, optional (exponent false)]

def complexNumber : Pattern :=
  sequence [
    notAfter isWord,
    signedNumber,
    optional (sequence [oneOf "-+", plainNumber, optional (exponent true)]),
    one 'j']

def number : Pattern :=
  firstOf [
    sequence [notAfter isWord, signedNumber, wordEdge true],
    sequence [literal "0x", most hexDigit]]

def wholeWord (word : String) : Pattern :=
  sequence [wordEdge true, mark (literal word), wordEdge true]

def pathPattern : Pattern :=
  sequence [
    mark (sequence [
      wordEdge false,
      most (sequence [one '/', mostOnce (char isPathChar)]),
      one '/']),
    optional (mark (most (char isPathChar)))]

def quotedIn (quotes : String) : Pattern :=
  sequence [
    optional (one 'b'),
    literal quotes,
    fewest (char (· != '\n')),
    notAfter (· == '\\'),
    literal quotes]

def quotedText : Pattern :=
  sequence [
    notAfter fun c => c == '\\' || isWord c,
    mark (firstOf [quotedIn "'''", quotedIn "'", quotedIn "\"\"\"", quotedIn "\""])]

def isLinkChar (c : Char) : Bool :=
  ('a' ≤ c && c ≤ 'z') || ('A' ≤ c && c ≤ 'Z') || isAsciiDigit c ||
    "-$_+!\x60(),.?/;:&=%#~@".toList.contains c

def link : Pattern :=
  sequence [
    firstOf (["file", "https", "http", "ws", "wss"].map literal),
    literal "://",
    most (char isLinkChar)]

def callPattern : Pattern :=
  sequence [mark (fewest (char fun c => isWord c || c == '.')), one '(']

def formPattern : Pattern :=
  firstOf [
    mark shortAddress, mark longAddress, mark (deviceAddress 8), mark (deviceAddress 6),
    mark identifier, callPattern, wholeWord "True", wholeWord "False", wholeWord "None",
    mark (literal "..."), mark complexNumber, mark number, pathPattern, quotedText, mark link]

def highlights (text : Text) : List Markup.Span :=
  ([tagPattern, attributePattern, bracePattern, formPattern].flatMap (·.marks text)).filterMap
    fun (start, stop) => if start < stop then some { start, stop } else none

/-- A text with its highlights. Where no character changes the cells of its neighbours, it makes no
difference how a text is cut into runs, and there is nothing to look for. -/
def highlight (text : Markup.Spanned) : Markup.Spanned :=
  if text.text.any isBinding then { text with spans := highlights text.text ++ text.spans }
  else text

end Outliner.Display
