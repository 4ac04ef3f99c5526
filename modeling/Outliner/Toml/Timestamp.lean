import Outliner.Toml.Literal

/-!
Timestamps: how dates and times are read. Digits are looked for at fixed places, whatever stands
between them.
-/

namespace Outliner.Toml

def part (first last : Nat) (text : Text) : Text :=
  (text.take last).drop first

/-- An integer in base ten, with or without superfluous zeros. -/
def wholeNumber? (text : Text) : Option Int := do
  let (negative, unsigned) := signed (asciiDigits (stripNumber text))
  let digits ← Text.groupedDigits? unsigned
  if Text.digitLimit < digits.length then none
  else
    let size : Int := Text.digitsValue digits
    return if negative then -size else size

def offset? (text : Text) : Option Int := do
  if text == "Z".toList then return 0
  let hours ← wholeNumber? (part 1 3 text)
  let minutes ← wholeNumber? (part 4 6 text)
  return if text.head? == some '-' then -(60 * hours + minutes) else 60 * hours + minutes

def fractionAndOffset (text : Text) : Text × Option Text :=
  let cutBefore := fun (sign : Char) =>
    (text.takeWhile (· != sign), some (text.dropWhile (· != sign)))
  if text.getLast?.any fun c => c == 'Z' || c == 'z' then (text.dropLast, some "Z".toList)
  else if text.contains '+' then cutBefore '+'
  else if text.contains '-' then cutBefore '-'
  else (text, none)

/-- A number of microseconds, given a number after the point and the length of its text. More than
six places are cut by a product in double precision. -/
def microseconds (value : Int) (length : Nat) : Except Fault Int :=
  if length ≤ 6 then .ok (value * Nat.pow 10 (6 - length))
  else
    let unit := Binary64.ofDecimal false 1 (6 - (length : Int))
    match Binary64.ofInt value with
    | .infinity _ => .error .tooLarge
    | number => .ok ((number.mul unit).whole?.getD 0)

/-- The microseconds and the offset of a text after its seconds. If one of the two cannot be read,
neither counts. -/
def afterSeconds : Text → Except Fault (Int × Option Int)
  | [] => .ok (0, none)
  | '.' :: rest =>
    let (digits, zone) := fractionAndOffset rest
    let offset := match zone with
      | none => some none
      | some zone => (offset? zone).map some
    match offset, wholeNumber? digits with
    | some offset, some value => (microseconds value digits.length).map (·, offset)
    | _, _ => .ok (0, none)
  | zone => .ok (0, offset? zone)

def secondsEnd : Nat := 19

/-- The length of a date without a time. -/
def dateLength : Nat := 10

/-- A date, with a time unless it ends there. A text without a dash is none. -/
def dateAt (text : Text) : Except Fault (Option Moment) := do
  let (microsecond, offset) ← afterSeconds (text.drop secondsEnd)
  if !(text.drop 1).contains '-' then return none
  let number := fun (first last : Nat) => wholeNumber? (part first last text)
  return do
    let year ← number 0 4
    let month ← number 5 7
    let day ← number 8 10
    if text.length == dateLength then return .date (← Date.make? year month day)
    let clock ← Clock.make? (← number 11 13) (← number 14 16) (← number 17 19) microsecond
    return .full (← Date.make? year month day) clock offset

def twoDigits? : Text → Option (Nat × Text)
  | a :: b :: rest =>
    if Text.isAsciiDigit a && Text.isAsciiDigit b then some (Text.digitsValue [a, b], rest)
    else none
  | _ => none

def clockFraction : Text → Nat
  | '.' :: rest =>
    let digits := (rest.takeWhile Text.isAsciiDigit).take 6
    if digits.length < 3 then 0 else Text.digitsValue digits
  | _ => 0

def clockAt? (text : Text) : Option (Option Clock) := do
  let (hour, afterHour) ← twoDigits? text
  let (minute, afterMinute) ← twoDigits? (← Text.after? [':'] afterHour)
  let (second, rest) ← twoDigits? (← Text.after? [':'] afterMinute)
  return Clock.make? hour minute second (clockFraction rest)

end Outliner.Toml
