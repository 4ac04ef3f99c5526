import Outliner.Text.Basic

namespace Outliner.Toml

def padded (width n : Nat) : Text :=
  (Text.ofNat n).leftpad width '0'

structure Date where
  year : Nat
  month : Nat
  day : Nat
deriving DecidableEq, Repr

namespace Date

def isLeapYear (year : Nat) : Bool :=
  year % 4 == 0 && (year % 100 != 0 || year % 400 == 0)

def daysIn (year month : Nat) : Nat :=
  if month == 2 then (if isLeapYear year then 29 else 28)
  else if [4, 6, 9, 11].contains month then 30
  else 31

def make? (year month day : Int) : Option Date :=
  if 1 ≤ year && year ≤ 9999 && 1 ≤ month && month ≤ 12 && 1 ≤ day &&
      day ≤ daysIn year.toNat month.toNat then
    some ⟨year.toNat, month.toNat, day.toNat⟩
  else none

def toText (date : Date) : Text :=
  padded 4 date.year ++ '-' :: padded 2 date.month ++ '-' :: padded 2 date.day

end Date

structure Clock where
  hour : Nat
  minute : Nat
  second : Nat
  microsecond : Nat
deriving DecidableEq, Repr

namespace Clock

def make? (hour minute second microsecond : Int) : Option Clock :=
  if 0 ≤ hour && hour < 24 && 0 ≤ minute && minute < 60 && 0 ≤ second && second < 60 &&
      0 ≤ microsecond && microsecond < 1000000 then
    some ⟨hour.toNat, minute.toNat, second.toNat, microsecond.toNat⟩
  else none

/-- A time with its seconds, and with six places after them unless they are zeros. -/
def toText (clock : Clock) : Text :=
  padded 2 clock.hour ++ ':' :: padded 2 clock.minute ++ ':' :: padded 2 clock.second ++
    if clock.microsecond == 0 then [] else '.' :: padded 6 clock.microsecond

def numbers (clock : Clock) : List Nat :=
  [clock.hour, clock.minute] ++
    if clock.microsecond != 0 then [clock.second, clock.microsecond]
    else if clock.second != 0 then [clock.second]
    else []

end Clock

inductive Moment where
  | date (date : Date)
  | clock (clock : Clock)
  /-- A date and a time, and the minutes by which it is ahead of universal time, if they are
  known. -/
  | full (date : Date) (clock : Clock) (offset : Option Int)
deriving DecidableEq, Repr

namespace Moment

def offsetText? (offset : Int) : Option Text :=
  let size := offset.natAbs
  if size < 24 * 60 then
    some ((if offset < 0 then '-' else '+') :: padded 2 (size / 60) ++ ':' :: padded 2 (size % 60))
  else none

/-- A moment as text, with a character between date and time. An offset of a day or more has no
text. -/
def toText? (separator : Char) : Moment → Option Text
  | date day => some day.toText
  | clock time => some time.toText
  | full day time none => some (day.toText ++ separator :: time.toText)
  | full day time (some offset) =>
    (offsetText? offset).map fun zone => day.toText ++ separator :: time.toText ++ zone

/-- A moment as it is written in a document: universal time has a letter of its own. -/
def render? (moment : Moment) : Option Text :=
  (moment.toText? 'T').map (Text.replaceAll "+00:00".toList "Z".toList)

def shown (moment : Moment) : Text :=
  let call := fun (name : String) (numbers : List Nat) (others : List Text) =>
    "datetime.".toList ++ name.toList ++ '(' ::
      Text.join ", ".toList (numbers.map Text.ofNat ++ others) ++ ")".toList
  match moment with
  | date day => call "date" [day.year, day.month, day.day] []
  | clock time => call "time" time.numbers []
  | full day time offset =>
    let zone := offset.map fun offset => "tzinfo=".toList ++ (offsetText? offset).getD []
    call "datetime" ([day.year, day.month, day.day] ++ time.numbers) zone.toList

/-- Whether two moments may stand in the same array: a time of day stands with its like only. -/
def sameType : Moment → Moment → Bool
  | clock _, clock _ => true
  | clock _, _ => false
  | _, clock _ => false
  | _, _ => true

end Moment

end Outliner.Toml
