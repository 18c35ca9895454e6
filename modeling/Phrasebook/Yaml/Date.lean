import Phrasebook.Yaml.Tag

/-!
# Dates

A date has a year, a month and a day, and it may have a time and a time zone.
No setting is a date, so a date is kept in the form in which messages show it.
-/

namespace Phrasebook.Yaml

/-- A time zone as an offset in seconds. -/
structure Zone where
  offset : Int
deriving DecidableEq, Repr

/-- A time of a day, with its millionths of a second. -/
structure Time where
  hour : Nat
  minute : Nat
  second : Nat
  fraction : Nat
  zone? : Option Zone
deriving DecidableEq, Repr

/-- A day, with a time or without one. -/
structure Date where
  year : Nat
  month : Nat
  day : Nat
  time? : Option Time
deriving DecidableEq, Repr

/-- Whether a year has a day more than others. -/
def isLongYear (year : Nat) : Bool :=
  year % 4 == 0 && (year % 100 != 0 || year % 400 == 0)

def daysOf (year month : Nat) : Nat :=
  if month == 2 then if isLongYear year then 29 else 28
  else if month == 4 || month == 6 || month == 9 || month == 11 then 30
  else 31

namespace Zone

/-- An offset is shorter than a day. -/
def isValid (zone : Zone) : Bool :=
  zone.offset.natAbs < 86400

def written (zone : Zone) : String :=
  let days := Int.fdiv zone.offset 86400
  let seconds := Int.fmod zone.offset 86400
  if zone.offset == 0 then "datetime.timezone.utc"
  else
    "datetime.timezone(datetime.timedelta(" ++
      (if days == 0 then "" else "days=" ++ toString days ++ if seconds == 0 then "" else ", ") ++
      (if seconds == 0 then "" else "seconds=" ++ toString seconds) ++ "))"

end Zone

namespace Time

def isValid (time : Time) : Bool :=
  time.hour < 24 && time.minute < 60 && time.second < 60 &&
    match time.zone? with
    | some zone => zone.isValid
    | none => true

/-- The numbers of a time; seconds and their fraction are left out at the end if they are zero. -/
def numbers (time : Time) : List Nat :=
  [time.hour, time.minute] ++
    (if time.second == 0 && time.fraction == 0 then [] else [time.second]) ++
    (if time.fraction == 0 then [] else [time.fraction])

end Time

namespace Date

/-- Whether there is such a day and such a time. -/
def isValid (date : Date) : Bool :=
  1 ≤ date.year && date.year ≤ 9999 && 1 ≤ date.month && date.month ≤ 12 &&
    1 ≤ date.day && date.day ≤ daysOf date.year date.month &&
    match date.time? with
    | some time => time.isValid
    | none => true

/-- A date as messages show it. -/
def written (date : Date) : String :=
  let days := [date.year, date.month, date.day]
  match date.time? with
  | none => "datetime.date(" ++ ", ".intercalate (days.map toString) ++ ")"
  | some time =>
    let zone := match time.zone? with
      | some zone => ", tzinfo=" ++ zone.written
      | none => ""
    "datetime.datetime(" ++ ", ".intercalate ((days ++ time.numbers).map toString) ++ zone ++ ")"

/-- The number that the next digits write, and what follows them. -/
def numberAt (text : List Char) : Nat × List Char :=
  (((text.takeWhile Char.isDigit).foldl (fun number digit => number * 10 + (digit.toNat - 48)) 0),
    text.dropWhile Char.isDigit)

/-- The numbers in a text, in order. -/
def numbersIn (count : Nat) (text : List Char) : List Nat :=
  match count with
  | 0 => []
  | count + 1 =>
    let (number, rest) := numberAt (text.dropWhile fun character => !character.isDigit)
    number :: numbersIn count rest

/-- The millionths of a second that the digits after a point write. -/
def fractionOf (digits : List Char) : Nat :=
  (numberAt ((digits ++ List.replicate 6 '0').take 6)).1

/-- The time zone that follows a time. -/
def zoneOf? (text : List Char) : Option Zone :=
  match text.dropWhile isBlankCharacter with
  | 'Z' :: _ => some ⟨0⟩
  | sign :: rest =>
    let (hours, rest) := numberAt rest
    let minutes := (numberAt (rest.drop 1)).1
    let seconds : Int := hours * 3600 + minutes * 60
    some ⟨if sign == '-' then -seconds else seconds⟩
  | [] => none

def timeOf (text : List Char) : Time :=
  let numbers := numbersIn 3 text
  let (digits, rest) := splitFraction ((clockThen text).getD [])
  { hour := numbers[0]?.getD 0
    minute := numbers[1]?.getD 0
    second := numbers[2]?.getD 0
    fraction := fractionOf digits
    zone? := zoneOf? rest }

def ofText (text : List Char) : Except Fault Date :=
  if !looksDate text && dayThen 1 text != some [] then .error .noDate
  else
    let numbers := numbersIn 3 text
    let date : Date := {
      year := numbers[0]?.getD 0
      month := numbers[1]?.getD 0
      day := numbers[2]?.getD 0
      time? := ((dayThen 1 text).bind afterGap?).map timeOf }
    if date.isValid then .ok date else .error .outOfRange

end Date

end Phrasebook.Yaml
