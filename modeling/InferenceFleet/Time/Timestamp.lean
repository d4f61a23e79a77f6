import InferenceFleet.Text.Blank
import InferenceFleet.Text.Digits

/-!
# Timestamps

An instant of the proleptic Gregorian calendar in universal time, to the nanosecond. A leap second
is written as second 60; it is the second before it with a fraction of a second or more, so the
order of instants is that of whole seconds first and of the fraction then.

Reading follows RFC 3339 in a relaxed form: blanks may stand before each number and around the
date separators, the date and the time are separated by `T` or one space, the offset is `Z`,
`UTC`, or a sign with hours and minutes, and years of any width need a sign. Writing is in
universal time with no fraction, or with three, six or nine places of it, whichever is the
shortest that loses nothing.
-/

namespace InferenceFleet

/-- An instant: seconds since 1970, and nanoseconds after that second; a billion of them or more
within a leap second. -/
structure Timestamp where
  seconds : Int
  nanos : Nat
  deriving DecidableEq, Inhabited

namespace Timestamp

/-- The number of nanoseconds in a second. -/
def perSecond : Nat := 1000000000

/-- The beginning of 1970, which stands for "never". -/
def epoch : Timestamp := ⟨0, 0⟩

/-- The order of instants. -/
def before (a b : Timestamp) : Bool :=
  a.seconds < b.seconds || (a.seconds == b.seconds && a.nanos < b.nanos)

/-- The later of two instants. -/
def later (a b : Timestamp) : Timestamp :=
  if before a b then b else a

/-- The instant some nanoseconds later. -/
def addNanos (t : Timestamp) (n : Nat) : Timestamp :=
  let total := t.nanos + n
  ⟨t.seconds + (total / perSecond : Nat), total % perSecond⟩

/-- The number of days from 1970 to the first of March of a year, counting the year from March. -/
def daysToMarch (year : Int) : Int :=
  365 * year + year / 4 - year / 100 + year / 400 - 719468

/-- Days since 1970 of a civil date. -/
def dayNumber (year month day : Int) : Int :=
  let shifted := if month ≤ 2 then year - 1 else year
  let fromMarch := (month + 9) % 12
  daysToMarch shifted + (153 * fromMarch + 2) / 5 + day - 1

/-- The civil date of a day since 1970. -/
def civilDate (days : Int) : Int × Int × Int :=
  let z := days + 719468
  let era := z / 146097
  let dayOfEra := z - era * 146097
  let yearOfEra :=
    (dayOfEra - dayOfEra / 1460 + dayOfEra / 36524 - dayOfEra / 146096) / 365
  let dayOfYear := dayOfEra - (365 * yearOfEra + yearOfEra / 4 - yearOfEra / 100)
  let fromMarch := (5 * dayOfYear + 2) / 153
  let day := dayOfYear - (153 * fromMarch + 2) / 5 + 1
  let month := if fromMarch < 10 then fromMarch + 3 else fromMarch - 9
  let year := yearOfEra + era * 400 + (if month ≤ 2 then 1 else 0)
  (year, month, day)

/-- Leap years of the Gregorian rule. -/
def isLeapYear (year : Int) : Bool :=
  year % 4 == 0 && (year % 100 != 0 || year % 400 == 0)

/-- The number of days of a month. -/
def daysInMonth (year : Int) (month : Nat) : Nat :=
  match month with
  | 2 => if isLeapYear year then 29 else 28
  | 4 | 6 | 9 | 11 => 30
  | _ => 31

/-- The first year that a timestamp can be in. -/
def minYear : Int := -262143

/-- The last year that a timestamp can be in. -/
def maxYear : Int := 262142

/-- At least one and at most `width` digits at the head of a list. -/
def readNumber? (width : Nat) (cs : List Char) : Option (Nat × List Char) :=
  let digits := (cs.take width).takeWhile Char.isDigit
  match digits with
  | [] => none
  | digits => some
      (Text.ofDigits 10 0 (digits.map fun c => c.toNat - '0'.toNat), cs.drop digits.length)

/-- A number after blanks, in bounds. -/
def readPart? (width low high : Nat) (cs : List Char) : Option (Nat × List Char) := do
  let (n, rest) ← readNumber? width (Text.skipBlanks cs)
  if low ≤ n ∧ n ≤ high then some (n, rest) else none

/-- A year after blanks: up to four digits, or any number of them after a sign. -/
def readYear? (cs : List Char) : Option (Int × List Char) :=
  match Text.skipBlanks cs with
  | '-' :: rest => (readNumber? rest.length rest).map fun (n, rest) => (-(n : Int), rest)
  | '+' :: rest => (readNumber? rest.length rest).map fun (n, rest) => ((n : Int), rest)
  | cs => (readNumber? 4 cs).map fun (n, rest) => ((n : Int), rest)

/-- A separator character at the head of a list. -/
def readMark? (mark : Char) : List Char → Option (List Char)
  | c :: rest => if c = mark then some rest else none
  | [] => none

/-- A separator of the date or the time, after blanks. -/
def readSeparator? (mark : Char) (cs : List Char) : Option (List Char) :=
  readMark? mark (Text.skipBlanks cs)

/-- An optional fraction of a second, in nanoseconds; places beyond the ninth are dropped. -/
def readFraction? (cs : List Char) : Option (Nat × List Char) :=
  match cs with
  | '.' :: rest =>
      match rest.takeWhile Char.isDigit with
      | [] => none
      | digits =>
          let nine := (digits.map fun c => c.toNat - '0'.toNat).take 9
          let scaled := Text.ofDigits 10 0 nine * Nat.pow 10 (9 - nine.length)
          some (scaled, rest.dropWhile Char.isDigit)
  | cs => some (0, cs)

/-- The sign of an offset; the minus sign of typesetting counts as well. -/
def readSign? : List Char → Option (Int × List Char)
  | '+' :: rest => some (1, rest)
  | '-' :: rest => some (-1, rest)
  | '−' :: rest => some (-1, rest)
  | _ => none

/-- Exactly two digits. -/
def readTwo? : List Char → Option (Nat × List Char)
  | a :: b :: rest =>
      if a.isDigit ∧ b.isDigit then
        some ((a.toNat - '0'.toNat) * 10 + (b.toNat - '0'.toNat), rest)
      else none
  | _ => none

/-- An offset from universal time, in seconds. -/
def readOffset? (cs : List Char) : Option (Int × List Char) :=
  match cs with
  | 'Z' :: rest | 'z' :: rest => some (0, rest)
  | cs =>
      if (cs.take 3).map Char.toUpper = ['U', 'T', 'C'] then some (0, cs.drop 3)
      else do
        let (sign, rest) ← readSign? cs
        let (hours, rest) ← readTwo? rest
        let rest := rest.dropWhile fun c => c == ':' || Text.isBlank c
        let (minutes, rest) ← readTwo? rest
        if minutes < 60 then some (sign * (hours * 3600 + minutes * 60 : Nat), rest) else none

/-- The instant of a civil time at an offset, if the calendar has it. -/
def ofCivil? (year : Int) (month day hour minute second nanos : Nat) (offset : Int) :
    Option Timestamp :=
  if minYear ≤ year ∧ year ≤ maxYear ∧ day ≤ daysInMonth year month ∧ offset.natAbs < 86400 then
    let leap := second = 60
    let clock := hour * 3600 + minute * 60 + (if leap then 59 else second)
    let seconds := dayNumber year month day * 86400 + (clock : Nat) - offset
    let universal := (civilDate (seconds / 86400)).1
    if minYear ≤ universal ∧ universal ≤ maxYear then
      some ⟨seconds, nanos + (if leap then perSecond else 0)⟩
    else none
  else none

/-- The instant that a text names. -/
def read? (s : String) : Option Timestamp := do
  let (year, cs) ← readYear? s.toList
  let cs ← readSeparator? '-' cs
  let (month, cs) ← readPart? 2 1 12 cs
  let cs ← readSeparator? '-' cs
  let (day, cs) ← readPart? 2 1 31 cs
  let cs ← match cs with
    | 'T' :: rest | 't' :: rest | ' ' :: rest => some rest
    | _ => none
  let (hour, cs) ← readPart? 2 0 23 cs
  let cs ← readSeparator? ':' cs
  let (minute, cs) ← readPart? 2 0 59 cs
  let cs ← readSeparator? ':' cs
  let (second, cs) ← readPart? 2 0 60 cs
  let (nanos, cs) ← readFraction? cs
  let (offset, cs) ← readOffset? (Text.skipBlanks cs)
  if (Text.skipBlanks cs).isEmpty then ofCivil? year month day hour minute second nanos offset
  else none

/-- A natural number with zeros in front, up to a width. -/
def padded (width n : Nat) : List Char :=
  let digits := Nat.toDigits 10 n
  List.replicate (width - digits.length) '0' ++ digits

/-- A year: four digits, or a sign and at least four digits outside that range. -/
def yearText (year : Int) : List Char :=
  if 0 ≤ year ∧ year ≤ 9999 then padded 4 year.toNat
  else (if year < 0 then '-' else '+') :: padded 4 year.natAbs

/-- A fraction of a second, by the fewest groups of three places. -/
def fractionText (nanos : Nat) : List Char :=
  if nanos = 0 then []
  else if nanos % 1000000 = 0 then '.' :: padded 3 (nanos / 1000000)
  else if nanos % 1000 = 0 then '.' :: padded 6 (nanos / 1000)
  else '.' :: padded 9 nanos

/-- The text of an instant in universal time. -/
def text (t : Timestamp) : String :=
  let (year, month, day) := civilDate (t.seconds / 86400)
  let clock := (t.seconds % 86400).toNat
  let leap := perSecond ≤ t.nanos
  let second := clock % 60 + (if leap then 1 else 0)
  String.ofList <|
    yearText year ++ '-' :: padded 2 month.toNat ++ '-' :: padded 2 day.toNat
      ++ 'T' :: padded 2 (clock / 3600) ++ ':' :: padded 2 (clock / 60 % 60)
      ++ ':' :: padded 2 second ++ fractionText (t.nanos % perSecond) ++ ['Z']

end Timestamp

end InferenceFleet
