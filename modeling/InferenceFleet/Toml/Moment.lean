import InferenceFleet.Time.Timestamp

/-!
# Dates and times of TOML

A date, a time of day, or both, the latter possibly at an offset from universal time. A moment in
a document stands for a record with one field, whose value is the text of the moment in its plain
form: a capital `T` between date and time, a capital `Z` for universal time, and no zeros at the
end of a fraction.
-/

namespace InferenceFleet.Toml

/-- A day of the calendar. -/
structure CivilDate where
  year : Nat
  month : Nat
  day : Nat

/-- A time of day. -/
structure CivilTime where
  hour : Nat
  minute : Nat
  second : Nat
  nanos : Nat

/-- A distance from universal time. -/
inductive Offset
  | universal
  | minutes (ahead : Bool) (count : Nat)

/-- A date, a time, or a date with a time. -/
inductive Moment
  | date (d : CivilDate)
  | time (t : CivilTime)
  | both (d : CivilDate) (t : CivilTime) (offset : Option Offset)

/-- Two digits with a value in bounds. -/
def readTwo? (low high : Nat) (cs : List Char) : Option (Nat × List Char) := do
  let (n, rest) ← Timestamp.readTwo? cs
  if low ≤ n ∧ n ≤ high then some (n, rest) else none

/-- A date. -/
def readDate? (cs : List Char) : Option (CivilDate × List Char) := do
  let (century, cs) ← Timestamp.readTwo? cs
  let (rest, cs) ← Timestamp.readTwo? cs
  let year := century * 100 + rest
  let cs ← Timestamp.readMark? '-' cs
  let (month, cs) ← readTwo? 1 12 cs
  let cs ← Timestamp.readMark? '-' cs
  let (day, cs) ← readTwo? 1 (Timestamp.daysInMonth year month) cs
  some (⟨year, month, day⟩, cs)

/-- A fraction of a second in nanoseconds; places beyond the ninth are dropped. A point that no
digit follows is left alone. -/
def readFraction (cs : List Char) : Nat × List Char :=
  (Timestamp.readFraction? cs).getD (0, cs)

/-- A time of day. -/
def readTime? (cs : List Char) : Option (CivilTime × List Char) := do
  let (hour, cs) ← readTwo? 0 23 cs
  let cs ← Timestamp.readMark? ':' cs
  let (minute, cs) ← readTwo? 0 59 cs
  let cs ← Timestamp.readMark? ':' cs
  let (second, cs) ← readTwo? 0 60 cs
  let (nanos, cs) := readFraction cs
  some (⟨hour, minute, second, nanos⟩, cs)

/-- An offset, if there is one; one that was begun has to be complete. -/
def readOffset? (cs : List Char) : Option (Option Offset × List Char) :=
  let distance (ahead : Bool) (cs : List Char) : Option (Option Offset × List Char) := do
    let (hours, cs) ← readTwo? 0 23 cs
    let cs ← Timestamp.readMark? ':' cs
    let (minutes, cs) ← readTwo? 0 59 cs
    some (some (.minutes ahead (hours * 60 + minutes)), cs)
  match cs with
  | 'Z' :: rest | 'z' :: rest => some (some .universal, rest)
  | '+' :: rest => distance true rest
  | '-' :: rest => distance false rest
  | cs => some (none, cs)

/-- The time that may follow a date, after a `T` or a blank. -/
def afterDate (cs : List Char) : Option (CivilTime × List Char) :=
  match cs with
  | 'T' :: rest | 't' :: rest | ' ' :: rest => readTime? rest
  | _ => none

/-- A moment at the head of a list of characters. -/
def readMoment? (cs : List Char) : Option (Moment × List Char) :=
  match readDate? cs with
  | some (date, rest) =>
      match afterDate rest with
      | some (time, rest) => (readOffset? rest).map fun (offset, rest) =>
          (.both date time offset, rest)
      | none => some (.date date, rest)
  | none => (readTime? cs).map fun (time, rest) => (.time time, rest)

/-- The text of a date. -/
def CivilDate.text (d : CivilDate) : List Char :=
  Timestamp.padded 4 d.year ++ '-' :: Timestamp.padded 2 d.month
    ++ '-' :: Timestamp.padded 2 d.day

/-- The text of a time of day. -/
def CivilTime.text (t : CivilTime) : List Char :=
  let fraction :=
    if t.nanos = 0 then []
    else '.' :: ((Timestamp.padded 9 t.nanos).reverse.dropWhile (· == '0')).reverse
  Timestamp.padded 2 t.hour ++ ':' :: Timestamp.padded 2 t.minute
    ++ ':' :: Timestamp.padded 2 t.second ++ fraction

/-- The text of an offset. -/
def Offset.text : Offset → List Char
  | .universal => ['Z']
  | .minutes ahead count =>
      (if ahead || count = 0 then '+' else '-') :: Timestamp.padded 2 (count / 60)
        ++ ':' :: Timestamp.padded 2 (count % 60)

/-- The text of a moment. -/
def Moment.text : Moment → String
  | .date d => String.ofList d.text
  | .time t => String.ofList t.text
  | .both d t offset =>
      String.ofList (d.text ++ 'T' :: t.text ++ (offset.map Offset.text).getD [])

end InferenceFleet.Toml
