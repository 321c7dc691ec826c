/-!
# Dates and times of documents

A document may hold a calendar date, or a moment with a precision of a microsecond and perhaps an
offset from universal time.
-/

namespace GatewayMigration

structure Date where
  year : Nat
  month : Nat
  day : Nat
deriving DecidableEq, Repr

/-- The offset is in minutes east of universal time. -/
structure ClockTime where
  hour : Nat
  minute : Nat
  second : Nat
  microsecond : Nat
  offset : Option Int
deriving DecidableEq, Repr

inductive Timestamp
  | date (d : Date)
  | moment (d : Date) (t : ClockTime)
deriving DecidableEq, Repr

/-- `n` in decimal with at least `width` digits. -/
def padded (width n : Nat) : String :=
  let ds := toString n
  String.ofList (List.replicate (width - ds.length) '0') ++ ds

def isLeapYear (year : Nat) : Bool := year % 4 == 0 && (year % 100 != 0 || year % 400 == 0)

def daysInMonth (year month : Nat) : Nat :=
  if month = 2 then if isLeapYear year then 29 else 28
  else if month = 4 ∨ month = 6 ∨ month = 9 ∨ month = 11 then 30
  else 31

namespace Date

def isValid (d : Date) : Bool :=
  1 ≤ d.year && d.year ≤ 9999 && 1 ≤ d.month && d.month ≤ 12 && 1 ≤ d.day &&
    d.day ≤ daysInMonth d.year d.month

def text (d : Date) : String := padded 4 d.year ++ "-" ++ padded 2 d.month ++ "-" ++ padded 2 d.day

def next (d : Date) : Date :=
  if d.day < daysInMonth d.year d.month then { d with day := d.day + 1 }
  else if d.month < 12 then ⟨d.year, d.month + 1, 1⟩
  else ⟨d.year + 1, 1, 1⟩

end Date

namespace ClockTime

def isValid (t : ClockTime) : Bool :=
  t.hour < 24 && t.minute < 60 && t.second < 60 && t.microsecond < 1000000 &&
    t.offset.all fun o => o.natAbs < 24 * 60

def offsetText (o : Int) : String :=
  (if o < 0 then "-" else "+") ++ padded 2 (o.natAbs / 60) ++ ":" ++ padded 2 (o.natAbs % 60)

/-- Whole seconds show no fraction. -/
def text (t : ClockTime) : String :=
  padded 2 t.hour ++ ":" ++ padded 2 t.minute ++ ":" ++ padded 2 t.second ++
    (if t.microsecond = 0 then "" else "." ++ padded 6 t.microsecond) ++
    (t.offset.map offsetText).getD ""

end ClockTime

namespace Timestamp

def isValid : Timestamp → Bool
  | .date d => d.isValid
  | .moment d t => d.isValid && t.isValid

/-- The moment one second later. -/
def nextSecond (d : Date) (t : ClockTime) : Timestamp :=
  if t.second < 59 then .moment d { t with second := t.second + 1 }
  else if t.minute < 59 then .moment d { t with second := 0, minute := t.minute + 1 }
  else if t.hour < 23 then .moment d { t with second := 0, minute := 0, hour := t.hour + 1 }
  else .moment d.next { t with second := 0, minute := 0, hour := 0 }

/-- The extended calendar format, with a `T` between date and time. -/
def text : Timestamp → String
  | .date d => d.text
  | .moment d t => d.text ++ "T" ++ t.text

end Timestamp

end GatewayMigration
