/-! Moments: calendar days, with or without a time of day, and what keeps numbers from being one. -/

namespace CucumberExpressions

structure Clock where
  hour : Nat
  minute : Nat
  second : Nat
  microsecond : Nat
  offset? : Option Int
  deriving DecidableEq, Repr

structure Moment where
  year : Nat
  month : Nat
  day : Nat
  clock? : Option Clock
  deriving DecidableEq, Repr

inductive MomentError
  | year (n : Nat)
  | month
  | day
  | hour
  | minute
  | second
  | offset (minutes : Int)
  deriving DecidableEq, Repr

def isLeapYear (year : Nat) : Bool := year % 4 == 0 && (year % 100 != 0 || year % 400 == 0)

def daysIn (year month : Nat) : Nat :=
  if month = 2 then if isLeapYear year then 29 else 28
  else if [4, 6, 9, 11].contains month then 30 else 31

namespace Moment

/-- The first part of a moment that is out of its range; an offset is looked at before all else. -/
def error? (m : Moment) : Option MomentError :=
  match m.clock?.bind (·.offset?) with
  | some o => if 1440 ≤ o.natAbs then some (.offset o) else rest
  | none => rest
where
  rest : Option MomentError :=
    if m.year = 0 then some (.year 0)
    else if m.month = 0 ∨ 12 < m.month then some .month
    else if m.day = 0 ∨ daysIn m.year m.month < m.day then some .day
    else m.clock?.bind fun c =>
      if 23 < c.hour then some .hour
      else if 59 < c.minute then some .minute
      else if 59 < c.second then some .second else none

def dayNumber (m : Moment) : Int :=
  let years : Int := m.year - 1
  let months := (List.range (m.month - 1)).map fun i => daysIn m.year (i + 1)
  years * 365 + years / 4 - years / 100 + years / 400 + months.foldr Nat.add 0 + (m.day - 1)

def instant? (m : Moment) : Option Int := do
  let c ← m.clock?
  let offset ← c.offset?
  let minutes := m.dayNumber * 1440 + c.hour * 60 + c.minute - offset
  return (minutes * 60 + c.second) * 1000000 + c.microsecond

/-- Moments with an offset are compared as instants, all others by what is written. -/
def sameInstant (m n : Moment) : Bool :=
  match m.instant?, n.instant? with
  | some i, some j => i == j
  | _, _ => m == n

end Moment

def writeCall (name : String) (arguments : List String) : String :=
  name ++ "(" ++ ", ".intercalate arguments ++ ")"

def writeSpan (minutes : Int) : String :=
  let days := minutes.fdiv 1440
  let seconds := (minutes.fmod 1440) * 60
  writeCall "datetime.timedelta" ((if days = 0 then [] else [s!"days={days}"])
    ++ (if seconds = 0 then [] else [s!"seconds={seconds}"]))

def writeOffset (minutes : Int) : String :=
  if minutes = 0 then "datetime.timezone.utc"
  else writeCall "datetime.timezone" [writeSpan minutes]

/-- Seconds and microseconds are left out from the end while they are zero. -/
def Moment.written (m : Moment) : String :=
  let date := [m.year, m.month, m.day].map toString
  match m.clock? with
  | none => writeCall "datetime.date" date
  | some c =>
    let small :=
      if c.microsecond ≠ 0 then [toString c.second, toString c.microsecond]
      else if c.second ≠ 0 then [toString c.second] else []
    let zone := (c.offset?.map fun o => "tzinfo=" ++ writeOffset o).toList
    writeCall "datetime.datetime" (date ++ [toString c.hour, toString c.minute] ++ small ++ zone)

def MomentError.message : MomentError → String
  | year n => s!"year {n} is out of range"
  | month => "month must be in 1..12"
  | day => "day is out of range for month"
  | hour => "hour must be in 0..23"
  | minute => "minute must be in 0..59"
  | second => "second must be in 0..59"
  | offset minutes =>
    "offset must be a timedelta strictly between -timedelta(hours=24) and timedelta(hours=24), not "
      ++ writeSpan minutes ++ "."

end CucumberExpressions
