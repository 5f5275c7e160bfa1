import Whittle.Text.Blank

namespace Whittle

structure Date where
  year : Nat
  month : Nat
  day : Nat
  deriving DecidableEq, Repr

structure Clock where
  hour : Nat
  minute : Nat
  second : Nat
  micro : Nat
  deriving DecidableEq, Repr

-- A distance from universal time, in seconds.
abbrev Zone := Int

inductive Moment where
  | date (d : Date)
  | time (t : Clock)
  | dateTime (d : Date) (t : Clock) (zone : Option Zone)
  deriving DecidableEq, Repr

inductive MomentError where
  | year (n : Nat)
  | month
  | day
  | hour
  | minute
  | second
  | zone (z : Zone)
  deriving DecidableEq, Repr

namespace Date

def isLeap (year : Nat) : Bool := year % 4 == 0 && (year % 100 != 0 || year % 400 == 0)

def daysInMonth (year month : Nat) : Nat :=
  if month == 2 then (if isLeap year then 29 else 28)
  else if month == 4 || month == 6 || month == 9 || month == 11 then 30
  else 31

def of (year month day : Nat) : Except MomentError Date :=
  if year < 1 || 9999 < year then .error (.year year)
  else if month < 1 || 12 < month then .error .month
  else if day < 1 || daysInMonth year month < day then .error .day
  else .ok ⟨year, month, day⟩

end Date

def Clock.of (hour minute second micro : Nat) : Except MomentError Clock :=
  if 23 < hour then .error .hour
  else if 59 < minute then .error .minute
  else if 59 < second then .error .second
  else .ok ⟨hour, minute, second, micro⟩

def Zone.of (seconds : Int) : Except MomentError Zone :=
  if seconds.natAbs < 86400 then .ok seconds else .error (.zone seconds)

namespace Moment

def padded (width n : Nat) : String :=
  let digits := Nat.toDigits 10 n
  String.ofList (List.replicate (width - digits.length) '0' ++ digits)

def dateText (d : Date) : String := padded 4 d.year ++ "-" ++ padded 2 d.month ++ "-" ++ padded 2 d.day

def clockText (t : Clock) : String :=
  padded 2 t.hour ++ ":" ++ padded 2 t.minute ++ ":" ++ padded 2 t.second ++
    (if t.micro == 0 then "" else "." ++ padded 6 t.micro)

def zoneText (z : Zone) : String :=
  let n := z.natAbs
  (if z < 0 then "-" else "+") ++ padded 2 (n / 3600) ++ ":" ++ padded 2 (n / 60 % 60) ++
    (if n % 60 == 0 then "" else ":" ++ padded 2 (n % 60))

def text : Moment → String
  | .date d => dateText d
  | .time t => clockText t
  | .dateTime d t zone => dateText d ++ " " ++ clockText t ++ (zone.map zoneText).getD ""

-- A distance as whole days, which may be negative, and seconds of a day.
def distanceText (z : Zone) : String :=
  let days := z.fdiv 86400
  let seconds := (z - days * 86400).toNat
  let parts :=
    (if days == 0 then [] else ["days=" ++ toString days]) ++
      (if seconds == 0 then [] else ["seconds=" ++ toString seconds])
  "datetime.timedelta(" ++ (if parts.isEmpty then "0" else Text.join ", " parts) ++ ")"

-- The numbers of a time of day; seconds and their fraction are left out when nothing but zeros follows.
def clockNumbers (t : Clock) : List Nat :=
  [t.hour, t.minute] ++
    (if t.micro != 0 then [t.second, t.micro] else if t.second != 0 then [t.second] else [])

def numbersText (ns : List Nat) : String := Text.join ", " (ns.map fun n => toString n)

def quoted : Moment → String
  | .date d => "datetime.date(" ++ numbersText [d.year, d.month, d.day] ++ ")"
  | .time t => "datetime.time(" ++ numbersText (clockNumbers t) ++ ")"
  | .dateTime d t zone =>
    let zonePart := match zone with
      | none => ""
      | some z => ", tzinfo=datetime.timezone" ++
          (if z == 0 then ".utc" else "(" ++ distanceText z ++ ")")
    "datetime.datetime(" ++ numbersText ([d.year, d.month, d.day] ++ clockNumbers t) ++ zonePart ++ ")"

end Moment

def MomentError.message : MomentError → String
  | .year n => "year " ++ toString n ++ " is out of range"
  | .month => "month must be in 1..12"
  | .day => "day is out of range for month"
  | .hour => "hour must be in 0..23"
  | .minute => "minute must be in 0..59"
  | .second => "second must be in 0..59"
  | .zone z =>
    "offset must be a timedelta strictly between -timedelta(hours=24) and timedelta(hours=24), not " ++
      Moment.distanceText z

end Whittle
