namespace ImageBuild.Data

structure Date where
  year : Nat
  month : Nat
  day : Nat
deriving DecidableEq

structure Moment where
  date : Date
  hour : Nat
  minute : Nat
  second : Nat
  microsecond : Nat
  offset : Option Int
deriving DecidableEq

def isLeapYear (year : Nat) : Bool := year % 4 == 0 && (year % 100 != 0 || year % 400 == 0)

def daysInMonth (year month : Nat) : Nat :=
  if month = 2 then (if isLeapYear year then 29 else 28)
  else if month ∈ [4, 6, 9, 11] then 30 else 31

def Date.isValid (d : Date) : Bool :=
  1 ≤ d.year && d.year ≤ 9999 && 1 ≤ d.month && d.month ≤ 12 &&
    1 ≤ d.day && d.day ≤ daysInMonth d.year d.month

def Moment.isValid (m : Moment) : Bool :=
  m.date.isValid && m.hour < 24 && m.minute < 60 && m.second < 60 &&
    match m.offset with
    | none => true
    | some minutes => minutes.natAbs < 24 * 60

def padded (width n : Nat) : String :=
  let digits := Nat.toDigits 10 n
  String.ofList (List.replicate (width - digits.length) '0' ++ digits)

def Date.text (d : Date) : String :=
  padded 4 d.year ++ "-" ++ padded 2 d.month ++ "-" ++ padded 2 d.day

def offsetText (minutes : Int) : String :=
  (if minutes < 0 then "-" else "+") ++ padded 2 (minutes.natAbs / 60) ++ ":" ++
    padded 2 (minutes.natAbs % 60)

def Moment.text (m : Moment) : String :=
  m.date.text ++ " " ++ padded 2 m.hour ++ ":" ++ padded 2 m.minute ++ ":" ++ padded 2 m.second ++
    (if m.microsecond = 0 then "" else "." ++ padded 6 m.microsecond) ++
    (m.offset.map offsetText).getD ""

def Date.described (d : Date) : String :=
  s!"datetime.date({d.year}, {d.month}, {d.day})"

def offsetDescribed (minutes : Int) : String :=
  if minutes = 0 then "datetime.timezone.utc"
  else
    let days := minutes.fdiv (24 * 60)
    let seconds := minutes.fmod (24 * 60) * 60
    let span :=
      if days = 0 then s!"seconds={seconds}"
      else if seconds = 0 then s!"days={days}"
      else s!"days={days}, seconds={seconds}"
    s!"datetime.timezone(datetime.timedelta({span}))"

def Moment.described (m : Moment) : String :=
  let day := [m.date.year, m.date.month, m.date.day, m.hour, m.minute]
  let time :=
    if m.microsecond ≠ 0 then [m.second, m.microsecond]
    else if m.second ≠ 0 then [m.second] else []
  let parts := (day ++ time).map toString ++ (m.offset.map fun o => "tzinfo=" ++ offsetDescribed o).toList
  "datetime.datetime(" ++ ", ".intercalate parts ++ ")"

end ImageBuild.Data
