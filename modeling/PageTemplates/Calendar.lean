import PageTemplates.Text

/-!
Dates and times of the Gregorian calendar carried back without end: their ISO text, their order, and
their text under a pattern of directives.
-/

namespace PageTemplates

/-- A day. -/
structure Date where
  year : Nat
  month : Nat
  day : Nat
  deriving DecidableEq, Inhabited

/-- A day with a time of day, and a distance from universal time in seconds if one is known. -/
structure DateTime where
  date : Date
  hour : Nat
  minute : Nat
  second : Nat
  microsecond : Nat
  offset : Option Int
  deriving DecidableEq, Inhabited

namespace Calendar

/-- Decimal digits with zeros in front up to a width. -/
def padded (width number : Nat) : Text :=
  let digits := Text.ofNat number
  List.replicate (width - digits.length) (.scalar '0') ++ digits

/-- Whether a year has a 29th of February. -/
def isLeap (year : Nat) : Bool := year % 4 == 0 && (year % 100 != 0 || year % 400 == 0)

/-- The days of a month. -/
def daysInMonth (year month : Nat) : Nat :=
  match month with
  | 2 => if isLeap year then 29 else 28
  | 4 => 30
  | 6 => 30
  | 9 => 30
  | 11 => 30
  | _ => 31

/-- Days of a year before a month. -/
def daysBeforeMonth (year : Nat) : Nat → Nat
  | 0 => 0
  | 1 => 0
  | month + 1 => daysBeforeMonth year month + daysInMonth year month

/-- Days before a year, counted from the first of January of year one. -/
def daysBeforeYear (year : Nat) : Nat :=
  let passed := year - 1
  passed * 365 + passed / 4 - passed / 100 + passed / 400

/-- The number of a day of a year, from one. -/
def dayOfYear (date : Date) : Nat := daysBeforeMonth date.year date.month + date.day

/-- The number of a day, from one for the first day of year one. -/
def dayNumber (date : Date) : Nat := daysBeforeYear date.year + dayOfYear date

/-- Days since Monday. -/
def weekday (date : Date) : Nat := (dayNumber date + 6) % 7

/-- Whether year, month and day name a day. -/
def isDate (year month day : Nat) : Bool :=
  1 ≤ year && year ≤ 9999 && 1 ≤ month && month ≤ 12 && 1 ≤ day && day ≤ daysInMonth year month

/-- Finds the day of a number by trying years from a guess on. -/
def dateOfNumber (number : Nat) : Date :=
  let guess := (number - 1) / 366 + 1
  let year := (List.range (number / 100000 + 12)).foldl
    (fun found _ => if daysBeforeYear (found + 1) < number then found + 1 else found) guess
  let rest := number - daysBeforeYear year
  let month := (List.range 11).foldl
    (fun found _ => if daysBeforeMonth year (found + 1) < rest then found + 1 else found) 1
  ⟨year, month, rest - daysBeforeMonth year month⟩

/-- The ISO text of a day. -/
def isoDate (date : Date) : Text :=
  padded 4 date.year ++ "-" ++ padded 2 date.month ++ "-" ++ padded 2 date.day

/-- A distance from universal time as sign, hours, minutes and, where they are not zero, seconds. -/
def isoOffset (offset : Int) : Text :=
  let size := offset.natAbs
  (if offset < 0 then "-" else "+" : Text) ++ padded 2 (size / 3600) ++ ":" ++
    padded 2 (size / 60 % 60) ++ (if size % 60 == 0 then "" else ":" ++ padded 2 (size % 60) : Text)

/-- The ISO text of a time of day; microseconds only where they are not zero. -/
def isoTime (time : DateTime) : Text :=
  padded 2 time.hour ++ ":" ++ padded 2 time.minute ++ ":" ++ padded 2 time.second ++
    (if time.microsecond == 0 then "" else "." ++ padded 6 time.microsecond : Text) ++
    (match time.offset with
    | some offset => isoOffset offset
    | none => [])

/-- The ISO text of a day and time with a separator between them. -/
def isoDateTime (separator : Text) (time : DateTime) : Text :=
  isoDate time.date ++ separator ++ isoTime time

/-- The English names of the days from Monday on. -/
def dayNames : List String :=
  ["Monday", "Tuesday", "Wednesday", "Thursday", "Friday", "Saturday", "Sunday"]

/-- The English names of the months. -/
def monthNames : List String :=
  ["January", "February", "March", "April", "May", "June", "July", "August", "September",
    "October", "November", "December"]

/-- A name out of a list, cut to a number of characters. -/
def nameAt (names : List String) (place : Nat) (length : Nat) : Text :=
  (Text.ofString (names[place]?.getD "")).take length

/-- The hour on a clock of twelve hours. -/
def clockHour (hour : Nat) : Nat := if hour % 12 == 0 then 12 else hour % 12

/-- Decimal digits with blanks in front up to a width. -/
def spaced (width number : Nat) : Text :=
  let digits := Text.ofNat number
  List.replicate (width - digits.length) (.scalar ' ') ++ digits

/-- The offset as four digits. -/
def plainOffset (offset : Option Int) : Text :=
  match offset with
  | none => []
  | some offset =>
    let size := offset.natAbs
    (if offset < 0 then "-" else "+" : Text) ++ padded 2 (size / 3600) ++ padded 2 (size / 60 % 60)

/-- Seconds since the first of January 1970. -/
def secondsOf (time : DateTime) : Int :=
  (Int.ofNat (dayNumber time.date) - 719163) * 86400 + time.hour * 3600 + time.minute * 60 +
    time.second - time.offset.getD 0

/-- The number of the week with the given first day (0 for Sunday, 1 for Monday). -/
def weekOfYear (date : Date) (first : Nat) : Nat :=
  let sinceFirst := (weekday date + 1 - first + 7) % 7
  (dayOfYear date + 6 - sinceFirst) / 7

/-- The ISO year and week of a day. -/
def isoWeek (date : Date) : Nat × Nat :=
  let thursday := dateOfNumber (dayNumber date + 3 - weekday date)
  (thursday.year, (dayOfYear thursday - 1) / 7 + 1)

/-- The text of one directive; one that is not known stands for itself. -/
def directive (time : DateTime) (letter : CodePoint) : Text :=
  let date := time.date
  match letter with
  | .scalar 'Y' => Text.ofNat date.year
  | .scalar 'm' => padded 2 date.month
  | .scalar 'd' => padded 2 date.day
  | .scalar 'H' => padded 2 time.hour
  | .scalar 'M' => padded 2 time.minute
  | .scalar 'S' => padded 2 time.second
  | .scalar 'f' => padded 6 time.microsecond
  | .scalar 'y' => padded 2 (date.year % 100)
  | .scalar 'C' => padded 2 (date.year / 100)
  | .scalar 'j' => padded 3 (dayOfYear date)
  | .scalar 'e' => spaced 2 date.day
  | .scalar 'I' => padded 2 (clockHour time.hour)
  | .scalar 'l' => spaced 2 (clockHour time.hour)
  | .scalar 'k' => spaced 2 time.hour
  | .scalar 'p' => if time.hour < 12 then "AM" else "PM"
  | .scalar 'P' => if time.hour < 12 then "am" else "pm"
  | .scalar 'a' => nameAt dayNames (weekday date) 3
  | .scalar 'A' => nameAt dayNames (weekday date) 9
  | .scalar 'b' => nameAt monthNames (date.month - 1) 3
  | .scalar 'h' => nameAt monthNames (date.month - 1) 3
  | .scalar 'B' => nameAt monthNames (date.month - 1) 9
  | .scalar 'u' => Text.ofNat (weekday date + 1)
  | .scalar 'w' => Text.ofNat ((weekday date + 1) % 7)
  | .scalar 'U' => padded 2 (weekOfYear date 0)
  | .scalar 'W' => padded 2 (weekOfYear date 1)
  | .scalar 'G' => Text.ofNat (isoWeek date).1
  | .scalar 'V' => padded 2 (isoWeek date).2
  | .scalar 'z' => plainOffset time.offset
  | .scalar 'Z' =>
    match time.offset with
    | none => []
    | some offset => if offset == 0 then "UTC" else "UTC" ++ isoOffset offset
  | .scalar 'n' => "\n"
  | .scalar 't' => "\t"
  | .scalar '%' => "%"
  | .scalar 's' => Text.ofInt (secondsOf time)
  | .scalar 'F' =>
    Text.ofNat date.year ++ "-" ++ padded 2 date.month ++ "-" ++ padded 2 date.day
  | .scalar 'T' => padded 2 time.hour ++ ":" ++ padded 2 time.minute ++ ":" ++ padded 2 time.second
  | .scalar 'X' => padded 2 time.hour ++ ":" ++ padded 2 time.minute ++ ":" ++ padded 2 time.second
  | .scalar 'R' => padded 2 time.hour ++ ":" ++ padded 2 time.minute
  | .scalar 'r' =>
    padded 2 (clockHour time.hour) ++ ":" ++ padded 2 time.minute ++ ":" ++
      padded 2 time.second ++ (if time.hour < 12 then " AM" else " PM" : Text)
  | .scalar 'D' =>
    padded 2 date.month ++ "/" ++ padded 2 date.day ++ "/" ++ padded 2 (date.year % 100)
  | .scalar 'x' =>
    padded 2 date.month ++ "/" ++ padded 2 date.day ++ "/" ++ padded 2 (date.year % 100)
  | .scalar 'c' =>
    nameAt dayNames (weekday date) 3 ++ " " ++ nameAt monthNames (date.month - 1) 3 ++ " " ++
      spaced 2 date.day ++ " " ++ padded 2 time.hour ++ ":" ++ padded 2 time.minute ++ ":" ++
      padded 2 time.second ++ " " ++ Text.ofNat date.year
  | other => [.scalar '%', other]

/-- A day and time under a pattern: a percent sign and a letter are a directive, all else stands. -/
def formatted (time : DateTime) : Text → Text
  | [] => []
  | [point] => [point]
  | point :: letter :: rest =>
    if point = .scalar '%' then directive time letter ++ formatted time rest
    else point :: formatted time (letter :: rest)

/-- Midnight of a day. -/
def midnight (date : Date) : DateTime := ⟨date, 0, 0, 0, 0, none⟩

/-- The order of days. -/
def compareDates (first second : Date) : Ordering := compare (dayNumber first) (dayNumber second)

/-- A moment as microseconds of its own clock, shifted to universal time if it has an offset. -/
def moment (time : DateTime) : Int := secondsOf time * 1000000 + time.microsecond

end Calendar

end PageTemplates
