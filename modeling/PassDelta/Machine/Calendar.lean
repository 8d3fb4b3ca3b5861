import PassDelta.Machine.Numeral
/-!
# Calendar

The date and the time of day of a second since the beginning of 1970, at the meridian, and how they are written by a
format.
-/

namespace PassDelta.Machine

/-- A moment: its date, the days since the year began, the day of the week from Sunday on, and the time of day. -/
structure Moment where
  year : Int
  month : Nat
  day : Nat
  yearDay : Nat
  weekDay : Nat
  hour : Nat
  minute : Nat
  second : Nat
  deriving DecidableEq, Repr

namespace Moment

def isLeap (year : Int) : Bool := year % 4 = 0 && (year % 100 ≠ 0 || year % 400 = 0)

def daysBefore (leap : Bool) : List Nat :=
  let more := if leap then 1 else 0
  [0, 31, 59 + more, 90 + more, 120 + more, 151 + more, 181 + more, 212 + more, 243 + more, 273 + more, 304 + more,
    334 + more]

def daysToYear (year : Int) : Int :=
  let before := year - 1
  365 * (year - 1970) + (before.fdiv 4 - 492) - (before.fdiv 100 - 19) + (before.fdiv 400 - 4)

def ofSeconds (seconds : Int) : Moment :=
  let days := seconds.fdiv 86400
  let ofDay := (seconds.fmod 86400).toNat
  let guess := 1970 + days.fdiv 366
  let year := ((List.range 2000).find? fun (n : Nat) => days < daysToYear (guess + n + 1)).elim guess fun n => guess + n
  let yearDay := (days - daysToYear year).toNat
  let starts := daysBefore (isLeap year)
  let month := (starts.filter (· ≤ yearDay)).length
  { year := year, month := month, day := yearDay - (starts[month - 1]?).getD 0 + 1, yearDay := yearDay
    weekDay := ((days + 4).fmod 7).toNat, hour := ofDay / 3600, minute := ofDay / 60 % 60, second := ofDay % 60 }

def seconds (year : Int) (month day hour minute second : Int) : Int :=
  let year' := year + (month - 1).fdiv 12
  let place := ((month - 1).fmod 12).toNat
  let before : Int := ((daysBefore (isLeap year'))[place]?).getD 0
  (daysToYear year' + before + day - 1) * 86400 + hour * 3600 + minute * 60 + second

/-- The week of a year and that year, where weeks begin on Monday and belong to the year of their Thursday. -/
def isoWeek (m : Moment) : Int × Nat :=
  let fromMonday := (m.weekDay + 6) % 7
  let thursday : Int := m.yearDay - fromMonday + 3
  let length (y : Int) : Int := if isLeap y then 366 else 365
  if thursday < 0 then (m.year - 1, ((thursday + length (m.year - 1)) / 7 + 1).toNat)
  else if length m.year ≤ thursday then (m.year + 1, ((thursday - length m.year) / 7 + 1).toNat)
  else (m.year, (thursday / 7 + 1).toNat)

def dayNames : List String := ["Sunday", "Monday", "Tuesday", "Wednesday", "Thursday", "Friday", "Saturday"]

def monthNames : List String := [
  "January", "February", "March", "April", "May", "June", "July", "August", "September", "October", "November",
  "December"]

def padded (fill : Char) (width : Nat) (n : Int) : Octets :=
  let ds := Nat.toDigits 10 n.natAbs
  let sign : Octets := if n < 0 then ['-'] else []
  sign ++ List.replicate (width - sign.length - ds.length) fill ++ ds

/-- What a letter of a format stands for, with its usual filling and width if it is a number. -/
inductive Shown where
  | number (fill : Char) (width : Nat) (n : Int)
  | text (t : Octets)
  | format (f : String)

def shown? (m : Moment) (epoch : Int) (nanos : Nat) (letter : Char) : Option Shown :=
  let hour12 := if m.hour % 12 = 0 then 12 else m.hour % 12
  let word (names : List String) (n : Nat) : Octets := ((names[n]?).getD "").toList
  match letter with
  | 'Y' => some (.number '0' 1 m.year)
  | 'C' => some (.number '0' 2 (m.year.fdiv 100))
  | 'y' => some (.number '0' 2 (m.year.fmod 100))
  | 'm' => some (.number '0' 2 m.month)
  | 'd' => some (.number '0' 2 m.day)
  | 'e' => some (.number ' ' 2 m.day)
  | 'j' => some (.number '0' 3 (m.yearDay + 1))
  | 'H' => some (.number '0' 2 m.hour)
  | 'k' => some (.number ' ' 2 m.hour)
  | 'I' => some (.number '0' 2 hour12)
  | 'l' => some (.number ' ' 2 hour12)
  | 'M' => some (.number '0' 2 m.minute)
  | 'S' => some (.number '0' 2 m.second)
  | 'N' => some (.number '0' 9 nanos)
  | 's' => some (.number '0' 1 epoch)
  | 'u' => some (.number '0' 1 (if m.weekDay = 0 then 7 else m.weekDay))
  | 'w' => some (.number '0' 1 m.weekDay)
  | 'U' => some (.number '0' 2 ((m.yearDay + 7 - m.weekDay) / 7 : Nat))
  | 'W' => some (.number '0' 2 ((m.yearDay + 7 - (m.weekDay + 6) % 7) / 7 : Nat))
  | 'V' => some (.number '0' 2 m.isoWeek.2)
  | 'G' => some (.number '0' 1 m.isoWeek.1)
  | 'g' => some (.number '0' 2 (m.isoWeek.1.fmod 100))
  | 'q' => some (.number '0' 1 ((m.month + 2) / 3 : Nat))
  | 'a' => some (.text ((word dayNames m.weekDay).take 3))
  | 'A' => some (.text (word dayNames m.weekDay))
  | 'b' => some (.text ((word monthNames (m.month - 1)).take 3))
  | 'h' => some (.text ((word monthNames (m.month - 1)).take 3))
  | 'B' => some (.text (word monthNames (m.month - 1)))
  | 'p' => some (.text (if m.hour < 12 then "AM" else "PM").toList)
  | 'P' => some (.text (if m.hour < 12 then "am" else "pm").toList)
  | 'Z' => some (.text "UTC".toList)
  | 'z' => some (.text "+0000".toList)
  | 'n' => some (.text ['\n'])
  | 't' => some (.text ['\t'])
  | '%' => some (.text ['%'])
  | 'F' => some (.format "%Y-%m-%d")
  | 'D' => some (.format "%m/%d/%y")
  | 'x' => some (.format "%m/%d/%y")
  | 'T' => some (.format "%H:%M:%S")
  | 'X' => some (.format "%H:%M:%S")
  | 'R' => some (.format "%H:%M")
  | 'r' => some (.format "%I:%M:%S %p")
  | 'c' => some (.format "%a %b %e %H:%M:%S %Y")
  | _ => none

/-- A moment by a format. Signs behind a percent sign change the filling, the width and the case of what follows. -/
def written (m : Moment) (epoch : Int) (nanos : Nat) : Nat → Octets → Octets
  | 0, _ => []
  | _ + 1, [] => []
  | fuel + 1, '%' :: rest =>
    let flags := rest.takeWhile fun c => c = '-' || c = '_' || c = '0' || c = '^' || c = '#'
    let behind := rest.drop flags.length
    let ds := behind.takeWhile Char.isDigit
    let behind := (behind.drop ds.length).dropWhile fun c => c = 'E' || c = 'O'
    match behind with
    | [] => '%' :: rest
    | letter :: after =>
      let width := if ds.isEmpty then none else some (valueIn 10 ds)
      let cased (t : Octets) : Octets := if flags.contains '^' ∨ flags.contains '#' then t.map Char.toUpper else t
      let fill? : Option Char := (flags.filter fun c => c = '-' || c = '_' || c = '0').getLast?
      let wide (fill : Char) (t : Octets) : Octets := List.replicate (width.getD 0 - t.length) fill ++ t
      let text := match m.shown? epoch nanos letter with
        | none => '%' :: rest.take (rest.length - after.length)
        | some (.text t) => wide (if fill? = some '0' then '0' else ' ') (cased t)
        | some (.format f) => wide ' ' (cased (written m epoch nanos fuel f.toList))
        | some (.number fill least n) =>
          match fill? with
          | some '-' => padded '0' 0 n
          | some '_' => padded ' ' (width.getD least) n
          | some _ => padded '0' (width.getD least) n
          | none => padded fill (width.getD least) n
      text ++ written m epoch nanos fuel after
  | fuel + 1, c :: rest => c :: written m epoch nanos fuel rest

end Moment

def timeText (seconds : Int) (format : Octets) : Octets :=
  (Moment.ofSeconds seconds).written seconds 0 (format.length + 3) format

example : timeText 951782400 "%F %T %a %j".toList = "2000-02-29 00:00:00 Tue 060".toList := by decide +kernel

end PassDelta.Machine
