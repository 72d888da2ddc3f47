/-
# Dates

`date` prints a time by a format.  Times are counted in seconds from the start of 1970, in universal
time; a year has 365 days, or 366 if it can be divided by 4, but not by 100 unless by 400.
-/

import Doctest.Posix.Tool.Basic

namespace Doctest
namespace Tool
namespace Calendar

/-- A day. -/
structure Day where
  year : Int
  month : Nat
  day : Nat
deriving DecidableEq, Repr

/-- A day and the second in it. -/
structure Instant where
  day : Day
  weekday : Nat
  yearDay : Nat
  second : Nat
  total : Int

/-- Whether a year has a day more. -/
def isLeap (year : Int) : Bool := year % 4 = 0 && (year % 100 ≠ 0 || year % 400 = 0)

/-- The days of a month. -/
def daysIn (year : Int) (month : Nat) : Nat :=
  if month = 2 then (if isLeap year then 29 else 28)
  else if [4, 6, 9, 11].contains month then 30 else 31

/-- The days in a year before a month. -/
def daysBefore (year : Int) (month : Nat) : Nat :=
  (List.range (month - 1)).foldl (fun n i => n + daysIn year (i + 1)) 0

/-- The days from the start of 1970 to the start of a year. -/
def daysToYear (year : Int) : Int :=
  let y := year - 1
  365 * (year - 1970) + (y / 4 - 1969 / 4) - (y / 100 - 1969 / 100) + (y / 400 - 1969 / 400)

/-- The days from the start of 1970 to a day. -/
def Day.number (d : Day) : Int := daysToYear d.year + (daysBefore d.year d.month + d.day - 1 : Nat)

/-- The year that a number of days reaches, from a guess on; `fuel` bounds the corrections. -/
def yearOf (days : Int) : Nat → Int → Int
  | 0, y => y
  | fuel + 1, y =>
    if days < daysToYear y then yearOf days fuel (y - 1)
    else if daysToYear (y + 1) ≤ days then yearOf days fuel (y + 1)
    else y

/-- The day of a number of days. -/
def dayOf (days : Int) : Day :=
  let year := yearOf days 1000 (1970 + days / 366)
  let rest := (days - daysToYear year).toNat
  let month := ((List.range 12).filter fun i => daysBefore year (i + 1) ≤ rest).length
  ⟨year, month, rest - daysBefore year month + 1⟩

/-- The instant of a number of seconds. -/
def instantOf (seconds : Int) : Instant :=
  let days := seconds / 86400
  let day := dayOf days
  ⟨day, ((days + 4) % 7).toNat, (days - daysToYear day.year).toNat, (seconds % 86400).toNat,
    seconds⟩

example : dayOf 18321 = ⟨2020, 2, 29⟩ ∧ (Day.mk 2020 2 29).number = 18321 := by decide +kernel

/-! ## Formats -/

/-- The days of the week. -/
def weekdays : List Octets :=
  List.map String.toList ["Sunday", "Monday", "Tuesday", "Wednesday", "Thursday", "Friday",
    "Saturday"]

/-- The months. -/
def months : List Octets :=
  List.map String.toList ["January", "February", "March", "April", "May", "June", "July", "August",
    "September", "October", "November", "December"]

/-- A number with something before it that makes it so wide. -/
def filled (fill : Char) (width n : Nat) : Octets :=
  let ds := Text.ofNat n
  List.replicate (width - ds.length) fill ++ ds

/-- What a letter of a format stands for. -/
def directive? (i : Instant) (letter : Char) : Option Octets :=
  let two (n : Nat) : Octets := filled '0' 2 n
  let weekday := weekdays[i.weekday]?.getD []
  let month := months[i.day.month - 1]?.getD []
  let year := Text.ofInt i.day.year
  let clock :=
    two (i.second / 3600) ++ ':' :: two (i.second / 60 % 60) ++ ':' :: two (i.second % 60)
  match letter with
  | 'Y' => some year
  | 'm' => some (two i.day.month)
  | 'd' => some (two i.day.day)
  | 'e' => some (filled ' ' 2 i.day.day)
  | 'H' => some (two (i.second / 3600))
  | 'M' => some (two (i.second / 60 % 60))
  | 'S' => some (two (i.second % 60))
  | 'j' => some (filled '0' 3 (i.yearDay + 1))
  | 's' => some (Text.ofInt i.total)
  | 'a' => some (weekday.take 3)
  | 'A' => some weekday
  | 'b' => some (month.take 3)
  | 'B' => some month
  | 'Z' => some "UTC".toList
  | 'F' => some (year ++ '-' :: two i.day.month ++ '-' :: two i.day.day)
  | 'T' => some clock
  | '%' => some ['%']
  | _ => none

/-- A format with the directives replaced. -/
def print (i : Instant) : Octets → Octets
  | '%' :: letter :: t => (directive? i letter).getD ['%', letter] ++ print i t
  | c :: t => c :: print i t
  | [] => []

/-- The seconds at which the machine's clock starts. -/
def epoch : Int := 1750000000

end Calendar

open Calendar in
/-- Prints the time, or one that is given in seconds. -/
def date (c : Call) : Reply :=
  c.withArguments "u" "d" 1 fun a =>
    let time? := match a.value? 'd' with
      | none => some (epoch + (c.now / 1000000000 : Nat))
      | some ('@' :: n) => Octets.int? n
      | some _ => none
    match time?, a.rest with
    | none, _ => c.refuse ("invalid date ".toList ++ Quoting.text ((a.value? 'd').getD [])) 1
    | some time, [] => c.reply (print (instantOf time) "%a %b %e %T %Z %Y".toList ++ ['\n']) 0
    | some time, ('+' :: format) :: _ => c.reply (print (instantOf time) format ++ ['\n']) 0
    | some _, bad :: _ => c.refuse ("invalid date ".toList ++ Quoting.text bad) 1

end Tool
end Doctest
