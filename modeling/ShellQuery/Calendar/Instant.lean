import ShellQuery.Calendar.Date
import ShellQuery.Number.Layout

/-!
# Instants

An instant is a number of seconds from the start of 1970 in UTC, and nanoseconds
within the second.  In a leap second the nanoseconds run on beyond a billion.
Counted in milliseconds a leap second is the same as the second after it.
-/

namespace ShellQuery

/-- A point in time. -/
structure Instant where
  /-- Seconds from the start of 1970. -/
  seconds : Int
  /-- Nanoseconds within the second. -/
  nanos : Nat
  deriving DecidableEq, Repr

/-- A time of day.  A leap second is the second 60. -/
structure TimeOfDay where
  /-- Hours. -/
  hour : Nat
  /-- Minutes. -/
  minute : Nat
  /-- Seconds. -/
  second : Nat
  /-- Nanoseconds. -/
  nanos : Nat
  deriving DecidableEq, Repr

namespace Instant

/-- Seconds of a day. -/
def secondsPerDay : Int := 86400

/-- The instant of a date and a time of day in UTC. -/
def ofDateTime (d : Date) (t : TimeOfDay) : Instant :=
  let leap := t.second = 60
  let second := if leap then 59 else t.second
  { seconds := d.toDays * secondsPerDay + t.hour * 3600 + t.minute * 60 + second
    nanos := if leap then t.nanos + 1000000000 else t.nanos }

/-- Milliseconds from the start of 1970, rounded down. -/
def millis (i : Instant) : Int := i.seconds * 1000 + i.nanos / 1000000

/-- The instant some milliseconds after the start of 1970, if it is in the
calendar. -/
def ofMillis? (millis : Int) : Option Instant :=
  let seconds := millis / 1000
  let days := seconds / secondsPerDay
  if Date.minDays ≤ days && days ≤ Date.maxDays then
    some ⟨seconds, (millis % 1000).toNat * 1000000⟩
  else none

end Instant

/-! ## Writing -/

/-- A number with zeros in front, up to a number of digits. -/
def paddedText (width n : Nat) : List Char :=
  let digits := natText n
  List.replicate (width - digits.length) '0' ++ digits

/-- The text of thousandths after the point, without zeros at the end. -/
def thousandthsText (n : Nat) : List Char :=
  ((paddedText 3 n).reverse.dropWhile (· == '0')).reverse

/-- The text of milliseconds from the start of 1970, in UTC, for years of four
digits.  A fraction is written if there is one, with no more digits than it
needs. -/
def instantText (millis : Int) : List Char :=
  let seconds := millis / 1000
  let date := Date.ofDays (seconds / Instant.secondsPerDay)
  let ofDay := (seconds % Instant.secondsPerDay).toNat
  let fraction := (millis % 1000).toNat
  paddedText 4 date.year.toNat ++ '-' :: paddedText 2 date.month ++ '-' :: paddedText 2 date.day
    ++ 'T' :: paddedText 2 (ofDay / 3600) ++ ':' :: paddedText 2 (ofDay / 60 % 60)
    ++ ':' :: paddedText 2 (ofDay % 60)
    ++ (if fraction = 0 then [] else '.' :: thousandthsText fraction) ++ ['Z']

example : instantText 1735727400120 = "2025-01-01T10:30:00.12Z".toList := by decide +kernel

end ShellQuery
