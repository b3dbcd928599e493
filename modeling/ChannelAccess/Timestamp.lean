import ChannelAccess.Text.Numeral

/-!
# Points in time

Times are whole microseconds since the start of 1970 in UTC, on the proleptic Gregorian calendar.
The text follows RFC 3339 with `Z` for the zone: no fraction for a whole second, three digits for a
whole millisecond and six otherwise. Years outside 0 to 9999 carry a sign.
-/

namespace ChannelAccess

set_option autoImplicit false

/-- A point in time, in microseconds since the start of 1970. -/
structure Timestamp where
  /-- The microseconds, negative before 1970. -/
  micros : Int
deriving DecidableEq

namespace Timestamp

open ChannelAccess.Text

instance : Inhabited Timestamp := ⟨⟨0⟩⟩

def ofSeconds (seconds : Nat) : Timestamp :=
  ⟨seconds * 1000000⟩

structure Date where
  year : Int
  /-- The month, from 1. -/
  month : Nat
  /-- The day of the month, from 1. -/
  day : Nat
deriving DecidableEq

/-- The date of a day counted from the start of 1970. Years are taken to start in March, so that the
leap day is the last of its year, and grouped by 400 years, which all have the same length. -/
def dateOfDay (day : Int) : Date :=
  let shifted := day + 719468
  let era := shifted.fdiv 146097
  let dayOfEra := (shifted - era * 146097).toNat
  let yearOfEra :=
    (dayOfEra - dayOfEra / 1460 + dayOfEra / 36524 - dayOfEra / 146096) / 365
  let dayOfYear := dayOfEra - (365 * yearOfEra + yearOfEra / 4 - yearOfEra / 100)
  let monthFromMarch := (5 * dayOfYear + 2) / 153
  let dayOfMonth := dayOfYear - (153 * monthFromMarch + 2) / 5 + 1
  let month := if monthFromMarch < 10 then monthFromMarch + 3 else monthFromMarch - 9
  let year := (yearOfEra : Int) + era * 400 + (if month ≤ 2 then 1 else 0)
  ⟨year, month, dayOfMonth⟩

def padded (width value : Nat) : List Char :=
  let written := writeNat 10 value
  List.replicate (width - written.length) '0' ++ written

def yearText (year : Int) : List Char :=
  if year < 0 then '-' :: padded 4 year.natAbs
  else if year ≤ 9999 then padded 4 year.toNat
  else '+' :: padded 4 year.toNat

def fractionText (micros : Nat) : List Char :=
  if micros = 0 then []
  else if micros % 1000 = 0 then '.' :: padded 3 (micros / 1000)
  else '.' :: padded 6 micros

def text (time : Timestamp) : String :=
  let day := time.micros.fdiv 86400000000
  let withinDay := (time.micros - day * 86400000000).toNat
  let date := dateOfDay day
  let second := withinDay / 1000000
  String.ofList (yearText date.year ++ '-' :: padded 2 date.month ++ '-' :: padded 2 date.day ++
    'T' :: padded 2 (second / 3600) ++ ':' :: padded 2 (second / 60 % 60) ++
    ':' :: padded 2 (second % 60) ++ fractionText (withinDay % 1000000) ++ ['Z'])

end Timestamp

end ChannelAccess
