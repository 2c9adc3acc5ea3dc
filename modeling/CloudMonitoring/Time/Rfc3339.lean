import CloudMonitoring.Time.Instant
import CloudMonitoring.Time.Calendar

/-!
Timestamps as RFC 3339 text in UTC. A fraction has as few of 0, 3, 6 or 9 digits as are exact, and
years outside 0 to 9999 carry a sign.
-/

namespace CloudMonitoring

namespace Rfc3339

def padded (width : Nat) (value : Nat) : List Char :=
  let digits := Nat.toDigits 10 value
  List.replicate (width - digits.length) '0' ++ digits

def yearText (year : Int) : List Char :=
  if 0 ≤ year ∧ year ≤ 9999 then padded 4 year.natAbs
  else (if year < 0 then '-' else '+') :: padded 4 year.natAbs

def dateText (date : CivilDate) : List Char :=
  yearText date.year ++ '-' :: padded 2 date.month.toNat ++ '-' :: padded 2 date.day.toNat

def clockText (secondOfDay : Nat) : List Char :=
  padded 2 (secondOfDay / 3600) ++ ':' :: padded 2 (secondOfDay / 60 % 60)
    ++ ':' :: padded 2 (secondOfDay % 60)

def fractionText (nanoseconds : Nat) : List Char :=
  if nanoseconds = 0 then []
  else if nanoseconds % 1000000 = 0 then '.' :: padded 3 (nanoseconds / 1000000)
  else if nanoseconds % 1000 = 0 then '.' :: padded 6 (nanoseconds / 1000)
  else '.' :: padded 9 nanoseconds

def characters (instant : Instant) : List Char :=
  dateText (CivilDate.ofDays (instant.seconds / 86400)) ++ 'T'
    :: clockText (instant.seconds % 86400).toNat ++ fractionText instant.subsecond.toNat ++ ['Z']

end Rfc3339

def Instant.toRfc3339 (instant : Instant) : String :=
  String.ofList (Rfc3339.characters instant)

end CloudMonitoring
