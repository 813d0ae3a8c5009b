import IndexQuery.Time.Calendar

set_option autoImplicit false

/-!
Instants in universal time with nanoseconds, and their written form.
-/

namespace IndexQuery.Time

/-- Seconds since the start of 1970, and nanoseconds. A leap second is the second before it with
`nanos` of a thousand million or more. -/
structure Instant where
  seconds : Int
  nanos : Nat
deriving DecidableEq

namespace Instant

def order (a b : Instant) : Ordering := (compare a.seconds b.seconds).then (compare a.nanos b.nanos)

def padded (width n : Nat) : String :=
  let digits := Nat.toDigits 10 n
  String.ofList (List.replicate (width - digits.length) '0' ++ digits)

/-- Four digits; a year that needs more, or lies before year zero, shows its sign. -/
def yearText (year : Int) : String :=
  if 0 ≤ year ∧ year ≤ 9999 then padded 4 year.toNat
  else (if year < 0 then "-" else "+") ++ padded 4 year.natAbs

def fractionText (nanos : Nat) : String :=
  if nanos = 0 then ""
  else if nanos % 1000000 = 0 then "." ++ padded 3 (nanos / 1000000)
  else if nanos % 1000 = 0 then "." ++ padded 6 (nanos / 1000)
  else "." ++ padded 9 nanos

/-- Date, `T`, time of day and the given zone. A leap second is written as second sixty. -/
def textWithZone (zone : String) (i : Instant) : String :=
  let days := i.seconds / 86400
  let time := (i.seconds - days * 86400).toNat
  let date := Date.ofDays days
  let second := time % 60 + i.nanos / 1000000000
  yearText date.year ++ "-" ++ padded 2 date.month ++ "-" ++ padded 2 date.day ++ "T" ++
    padded 2 (time / 3600) ++ ":" ++ padded 2 (time / 60 % 60) ++ ":" ++ padded 2 second ++
    fractionText (i.nanos % 1000000000) ++ zone

def text (i : Instant) : String := i.textWithZone "+00:00"

end Instant

end IndexQuery.Time
