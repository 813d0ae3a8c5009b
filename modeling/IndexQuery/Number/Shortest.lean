import IndexQuery.Number.Decimal

set_option autoImplicit false

/-!
Writing a binary datum with the fewest decimal digits that read back as the same datum.

`Binary.shortest` finds the digits; a `Layout` says how they are set out.
-/

namespace IndexQuery.Number

/-- The `k` with `10 ^ (k - 1) ≤ num / den < 10 ^ k`, for positive `num` and `den`. -/
def decimalExponent (num den : Nat) : Int :=
  if den ≤ num then decimalLength (num / den) else 1 - (decimalLength ((den - 1) / num) : Int)

inductive Tie where
  | up
  | even
deriving DecidableEq

/-- The multiple of `den` nearest to `num`, in units of `den`. -/
def Tie.nearest (tie : Tie) (num den : Nat) : Nat :=
  let below := num / den
  let rest := 2 * (num % den)
  if rest < den then below
  else if den < rest then below + 1
  else match tie with
    | .up => below + 1
    | .even => below + below % 2

namespace Binary

variable {f : Format}

/-- The values that read back as a finite nonzero datum lie between `lower / den` and `upper / den`,
the ends included when `closed`; the datum itself is `mid / den`. -/
structure Interval where
  lower : Nat
  mid : Nat
  upper : Nat
  den : Nat
  closed : Bool

/-- The gap below a power of two is half the gap above it. -/
def interval (x : Binary f) : Interval :=
  let narrow := x.significand == f.hidden && decide (f.leastExponent < x.exponent)
  let unit := Nat.pow 2 (x.exponent - 2).toNat
  { lower := (4 * x.significand - (if narrow then 1 else 2)) * unit
    mid := 4 * x.significand * unit
    upper := (4 * x.significand + 2) * unit
    den := Nat.pow 2 (2 - x.exponent).toNat
    closed := x.significand % 2 == 0 }

def Interval.holds (i : Interval) (digits : Nat) (place : Int) : Bool :=
  let num := digits * Nat.pow 10 place.toNat * i.den
  let den := Nat.pow 10 (-place).toNat
  if i.closed then decide (i.lower * den ≤ num) && decide (num ≤ i.upper * den)
  else decide (i.lower * den < num) && decide (num < i.upper * den)

/-- The nearer of the two neighbours of the datum with `count` digits, if one reads back. -/
def Interval.candidate? (i : Interval) (tie : Tie) (count : Nat) : Option (Nat × Int) :=
  let place := decimalExponent i.mid i.den - count
  let num := i.mid * Nat.pow 10 (-place).toNat
  let den := i.den * Nat.pow 10 place.toNat
  let below := num / den
  let nearer := tie.nearest num den
  let farther := if nearer = below then below + 1 else below
  if i.holds nearer place then some (nearer, place)
  else if i.holds farther place then some (farther, place)
  else none

/-- Digits and power of ten of the shortest decimal that reads back as a finite nonzero datum. No
datum needs more digits than its significand has bits. -/
def shortest (tie : Tie) (x : Binary f) : Nat × Int :=
  let i := x.interval
  ((List.range (f.precision + 1)).findSome? fun n => i.candidate? tie (n + 1)).getD (0, 0)

end Binary

/-- How a number is written: which of two nearest decimals, the exponents of the leading digit that are
written positionally, what a whole number ends in, and the texts of what is no number. -/
structure Layout where
  tie : Tie
  positional : Int → Bool
  whole : String
  nan : String
  infinity : String
  minusInfinity : String

namespace Layout

def zeros (n : Nat) : List Char := List.replicate n '0'

def setPositional (l : Layout) (digits : List Char) (place : Int) : String :=
  if 0 ≤ place then String.ofList (digits ++ zeros place.toNat) ++ l.whole
  else
    let point := (digits.length : Int) + place
    if 0 < point then
      String.ofList (digits.take point.toNat ++ '.' :: digits.drop point.toNat)
    else String.ofList ('0' :: '.' :: zeros (-point).toNat ++ digits)

def setScientific (digits : List Char) (exponent : Int) : String :=
  let mantissa := match digits with
    | first :: second :: rest => String.ofList (first :: '.' :: second :: rest)
    | few => String.ofList few
  let sign := if exponent < 0 then "e-" else "e+"
  mantissa ++ sign ++ toString exponent.natAbs

def trimZeros (digits : List Char) (place : Int) : List Char × Int :=
  let kept := (digits.reverse.dropWhile (· == '0')).reverse
  (kept, place + (digits.length - kept.length : Nat))

def write {f : Format} (l : Layout) (x : Binary f) : String :=
  if x.isNaN then l.nan
  else if x.isInfinite then (if x.negative then l.minusInfinity else l.infinity)
  else
    let sign := if x.negative then "-" else ""
    if x.isZero then sign ++ "0" ++ l.whole
    else
      let (number, place) := x.shortest l.tie
      let (digits, place) := trimZeros (Nat.toDigits 10 number) place
      let leading := (digits.length : Int) - 1 + place
      sign ++ (if l.positional leading then l.setPositional digits place else setScientific digits leading)

/-- Numbers in messages and query text: never an exponent, whole numbers without a point. -/
def plain : Layout := ⟨.up, fun _ => true, "", "NaN", "inf", "-inf"⟩

end Layout

def Binary.text {f : Format} (x : Binary f) : String := Layout.plain.write x

end IndexQuery.Number
