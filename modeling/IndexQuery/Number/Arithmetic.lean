import IndexQuery.Number.Binary

set_option autoImplicit false

/-!
Sum, product, quotient and remainder of binary data. An operand that is not a number is passed on,
the left one first.
-/

namespace IndexQuery.Number.Binary

variable {f : Format}

/-- The signed significand of a finite datum, counted in units of `2 ^ place`. -/
def scaled (x : Binary f) (place : Int) : Int :=
  let digits : Int := (x.significand * Nat.pow 2 (x.exponent - place).toNat : Nat)
  if x.negative then -digits else digits

def add (x y : Binary f) : Binary f :=
  if x.isNaN then x
  else if y.isNaN then y
  else if x.isInfinite then
    if y.isInfinite && x.negative != y.negative then invalid f else x
  else if y.isInfinite then y
  else
    let place := min x.exponent y.exponent
    let sum := x.scaled place + y.scaled place
    if sum = 0 then zero f (x.negative && y.negative)
    else ofDyadic f (decide (sum < 0)) sum.natAbs place

def sub (x y : Binary f) : Binary f :=
  if x.isNaN then x else if y.isNaN then y else x.add y.neg

def mul (x y : Binary f) : Binary f :=
  let negative := x.negative != y.negative
  if x.isNaN then x
  else if y.isNaN then y
  else if x.isInfinite || y.isInfinite then
    if x.isZero || y.isZero then invalid f else infinity f negative
  else ofDyadic f negative (x.significand * y.significand) (x.exponent + y.exponent)

def div (x y : Binary f) : Binary f :=
  let negative := x.negative != y.negative
  if x.isNaN then x
  else if y.isNaN then y
  else if x.isInfinite then
    if y.isInfinite then invalid f else infinity f negative
  else if y.isInfinite then zero f negative
  else if y.isZero then
    if x.isZero then invalid f else infinity f negative
  else
    let place := x.exponent - y.exponent
    round f negative (x.significand * Nat.pow 2 place.toNat) (y.significand * Nat.pow 2 (-place).toNat)

/-- Remainder of the division rounded toward zero; it has the sign of the dividend. -/
def rem (x y : Binary f) : Binary f :=
  if x.isNaN then x
  else if y.isNaN then y
  else if x.isInfinite || y.isZero then invalid f
  else if y.isInfinite then x
  else
    let place := min x.exponent y.exponent
    ofDyadic f x.negative ((x.scaled place).natAbs % (y.scaled place).natAbs) place

end IndexQuery.Number.Binary
