set_option autoImplicit false

/-!
Binary floating-point data of a given width.

A datum is a sign and a code. The codes of the finite magnitudes are numbered upward from zero, so
that comparing magnitudes is comparing codes; infinity comes next and not-a-number last. `round` is
the only place where precision is lost: every operation computes an exact quotient and rounds once.
-/

namespace IndexQuery.Number

/-- Width of the significand (with its leading bit) and of the exponent. -/
structure Format where
  precision : Nat
  exponentBits : Nat

namespace Format

def double : Format := ⟨53, 11⟩
def single : Format := ⟨24, 8⟩

/-- Least significand with the leading bit set; also the number of codes per exponent. -/
def hidden (f : Format) : Nat := Nat.pow 2 (f.precision - 1)

def infinityCode (f : Format) : Nat := (Nat.pow 2 f.exponentBits - 1) * f.hidden

/-- Exponent of the last place of the smallest data. -/
def leastExponent (f : Format) : Int := 3 - (Nat.pow 2 (f.exponentBits - 1) : Nat) - f.precision

end Format

structure Binary (f : Format) where
  negative : Bool
  code : Fin (f.infinityCode + 2)
deriving DecidableEq

abbrev Binary64 := Binary .double
abbrev Binary32 := Binary .single

/-- Nearest whole number to `num / den`; a tie goes to the even neighbour. -/
def divideNearest (num den : Nat) : Nat :=
  let whole := num / den
  let rest := 2 * (num % den)
  if rest < den then whole else if den < rest then whole + 1 else whole + whole % 2

/-- The largest `k` with `2 ^ k ≤ num / den`, for positive `num` and `den`. -/
def binaryExponent (num den : Nat) : Int :=
  let k : Int := (num.log2 : Int) - den.log2
  if num * Nat.pow 2 (-k).toNat < den * Nat.pow 2 k.toNat then k - 1 else k

namespace Binary

variable {f : Format}

/-- The datum with the given code; codes past infinity stand for infinity. -/
def ofCode (f : Format) (negative : Bool) (code : Nat) : Binary f :=
  ⟨negative, ⟨min code f.infinityCode, by omega⟩⟩

def zero (f : Format) (negative : Bool) : Binary f := ofCode f negative 0
def infinity (f : Format) (negative : Bool) : Binary f := ofCode f negative f.infinityCode
def nan (f : Format) (negative : Bool) : Binary f := ⟨negative, ⟨f.infinityCode + 1, by omega⟩⟩

def invalid (f : Format) : Binary f := nan f true

def isNaN (x : Binary f) : Bool := x.code.val == f.infinityCode + 1
def isInfinite (x : Binary f) : Bool := x.code.val == f.infinityCode
def isFinite (x : Binary f) : Bool := decide (x.code.val < f.infinityCode)
def isZero (x : Binary f) : Bool := x.code.val == 0

/-- A finite datum is `significand * 2 ^ exponent`, up to its sign. -/
def significand (x : Binary f) : Nat :=
  if x.code.val < f.hidden then x.code.val else f.hidden + x.code.val % f.hidden

def exponent (x : Binary f) : Int :=
  f.leastExponent + (x.code.val / f.hidden - 1 : Nat)

/-- The datum nearest to `num / den`, ties to the even significand. -/
def round (f : Format) (negative : Bool) (num den : Nat) : Binary f :=
  if num = 0 then zero f negative
  else
    let place := max f.leastExponent (binaryExponent num den - (f.precision - 1 : Nat))
    let digits := divideNearest (num * Nat.pow 2 (-place).toNat) (den * Nat.pow 2 place.toNat)
    ofCode f negative ((place - f.leastExponent).toNat * f.hidden + digits)

def ofDyadic (f : Format) (negative : Bool) (digits : Nat) (place : Int) : Binary f :=
  round f negative (digits * Nat.pow 2 place.toNat) (Nat.pow 2 (-place).toNat)

def ofInt (f : Format) (n : Int) : Binary f := round f (decide (n < 0)) n.natAbs 1
def ofNat (f : Format) (n : Nat) : Binary f := round f false n 1
def one (f : Format) : Binary f := ofNat f 1

def neg (x : Binary f) : Binary f := ⟨!x.negative, x.code⟩

def convert (g : Format) (x : Binary f) : Binary g :=
  if x.isNaN then nan g x.negative
  else if x.isInfinite then infinity g x.negative
  else ofDyadic g x.negative x.significand x.exponent

/-- Position on the number line, in codes; the two zeros share one. -/
def position (x : Binary f) : Int := if x.negative then -(x.code.val : Int) else x.code.val

def same (x y : Binary f) : Bool := !x.isNaN && !y.isNaN && x.position == y.position

def less (x y : Binary f) : Bool := !x.isNaN && !y.isNaN && decide (x.position < y.position)

def lessOrSame (x y : Binary f) : Bool := !x.isNaN && !y.isNaN && decide (x.position ≤ y.position)

/-- Rank in the total order: negative not-a-number, then the numbers with `-0` below `0`, then
positive not-a-number. -/
def rank (x : Binary f) : Int := if x.negative then -(x.code.val : Int) - 1 else x.code.val

def totalCompare (x y : Binary f) : Ordering := compare x.rank y.rank

def maximum (x y : Binary f) : Binary f :=
  if x.isNaN then y else if y.isNaN then x else if x.less y then y else x

def truncate (least greatest : Int) (x : Binary f) : Int :=
  if x.isNaN then 0
  else if x.isInfinite then (if x.negative then least else greatest)
  else
    let size : Int := (x.significand * Nat.pow 2 x.exponent.toNat / Nat.pow 2 (-x.exponent).toNat : Nat)
    max least (min greatest (if x.negative then -size else size))

end Binary

end IndexQuery.Number
