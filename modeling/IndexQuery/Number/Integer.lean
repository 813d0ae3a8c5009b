import IndexQuery.Number.Decimal

set_option autoImplicit false

/-!
Signed 64-bit integers: reading them from text, and exact results that may not fit.
-/

namespace IndexQuery.Number

def leastInt64 : Int := -Int.pow 2 63
def greatestInt64 : Int := Int.pow 2 63 - 1

def toInt64? (n : Int) : Option Int64 :=
  if leastInt64 ≤ n ∧ n ≤ greatestInt64 then some (Int64.ofInt n) else none

inductive IntegerFault where
  | empty
  | invalidDigit
  | tooLarge
  | tooSmall
deriving DecidableEq

def IntegerFault.message : IntegerFault → String
  | empty => "cannot parse integer from empty string"
  | invalidDigit => "invalid digit found in string"
  | tooLarge => "number too large to fit in target type"
  | tooSmall => "number too small to fit in target type"

/-- Reads digits from the left; the first fault decides. -/
def readMagnitude (limit : Nat) (overflow : IntegerFault) : Nat → List Char → Except IntegerFault Nat
  | n, [] => .ok n
  | n, c :: cs =>
    if !c.isDigit then .error .invalidDigit
    else if limit < 10 * n + digitValue c then .error overflow
    else readMagnitude limit overflow (10 * n + digitValue c) cs

def readInt64 (text : String) : Except IntegerFault Int64 :=
  match text.toList with
  | [] => .error .empty
  | cs =>
    let (negative, digits) := spanSign cs
    if digits.isEmpty then .error .invalidDigit
    else if negative then (readMagnitude (Nat.pow 2 63) .tooSmall 0 digits).map fun n => Int64.ofInt (-(n : Int))
    else (readMagnitude (Nat.pow 2 63 - 1) .tooLarge 0 digits).map fun n => Int64.ofInt n

end IndexQuery.Number
