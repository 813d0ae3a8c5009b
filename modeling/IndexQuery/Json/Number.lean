import IndexQuery.Json.Basic
import IndexQuery.Number.Arithmetic
import IndexQuery.Number.Integer
import IndexQuery.Number.Shortest

set_option autoImplicit false

/-!
Numbers in JSON. A whole number that fits a 64-bit word is exact. Any other is read as its leading digits
times a power of ten in double width, both rounded, so that long literals may come out a last place off.
-/

namespace IndexQuery.Json

open IndexQuery.Number (Binary Binary32 Binary64 Format Layout digitValue ofDigits)

inductive Quantity where
  | natural (n : Nat)
  | negative (n : Int)
  | float (x : Binary64)

def wordLimit : Nat := Nat.pow 2 64 - 1
def exponentLimit : Nat := Nat.pow 2 31 - 1

/-- Takes digits while the number fits a word. Returns the number and how many digits were taken. -/
def takeWord (n : Nat) (taken : Nat) : List Char → Nat × Nat
  | [] => (n, taken)
  | c :: cs =>
    if wordLimit < 10 * n + digitValue c then (n, taken)
    else takeWord (10 * n + digitValue c) (taken + 1) cs

def powerOfTen (k : Nat) : Binary64 := Number.Decimal.toBinary .double ⟨false, 1, k⟩

/-- The number times a power of ten, in steps of at most 308 places; none if it is too large. No word
survives three steps down. -/
def scaleByTens : Nat → Binary64 → Int → Option Binary64
  | 0, x, _ => some x
  | fuel + 1, x, exponent =>
    if exponent.natAbs ≤ 308 then
      if 0 ≤ exponent then
        let scaled := x.mul (powerOfTen exponent.natAbs)
        if scaled.isInfinite then none else some scaled
      else some (x.div (powerOfTen exponent.natAbs))
    else if x.isZero then some x
    else if 0 ≤ exponent then none
    else scaleByTens fuel (x.div (powerOfTen 308)) (exponent + 308)

namespace Numeral

/-- The written power of ten; none if it is past the limit. -/
def power? (n : Numeral) : Option Int :=
  match n.exponent with
  | none => some 0
  | some (negative, digits) =>
    let e := ofDigits digits
    if exponentLimit < e then none else some (if negative then -(e : Int) else e)

def hasNegativePower (n : Numeral) : Bool :=
  match n.exponent with
  | some (negative, _) => negative
  | none => false

/-- Leading digits as a word, and the power of ten that the digits leave. -/
def leading (n : Numeral) : Nat × Int :=
  let (word, taken) := takeWord 0 0 n.whole
  let dropped : Int := (n.whole.length - taken : Nat)
  let (word, places) := takeWord word 0 (n.fraction.getD [])
  (word, dropped - places)

def signed (n : Numeral) (x : Binary64) : Binary64 := if n.negative then x.neg else x

def toFloat? (n : Numeral) : Option Binary64 :=
  let (word, place) := n.leading
  match n.power? with
  | some power => (scaleByTens 4 (.ofNat .double word) (place + power)).map n.signed
  | none => if word = 0 || n.hasNegativePower then some (n.signed (.zero .double false)) else none

/-- A negative zero is not a whole number. -/
def quantity? (n : Numeral) : Option Quantity :=
  let word := ofDigits n.whole
  if n.fraction.isSome || n.exponent.isSome || wordLimit < word then n.toFloat?.map .float
  else if !n.negative then some (.natural word)
  else if 1 ≤ word ∧ word ≤ Nat.pow 2 63 then some (.negative (-(word : Int)))
  else some (.float (Binary.ofNat .double word).neg)

end Numeral

def quantity? : Json → Option Quantity
  | number numeral => numeral.quantity?
  | _ => none

def natUpTo? (limit : Nat) (j : Json) : Option Nat :=
  match j.quantity? with
  | some (.natural n) => if n ≤ limit then some n else none
  | _ => none

def int64? (j : Json) : Option Int64 :=
  match j.quantity? with
  | some (.natural n) => Number.toInt64? n
  | some (.negative n) => Number.toInt64? n
  | _ => none

def binary64? (j : Json) : Option Binary64 :=
  match j.quantity? with
  | some (.natural n) => some (.ofNat .double n)
  | some (.negative n) => some (.ofInt .double n)
  | some (.float x) => some x
  | none => none

def binary32? (j : Json) : Option Binary32 :=
  match j.quantity? with
  | some (.natural n) => some (.ofNat .single n)
  | some (.negative n) => some (.ofInt .single n)
  | some (.float x) => some (x.convert .single)
  | none => none

/-- Numbers always show a point or an exponent; what is no number is null. -/
def doubleLayout : Layout :=
  ⟨.even, fun e => decide (-5 ≤ e) && decide (e ≤ 15), ".0", "null", "null", "null"⟩

def singleLayout : Layout :=
  ⟨.even, fun e => decide (-6 ≤ e) && decide (e ≤ 12), ".0", "null", "null", "null"⟩

end IndexQuery.Json
