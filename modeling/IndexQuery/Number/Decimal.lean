import IndexQuery.Number.Binary

set_option autoImplicit false

/-!
Reading decimal text as a binary datum: the nearest datum to the exact value written.
-/

namespace IndexQuery.Number

/-- The value `digits * 10 ^ exponent`, with a sign that zero keeps. -/
structure Decimal where
  negative : Bool
  digits : Nat
  exponent : Int

inductive Literal where
  | decimal (value : Decimal)
  | infinity (negative : Bool)
  | nan (negative : Bool)

def decimalLength (n : Nat) : Nat := (Nat.toDigits 10 n).length

def digitValue (c : Char) : Nat := c.toNat - '0'.toNat

def ofDigits (cs : List Char) : Nat := cs.foldl (fun n c => 10 * n + digitValue c) 0

def spanDigits (cs : List Char) : List Char × List Char := (cs.takeWhile Char.isDigit, cs.dropWhile Char.isDigit)

def spanSign : List Char → Bool × List Char
  | '-' :: cs => (true, cs)
  | '+' :: cs => (false, cs)
  | cs => (false, cs)

namespace Decimal

/-- The datum nearest to a decimal value. Values whose size alone decides are not expanded. -/
def toBinary (f : Format) (d : Decimal) : Binary f :=
  let top : Int := decimalLength d.digits + d.exponent
  if d.digits = 0 then .zero f d.negative
  else if top > Int.pow 2 (f.exponentBits - 1) + 1 then .infinity f d.negative
  else if top < f.leastExponent - 1 then .zero f d.negative
  else .round f d.negative (d.digits * Nat.pow 10 d.exponent.toNat) (Nat.pow 10 (-d.exponent).toNat)

end Decimal

namespace Literal

def toBinary (f : Format) : Literal → Binary f
  | decimal value => value.toBinary f
  | infinity negative => .infinity f negative
  | nan negative => .nan f negative

def readExponent : List Char → Option Int
  | [] => some 0
  | c :: cs =>
    if c = 'e' ∨ c = 'E' then
      let (negative, rest) := spanSign cs
      if rest.isEmpty || !rest.all Char.isDigit then none
      else some (if negative then -(ofDigits rest : Int) else ofDigits rest)
    else none

def readDecimal (negative : Bool) (cs : List Char) : Option Decimal :=
  let (whole, rest) := spanDigits cs
  let (fraction, rest) := match rest with
    | '.' :: rest => spanDigits rest
    | rest => ([], rest)
  if whole.isEmpty && fraction.isEmpty then none
  else (readExponent rest).map fun e => ⟨negative, ofDigits (whole ++ fraction), e - fraction.length⟩

/-- A signed number; `inf`, `infinity` and `nan` are read in any case. -/
def read? (text : String) : Option Literal :=
  let (negative, rest) := spanSign text.toList
  let word := String.ofList (rest.map Char.toLower)
  if word = "inf" ∨ word = "infinity" then some (.infinity negative)
  else if word = "nan" then some (.nan negative)
  else (readDecimal negative rest).map .decimal

end Literal

def Binary.read? (f : Format) (text : String) : Option (Binary f) :=
  (Literal.read? text).map (Literal.toBinary f)

end IndexQuery.Number
