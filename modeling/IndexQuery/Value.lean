import IndexQuery.Error
import IndexQuery.Number.Arithmetic
import IndexQuery.Number.Integer
import IndexQuery.Number.Shortest
import IndexQuery.Time.Instant

set_option autoImplicit false

/-!
Literal values: what the constants of a query are, and what its closed parts evaluate to.
-/

namespace IndexQuery

open Number (Binary Binary64 Format)
open Time (Instant)

inductive Value where
  | null
  | bool (value : Bool)
  | int (value : Int64)
  | float (value : Binary64)
  | text (value : String)
  | instant (value : Instant)
deriving DecidableEq

namespace Value

def isNull : Value → Bool
  | null => true
  | _ => false

def isNumeric : Value → Bool
  | int _ | float _ => true
  | _ => false

def asText? : Value → Option String
  | text s => some s
  | _ => none

def asInt? : Value → Option Int64
  | int i => some i
  | _ => none

/-- The number, whole numbers widened. -/
def asFloat? : Value → Option Binary64
  | float x => some x
  | int i => some (Binary.ofInt .double i.toInt)
  | _ => none

def asBool? : Value → Option Bool
  | bool b => some b
  | _ => none

def asInstant? : Value → Option Instant
  | instant t => some t
  | _ => none

def kindName : Value → String
  | null => "null"
  | bool _ => "bool"
  | int _ => "int64"
  | float _ => "float64"
  | text _ => "text"
  | instant _ => "datetime"

/-- Text without quotes, as it is put into an index. -/
def plain : Value → String
  | null => "null"
  | bool b => if b then "true" else "false"
  | int i => toString i.toInt
  | float x => x.text
  | text s => s
  | instant t => t.text

/-- Text in messages: as `plain`, with quotes around text. -/
def display : Value → String
  | text s => "\"" ++ s ++ "\""
  | value => value.plain

/-- Equality of literals of one kind; a not-a-number differs from itself. -/
def same : Value → Value → Bool
  | null, null => true
  | bool a, bool b => a == b
  | int a, int b => a == b
  | float a, float b => a.same b
  | text a, text b => a == b
  | instant a, instant b => a == b
  | _, _ => false

/-- The `==` of queries: numbers are compared as numbers whatever their kind. -/
def equals (a b : Value) : Bool :=
  match a.isNumeric && b.isNumeric, a.asFloat?, b.asFloat? with
  | true, some x, some y => x.same y
  | _, _, _ => a.same b

def order (a b : Value) : Except Error Ordering :=
  match a, b with
  | int x, int y => .ok (compare x.toInt y.toInt)
  | text x, text y => .ok (compare x y)
  | bool x, bool y => .ok (compare x.toNat y.toNat)
  | instant x, instant y => .ok (x.order y)
  | a, b => match a.asFloat?, b.asFloat? with
    | some x, some y => .ok (x.totalCompare y)
    | _, _ => .error (.evaluation ("cannot compare " ++ a.kindName ++ " with " ++ b.kindName))

end Value

end IndexQuery
