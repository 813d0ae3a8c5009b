import IndexQuery.Expr.Display
import IndexQuery.Text.LetterCase
import IndexQuery.Time.Reading

set_option autoImplicit false

/-!
Evaluating expressions that do not depend on a document.
-/

namespace IndexQuery

open Number (Binary Binary64 Format toInt64? readInt64 leastInt64 greatestInt64)
open Time (Instant)

namespace Value

def fault {α : Type} (reason : String) : Except Error α := .error (.evaluation reason)

def expectBool (v : Value) : Except Error Bool :=
  match v with
  | bool b => .ok b
  | other => fault ("expected bool, got " ++ other.kindName)

def ofExact (n : Int) : Except Error Value :=
  match toInt64? n with
  | some i => .ok (int i)
  | none => fault "integer overflow"

def failedConversion {α : Type} (v : Value) (kind : ScalarKind) (reason : String) : Except Error α :=
  fault ("cannot convert " ++ v.display ++ " to " ++ kind.name ++ ": " ++ reason)

def floatFault (text : String) : String :=
  if text = "" then "cannot parse float from empty string" else "invalid float literal"

/-- The value in another kind; what has no reading there stays as it is. -/
def convert (v : Value) (kind : ScalarKind) : Except Error Value :=
  match kind, v with
  | .text, null => .ok null
  | .text, v => .ok (text v.plain)
  | .int64, float x => .ok (int (Int64.ofInt (x.truncate leastInt64 greatestInt64)))
  | .int64, text s => match readInt64 (Text.trim s) with
    | .ok i => .ok (int i)
    | .error e => failedConversion v kind e.message
  | .float64, int i => .ok (float (Binary.ofInt .double i.toInt))
  | .float64, text s => match Binary.read? .double (Text.trim s) with
    | some x => .ok (float x)
    | none => failedConversion v kind (floatFault (Text.trim s))
  | .datetime, text s => match Instant.read s with
    | .ok t => .ok (instant t)
    | .error e => failedConversion v kind e.message
  | _, v => .ok v

def applyUnary (op : UnaryOp) (v : Value) : Except Error Value :=
  match op, v with
  | _, null => .ok null
  | .not, bool b => .ok (bool !b)
  | .negate, int i => ofExact (-i.toInt)
  | .negate, float x => .ok (float x.neg)
  | op, v => fault ("cannot apply " ++ op.name ++ " to " ++ v.kindName)

def mismatch {α : Type} (op : BinaryOp) (a b : Value) : Except Error α :=
  fault ("cannot apply `" ++ op.symbol ++ "` to " ++ a.kindName ++ " and " ++ b.kindName)

/-- Whole numbers: exact, or an overflow. Division rounds toward zero, and the remainder of a
quotient that does not fit does not fit either. -/
def integerArithmetic (op : BinaryOp) (a b : Int64) : Except Error Value :=
  match op with
  | .add => ofExact (a.toInt + b.toInt)
  | .subtract => ofExact (a.toInt - b.toInt)
  | .multiply => ofExact (a.toInt * b.toInt)
  | .divide => if b = 0 then fault "division by zero" else ofExact (a.toInt.tdiv b.toInt)
  | .modulo =>
    if b = 0 then fault "division by zero"
    else do
      let _ ← ofExact (a.toInt.tdiv b.toInt)
      ofExact (a.toInt.tmod b.toInt)
  | op => mismatch op (int a) (int b)

def floatArithmetic? (op : BinaryOp) (x y : Binary64) : Option Binary64 :=
  match op with
  | .add => some (x.add y)
  | .subtract => some (x.sub y)
  | .multiply => some (x.mul y)
  | .divide => some (x.div y)
  | .modulo => some (x.rem y)
  | _ => none

/-- Nothing is known of a sum with null; numbers of different kinds meet as floating-point data. -/
def arithmetic (op : BinaryOp) (a b : Value) : Except Error Value :=
  match a, b with
  | null, _ => .ok null
  | _, null => .ok null
  | int i, int j => integerArithmetic op i j
  | a, b => match a.asFloat?, b.asFloat? with
    | some x, some y => match floatArithmetic? op x y with
      | some z => .ok (float z)
      | none => mismatch op a b
    | _, _ => mismatch op a b

/-- Text of an operand of a concatenation; null adds nothing. -/
def concatText : Value → String
  | null => ""
  | v => v.plain

def concat (a b : Value) : Value := text (a.concatText ++ b.concatText)

def bitwise (op : BinaryOp) (a b : Value) : Except Error Value :=
  match op, a, b with
  | .bitAnd, bool x, bool y => .ok (bool (x && y))
  | .bitOr, bool x, bool y => .ok (bool (x || y))
  | .bitAnd, int x, int y => .ok (int (x &&& y))
  | .bitOr, int x, int y => .ok (int (x ||| y))
  | op, a, b => mismatch op a b

def applyBinary (op : BinaryOp) (a b : Value) : Except Error Value :=
  match op with
  | .equal => .ok (bool (a.equals b))
  | .notEqual => .ok (bool !(a.equals b))
  | .less => (a.order b).map fun o => bool (o == .lt)
  | .lessOrEqual => (a.order b).map fun o => bool (o != .gt)
  | .greater => (a.order b).map fun o => bool (o == .gt)
  | .greaterOrEqual => (a.order b).map fun o => bool (o != .lt)
  | .bitAnd | .bitOr => bitwise op a b
  | .add => match a, b with
    | text _, _ => .ok (concat a b)
    | _, text _ => .ok (concat a b)
    | _, _ => arithmetic .add a b
  | op => arithmetic op a b

def changeCase (method : Method) (change : String → String) (v : Value) : Except Error Value :=
  match v with
  | text s => .ok (text (change s))
  | null => .ok null
  | other => fault (method.name ++ " expects text, got " ++ other.kindName)

end Value

namespace Expr

/-- The value of a closed expression. `&&`, `||`, `??` and conditionals evaluate only what they need. -/
def evaluate : Expr → Except Error Value
  | constant value => .ok value
  | captured capture => .ok capture.value
  | convert operand kind => do (← evaluate operand).convert kind
  | unary op operand => do (← evaluate operand).applyUnary op
  | binary .and left right => do
    if ← (← evaluate left).expectBool then return .bool (← (← evaluate right).expectBool)
    else return .bool false
  | binary .or left right => do
    if ← (← evaluate left).expectBool then return .bool true
    else return .bool (← (← evaluate right).expectBool)
  | binary .coalesce left right => do
    let value ← evaluate left
    if value.isNull then evaluate right else return value
  | binary op left right => do
    let a ← evaluate left
    let b ← evaluate right
    a.applyBinary op b
  | conditional test ifTrue ifFalse => do
    if ← (← evaluate test).expectBool then evaluate ifTrue else evaluate ifFalse
  | call target .toLowercase [] => do (← evaluate target).changeCase .toLowercase Text.lower
  | call target .toUppercase [] => do (← evaluate target).changeCase .toUppercase Text.upper
  | e => Value.fault ("cannot evaluate `" ++ e.display ++ "`")

end Expr

end IndexQuery
