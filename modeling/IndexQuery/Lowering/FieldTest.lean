import IndexQuery.Lowering.Annotation

set_option autoImplicit false

/-!
Tests of a field: pattern calls and comparisons become predicates.
-/

namespace IndexQuery.Lowering

open IndexQuery.Expr
open Number (Binary Binary32 Binary64 Format)

def patternMatching? : Method → Option Matching
  | .startsWith => some .startsWith
  | .endsWith => some .endsWith
  | .contains => some .contains
  | .similarTo => some .similar
  | _ => none

def argumentCount (matching : Matching) : String := if matching = .similar then "1 or 2" else "1"

def patternArguments (method : Method) (matching : Matching) (args : List Expr) :
    Except Error (Expr × Option Binary32) :=
  match matching, args with
  | .similar, [pattern, similarity] => do
    return (pattern, some (← singleOf "similarity" (← similarity.evaluate)))
  | _, [pattern] => return (pattern, none)
  | matching, args => throw (.invalidArgument
      (method.name ++ " takes " ++ argumentCount matching ++ " argument(s), got " ++ toString args.length))

/-- A pattern must have a value of its own. Annotations inside it are reported first. -/
def checkPattern (method : Method) (pattern : Expr) : Except Error Unit :=
  if pattern.isEvaluable then .ok ()
  else do
    if !pattern.referencesDocument then
      let _ ← annotate pattern
    throw (.unsupportedExpression
      (method.name ++ "(" ++ pattern.display ++ ") with a document-dependent pattern"))

def patternTest (ref : FieldRef) (method : Method) (matching : Matching) (args : List Expr) :
    Except Error Expr := do
  let (pattern, similarity) ← patternArguments method matching args
  checkPattern method pattern
  return predicate { Predicate.ofField ref matching pattern with similarity := similarity }

def isZero : Expr → Bool
  | constant (.int i) => i == 0
  | constant (.float x) => x.same (.zero .double false)
  | _ => false

def threeWay? : Expr → Option (Expr × Expr)
  | call target .compareTo [other] => some (target, other)
  | invoke .compare [left, right] => some (left, right)
  | _ => none

/-- A three-way comparison held against zero is a comparison of its operands. -/
def againstZero (op : BinaryOp) (left right : Expr) : Expr :=
  if isZero right then
    match threeWay? left with
    | some (a, b) => binary op a b
    | none => binary op left right
  else if isZero left then
    match threeWay? right with
    | some (a, b) => binary op.swapped a b
    | none => binary op left right
  else binary op left right

def patternNode : Expr → Except Error Expr
  | call target method args =>
    match patternMatching? method, target.fieldOperand? with
    | some matching, some ref => patternTest ref method matching args
    | _, _ => .ok (call target method args)
  | binary op left right => .ok (if op.isComparison then againstZero op left right else binary op left right)
  | e => .ok e

/-- How a comparison tests a field on its left. -/
def comparison? : BinaryOp → Option (Matching × Occur)
  | .equal => some (.exact, .must)
  | .notEqual => some (.exact, .mustNot)
  | .less => some (.less, .must)
  | .lessOrEqual => some (.lessOrEqual, .must)
  | .greater => some (.greater, .must)
  | .greaterOrEqual => some (.greaterOrEqual, .must)
  | _ => none

def comparisonTest (op : BinaryOp) (matching : Matching) (occur : Occur) (left right : Expr) : Expr :=
  match left.fieldOperand?, right.isEvaluable, right.fieldOperand?, left.isEvaluable with
  | some ref, true, _, _ => predicate { Predicate.ofField ref matching right with occur := occur }
  | _, _, some ref, true => predicate { Predicate.ofField ref matching.swapped left with occur := occur }
  | _, _, _, _ => binary op left right

def touchesField (e : Expr) : Bool := e.any (·.fieldOperand?.isSome)

/-- Other operators: logic stays, bitwise logic over tests is logic, and the rest cannot be applied to
a field. -/
def otherOperator (op : BinaryOp) (left right : Expr) : Except Error Expr :=
  let tests := left.isQueryNode && right.isQueryNode
  match op, tests with
  | .and, _ => .ok (binary .and left right)
  | .or, _ => .ok (binary .or left right)
  | .bitAnd, true => .ok (binary .and left right)
  | .bitOr, true => .ok (binary .or left right)
  | op, _ =>
    if touchesField left || touchesField right then .error (.unsupportedOperator op.symbol)
    else .ok (binary op left right)

def comparisonNode : Expr → Except Error Expr
  | binary op left right =>
    match comparison? op with
    | some (matching, occur) => .ok (comparisonTest op matching occur left right)
    | none => otherOperator op left right
  | e => .ok e

end IndexQuery.Lowering
