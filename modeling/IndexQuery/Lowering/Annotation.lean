import IndexQuery.Expr.Evaluation
import IndexQuery.Expr.Traversal

set_option autoImplicit false

/-!
Annotations of a query: boosts, and permission to use wildcard characters. A boost on a field is kept
with the field; any other is attached once its target has become a test.
-/

namespace IndexQuery.Lowering

open IndexQuery.Expr
open Number (Binary Binary32 Format)

def singleOf (purpose : String) (value : Value) : Except Error Binary32 :=
  match value.asFloat? with
  | some x => .ok (x.convert .single)
  | none => .error (.invalidArgument (purpose ++ " must be numeric, got " ++ value.display))

def boostAmount (args : List Expr) : Except Error Binary32 :=
  match args with
  | [amount] => do singleOf "boost" (← amount.evaluate)
  | args => throw (.invalidArgument ("boost takes one argument, got " ++ toString args.length))

def fieldBoostNode : Expr → Except Error Expr
  | call target .boost args =>
    match target.fieldOperand? with
    | some ref => do
      let amount ← boostAmount args
      return field { ref with boost := amount }
    | none => .ok (call target .boost args)
  | e => .ok e

/-- A logical combination with a test somewhere inside. -/
def isCompound : Expr → Bool
  | binary .and left right => (binary .and left right).any isQueryNode
  | binary .or left right => (binary .or left right).any isQueryNode
  | unary .not operand => (unary .not operand).any isQueryNode
  | _ => false

/-- A test takes the boost in place of its own; boosts on a compound multiply. -/
def attachBoost (target : Expr) (amount : Binary32) : Except Error Expr :=
  match target with
  | predicate test => .ok (predicate { test with boost := amount })
  | interval test => .ok (interval { test with boost := amount })
  | boosted inner boost => .ok (boosted inner (boost.mul amount))
  | target => if isCompound target then .ok (boosted target amount) else .error (.boostTarget target.display)

def allowSpecialNode : Expr → Expr
  | predicate test => predicate { test with allowSpecial := true }
  | e => e

def allowSpecialIn (target : Expr) : Except Error Expr :=
  match target with
  | predicate test => .ok (predicate { test with allowSpecial := true })
  | boosted inner boost => .ok ((boosted inner boost).mapUp allowSpecialNode)
  | target =>
    if isCompound target then .ok (target.mapUp allowSpecialNode)
    else .error (.unsupportedExpression (target.display ++ ".allow_special_characters()"))

def annotationNode : Expr → Except Error Expr
  | call target .boost args => do attachBoost target (← boostAmount args)
  | call target .allowSpecial [] => allowSpecialIn target
  | e => .ok e

def annotate (e : Expr) : Except Error Expr := e.mapUpM annotationNode

end IndexQuery.Lowering
