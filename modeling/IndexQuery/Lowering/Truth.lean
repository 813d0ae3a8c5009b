import IndexQuery.Expr.Traversal

set_option autoImplicit false

/-!
Truth values: a boolean field read as one is compared with true, and a negated test changes polarity.
-/

namespace IndexQuery.Lowering

open IndexQuery.Expr

def isFlag : Expr → Bool
  | field ref => ref.kind == .bool
  | _ => false

/-- Logical operators read such operands as truth values wherever they stand. -/
def isLogical : Expr → Bool
  | binary op _ _ => op.isComparison || op.isLogical
  | unary .not _ => true
  | e => e.isQueryNode

def joinsTruths : BinaryOp → Bool
  | .and | .or | .bitAnd | .bitOr => true
  | _ => false

def flagEquals (flag : Expr) (value : Bool) : Expr := binary .equal flag (constant (.bool value))

mutual

/-- Makes boolean fields explicit comparisons where `truth` says that the place is a truth value. -/
def liftFlags (truth : Bool) : Expr → Expr
  | field ref => if truth && ref.kind == .bool then flagEquals (field ref) true else field ref
  | unary .not (unary .not inner) =>
    if truth then liftFlags true inner else unary .not (unary .not (liftFlags false inner))
  | unary .not operand =>
    if truth && isFlag operand then flagEquals operand false
    else unary .not (liftFlags truth operand)
  | unary op operand => unary op (liftFlags false operand)
  | binary op left right =>
    let truth := joinsTruths op && (truth || isLogical left || isLogical right)
    binary op (liftFlags truth left) (liftFlags truth right)
  | conditional test ifTrue ifFalse =>
    conditional (liftFlags true test) (liftFlags truth ifTrue) (liftFlags truth ifFalse)
  | call target method args =>
    match method with
    | .boost => call (liftFlags truth target) .boost args
    | .allowSpecial => call (liftFlags truth target) .allowSpecial args
    | method => call (liftFlags false target) method (liftAll args)
  | invoke method args => invoke method (liftAll args)
  | member target name kind => member (liftFlags false target) name kind
  | convert operand kind => convert (liftFlags false operand) kind
  | boosted target boost => boosted (liftFlags false target) boost
  | e => e

def liftAll : List Expr → List Expr
  | [] => []
  | e :: es => liftFlags false e :: liftAll es

end

def negated? : Expr → Option Expr
  | predicate test => some (predicate test.negated)
  | interval test => some (interval test.negated)
  | _ => none

def isSingleTest : Expr → Bool
  | predicate _ | interval _ => true
  | _ => false

/-- Equal to true or different from false keeps the polarity, the other two flip it. -/
def polarize (op : BinaryOp) (value : Bool) (test : Expr) : Expr :=
  if value = (op == .equal) then test else (negated? test).getD test

def polarized (op : BinaryOp) (left right : Expr) : Expr :=
  if isSingleTest left then
    match right.asBoolConstant? with
    | some value => polarize op value left
    | none => binary op left right
  else if isSingleTest right then
    match left.asBoolConstant? with
    | some value => polarize op value right
    | none => binary op left right
  else binary op left right

def polarityNode : Expr → Expr
  | unary .not operand => (negated? operand).getD (unary .not operand)
  | binary .equal left right => polarized .equal left right
  | binary .notEqual left right => polarized .notEqual left right
  | e => e

end IndexQuery.Lowering
