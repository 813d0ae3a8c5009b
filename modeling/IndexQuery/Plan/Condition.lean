import IndexQuery.Expr.Traversal

set_option autoImplicit false

/-!
Lowered expressions as conditions: chains of `&&` and of `||` are joined into one list each. A boost
keeps the chain below it apart.
-/

namespace IndexQuery

open Number (Binary32)

inductive Condition where
  | predicate (test : Predicate Expr)
  | interval (test : Interval Expr)
  | every (parts : List Condition)
  | either (parts : List Condition)
  | not (part : Condition)
  | boosted (part : Condition) (boost : Binary32)
  /-- Anything that is neither a test nor made of tests. -/
  | rest (e : Expr)

namespace Condition

def conjuncts : Condition → List Condition
  | every parts => parts
  | c => [c]

def disjuncts : Condition → List Condition
  | either parts => parts
  | c => [c]

def ofExpr : Expr → Condition
  | .predicate test => predicate test
  | .interval test => interval test
  | .binary .and left right => every ((ofExpr left).conjuncts ++ (ofExpr right).conjuncts)
  | .binary .or left right => either ((ofExpr left).disjuncts ++ (ofExpr right).disjuncts)
  | .unary .not operand => not (ofExpr operand)
  | .boosted target boost => boosted (ofExpr target) boost
  | e => rest e

end Condition

end IndexQuery
