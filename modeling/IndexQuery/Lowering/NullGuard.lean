import IndexQuery.Expr.Traversal

set_option autoImplicit false

/-!
Null guards: `x != null ? e : null` is `e` where `e` reads through `x`.
-/

namespace IndexQuery.Lowering

open IndexQuery.Expr

def isWithin (root ref : FieldRef) : Bool :=
  ref.name == root.name || (root.name ++ ".").toList.isPrefixOf ref.name.toList

def isFieldWithin (root : FieldRef) : Expr → Bool
  | field ref => isWithin root ref
  | _ => false

def readsThrough (value subject : Expr) : Bool :=
  match subject with
  | field root => value.any (isFieldWithin root)
  | subject => value.any (·.same subject)

/-- The operand that a test holds against null, if exactly one side is null. -/
def guardSubject? (left right : Expr) : Option Expr :=
  match left.isNullConstant, right.isNullConstant with
  | false, true => some left
  | true, false => some right
  | _, _ => none

/-- The value that survives, if the other branch is null and the value reads through the subject. -/
def guardedValue? (subject value nullBranch : Expr) : Option Expr :=
  if nullBranch.isNullConstant && !value.isNullConstant && readsThrough value subject then some value
  else none

def guarded? (test ifTrue ifFalse : Expr) : Option Expr :=
  match test with
  | binary .notEqual left right => do guardedValue? (← guardSubject? left right) ifTrue ifFalse
  | binary .equal left right => do guardedValue? (← guardSubject? left right) ifFalse ifTrue
  | _ => none

def nullGuardNode : Expr → Expr
  | conditional test ifTrue ifFalse =>
    (guarded? test ifTrue ifFalse).getD (conditional test ifTrue ifFalse)
  | e => e

end IndexQuery.Lowering
