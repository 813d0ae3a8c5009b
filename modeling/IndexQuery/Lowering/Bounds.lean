import IndexQuery.Expr.Traversal
import IndexQuery.Number.Arithmetic

set_option autoImplicit false

/-!
Two bounds on one field become one interval: `f >= a && f < b` is `f in [a, b)`, and `f < a || f > b`
excludes `[a, b]`.
-/

namespace IndexQuery.Lowering

open IndexQuery.Expr

def mergeable (a b : Predicate Expr) : Bool :=
  a.field.same b.field && a.occur == .must && b.occur == .must

def between (lower upper : Predicate Expr) : Interval Expr :=
  { field := lower.field
    lower := some lower.pattern
    lowerKind := lower.matching
    upper := some upper.pattern
    upperKind := upper.matching
    occur := .must
    boost := lower.boost.mul upper.boost }

/-- The interval left out by values below one bound or above another. -/
def excluded (below above : Predicate Expr) : Interval Expr :=
  { field := below.field
    lower := some below.pattern
    lowerKind := below.matching.complement
    upper := some above.pattern
    upperKind := above.matching.complement
    occur := .mustNot
    boost := below.boost.mul above.boost }

def conjoined? (a b : Predicate Expr) : Option (Interval Expr) :=
  if !mergeable a b then none
  else if a.matching.isLowerBound && b.matching.isUpperBound then some (between a b)
  else if b.matching.isLowerBound && a.matching.isUpperBound then some (between b a)
  else none

def gap? (a b : Predicate Expr) : Option (Interval Expr) :=
  if !mergeable a b then none
  else match a.matching, b.matching with
    | .less, .greater => some (excluded a b)
    | .greater, .less => some (excluded b a)
    | _, _ => none

def boundsNode : Expr → Expr
  | binary .and (predicate a) (predicate b) =>
    match conjoined? a b with
    | some test => interval test
    | none => binary .and (predicate a) (predicate b)
  | binary .or (predicate a) (predicate b) =>
    match gap? a b with
    | some test => interval test
    | none => binary .or (predicate a) (predicate b)
  | e => e

end IndexQuery.Lowering
