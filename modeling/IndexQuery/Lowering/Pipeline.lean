import IndexQuery.Lowering.Bounds
import IndexQuery.Lowering.FieldAccess
import IndexQuery.Lowering.FieldTest
import IndexQuery.Lowering.NullGuard
import IndexQuery.Lowering.Truth
import IndexQuery.Settings

set_option autoImplicit false

/-!
The lowering passes in order, and lowering as their repetition until nothing changes.
-/

namespace IndexQuery.Lowering

/-- Where an expression is used: as a condition, or as a key to order by. -/
inductive Role where
  | condition
  | ordering
deriving DecidableEq

inductive Pass where
  | members
  | markers
  | redundancies
  | nullGuards
  | fieldBoosts
  | patterns
  | flags
  | comparisons
  | polarity
  | annotations
  | bounds
deriving DecidableEq

namespace Pass

/-- A pass relies on the shapes that those before it produce. -/
def pipeline : List Pass :=
  [members, markers, redundancies, nullGuards, fieldBoosts, patterns, flags, comparisons, polarity,
    annotations, bounds]

def apply (role : Role) (e : Expr) : Pass → Except Error Expr
  | members => e.mapUpM memberNode
  | markers => .ok (e.mapUp markerNode)
  | redundancies => .ok (e.mapUp redundantNode)
  | nullGuards => .ok (e.mapUp nullGuardNode)
  | fieldBoosts => e.mapUpM fieldBoostNode
  | patterns => e.mapUpM patternNode
  | flags => .ok (if role = .condition then liftFlags true e else e)
  | comparisons => e.mapUpM comparisonNode
  | polarity => .ok (e.mapUp polarityNode)
  | annotations => annotate e
  | bounds => .ok (e.mapUp boundsNode)

/-- What each pass in turn makes of an expression, up to the first that fails. -/
def trace (role : Role) : List Pass → Expr → List (Pass × Except Error Expr)
  | [], _ => []
  | pass :: rest, e =>
    let outcome := pass.apply role e
    (pass, outcome) :: match outcome with
      | .ok next => trace role rest next
      | .error _ => []

end Pass

def round (role : Role) (e : Expr) : Except Error Expr :=
  Pass.pipeline.foldlM (fun e pass => pass.apply role e) e

/-- Repeats rounds until one changes nothing, at most `rounds` times; none if they run out. -/
def settle? (role : Role) : Nat → Expr → Except Error (Option Expr)
  | 0, _ => .ok none
  | rounds + 1, e => do
    let next ← round role e
    if next.same e then return some next else settle? role rounds next

def lower (settings : CompilerSettings) (role : Role) (e : Expr) : Except Error Expr := do
  match ← settle? role settings.maxRounds e with
  | some lowered => return lowered
  | none => throw (.internal
      ("lowering did not converge after " ++ toString settings.maxRounds ++ " rounds"))

end IndexQuery.Lowering
