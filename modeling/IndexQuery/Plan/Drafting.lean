import IndexQuery.Lowering.Pipeline
import IndexQuery.Plan.Basic
import IndexQuery.Plan.Fragment

set_option autoImplicit false

/-!
Compiling a query model into a plan: the model and its sources are walked from the inside out, and each
clause and operator adds to a draft.
-/

namespace IndexQuery

open Number (Binary Binary32 Format)

/-- A plan whose query and filter are still lists of clauses. -/
structure Draft (ι : Type) where
  conditions : List (Clause Query)
  filters : List (Clause Query)
  sort : List SortKey
  skip : Nat
  max : Option Nat
  takeLast : Bool
  boost : Option (ι → Binary32)
  aggregate : Option Aggregate
  unsupported : List String

namespace Draft

variable {ι : Type}

def empty : Draft ι := ⟨[], [], [], 0, none, false, none, none, []⟩

/-- The clauses a fragment adds to a conjunction. A plain conjunction adds its own clauses. -/
def clausesOf (f : Fragment) : List (Clause Query) :=
  match f.occur, f.query with
  | .must, .bool clauses boost =>
    if boost.same (.one .single) && clauses.all (·.occur != .should) then clauses else [f.toClause]
  | _, _ => [f.toClause]

def limit (count : Nat) (d : Draft ι) : Draft ι :=
  { d with max := some (match d.max with | some max => min max count | none => count) }

/-- The first aggregate counts; a later one is left to the caller. After the last item has been asked
for, the window must stay whole. -/
def aggregateBy (a : Aggregate) (d : Draft ι) : Draft ι :=
  match d.aggregate with
  | some _ => { d with unsupported := d.unsupported ++ [a.operatorName] }
  | none =>
    let d := { d with aggregate := some a }
    match a.needed?, d.takeLast with
    | some count, false => d.limit count
    | _, _ => d

def boostBy (factor : ι → Binary32) (d : Draft ι) : Draft ι :=
  { d with boost := some (match d.boost with
      | some earlier => fun item => (earlier item).mul (factor item)
      | none => factor) }

def apply (d : Draft ι) : ResultOperator ι → Draft ι
  | .skip count => { d with skip := addCounts d.skip count, max := d.max.map (· - count) }
  | .take count => d.limit count
  | .last => { d with takeLast := true }
  | .first => d.aggregateBy .first
  | .single => d.aggregateBy .single
  | .count => d.aggregateBy .count
  | .any => d.aggregateBy .any
  | .boost factor => d.boostBy factor
  | .other name => { d with unsupported := d.unsupported ++ [name] }

def joined? (clauses : List (Clause Query)) : Option Query :=
  if clauses.isEmpty then none else some (.ofClauses (Query.ensurePositive clauses))

def finish (d : Draft ι) : Plan ι :=
  { query := (joined? d.conditions).getD .matchAll
    filter := joined? d.filters
    sort := d.sort
    skip := d.skip
    max := d.max
    takeLast := d.takeLast
    boost := d.boost
    aggregate := d.aggregate
    unsupported := d.unsupported }

end Draft

def ScalarKind.sortKind? : ScalarKind → Option SortKind
  | .text | .bool => some .string
  | .int64 => some .int64
  | .float64 => some .float64
  | .datetime => some .datetime
  | .other => none

namespace Compiler

variable {ι : Type} (c : Compiler)

def condition (e : Expr) : Except Error Fragment := do
  c.build (← Lowering.lower c.settings .condition e)

def fieldKey (ref : FieldRef) (order : SortOrder) : SortKey :=
  let (kind, mapping) := match c.fields.find? ref.name with
    | some mapping => (mapping.sortKind, mapping)
    | none => (ref.kind.sortKind?, .keyword ref.name)
  match kind with
  | some kind => .field ref.name kind order
  | none => .custom ref.name mapping order

def sortKey (key : OrderKey) : Except Error SortKey := do
  match ← Lowering.lower c.settings .ordering key.expr with
  | .relevance => return .score key.order
  | .field ref =>
    if ref.isAny then throw (.unsupportedExpression ("cannot order by " ++ ref.display))
    else return c.fieldKey ref key.order
  | other => throw (.unsupportedExpression ("cannot order by " ++ other.display))

def addClause (d : Draft ι) : BodyClause → Except Error (Draft ι)
  | .condition e => do return { d with conditions := d.conditions ++ Draft.clausesOf (← c.condition e) }
  | .filter e => do return { d with filters := d.filters ++ Draft.clausesOf (← c.condition e) }
  | .ordering keys => do return { d with sort := d.sort ++ (← keys.mapM c.sortKey) }

def addParts (d : Draft ι) (body : List BodyClause) (operators : List (ResultOperator ι)) :
    Except Error (Draft ι) := do
  let d ← body.foldlM c.addClause d
  return operators.foldl Draft.apply d

def draft : QueryModel ι → Except Error (Draft ι)
  | .index _ body operators => c.addParts .empty body operators
  | .nested inner body operators => do c.addParts (← draft inner) body operators

def plan (m : QueryModel ι) : Except Error (Plan ι) := do
  return (← c.draft m).finish

end Compiler

end IndexQuery
