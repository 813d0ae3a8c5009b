import IndexQuery.Expr.Evaluation
import IndexQuery.Field.Mapping
import IndexQuery.Plan.Condition
import IndexQuery.Query.Similarity
import IndexQuery.Query.Wildcard
import IndexQuery.Settings

set_option autoImplicit false

/-!
Query fragments: the native query of a condition, and how it joins a boolean query around it.
-/

namespace IndexQuery

open Number (Binary Binary32 Format)

structure Fragment where
  query : Query
  occur : Occur

namespace Fragment

def negated (f : Fragment) : Fragment := { f with occur := f.occur.negate }

def boostedBy (boost : Binary32) (f : Fragment) : Fragment :=
  { f with query := f.query.withBoost (f.query.boost.mul boost) }

def toClause (f : Fragment) : Clause Query := ⟨f.occur.inConjunction, f.query⟩

/-- As an alternative. An exclusion among alternatives would rule matches out, so that it becomes
everything but its matches. -/
def alternative (f : Fragment) : Query :=
  match f.occur with
  | .mustNot => .ofClauses (Query.ensurePositive [⟨.mustNot, f.query⟩])
  | _ => f.query

def conjunction (parts : List Fragment) : Fragment :=
  ⟨.ofClauses (Query.ensurePositive (parts.map toClause)), .must⟩

def alternatives (parts : List Fragment) (occur : Occur) : Fragment :=
  ⟨.ofClauses (parts.map fun part => ⟨.should, part.alternative⟩), occur⟩

end Fragment

structure Compiler where
  fields : FieldProvider
  settings : CompilerSettings

namespace Compiler

def withBoost (boost : Binary32) (query : Query) : Query :=
  if boost.same (.one .single) then query else query.withBoost boost

variable (c : Compiler)

def testQuery (mapping : FieldMapping) (name : String) (p : Predicate Expr) (text : String) :
    Except Error Query :=
  let pattern := if p.allowSpecial then text else Wildcard.escape text
  match p.matching with
  | .exact => mapping.exactQuery text
  | .startsWith => .ok (.startsWith name text Query.unboosted)
  | .endsWith => .ok (.wildcard name ("*" ++ pattern) Query.unboosted)
  | .contains => .ok (.wildcard name ("*" ++ pattern ++ "*") Query.unboosted)
  | .similar =>
    let similarity := p.similarity.getD c.settings.similarity
    .ok (.fuzzy name text (Similarity.edits text similarity c.settings.maxEdits) Query.unboosted)
  | .greater => mapping.rangeQuery (.above text false)
  | .greaterOrEqual => mapping.rangeQuery (.above text true)
  | .less => mapping.rangeQuery (.below text false)
  | .lessOrEqual => mapping.rangeQuery (.below text true)

/-- A test of one field. Having no value is the opposite of having any value. -/
def fieldFragment (name : String) (p : Predicate Expr) : Except Error Fragment := do
  let value ← p.pattern.evaluate
  if value.isNull then
    return ⟨.wildcard name c.settings.anyValue p.boost, p.occur.negate⟩
  let mapping := c.fields.resolve name
  let text ← mapping.encode value
  let query ← c.testQuery mapping name p text
  return ⟨withBoost p.boost query, p.occur⟩

/-- A test of any field asks each of them; its polarity holds for the whole. -/
def predicateFragment (p : Predicate Expr) : Except Error Fragment :=
  if !p.field.isAny then c.fieldFragment p.field.name p
  else match c.fields.names with
    | [] => .error (.invalidArgument "any-field predicate but no searchable fields are mapped")
    | names => do
      let parts ← names.mapM fun name => c.fieldFragment name { p with occur := .must }
      return .alternatives parts p.occur

/-- A bound that is null leaves its side open. -/
def boundText (mapping : FieldMapping) : Option Expr → Except Error (Option String)
  | none => .ok none
  | some bound => do
    let value ← bound.evaluate
    if value.isNull then return none else return some (← mapping.encode value)

def intervalFragment (r : Interval Expr) : Except Error Fragment := do
  if r.field.isAny then
    throw (.unsupportedExpression ("range over any field: " ++ Expr.displayInterval r))
  let mapping := c.fields.resolve r.field.name
  let lower ← boundText mapping r.lower
  let upper ← boundText mapping r.upper
  let query ← mapping.rangeQuery ⟨lower, upper, r.includesLower, r.includesUpper⟩
  return ⟨withBoost r.boost query, r.occur⟩

/-- A closed condition matches everything or nothing. -/
def closedFragment (e : Expr) : Except Error Fragment := do
  match ← e.evaluate with
  | .bool true => return ⟨.matchAll, .must⟩
  | .bool false => return ⟨.matchAll, .mustNot⟩
  | other => throw (.unsupportedExpression
      (e.display ++ " evaluates to " ++ other.display ++ ", not a truth value"))

/-- What is no test: a comparison must have a field, a conditional must be closed, and anything else
must have a truth value of its own. -/
def restFragment (e : Expr) : Except Error Fragment :=
  match e with
  | .conditional _ _ _ =>
    if e.isEvaluable then closedFragment e else .error (.ambiguousNullGuard e.display)
  | .binary op left right =>
    if op.isComparison then
      if left.fieldOperand?.isNone && right.fieldOperand?.isNone then .error (.noFieldReference e.display)
      else .error (.unsupportedExpression e.display)
    else if e.isEvaluable then closedFragment e
    else .error (.unsupportedExpression e.display)
  | e => if e.isEvaluable then closedFragment e else .error (.unsupportedExpression e.display)

mutual

def fragment : Condition → Except Error Fragment
  | .predicate test => c.predicateFragment test
  | .interval test => c.intervalFragment test
  | .every parts => do return .conjunction (← fragments parts)
  | .either parts => do return .alternatives (← fragments parts) .must
  | .not part => do return (← fragment part).negated
  | .boosted part boost => do return (← fragment part).boostedBy boost
  | .rest e => restFragment e

def fragments : List Condition → Except Error (List Fragment)
  | [] => .ok []
  | part :: rest => do
    let first ← fragment part
    return first :: (← fragments rest)

end

def build (e : Expr) : Except Error Fragment := c.fragment (.ofExpr e)

end Compiler

end IndexQuery
