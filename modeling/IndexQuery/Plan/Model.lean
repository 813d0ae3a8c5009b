import IndexQuery.Query.Request

set_option autoImplicit false

/-!
Query models: a source, clauses in the order written, and operators on the sequence of results.
-/

namespace IndexQuery

open Number (Binary32)

structure OrderKey where
  expr : Expr
  order : SortOrder

inductive BodyClause where
  /-- A restriction that counts toward the score. -/
  | condition (e : Expr)
  /-- A restriction that does not. -/
  | filter (e : Expr)
  | ordering (keys : List OrderKey)

inductive ResultOperator (ι : Type) where
  | skip (count : Nat)
  | take (count : Nat)
  | last
  | first
  | single
  | count
  | any
  | boost (factor : ι → Binary32)
  | other (name : String)

namespace ResultOperator

variable {ι : Type}

def name : ResultOperator ι → String
  | skip _ => "skip"
  | take _ => "take"
  | last => "last"
  | first => "first"
  | single => "single"
  | count => "count"
  | any => "any"
  | boost _ => "boost"
  | other name => name

def describe : ResultOperator ι → String
  | skip n => "Skip(" ++ toString n ++ ")"
  | take n => "Take(" ++ toString n ++ ")"
  | last => "Last"
  | first => "First"
  | single => "Single"
  | count => "Count"
  | any => "Any"
  | boost _ => "Boost(..)"
  | other name => "Other(" ++ name ++ ")"

end ResultOperator

inductive QueryModel (ι : Type) where
  | index (name : String) (body : List BodyClause) (operators : List (ResultOperator ι))
  /-- Over the results of another query. -/
  | nested (inner : QueryModel ι) (body : List BodyClause) (operators : List (ResultOperator ι))

namespace QueryModel

variable {ι : Type}

def ofIndex (name : String) : QueryModel ι := index name [] []
def ofQuery (inner : QueryModel ι) : QueryModel ι := nested inner [] []

def body : QueryModel ι → List BodyClause
  | index _ clauses _ | nested _ clauses _ => clauses

def operators : QueryModel ι → List (ResultOperator ι)
  | index _ _ operators | nested _ _ operators => operators

def withBody (body : List BodyClause) : QueryModel ι → QueryModel ι
  | index name _ operators => index name body operators
  | nested inner _ operators => nested inner body operators

def withOperators (operators : List (ResultOperator ι)) : QueryModel ι → QueryModel ι
  | index name body _ => index name body operators
  | nested inner body _ => nested inner body operators

def addClause (clause : BodyClause) (m : QueryModel ι) : QueryModel ι := m.withBody (m.body ++ [clause])

def addOperator (operator : ResultOperator ι) (m : QueryModel ι) : QueryModel ι :=
  m.withOperators (m.operators ++ [operator])

def orderBy (key : OrderKey) (m : QueryModel ι) : QueryModel ι := m.addClause (.ordering [key])

/-- Adds a key to an order that was begun just before, or starts one. -/
def thenBy (key : OrderKey) (m : QueryModel ι) : QueryModel ι :=
  match m.body.getLast? with
  | some (.ordering keys) => m.withBody (m.body.dropLast ++ [.ordering (keys ++ [key])])
  | _ => m.orderBy key

def describeList (items : List String) : String := "[" ++ ", ".intercalate items ++ "]"

def describeClause : BodyClause → String
  | .condition e => "Where(" ++ e.display ++ ")"
  | .filter e => "Filter(" ++ e.display ++ ")"
  | .ordering keys => "OrderBy(" ++ describeList (keys.map fun k => k.expr.display ++ " " ++ k.order.name) ++ ")"

def describeParts (source : String) (body : List BodyClause) (operators : List (ResultOperator ι)) : String :=
  "QueryModel \x7b source: " ++ source ++ ", body: " ++ describeList (body.map describeClause) ++
    ", result_operators: " ++ describeList (operators.map (·.describe)) ++ " \x7d"

def describe : QueryModel ι → String
  | index name body operators => describeParts ("Index(" ++ Text.quoted name ++ ")") body operators
  | nested inner body operators => describeParts ("SubQuery(" ++ inner.describe ++ ")") body operators

end QueryModel

end IndexQuery
