import IndexQuery.Plan.Model

set_option autoImplicit false

/-!
Search plans: what to ask of the index for a query model, and what to do with its hits.
-/

namespace IndexQuery

open Number (Binary Binary32 Format)

/-- Counts stop at the largest 64-bit word. -/
def countLimit : Nat := Nat.pow 2 64 - 1

def addCounts (a b : Nat) : Nat := min (a + b) countLimit

inductive Aggregate where
  | first
  | single
  | count
  | any
deriving DecidableEq

namespace Aggregate

def name : Aggregate → String
  | first => "First"
  | single => "Single"
  | count => "Count"
  | any => "Any"

def operatorName : Aggregate → String
  | first => "first"
  | single => "single"
  | count => "count"
  | any => "any"

/-- How many items settle the answer; two tell one from several. -/
def needed? : Aggregate → Option Nat
  | first => some 1
  | single => some 2
  | count => none
  | any => some 1

end Aggregate

structure Plan (ι : Type) where
  query : Query
  filter : Option Query
  sort : List SortKey
  skip : Nat
  /-- Most items to return; none without a bound. -/
  max : Option Nat
  takeLast : Bool
  boost : Option (ι → Binary32)
  aggregate : Option Aggregate
  unsupported : List String

namespace Plan

variable {ι : Type}

def boostOf (p : Plan ι) (item : ι) : Binary32 :=
  match p.boost with
  | some factor => factor item
  | none => .one .single

/-- Hits to collect before the window is applied; none for all of them, which the last item and
boosted scores need. -/
def collectLimit (p : Plan ι) : Option Nat :=
  if p.takeLast || p.boost.isSome then none else p.max.map (addCounts p.skip)

def request (p : Plan ι) (limit : Nat) : SearchRequest := ⟨p.query, p.filter, p.sort, limit⟩

def describeOption (render : Option String) : String :=
  match render with
  | some text => "Some(" ++ text ++ ")"
  | none => "None"

def describeBool (b : Bool) : String := if b then "true" else "false"

def describe (p : Plan ι) : String :=
  "TranslatedQuery \x7b query: " ++ Text.quoted p.query.describe ++
    ", filter: " ++ describeOption (p.filter.map fun q => Text.quoted q.describe) ++
    ", sort: " ++ QueryModel.describeList (p.sort.map (·.describe)) ++
    ", skip: " ++ toString p.skip ++
    ", max: " ++ describeOption (p.max.map toString) ++
    ", take_last: " ++ describeBool p.takeLast ++
    ", boost_fn: " ++ describeBool p.boost.isSome ++
    ", aggregate: " ++ describeOption (p.aggregate.map (·.name)) ++
    ", unsupported: " ++ QueryModel.describeList (p.unsupported.map Text.quoted) ++ " \x7d"

end Plan

end IndexQuery
