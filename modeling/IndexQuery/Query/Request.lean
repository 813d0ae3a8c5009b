import IndexQuery.Field.Mapping
import IndexQuery.Text.Quoted

set_option autoImplicit false

/-!
What is asked of an index, and the hits that come back.
-/

namespace IndexQuery

open Number (Binary32)

inductive SortOrder where
  | ascending
  | descending
deriving DecidableEq

def SortOrder.name : SortOrder → String
  | ascending => "Asc"
  | descending => "Desc"

def SortKind.name : SortKind → String
  | string => "String"
  | int64 => "Int64"
  | float64 => "Float64"
  | datetime => "DateTime"

inductive SortKey where
  | score (order : SortOrder)
  | field (name : String) (kind : SortKind) (order : SortOrder)
  | custom (name : String) (mapping : FieldMapping) (order : SortOrder)

namespace SortKey

def order : SortKey → SortOrder
  | score o | field _ _ o | custom _ _ o => o

def isScore : SortKey → Bool
  | score _ => true
  | _ => false

def fieldName? : SortKey → Option String
  | score _ => none
  | field name _ _ | custom name _ _ => some name

def describe : SortKey → String
  | score o => "Score \x7b order: " ++ o.name ++ " \x7d"
  | field name kind o =>
    "Field \x7b name: " ++ Text.quoted name ++ ", kind: " ++ kind.name ++ ", order: " ++ o.name ++ " \x7d"
  | custom name _ o => "Custom \x7b name: " ++ Text.quoted name ++ ", order: " ++ o.name ++ ", .. \x7d"

end SortKey

structure SearchRequest where
  query : Query
  filter : Option Query
  sort : List SortKey
  limit : Nat

namespace SearchRequest

def ofQuery (query : Query) : SearchRequest := ⟨query, none, [], 10⟩

def matchAll : SearchRequest := ofQuery .matchAll

def byRelevance (r : SearchRequest) : Bool :=
  match r.sort with
  | [] => true
  | key :: _ => key.isScore

end SearchRequest

structure Hit where
  document : Nat
  score : Binary32
deriving DecidableEq

structure TopHits where
  total : Nat
  hits : List Hit
deriving DecidableEq

end IndexQuery
