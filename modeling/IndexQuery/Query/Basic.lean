import IndexQuery.Expr.Display

set_option autoImplicit false

/-!
Native index queries: tests of the terms of one field, joined by boolean queries.
-/

namespace IndexQuery

open Number (Binary Binary32 Format)

structure Clause (κ : Type) where
  occur : Occur
  query : κ

/-- Terms between two bounds; a missing bound leaves that side open. -/
structure TermRange where
  lower : Option String
  upper : Option String
  includeLower : Bool
  includeUpper : Bool
deriving DecidableEq

namespace TermRange

def contains (r : TermRange) (term : String) : Bool :=
  (match r.lower with
    | some bound => if r.includeLower then decide (bound ≤ term) else decide (bound < term)
    | none => true) &&
  (match r.upper with
    | some bound => if r.includeUpper then decide (term ≤ bound) else decide (term < bound)
    | none => true)

def above (bound : String) (inclusive : Bool) : TermRange := ⟨some bound, none, inclusive, false⟩
def below (bound : String) (inclusive : Bool) : TermRange := ⟨none, some bound, false, inclusive⟩

def display (r : TermRange) : String :=
  (if r.includeLower then "[" else "\x7b") ++ r.lower.getD "*" ++ " TO " ++ r.upper.getD "*" ++
    (if r.includeUpper then "]" else "\x7d")

end TermRange

inductive Query where
  | all (boost : Binary32)
  | term (field term : String) (boost : Binary32)
  | startsWith (field text : String) (boost : Binary32)
  | wildcard (field pattern : String) (boost : Binary32)
  | fuzzy (field term : String) (edits : Nat) (boost : Binary32)
  | range (field : String) (terms : TermRange) (boost : Binary32)
  | bool (clauses : List (Clause Query)) (boost : Binary32)

namespace Query

def unboosted : Binary32 := .one .single

def matchAll : Query := all unboosted

def boost : Query → Binary32
  | all b | term _ _ b | startsWith _ _ b | wildcard _ _ b | fuzzy _ _ _ b | range _ _ b | bool _ b => b

def withBoost (b : Binary32) : Query → Query
  | all _ => all b
  | term field text _ => term field text b
  | startsWith field text _ => startsWith field text b
  | wildcard field pattern _ => wildcard field pattern b
  | fuzzy field text edits _ => fuzzy field text edits b
  | range field terms _ => range field terms b
  | bool clauses _ => bool clauses b

/-- The field a query tests; none for those that test several or no field. -/
def field? : Query → Option String
  | all _ | bool _ _ => none
  | term field _ _ | startsWith field _ _ | wildcard field _ _ | fuzzy field _ _ _ | range field _ _ => some field

mutual

def describe : Query → String
  | all b => "*:*" ++ boostSuffix b
  | term field text b => field ++ ":" ++ text ++ boostSuffix b
  | startsWith field text b => field ++ ":" ++ text ++ "*" ++ boostSuffix b
  | wildcard field pattern b => field ++ ":" ++ pattern ++ boostSuffix b
  | fuzzy field text edits b => field ++ ":" ++ text ++ "~" ++ toString edits ++ boostSuffix b
  | range field terms b => field ++ ":" ++ terms.display ++ boostSuffix b
  | bool clauses b => "(" ++ describeClauses clauses ++ ")" ++ boostSuffix b

def describeClauses : List (Clause Query) → String
  | [] => ""
  | [⟨occur, query⟩] => occur.sign ++ describe query
  | ⟨occur, query⟩ :: next :: rest => occur.sign ++ describe query ++ " " ++ describeClauses (next :: rest)

end

/-- Clauses that only exclude match nothing by themselves. -/
def purelyNegative (clauses : List (Clause Query)) : Bool :=
  !clauses.isEmpty && clauses.all (·.occur == .mustNot)

def ensurePositive (clauses : List (Clause Query)) : List (Clause Query) :=
  if purelyNegative clauses then clauses ++ [⟨.should, matchAll⟩] else clauses

def ofClauses (clauses : List (Clause Query)) : Query := bool clauses unboosted

end Query

end IndexQuery
