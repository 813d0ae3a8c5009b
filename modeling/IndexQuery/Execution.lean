import IndexQuery.Plan.Drafting
import IndexQuery.Snapshot.Lifecycle

set_option autoImplicit false

/-!
Running query models: plan, claim a snapshot, search, shape the result, release.
-/

namespace IndexQuery

open Number (Binary32)
open Snapshot (Action Engine attempt)

inductive QueryResult (ι : Type) where
  | items (items : List ι)
  | item (item : ι)
  | count (count : Nat)
  | any (any : Bool)

namespace QueryResult

variable {ι : Type}

/-- The sequence; a single item is a sequence of one. -/
def items? : QueryResult ι → Option (List ι)
  | items xs => some xs
  | item x => some [x]
  | _ => none

def item? : QueryResult ι → Option ι
  | item x => some x
  | _ => none

def count? : QueryResult ι → Option Nat
  | count n => some n
  | _ => none

def any? : QueryResult ι → Option Bool
  | any b => some b
  | _ => none

end QueryResult

namespace Plan

variable {ι : Type}

def windowCount (p : Plan ι) (total : Nat) : Nat :=
  let skipped := total - p.skip
  match p.max with
  | some max => min skipped max
  | none => skipped

/-- Can the number of matches alone answer the query? -/
def countsOnly (p : Plan ι) : Bool := p.aggregate == some .count && !p.takeLast

/-- Items by descending score; equal scores keep their order. -/
def rank (scored : List (Binary32 × ι)) : List (Binary32 × ι) :=
  scored.mergeSort fun a b => decide (b.1.rank ≤ a.1.rank)

def window (p : Plan ι) (items : List ι) : List ι :=
  let kept := items.drop p.skip
  let kept := match p.max with
    | some max => kept.take max
    | none => kept
  if p.takeLast then kept.getLast?.toList else kept

def firstOf (items : List ι) : Except Error (QueryResult ι) :=
  match items with
  | item :: _ => .ok (.item item)
  | [] => .error .noResults

def reduce (p : Plan ι) (items : List ι) : Except Error (QueryResult ι) :=
  match p.aggregate with
  | none => if p.takeLast then firstOf items else .ok (.items items)
  | some .first => firstOf items
  | some .single => if 1 < items.length then .error .moreThanOneResult else firstOf items
  | some .count => .ok (.count items.length)
  | some .any => .ok (.any (!items.isEmpty))

/-- The answer from items with their engine scores, in engine order. -/
def shape (p : Plan ι) (byRelevance : Bool) (found : List (Binary32 × ι)) : Except Error (QueryResult ι) :=
  let scored := found.map fun (score, item) => (score.mul (p.boostOf item), item)
  let ordered := if p.boost.isSome && byRelevance then rank scored else scored
  p.reduce (p.window (ordered.map (·.2)))

end Plan

/-- Runs query models over one engine. `mapper` makes an item of a hit. -/
structure Executor (ω ρ σ κ ι : Type) where
  engine : Engine ω ρ σ κ
  compiler : Compiler
  mapper : σ → Hit → Action ω ρ σ κ ι

namespace Executor

variable {ω ρ σ κ ι : Type} (x : Executor ω ρ σ κ ι)

def mapHits (searcher : σ) : List Hit → Action ω ρ σ κ (List (Binary32 × ι))
  | [] => return []
  | hit :: rest => do
    let item ← x.mapper searcher hit
    return (hit.score, item) :: (← mapHits searcher rest)

def search (p : Plan ι) (searcher : σ) : Action ω ρ σ κ (QueryResult ι) := do
  let request := p.request (p.collectLimit.getD countLimit)
  let found ← x.engine.search searcher request
  if p.countsOnly then return .count (p.windowCount found.total)
  let items ← x.mapHits searcher found.hits
  liftExcept (p.shape request.byRelevance items)

def searcherOf (handle : Nat) : Action ω ρ σ κ σ := do
  let c ← Snapshot.getContext
  match c.handles[handle]?.bind fun h => c.tracker? h.generation with
  | some t => return t.searcher
  | none => throw (.internal ("unknown handle " ++ toString handle))

/-- Plans before anything is claimed, and releases the claim whatever happens. -/
def execute (m : QueryModel ι) : Action ω ρ σ κ (QueryResult ι) := do
  let p ← liftExcept (x.compiler.plan m)
  if let operator :: _ := p.unsupported then throw (.unsupportedResultOperator operator)
  let handle ← Snapshot.checkout x.engine
  let result ← attempt (do x.search p (← searcherOf handle))
  Snapshot.release x.engine handle
  liftExcept result

end Executor

end IndexQuery
