import IndexQuery.Execution
import IndexQuery.Rehearsal.Index

set_option autoImplicit false

/-!
Sessions: a context over a rehearsal index, driven step by step, with a report on each step.
-/

namespace IndexQuery.Rehearsal

open Snapshot

inductive Step where
  /-- The index changes; its documents stay. -/
  | advance
  | replaceDocuments (documents : List Document)
  | failOn (primitives : List Primitive)
  | hideDocument (id : Option Nat)
  | interruptOpening (interruption : Interruption)
  | interruptSearch (interruption : Interruption)
  | checkout
  | inspect (slot : Nat)
  | release (slot : Nat)
  | drop (slot : Nat)
  | search (slot : Nat)
  | reload
  | dispose
  | addCallback (callback : Callback)
  | dropKept
  | dropContext
  | settings
  | describe
  | run (model : QueryModel Nat)

inductive Answer where
  | nothing
  | done
  | claimed (slot handle : Nat) (facts : HandleFacts)
  | facts (facts : HandleFacts)
  | found (hits : TopHits)
  | reloaded (outcome : ReloadOutcome)
  | disposed (outcome : DisposeOutcome)
  | count (n : Nat)
  | settings (settings : ContextSettings)
  | description (context : String) (handles : List String)
  | result (result : QueryResult Nat)

structure Slot where
  handle : Nat
  dropped : Bool

structure Session where
  compiler : Compiler
  slots : List Slot
  world : World Stage Reader Searcher Callback

structure ContextState where
  disposed : Bool
  generation : Option Nat
  outstanding : Nat
deriving DecidableEq

structure Report where
  answer : Except Error Answer
  journal : List Entry
  state : Option ContextState
  census : Census

def loadDocument (_ : Searcher) (hit : Hit) : Act Nat := do
  if (← getStage).missing = some hit.document then
    throw (.other ("document " ++ toString hit.document ++ " missing"))
  return hit.document

namespace Session

def start (settings : ContextSettings) (compiler : Compiler) (stage : Stage) : Session :=
  ⟨compiler, [], ⟨.ofSettings settings, stage⟩⟩

def executor (s : Session) : Executor Stage Reader Searcher Callback Nat := ⟨index, s.compiler, loadDocument⟩

def handleIn (s : Session) (slot : Nat) : Act Nat :=
  match s.slots[slot]? with
  | some slot => return slot.handle
  | none => throw (.internal ("unknown slot " ++ toString slot))

def act (s : Session) : Step → Act Answer
  | .advance => do
    modifyStage fun t => { t with version := t.version + 1 }
    return .nothing
  | .replaceDocuments documents => do
    modifyStage fun t => { t with documents := documents, version := t.version + 1 }
    return .nothing
  | .failOn primitives => do
    modifyStage fun t => { t with failing := primitives }
    return .nothing
  | .hideDocument id => do
    modifyStage fun t => { t with missing := id }
    return .nothing
  | .interruptOpening interruption => do
    modifyStage fun t => { t with onOpen := some interruption }
    return .nothing
  | .interruptSearch interruption => do
    modifyStage fun t => { t with onSearch := some interruption }
    return .nothing
  | .checkout => do
    let handle ← Snapshot.checkout index
    return .claimed s.slots.length handle (← handleFacts handle)
  | .inspect slot => do return .facts (← handleFacts (← s.handleIn slot))
  | .release slot => do
    Snapshot.release index (← s.handleIn slot)
    return .done
  | .drop slot => do
    dropHandle index (← s.handleIn slot)
    return .nothing
  | .search slot => do
    let facts ← handleFacts (← s.handleIn slot)
    return .found (← index.search facts.searcher .matchAll)
  | .reload => do return .reloaded (← Snapshot.reload index)
  | .dispose => do return .disposed (← Snapshot.dispose index)
  | .addCallback callback => do
    modifyContext fun c => { c with callbacks := c.callbacks ++ [callback] }
    return .nothing
  | .dropKept => do
    let kept := (← getStage).kept
    modifyStage fun t => { t with kept := [] }
    kept.forM (dropHandle index)
    return .count kept.length
  | .dropContext => do
    modifyStage fun t => { t with inUse := false }
    let _ ← Snapshot.dispose index
    return .nothing
  | .settings => do return .settings (← getContext).settings
  | .describe => do
    let c ← getContext
    let present := s.slots.filter (!·.dropped)
    return .description c.describe (present.filterMap fun slot => c.handles[slot.handle]?.map (·.describe))
  | .run model => do return .result (← s.executor.execute model)

/-- Slots after a step: a successful checkout fills the next one. -/
def slotsAfter (s : Session) (step : Step) (answer : Except Error Answer) : List Slot :=
  match step, answer with
  | .checkout, .ok (.claimed _ handle _) => s.slots ++ [⟨handle, false⟩]
  | .drop slot, _ => s.slots.modify slot fun x => { x with dropped := true }
  | _, _ => s.slots

def step (s : Session) (step : Step) : Report × Session :=
  let (answer, world) := (s.act step).run.run s.world
  let stage := world.outside
  let context := world.context
  let state := if stage.inUse then some ⟨context.disposed, context.current, context.outstanding⟩ else none
  (⟨answer, stage.journal, state, stage.census⟩,
    { s with
      slots := s.slotsAfter step answer
      world := ⟨context, { stage with journal := [] }⟩ })

def reports (s : Session) : List Step → List Report
  | [] => []
  | step :: rest =>
    let (report, s) := s.step step
    report :: reports s rest

end Session

end IndexQuery.Rehearsal
