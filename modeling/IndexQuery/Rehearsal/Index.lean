import IndexQuery.Query.Wildcard
import IndexQuery.Snapshot.Census
import IndexQuery.Snapshot.Lifecycle

set_option autoImplicit false

/-!
An index in memory for rehearsing snapshot contexts. Its documents change and its operations fail on
demand, it can act on the context that is using it, and it keeps a journal of all it is asked. There is
also a mapping to rehearse with whose encoding can fail.
-/

namespace IndexQuery

/-- Numbers are stored behind a marker and found as ranges of one. -/
def FieldMapping.number (name : String) (sortKind : Option SortKind) : FieldMapping where
  name := name
  numeric := true
  sortKind := sortKind
  encode
    | .int i => .ok ("n" ++ Value.plain (.int i))
    | .float x => .ok ("n" ++ Value.plain (.float x))
    | value => .error (.invalidArgument ("field `" ++ name ++ "` is numeric, got " ++ value.kindName))
  exactQuery text := .ok (rangeOf name ⟨some text, some text, true, true⟩)
  rangeQuery terms := .ok (rangeOf name terms)
  order := compare

namespace Rehearsal

open Number (Binary32)
open Snapshot

structure Document where
  id : Nat
  score : Binary32
  title : Option String

/-- The documents of one version of the index. -/
structure Reader where
  number : Nat
  version : Nat
  documents : List Document

structure Searcher where
  reader : Reader

inductive Primitive where
  | openView
  | reopen
  | searcher
  | close
  | closeReader
  | search
deriving DecidableEq

namespace Primitive

def name : Primitive → String
  | openView => "open"
  | reopen => "reopen"
  | searcher => "searcher"
  | close => "close"
  | closeReader => "close_reader"
  | search => "search"

def all : List Primitive := [openView, reopen, searcher, close, closeReader, search]

def ofName? (name : String) : Option Primitive := all.find? (·.name == name)

end Primitive

/-- What the index does to the context while it is being used. -/
inductive Interruption where
  | dispose
  | reload
deriving DecidableEq

inductive Callback where
  | succeed
  | fail
  | claim
  /-- Claims the current snapshot and keeps the claim. -/
  | keep
  | dispose
  | search
deriving DecidableEq

namespace Callback

def name : Callback → String
  | succeed => "ok"
  | fail => "fail"
  | claim => "checkout"
  | keep => "keep"
  | dispose => "dispose"
  | search => "search"

def all : List Callback := [succeed, fail, claim, keep, dispose, search]

def ofName? (name : String) : Option Callback := all.find? (·.name == name)

end Callback

structure HandleFacts where
  generation : Nat
  released : Bool
  reader : Reader
  searcher : Searcher

inductive Entry where
  | operation (primitive : Primitive) (reader : Option Nat)
  | search (reader : Nat) (request : SearchRequest)
  | disposed (outcome : Except Error DisposeOutcome)
  | reloaded (outcome : Except Error ReloadOutcome)
  | event (event : Event)
  | callback (callback : Callback) (reader : Nat)
  | claimed (facts : HandleFacts)
  | found (hits : TopHits)

structure Stage where
  version : Nat
  documents : List Document
  failing : List Primitive
  /-- Happens once, in the next opening. -/
  onOpen : Option Interruption
  /-- Happens once, in the next search. -/
  onSearch : Option Interruption
  /-- A document that cannot be loaded. -/
  missing : Option Nat
  readers : Nat
  observed : Bool
  census : Census
  journal : List Entry
  /-- Handles claimed by callbacks and kept. -/
  kept : List Nat
  inUse : Bool

namespace Stage

def ofDocuments (documents : List Document) (observed : Bool) : Stage where
  version := 0
  documents := documents
  failing := []
  onOpen := none
  onSearch := none
  missing := none
  readers := 0
  observed := observed
  census := .empty
  journal := []
  kept := []
  inUse := true

def note (entry : Entry) (s : Stage) : Stage := { s with journal := s.journal ++ [entry] }

def observe (event : Event) (s : Stage) : Stage :=
  if s.observed then { s with census := s.census.observe event }.note (.event event) else s

end Stage

abbrev Act (α : Type) := Action Stage Reader Searcher Callback α
abbrev Index := Engine Stage Reader Searcher Callback

def getStage : Act Stage := return (← get).outside

def modifyStage (f : Stage → Stage) : Act Unit := modify fun w => { w with outside := f w.outside }

def note (entry : Entry) : Act Unit := modifyStage (·.note entry)

def check (primitive : Primitive) : Act Unit := do
  if (← getStage).failing.contains primitive then throw (.index (primitive.name ++ " failed"))

def record (primitive : Primitive) (reader : Option Nat) : Act Unit := do
  note (.operation primitive reader)
  check primitive

def newReader : Act Reader := do
  let s ← getStage
  modifyStage fun s => { s with readers := s.readers + 1 }
  return ⟨s.readers + 1, s.version, s.documents⟩

def titlePatterns : Query → List String
  | .bool clauses _ => clauses.filterMap fun clause =>
    match clause.occur, clause.query with
    | .must, .wildcard "title" pattern _ | .filter, .wildcard "title" pattern _ => some pattern
    | _, _ => none
  | _ => []

def Document.satisfies (d : Document) (patterns : List String) : Bool :=
  patterns.all fun pattern => d.title.any (Wildcard.accepts pattern)

def Reader.search (r : Reader) (request : SearchRequest) : TopHits :=
  let kept := r.documents.filter (·.satisfies (titlePatterns request.query))
  ⟨kept.length, (kept.take request.limit).map fun d => ⟨d.id, d.score⟩⟩

def indexWith (interrupt : Interruption → Act Unit) (warm : Callback → Searcher → Act Unit) : Index where
  openView := do
    record .openView none
    let reader ← newReader
    let s ← getStage
    modifyStage fun s => { s with onOpen := none }
    s.onOpen.forM interrupt
    return (reader, ⟨reader⟩)
  reopen reader := do
    record .reopen (some reader.number)
    if reader.version = (← getStage).version then return reader else newReader
  searcher reader := do
    record .searcher (some reader.number)
    return ⟨reader⟩
  close reader _ := record .close (some reader.number)
  closeReader reader := record .closeReader (some reader.number)
  sameReader a b := a.number == b.number
  search searcher request := do
    note (.search searcher.reader.number request)
    let s ← getStage
    modifyStage fun s => { s with onSearch := none }
    s.onSearch.forM interrupt
    check .search
    return searcher.reader.search request
  warm := warm
  observe := Stage.observe

def interrupt (index : Index) (interruption : Interruption) : Act Unit := do
  if (← getStage).inUse then
    match interruption with
    | .dispose => note (.disposed (← attempt (dispose index)))
    | .reload => note (.reloaded (← attempt (reload index)))

def handleFacts (handle : Nat) : Act HandleFacts := do
  let c ← getContext
  match c.handles[handle]? with
  | none => throw (.internal ("unknown handle " ++ toString handle))
  | some h => match c.tracker? h.generation with
    | none => throw (.internal ("unknown snapshot generation " ++ toString h.generation))
    | some t => return ⟨h.generation, h.released, t.reader, t.searcher⟩

def runCallback (index : Index) (callback : Callback) (searcher : Searcher) : Act Unit := do
  note (.callback callback searcher.reader.number)
  match callback with
  | .succeed => return ()
  | .fail => throw (.other "warm-up failed")
  | .claim =>
    let handle ← checkout index
    note (.claimed (← handleFacts handle))
    release index handle
  | .keep =>
    let handle ← checkout index
    note (.claimed (← handleFacts handle))
    modifyStage fun s => { s with kept := s.kept ++ [handle] }
  | .dispose => interrupt index .dispose
  | .search => note (.found (← index.search searcher .matchAll))

/-- Interruptions and callbacks may cause further ones, down to the given depth. -/
def indexOfDepth : Nat → Index
  | 0 => indexWith (fun _ => return ()) (fun _ _ => return ())
  | depth + 1 => indexWith (interrupt (indexOfDepth depth)) (runCallback (indexOfDepth depth))

/-- An interruption is used up before it acts, so that a reload inside a search and a callback inside
that reload are the deepest case. -/
def index : Index := indexOfDepth 4

end Rehearsal

end IndexQuery
