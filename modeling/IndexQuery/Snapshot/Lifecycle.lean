import IndexQuery.Query.Request
import IndexQuery.Snapshot.Context

set_option autoImplicit false

/-!
Claiming, releasing, reloading and disposing. The index behind a context is given by an engine, whose
operations may fail and may act on the context in turn; what they leave behind is kept on failure too.
-/

namespace IndexQuery.Snapshot

/-- A context and everything around it that its operations can change. -/
structure World (ω ρ σ κ : Type) where
  context : Context ρ σ κ
  outside : ω

/-- An operation that may fail; its effects stay. -/
abbrev Action (ω ρ σ κ α : Type) := ExceptT Error (StateM (World ω ρ σ κ)) α

structure Engine (ω ρ σ κ : Type) where
  openView : Action ω ρ σ κ (ρ × σ)
  /-- A reader of the present index; the same one if the index has not changed. -/
  reopen : ρ → Action ω ρ σ κ ρ
  searcher : ρ → Action ω ρ σ κ σ
  close : ρ → σ → Action ω ρ σ κ Unit
  /-- Closes a reader that never got a searcher. -/
  closeReader : ρ → Action ω ρ σ κ Unit
  sameReader : ρ → ρ → Bool
  search : σ → SearchRequest → Action ω ρ σ κ TopHits
  warm : κ → σ → Action ω ρ σ κ Unit
  observe : Event → ω → ω

inductive RetireOutcome where
  | released
  | deferred (outstanding : Nat)
  | alreadyRetired
deriving DecidableEq

inductive ReloadOutcome where
  /-- Nothing has been opened yet. -/
  | noSnapshot
  | unchanged
  | published (generation : Nat)
deriving DecidableEq

inductive DisposeOutcome where
  | released
  | deferred (outstanding : Nat)
  | alreadyDisposed
deriving DecidableEq

section

variable {ω ρ σ κ α : Type}

def attempt (action : Action ω ρ σ κ α) : Action ω ρ σ κ (Except Error α) := ExceptT.lift action.run

def getContext : Action ω ρ σ κ (Context ρ σ κ) := return (← get).context

def modifyContext (f : Context ρ σ κ → Context ρ σ κ) : Action ω ρ σ κ Unit :=
  modify fun w => { w with context := f w.context }

variable (E : Engine ω ρ σ κ)

def emit (event : Event) : Action ω ρ σ κ Unit :=
  modify fun w => { w with outside := E.observe event w.outside }

/-- Closes a snapshot. It counts as closed even if closing fails. -/
def closeTracker (t : Tracker ρ σ) : Action ω ρ σ κ Unit := do
  let outcome ← attempt (E.close t.reader t.searcher)
  emit E (.released t.generation)
  liftExcept outcome

def removeClient (generation : Nat) : Action ω ρ σ κ Unit := do
  match (← getContext).tracker? generation with
  | none => throw (.internal ("unknown snapshot generation " ++ toString generation))
  | some t =>
    if t.clients = 0 then
      throw (.internal ("client count underflow on snapshot generation " ++ toString generation))
    modifyContext (·.removeClient generation)
    if Tracker.closable { t with clients := t.clients - 1 } then closeTracker E t

/-- Takes a snapshot out of service and closes it if nobody holds it. A failure to close is dropped. -/
def retire (generation : Nat) : Action ω ρ σ κ RetireOutcome := do
  match (← getContext).tracker? generation with
  | none => return .alreadyRetired
  | some t =>
    if t.retired then return .alreadyRetired
    modifyContext (·.retireTracker generation)
    if Tracker.closable { t with retired := true } then
      let _ ← attempt (closeTracker E t)
      return .released
    else return .deferred t.clients

def claim (generation : Nat) : Action ω ρ σ κ Nat := do
  let c ← getContext
  match c.tracker? generation with
  | none => throw (.internal ("unknown snapshot generation " ++ toString generation))
  | some t =>
    if t.released then
      throw (.internal ("checkout on released snapshot generation " ++ toString generation))
    modifyContext (·.addHandle generation)
    return c.handles.length

def claimCurrent : Action ω ρ σ κ (Option Nat) := do
  let c ← getContext
  if c.disposed then throw .disposed
  match c.current with
  | some generation => return some (← claim generation)
  | none => return none

def track (reader : ρ) (searcher : σ) : Action ω ρ σ κ Nat := do
  let generation := (← getContext).nextGeneration
  modifyContext (·.addTracker reader searcher)
  emit E (.created generation)
  return generation

def checkout : Action ω ρ σ κ Nat := do
  match ← claimCurrent with
  | some handle => return handle
  | none =>
    let (reader, searcher) ← E.openView
    let generation ← track E reader searcher
    if (← getContext).disposed then
      let _ ← retire E generation
      throw .disposed
    let handle ← claim generation
    modifyContext fun c => { c with current := some generation }
    return handle

def release (handle : Nat) : Action ω ρ σ κ Unit := do
  match (← getContext).handles[handle]? with
  | none => throw .alreadyReleased
  | some h =>
    if h.released then throw .alreadyReleased
    modifyContext (·.markReleased handle)
    removeClient E h.generation

/-- Gives up a claim that has not been given up; failures are dropped. -/
def dropHandle (handle : Nat) : Action ω ρ σ κ Unit := do
  let _ ← attempt (release E handle)

/-- Runs the loading callbacks on a searcher; the first failure discards the snapshot. -/
def prewarm (generation : Nat) (searcher : σ) : List κ → Action ω ρ σ κ Unit
  | [] => return ()
  | callback :: rest => do
    match ← attempt (E.warm callback searcher) with
    | .ok () => prewarm generation searcher rest
    | .error e =>
      let _ ← retire E generation
      throw e

/-- A searcher for a reopened reader; the reader is closed if there is none. -/
def searcherFor (reader : ρ) : Action ω ρ σ κ σ := do
  match ← attempt (E.searcher reader) with
  | .ok searcher => return searcher
  | .error e =>
    let _ ← attempt (E.closeReader reader)
    throw e

def publish (generation : Nat) : Action ω ρ σ κ ReloadOutcome := do
  let c ← getContext
  if c.disposed then
    let _ ← retire E generation
    throw .disposed
  modifyContext fun c => { c with current := some generation }
  if let some previous := c.current then
    let _ ← retire E previous
  return .published generation

/-- Publishes a newer snapshot if the index has changed. On failure the current one stays. -/
def reload : Action ω ρ σ κ ReloadOutcome := do
  let c ← getContext
  if c.disposed then throw .disposed
  match c.currentTracker? with
  | none => return .noSnapshot
  | some old =>
    let reader ← E.reopen old.reader
    if E.sameReader reader old.reader then return .unchanged
    let searcher ← searcherFor E reader
    let generation ← track E reader searcher
    let c ← getContext
    if c.settings.prewarm then prewarm E generation searcher c.callbacks
    publish E generation

/-- Stops issuing handles and closes the current snapshot, at once or after the last release. -/
def dispose : Action ω ρ σ κ DisposeOutcome := do
  let c ← getContext
  if c.disposed then return .alreadyDisposed
  modifyContext fun c => { c with disposed := true, current := none }
  match c.current with
  | none => return .released
  | some generation =>
    match ← retire E generation with
    | .deferred outstanding =>
      emit E (.deferred generation outstanding)
      return .deferred outstanding
    | _ => return .released

end

end IndexQuery.Snapshot
