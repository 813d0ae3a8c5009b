import IndexQuery.Settings
import IndexQuery.Text.Quoted

set_option autoImplicit false

/-!
The bookkeeping of a snapshot context: which snapshots have been opened, who holds them, and which one
new claims get. `ρ` and `σ` are the readers and searchers of the index, `κ` the loading callbacks.
-/

namespace IndexQuery.Snapshot

variable {ρ σ κ : Type}

structure Tracker (ρ σ : Type) where
  generation : Nat
  reader : ρ
  searcher : σ
  clients : Nat
  /-- No longer current. -/
  retired : Bool
  /-- Closed. -/
  released : Bool

structure Handle where
  generation : Nat
  released : Bool
deriving DecidableEq

structure Context (ρ σ κ : Type) where
  settings : ContextSettings
  /-- Every snapshot ever opened, oldest first. -/
  trackers : List (Tracker ρ σ)
  /-- Every claim ever made, oldest first. -/
  handles : List Handle
  callbacks : List κ
  /-- Generation of the snapshot that new claims get. -/
  current : Option Nat
  disposed : Bool
  nextGeneration : Nat

inductive Event where
  | created (generation : Nat)
  | released (generation : Nat)
  /-- The context was disposed while handles held the snapshot. -/
  | deferred (generation outstanding : Nat)
deriving DecidableEq

namespace Tracker

def ofView (generation : Nat) (reader : ρ) (searcher : σ) : Tracker ρ σ :=
  ⟨generation, reader, searcher, 0, false, false⟩

/-- A retired snapshot that nobody holds is due to be closed, once. -/
def closable (t : Tracker ρ σ) : Bool := t.retired && t.clients == 0 && !t.released

def settle (t : Tracker ρ σ) : Tracker ρ σ := { t with released := t.released || t.closable }

def flagText (b : Bool) : String := if b then "true" else "false"

def describe (t : Tracker ρ σ) : String :=
  "SearcherTracker \x7b generation: " ++ toString t.generation ++ ", clients: " ++ toString t.clients ++
    ", pending_release: " ++ flagText t.retired ++ ", released: " ++ flagText t.released ++ ", .. \x7d"

end Tracker

def Handle.describe (h : Handle) : String :=
  "SnapshotHandle \x7b generation: " ++ toString h.generation ++ ", released: " ++
    Tracker.flagText h.released ++ " \x7d"

namespace Context

def ofSettings (settings : ContextSettings) : Context ρ σ κ := ⟨settings, [], [], [], none, false, 1⟩

def tracker? (c : Context ρ σ κ) (generation : Nat) : Option (Tracker ρ σ) :=
  c.trackers.find? (·.generation == generation)

def currentTracker? (c : Context ρ σ κ) : Option (Tracker ρ σ) := c.current.bind c.tracker?

def outstanding (c : Context ρ σ κ) : Nat :=
  match c.currentTracker? with
  | some t => t.clients
  | none => 0

def mapTracker (generation : Nat) (f : Tracker ρ σ → Tracker ρ σ) (c : Context ρ σ κ) : Context ρ σ κ :=
  { c with trackers := c.trackers.map fun t => if t.generation = generation then f t else t }

def addTracker (reader : ρ) (searcher : σ) (c : Context ρ σ κ) : Context ρ σ κ :=
  { c with
    trackers := c.trackers ++ [.ofView c.nextGeneration reader searcher]
    nextGeneration := c.nextGeneration + 1 }

/-- Adds a claim on a snapshot; its number is the count of claims before it. -/
def addHandle (generation : Nat) (c : Context ρ σ κ) : Context ρ σ κ :=
  { c.mapTracker generation fun t => { t with clients := t.clients + 1 } with
    handles := c.handles ++ [⟨generation, false⟩] }

def markReleased (handle : Nat) (c : Context ρ σ κ) : Context ρ σ κ :=
  { c with handles := c.handles.modify handle fun h => { h with released := true } }

def removeClient (generation : Nat) (c : Context ρ σ κ) : Context ρ σ κ :=
  c.mapTracker generation fun t => Tracker.settle { t with clients := t.clients - 1 }

def retireTracker (generation : Nat) (c : Context ρ σ κ) : Context ρ σ κ :=
  c.mapTracker generation fun t => Tracker.settle { t with retired := true }

def describe (c : Context ρ σ κ) : String :=
  let current := match c.currentTracker? with
    | some t => "Some(" ++ t.describe ++ ")"
    | none => "None"
  "Context \x7b name: " ++ Text.quoted c.settings.name ++ ", current: " ++ current ++ ", disposed: " ++
    Tracker.flagText c.disposed ++ ", .. \x7d"

end Context

end IndexQuery.Snapshot
