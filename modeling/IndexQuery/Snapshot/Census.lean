import IndexQuery.Snapshot.Context

set_option autoImplicit false

/-!
A census of open snapshots, kept from the events of a context.
-/

namespace IndexQuery.Snapshot

structure Census where
  /-- Open snapshots by ascending generation, with the handles outstanding if release was deferred. -/
  live : List (Nat × Option Nat)
  created : Nat
  released : Nat
deriving DecidableEq

namespace Census

def empty : Census := ⟨[], 0, 0⟩

/-- Keeps the list ascending; an entry of the same generation is replaced. -/
def insert (generation : Nat) : List (Nat × Option Nat) → List (Nat × Option Nat)
  | [] => [(generation, none)]
  | (g, n) :: rest =>
    if generation < g then (generation, none) :: (g, n) :: rest
    else if generation = g then (generation, none) :: rest
    else (g, n) :: insert generation rest

def observe (event : Event) (c : Census) : Census :=
  match event with
  | .created generation => { c with live := insert generation c.live, created := c.created + 1 }
  | .released generation =>
    { c with live := c.live.filter (·.1 != generation), released := c.released + 1 }
  | .deferred generation outstanding =>
    { c with live := c.live.map fun (g, n) => if g = generation then (g, some outstanding) else (g, n) }

def count (c : Census) : Nat := c.live.length

def generations (c : Census) : List Nat := c.live.map (·.1)

def deferred (c : Census) : List (Nat × Nat) := c.live.filterMap fun (g, n) => n.map (g, ·)

end Census

end IndexQuery.Snapshot
