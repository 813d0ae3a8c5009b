import IndexQuery.Snapshot.Context
import Mathlib.Data.List.Nodup
import Mathlib.Logic.Relation

set_option autoImplicit false

/-!
The books of a snapshot context: clients are counted, retired snapshots that nobody holds are closed, and the
snapshots in service are known.

`Context.Books` is about snapshots and claims alone, for a given list of generations in service; each elementary
change of a context keeps it, with the list that belongs to the change. `Context.Sound` adds which snapshots these
are: the current one, and those that an operation has in hand. `Context.Meanwhile` is what may happen to a context
while an operation waits for the index; it keeps the books too (`Meanwhile.sound`).
-/

namespace IndexQuery.Snapshot

variable {ρ σ κ : Type}

namespace Context

/-- Claims on a snapshot that have not been given up. -/
def unreleased (c : Context ρ σ κ) (generation : Nat) : Nat :=
  c.handles.countP fun h => h.generation == generation && !h.released

structure Books (served : List Nat) (c : Context ρ σ κ) : Prop where
  distinct : (c.trackers.map (·.generation)).Nodup
  below : ∀ t ∈ c.trackers, t.generation < c.nextGeneration
  known : ∀ h ∈ c.handles, ∃ t ∈ c.trackers, t.generation = h.generation
  clients : ∀ t ∈ c.trackers, t.clients = c.unreleased t.generation
  released : ∀ t ∈ c.trackers, t.released = true ↔ t.retired = true ∧ t.clients = 0
  unretired : ∀ t ∈ c.trackers, t.retired = false ↔ t.generation ∈ served
  present : ∀ g ∈ served, ∃ t ∈ c.trackers, t.generation = g

theorem mem_mapTracker {g : Nat} {f : Tracker ρ σ → Tracker ρ σ} {c : Context ρ σ κ} {t : Tracker ρ σ} :
    t ∈ (c.mapTracker g f).trackers ↔ ∃ u ∈ c.trackers, t = if u.generation = g then f u else u := by
  simp only [mapTracker, List.mem_map, eq_comm]

theorem mapTracker_generations {g : Nat} {f : Tracker ρ σ → Tracker ρ σ} (hf : ∀ t, (f t).generation = t.generation)
    (c : Context ρ σ κ) : (c.mapTracker g f).trackers.map (·.generation) = c.trackers.map (·.generation) := by
  rw [mapTracker, List.map_map]
  congr 1
  funext t
  by_cases h : t.generation = g
  · simp [h, hf]
  · simp [h]

theorem countP_modify {α : Type} (p : α → Bool) (f : α → α) {l : List α} {i : Nat} {x : α} (h : l[i]? = some x) :
    (l.modify i f).countP p + (if p x then 1 else 0) = l.countP p + (if p (f x) then 1 else 0) := by
  induction l generalizing i with
  | nil => cases h
  | cons y l ih =>
    cases i with
    | zero =>
      cases h
      rw [List.modify_zero_cons, List.countP_cons, List.countP_cons]
      omega
    | succ i =>
      have hi := ih h
      rw [List.modify_succ_cons, List.countP_cons, List.countP_cons]
      omega

theorem unreleased_markReleased {c : Context ρ σ κ} {i : Nat} {x : Handle} (h : c.handles[i]? = some x)
    (hx : x.released = false) (g : Nat) :
    (c.markReleased i).unreleased g + (if x.generation = g then 1 else 0) = c.unreleased g := by
  have hcount := countP_modify (fun h : Handle => h.generation == g && !h.released)
    (fun h : Handle => { h with released := true }) h
  simpa [unreleased, markReleased, hx] using hcount

theorem unreleased_addHandle (c : Context ρ σ κ) (g g' : Nat) :
    (c.addHandle g).unreleased g' = c.unreleased g' + (if g = g' then 1 else 0) := by
  simp [unreleased, addHandle, List.countP_append, List.countP_cons]

namespace Books

variable {served : List Nat} {c : Context ρ σ κ}

theorem congr {served' : List Nat} (hb : c.Books served) (h : ∀ g, g ∈ served ↔ g ∈ served') : c.Books served' where
  distinct := hb.distinct
  below := hb.below
  known := hb.known
  clients := hb.clients
  released := hb.released
  unretired t ht := (hb.unretired t ht).trans (h _)
  present g hg := hb.present g ((h g).2 hg)

/-- What is current, disposed or registered does not enter the books. -/
theorem relabel (hb : c.Books served) (current : Option Nat) (disposed : Bool) (callbacks : List κ) :
    ({ c with current := current, disposed := disposed, callbacks := callbacks } : Context ρ σ κ).Books served :=
  ⟨hb.distinct, hb.below, hb.known, hb.clients, hb.released, hb.unretired, hb.present⟩

theorem ext_tracker (hb : c.Books served) {t u : Tracker ρ σ} (ht : t ∈ c.trackers) (hu : u ∈ c.trackers)
    (h : t.generation = u.generation) : t = u :=
  List.inj_on_of_nodup_map hb.distinct ht hu h

theorem tracker?_eq (hb : c.Books served) {t : Tracker ρ σ} (ht : t ∈ c.trackers) :
    c.tracker? t.generation = some t := by
  cases hf : c.tracker? t.generation with
  | none => simpa using List.find?_eq_none.1 hf t ht
  | some u =>
    have hg : u.generation = t.generation := by simpa using List.find?_some hf
    rw [hb.ext_tracker (List.mem_of_find?_eq_some hf) ht hg]

theorem unreleased (hb : c.Books served) {t : Tracker ρ σ} (ht : t ∈ c.trackers) (hr : t.retired = false) :
    t.released = false := by
  rw [← Bool.not_eq_true, hb.released t ht, hr]
  simp

theorem addTracker (hb : c.Books served) (reader : ρ) (searcher : σ) :
    (c.addTracker reader searcher).Books (served ++ [c.nextGeneration]) := by
  have hmem : ∀ t, t ∈ (c.addTracker reader searcher).trackers ↔
      t ∈ c.trackers ∨ t = .ofView c.nextGeneration reader searcher := by
    simp [Context.addTracker]
  have hfresh : ∀ t ∈ c.trackers, t.generation ≠ c.nextGeneration := fun t ht => Nat.ne_of_lt (hb.below t ht)
  refine ⟨?_, ?_, ?_, ?_, ?_, ?_, ?_⟩
  · rw [Context.addTracker, List.map_append, List.nodup_append]
    refine ⟨hb.distinct, by simp, ?_⟩
    intro a ha b hb' hab
    obtain ⟨t, ht, rfl⟩ := List.mem_map.1 ha
    rw [List.mem_singleton.1 hb'] at hab
    exact hfresh t ht hab
  · intro t ht
    change t.generation < c.nextGeneration + 1
    rcases (hmem t).1 ht with ht | rfl
    · exact Nat.lt_succ_of_lt (hb.below t ht)
    · exact Nat.lt_succ_self _
  · intro h hh
    obtain ⟨t, ht, hg⟩ := hb.known h hh
    exact ⟨t, (hmem t).2 (.inl ht), hg⟩
  · intro t ht
    rcases (hmem t).1 ht with ht | rfl
    · exact hb.clients t ht
    · refine (List.countP_eq_zero.2 ?_).symm
      intro h hh
      obtain ⟨t, ht, hg⟩ := hb.known h hh
      have hne : h.generation ≠ c.nextGeneration := hg ▸ hfresh t ht
      simp [Tracker.ofView, hne]
  · intro t ht
    rcases (hmem t).1 ht with ht | rfl
    · exact hb.released t ht
    · simp [Tracker.ofView]
  · intro t ht
    rw [List.mem_append, List.mem_singleton]
    rcases (hmem t).1 ht with ht | rfl
    · rw [hb.unretired t ht]
      exact ⟨.inl, fun h => h.resolve_right (hfresh t ht)⟩
    · exact iff_of_true rfl (.inr rfl)
  · intro g hg
    rcases List.mem_append.1 hg with hg | hg
    · obtain ⟨t, ht, rfl⟩ := hb.present g hg
      exact ⟨t, (hmem t).2 (.inl ht), rfl⟩
    · exact ⟨_, (hmem _).2 (.inr rfl), (List.mem_singleton.1 hg).symm⟩

/-- Changing one snapshot keeps the books if its entry is right afterwards and the others are not concerned. -/
theorem update (hb : c.Books served) {c' : Context ρ σ κ} {served' : List Nat} {g : Nat}
    {f : Tracker ρ σ → Tracker ρ σ} (hf : ∀ t, (f t).generation = t.generation)
    (htrackers : c'.trackers = (c.mapTracker g f).trackers) (hnext : c'.nextGeneration = c.nextGeneration)
    (hknown : ∀ h ∈ c'.handles, ∃ t ∈ c.trackers, t.generation = h.generation)
    (hserved : ∀ x, x ∈ served' → x ∈ served)
    (hother : ∀ x, x ≠ g → c'.unreleased x = c.unreleased x ∧ (x ∈ served → x ∈ served'))
    (hself : ∀ t ∈ c.trackers, t.generation = g → (f t).clients = c'.unreleased g ∧
      ((f t).released = true ↔ (f t).retired = true ∧ (f t).clients = 0) ∧
      ((f t).retired = false ↔ g ∈ served')) : c'.Books served' := by
  have hcases : ∀ t ∈ c'.trackers, (∃ u ∈ c.trackers, u.generation = g ∧ t = f u) ∨
      t ∈ c.trackers ∧ t.generation ≠ g := by
    intro t ht
    rw [htrackers, mem_mapTracker] at ht
    obtain ⟨u, hu, rfl⟩ := ht
    by_cases hg : u.generation = g
    · exact .inl ⟨u, hu, hg, by rw [if_pos hg]⟩
    · rw [if_neg hg]
      exact .inr ⟨hu, hg⟩
  have hgens : c'.trackers.map (·.generation) = c.trackers.map (·.generation) := by
    rw [htrackers, mapTracker_generations hf]
  have hpresent : ∀ x, (∃ t ∈ c.trackers, t.generation = x) → ∃ t ∈ c'.trackers, t.generation = x := by
    intro x hx
    have hm : x ∈ c'.trackers.map (·.generation) := by
      rw [hgens]
      exact List.mem_map.2 hx
    exact List.mem_map.1 hm
  refine ⟨hgens ▸ hb.distinct, ?_, fun h hh => hpresent _ (hknown h hh), ?_, ?_, ?_,
    fun x hx => hpresent x (hb.present x (hserved x hx))⟩
  · intro t ht
    rw [hnext]
    rcases hcases t ht with ⟨u, hu, _, rfl⟩ | ⟨ht, _⟩
    · rw [hf]
      exact hb.below u hu
    · exact hb.below t ht
  · intro t ht
    rcases hcases t ht with ⟨u, hu, hg, rfl⟩ | ⟨ht, hg⟩
    · rw [(hself u hu hg).1, hf, hg]
    · rw [hb.clients t ht, (hother _ hg).1]
  · intro t ht
    rcases hcases t ht with ⟨u, hu, hg, rfl⟩ | ⟨ht, _⟩
    · exact (hself u hu hg).2.1
    · exact hb.released t ht
  · intro t ht
    rcases hcases t ht with ⟨u, hu, hg, rfl⟩ | ⟨ht, hg⟩
    · rw [hf, hg]
      exact (hself u hu hg).2.2
    · rw [hb.unretired t ht]
      exact ⟨(hother _ hg).2, hserved _⟩

theorem addHandle (hb : c.Books served) {g : Nat} (hg : g ∈ served) : (c.addHandle g).Books served := by
  obtain ⟨t₀, ht₀, rfl⟩ := hb.present g hg
  refine hb.update (f := fun t => { t with clients := t.clients + 1 }) (fun _ => rfl) rfl rfl ?_ (fun _ => id) ?_ ?_
  · intro h hh
    rcases List.mem_append.1 hh with hh | hh
    · exact hb.known h hh
    · rw [List.mem_singleton.1 hh]
      exact ⟨t₀, ht₀, rfl⟩
  · intro x hx
    rw [unreleased_addHandle, if_neg (Ne.symm hx)]
    exact ⟨rfl, id⟩
  · intro t ht htg
    have hretired : t.retired = false := (hb.unretired t ht).2 (htg ▸ hg)
    have hreleased := hb.unreleased ht hretired
    refine ⟨?_, ?_, ?_⟩
    · rw [unreleased_addHandle, if_pos rfl, hb.clients t ht, htg]
    · simp [hretired, hreleased]
    · simp [hretired, hg]

/-- Giving up a claim takes off one client, and closes the snapshot if it was the last of a retired one. -/
theorem giveUp (hb : c.Books served) {i : Nat} {h : Handle} (hi : c.handles[i]? = some h)
    (hh : h.released = false) : ((c.markReleased i).removeClient h.generation).Books served := by
  have hcount := unreleased_markReleased hi hh
  refine hb.update (f := fun t => Tracker.settle { t with clients := t.clients - 1 }) (fun _ => rfl) rfl rfl ?_
    (fun _ => id) ?_ ?_
  · intro x hx
    obtain ⟨j, hj⟩ := List.mem_iff_getElem?.1 hx
    change (c.handles.modify i fun h => { h with released := true })[j]? = some x at hj
    rw [List.getElem?_modify] at hj
    obtain ⟨y, hy, hxy⟩ := Option.map_eq_some_iff.1 hj
    obtain ⟨t, ht, htg⟩ := hb.known y (List.mem_of_getElem? hy)
    refine ⟨t, ht, ?_⟩
    rw [htg, ← hxy]
    split <;> rfl
  · intro x hx
    have hcx := hcount x
    rw [if_neg (Ne.symm hx)] at hcx
    exact ⟨hcx, id⟩
  · intro t ht htg
    have hcx := hcount h.generation
    rw [if_pos rfl] at hcx
    have hclients := hb.clients t ht
    rw [htg] at hclients
    have hnotreleased : t.released = false := by
      rw [← Bool.not_eq_true, hb.released t ht]
      omega
    refine ⟨?_, ?_, ?_⟩
    · change t.clients - 1 = (c.markReleased i).unreleased h.generation
      omega
    · simp [Tracker.settle, Tracker.closable, hnotreleased]
    · rw [← htg]
      exact hb.unretired t ht

theorem retireTracker (hb : c.Books served) (g : Nat) :
    (c.retireTracker g).Books (served.filter (· ≠ g)) := by
  refine hb.update (f := fun t => Tracker.settle { t with retired := true }) (fun _ => rfl) rfl rfl hb.known ?_ ?_ ?_
  · intro x hx
    exact (List.mem_filter.1 hx).1
  · intro x hx
    exact ⟨rfl, fun hs => List.mem_filter.2 ⟨hs, by simpa using hx⟩⟩
  · intro t ht htg
    refine ⟨?_, ?_, ?_⟩
    · rw [← htg]
      exact hb.clients t ht
    · have hreleased := hb.released t ht
      cases hr : t.released with
      | true =>
        rw [hr] at hreleased
        simp [Tracker.settle, (hreleased.1 rfl).2]
      | false => simp [Tracker.settle, Tracker.closable]
    · simp [Tracker.settle]

end Books

/-! ### Which snapshots are in service -/

/-- The books are right, and the snapshots in service are the current one and those in hand. -/
structure Sound (inHand : List Nat) (c : Context ρ σ κ) : Prop where
  books : c.Books (c.current.toList ++ inHand)
  apart : (c.current.toList ++ inHand).Nodup
  disposed : c.disposed = true → c.current = none

def serving (g : Nat) (c : Context ρ σ κ) : Context ρ σ κ := { c with current := some g }

def withdrawn (c : Context ρ σ κ) : Context ρ σ κ := { c with disposed := true, current := none }

namespace Sound

variable {inHand : List Nat} {c : Context ρ σ κ}

theorem ofSettings (settings : ContextSettings) : (Context.ofSettings settings : Context ρ σ κ).Sound [] where
  books := by constructor <;> simp [Context.ofSettings]
  apart := by simp [Context.ofSettings]
  disposed := by simp [Context.ofSettings]

theorem served (hs : c.Sound inHand) {g : Nat} (hg : c.current = some g ∨ g ∈ inHand) :
    ∃ t ∈ c.trackers, t.generation = g ∧ t.retired = false := by
  have hmem : g ∈ c.current.toList ++ inHand := by simpa using hg
  obtain ⟨t, ht, rfl⟩ := hs.books.present g hmem
  exact ⟨t, ht, rfl, (hs.books.unretired t ht).2 hmem⟩

theorem addTracker (hs : c.Sound []) (reader : ρ) (searcher : σ) :
    (c.addTracker reader searcher).Sound [c.nextGeneration] where
  books := by
    have hb := hs.books.addTracker reader searcher
    rwa [List.append_nil] at hb
  apart := by
    refine List.nodup_append.2 ⟨?_, by simp, ?_⟩
    · have ha := hs.apart
      rwa [List.append_nil] at ha
    · intro g hg n hn
      obtain ⟨t, ht, rfl⟩ := hs.books.present g (List.mem_append_left _ hg)
      rw [List.mem_singleton.1 hn]
      exact Nat.ne_of_lt (hs.books.below t ht)
  disposed := hs.disposed

theorem addHandle (hs : c.Sound inHand) {g : Nat} (hg : c.current = some g ∨ g ∈ inHand) :
    (c.addHandle g).Sound inHand where
  books := hs.books.addHandle (by simpa using hg)
  apart := hs.apart
  disposed := hs.disposed

theorem giveUp (hs : c.Sound inHand) {i : Nat} {h : Handle} (hi : c.handles[i]? = some h) (hh : h.released = false) :
    ((c.markReleased i).removeClient h.generation).Sound inHand where
  books := hs.books.giveUp hi hh
  apart := hs.apart
  disposed := hs.disposed

theorem retireTracker {g : Nat} (hs : c.Sound (g :: inHand)) : (c.retireTracker g).Sound inHand := by
  obtain ⟨hnot, hapart⟩ := List.nodup_cons.1 (List.nodup_middle.1 hs.apart)
  refine ⟨(hs.books.retireTracker g).congr ?_, hapart, hs.disposed⟩
  intro x
  rw [List.mem_filter, List.mem_append, List.mem_cons]
  by_cases hx : x = g
  · subst hx
    exact iff_of_false (by simp) hnot
  · simp [Context.retireTracker, Context.mapTracker, hx]

/-- A snapshot in hand becomes the current one, and the one before it comes into hand. -/
theorem publish {g : Nat} (hs : c.Sound [g]) (hd : c.disposed = false) : (c.serving g).Sound c.current.toList where
  books := (hs.books.relabel (some g) c.disposed c.callbacks).congr (by simp [serving, or_comm])
  apart := List.nodup_append_comm.1 hs.apart
  disposed h := by
    rw [serving, hd] at h
    cases h

theorem withdraw (hs : c.Sound inHand) : c.withdrawn.Sound (c.current.toList ++ inHand) where
  books := hs.books.relabel none true c.callbacks
  apart := hs.apart
  disposed _ := rfl

theorem register (hs : c.Sound inHand) (callbacks : List κ) :
    ({ c with callbacks := callbacks } : Context ρ σ κ).Sound inHand where
  books := hs.books.relabel c.current c.disposed callbacks
  apart := hs.apart
  disposed := hs.disposed

end Sound

/-! ### While an operation waits -/

/-- What may happen to a context while the index is at work for it: the current snapshot is claimed, claims are given
up, callbacks are registered, the context is disposed. Opening and reloading wait for each other, and so do not occur. -/
inductive Meanwhile (c : Context ρ σ κ) : Context ρ σ κ → Prop where
  | rest : Meanwhile c c
  | claim {c' : Context ρ σ κ} {g : Nat} (before : Meanwhile c c') (hg : c'.current = some g) :
      Meanwhile c (c'.addHandle g)
  | giveUp {c' : Context ρ σ κ} {i : Nat} {h : Handle} (before : Meanwhile c c') (hi : c'.handles[i]? = some h)
      (hh : h.released = false) : Meanwhile c ((c'.markReleased i).removeClient h.generation)
  | register {c' : Context ρ σ κ} (before : Meanwhile c c') (callback : κ) :
      Meanwhile c { c' with callbacks := c'.callbacks ++ [callback] }
  | dispose {c' : Context ρ σ κ} {g : Nat} (before : Meanwhile c c') (hg : c'.current = some g) :
      Meanwhile c (c'.withdrawn.retireTracker g)
  | disposeEmpty {c' : Context ρ σ κ} (before : Meanwhile c c') (hc : c'.current = none) : Meanwhile c c'.withdrawn

namespace Meanwhile

variable {inHand : List Nat} {c c' : Context ρ σ κ}

theorem sound (h : Meanwhile c c') (hs : c.Sound inHand) : c'.Sound inHand := by
  induction h with
  | rest => exact hs
  | claim _ hg ih => exact ih.addHandle (.inl hg)
  | giveUp _ hi hh ih => exact ih.giveUp hi hh
  | register _ _ ih => exact ih.register _
  | dispose _ hg ih =>
    have hw := ih.withdraw
    rw [hg] at hw
    exact hw.retireTracker
  | disposeEmpty _ hc ih =>
    have hw := ih.withdraw
    rwa [hc] at hw

theorem trans {b : Context ρ σ κ} (hab : c.Meanwhile b) (hbc : b.Meanwhile c') : c.Meanwhile c' := by
  induction hbc with
  | rest => exact hab
  | claim _ hg ih => exact ih.claim hg
  | giveUp _ hi hh ih => exact ih.giveUp hi hh
  | register _ callback ih => exact ih.register callback
  | dispose _ hg ih => exact ih.dispose hg
  | disposeEmpty _ hc ih => exact ih.disposeEmpty hc

/-- The current snapshot stays unless the context is disposed. -/
theorem current {current : Option Nat} (h : Meanwhile c c') (hc : c.disposed = true ∨ c.current = current) :
    c'.disposed = true ∨ c'.current = current := by
  induction h with
  | rest => exact hc
  | claim _ _ ih | giveUp _ _ _ ih | register _ _ ih => exact ih
  | dispose | disposeEmpty => exact .inl rfl

end Meanwhile

/-! ### What never changes back -/

inductive Change (c : Context ρ σ κ) : Context ρ σ κ → Prop where
  | addTracker (reader : ρ) (searcher : σ) : Change c (c.addTracker reader searcher)
  | addHandle (g : Nat) : Change c (c.addHandle g)
  | markReleased (i : Nat) : Change c (c.markReleased i)
  | removeClient (g : Nat) : Change c (c.removeClient g)
  | retireTracker (g : Nat) : Change c (c.retireTracker g)
  | serving (g : Nat) : Change c (c.serving g)
  | withdrawn : Change c c.withdrawn
  | register (callback : κ) : Change c { c with callbacks := c.callbacks ++ [callback] }

abbrev Changes : Context ρ σ κ → Context ρ σ κ → Prop := Relation.ReflTransGen Change

theorem Meanwhile.changes {c c' : Context ρ σ κ} (h : Meanwhile c c') : c.Changes c' := by
  induction h with
  | rest => exact .refl
  | claim _ _ ih => exact ih.tail (.addHandle _)
  | giveUp _ _ _ ih => exact (ih.tail (.markReleased _)).tail (.removeClient _)
  | register _ callback ih => exact ih.tail (.register callback)
  | dispose _ _ ih => exact (ih.tail .withdrawn).tail (.retireTracker _)
  | disposeEmpty _ _ ih => exact ih.tail .withdrawn

theorem disposed_of_changes {c c' : Context ρ σ κ} (h : c.Changes c') (hd : c.disposed = true) : c'.disposed = true := by
  induction h with
  | refl => exact hd
  | tail _ hstep ih =>
    cases hstep with
    | withdrawn => rfl
    | addTracker | addHandle | markReleased | removeClient | retireTracker | serving | register => exact ih

def GivenUp (i : Nat) (c : Context ρ σ κ) : Prop := ∃ h, c.handles[i]? = some h ∧ h.released = true

theorem GivenUp.addHandle {c : Context ρ σ κ} {i : Nat} (h : c.GivenUp i) (g : Nat) : (c.addHandle g).GivenUp i := by
  obtain ⟨x, hx, hr⟩ := h
  obtain ⟨hlt, _⟩ := List.getElem?_eq_some_iff.1 hx
  refine ⟨x, ?_, hr⟩
  rw [Context.addHandle, List.getElem?_append_left hlt]
  exact hx

theorem GivenUp.markReleased {c : Context ρ σ κ} {i : Nat} (h : c.GivenUp i) (j : Nat) :
    (c.markReleased j).GivenUp i := by
  obtain ⟨x, hx, hr⟩ := h
  refine ⟨if j = i then { x with released := true } else x, ?_, by split <;> simp [hr]⟩
  rw [Context.markReleased, List.getElem?_modify, hx]
  rfl

theorem GivenUp.changes {c c' : Context ρ σ κ} {i : Nat} (h : c.GivenUp i) (hc : c.Changes c') : c'.GivenUp i := by
  induction hc with
  | refl => exact h
  | tail _ hstep ih =>
    cases hstep with
    | addHandle g => exact ih.addHandle g
    | markReleased j => exact ih.markReleased j
    | addTracker | removeClient | retireTracker | serving | withdrawn | register => exact ih

theorem markReleased_givenUp {c : Context ρ σ κ} {i : Nat} (h : i < c.handles.length) :
    (c.markReleased i).GivenUp i := by
  refine ⟨{ c.handles[i] with released := true }, ?_, rfl⟩
  rw [Context.markReleased, List.getElem?_modify, List.getElem?_eq_getElem h]
  simp

end Context

end IndexQuery.Snapshot
