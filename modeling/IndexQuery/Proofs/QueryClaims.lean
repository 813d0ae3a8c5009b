import IndexQuery.Proofs.FailedOperations
import IndexQuery.Proofs.ResultWindow

set_option autoImplicit false

/-!
Running a query gives back the claim it takes.

A query holds a claim on the current snapshot while it searches and loads hits, which leave the context alone
(`search_leaves`). The claim is given up whatever becomes of the search, so that all snapshots are as they were, and
one that had to be opened for the query is held by nobody (`execute_trackers`). A query that cannot be planned does
not get as far as claiming anything (`execute_unplanned`, `execute_planned`).
-/

namespace IndexQuery

open Snapshot

variable {ω ρ σ κ ι : Type}

namespace Snapshot

/-! ### Actions that leave the context alone -/

def Leaves {α : Type} (action : Action ω ρ σ κ α) : Prop := ∀ w, (outcome action w).2.context = w.context

theorem Leaves.bind {α β : Type} {action : Action ω ρ σ κ α} {next : α → Action ω ρ σ κ β} (h : Leaves action)
    (hnext : ∀ a, Leaves (next a)) : Leaves (action >>= next) := by
  intro w
  have hw := h w
  rw [outcome_bind]
  rcases ho : outcome action w with ⟨e | a, w₁⟩
  · rwa [ho] at hw
  · rw [ho] at hw
    exact (hnext a w₁).trans hw

theorem liftExcept_leaves {α : Type} (result : Except Error α) : Leaves (liftExcept result : Action ω ρ σ κ α) := by
  intro w
  rw [outcome_liftExcept]

/-! ### A claim that is given up again -/

/-- Claiming a snapshot in service and giving the claim up leaves all snapshots as they were. -/
theorem Context.Books.claim_giveUp {c : Context ρ σ κ} {served : List Nat} (hb : c.Books served) {g : Nat}
    (hg : g ∈ served) (i : Nat) : (((c.addHandle g).markReleased i).removeClient g).trackers = c.trackers := by
  change (c.trackers.map fun t => if t.generation = g then { t with clients := t.clients + 1 } else t).map
    (fun t => if t.generation = g then Tracker.settle { t with clients := t.clients - 1 } else t) = c.trackers
  rw [List.map_map]
  refine (List.map_congr_left fun t ht => ?_).trans (List.map_id _)
  by_cases htg : t.generation = g
  · have hr : t.retired = false := (hb.unretired t ht).2 (htg ▸ hg)
    obtain ⟨generation, reader, searcher, clients, retired, released⟩ := t
    cases htg
    cases hr
    simp [Tracker.settle, Tracker.closable]
  · simp [htg]

theorem checkout_fails {E : Engine ω ρ σ κ} (hE : E.Keeps Context.Meanwhile) (hopen : Leaves E.openView)
    {w w₁ : World ω ρ σ κ} (hs : w.context.Sound []) {e : Error} (h : outcome (checkout E) w = (.error e, w₁)) :
    w₁.context = w.context := by
  obtain ⟨result, w', hout, hcourse⟩ := checkout_course hE hs
  obtain ⟨rfl, rfl⟩ := Prod.mk.inj (hout.symm.trans h)
  have hw := hopen w
  cases hcourse with
  | disposed => rfl
  | unopened _ _ ho => rwa [ho] at hw
  | overtaken hd _ ho hd₁ =>
    -- Nobody can dispose the context while it is being opened.
    rw [ho] at hw
    rw [hw, hd] at hd₁
    cases hd₁

/-- What a checkout leaves to be given up: a claim on the current snapshot, which may be a new one. -/
theorem checkout_giveUp {E : Engine ω ρ σ κ} (hE : E.Keeps Context.Meanwhile) (hopen : Leaves E.openView)
    {w w₁ : World ω ρ σ κ} (hs : w.context.Sound []) {handle : Nat} (h : outcome (checkout E) w = (.ok handle, w₁)) :
    ∃ t ∈ w₁.context.trackers, w₁.context.current = some t.generation ∧
      w₁.context.handles[handle]? = some ⟨t.generation, false⟩ ∧
      ∃ opened, ((w₁.context.markReleased handle).removeClient t.generation).trackers =
        w.context.trackers ++ opened ∧ ∀ u ∈ opened, u.clients = 0 := by
  obtain ⟨hs₁, t, ht, hcur, hh⟩ := checkout_claims hE hs h
  refine ⟨t, ht, hcur, hh, ?_⟩
  obtain ⟨result, w', hout, hcourse⟩ := checkout_course hE hs
  obtain ⟨rfl, rfl⟩ := Prod.mk.inj (hout.symm.trans h)
  cases hcourse with
  | claimed _ hg =>
    obtain rfl := Option.some.inj (hg.symm.trans hcur)
    refine ⟨[], ?_, nofun⟩
    rw [List.append_nil]
    exact hs.books.claim_giveUp (by simp [hg]) _
  | @opened reader searcher w₂ _ _ ho =>
    have hc₂ : w₂.context = w.context := by
      have hw := hopen w
      rwa [ho] at hw
    have hg : w₂.context.nextGeneration = t.generation := Option.some.inj hcur
    have hs₂ : (w₂.context.addTracker reader searcher).Sound [w₂.context.nextGeneration] := by
      rw [hc₂]
      exact hs.addTracker reader searcher
    refine ⟨[.ofView w.context.nextGeneration reader searcher], ?_, by simp [Tracker.ofView]⟩
    rw [← hg]
    refine (hs₂.books.claim_giveUp (by simp) w₂.context.handles.length).trans ?_
    rw [hc₂]
    rfl

end Snapshot

namespace Executor

variable {x : Executor ω ρ σ κ ι}

/-- The index is opened and searched, and hits are loaded, without using the context; all of this may fail. Loading
callbacks and the other operations of the index may use it. -/
structure Undisturbed (x : Executor ω ρ σ κ ι) : Prop where
  engine : x.engine.Keeps Context.Meanwhile
  openView : Leaves x.engine.openView
  search : ∀ searcher request, Leaves (x.engine.search searcher request)
  mapper : ∀ searcher hit, Leaves (x.mapper searcher hit)

theorem mapHits_leaves (hx : x.Undisturbed) (searcher : σ) (hits : List Hit) : Leaves (x.mapHits searcher hits) := by
  induction hits with
  | nil => exact fun _ => rfl
  | cons hit rest ih => exact (hx.mapper searcher hit).bind fun item => ih.bind fun items => fun _ => rfl

theorem search_leaves (hx : x.Undisturbed) (p : Plan ι) (searcher : σ) : Leaves (x.search p searcher) := by
  refine (hx.search searcher _).bind fun found => ?_
  cases p.countsOnly with
  | true => exact fun _ => rfl
  | false => exact (mapHits_leaves hx searcher _).bind fun items => liftExcept_leaves _

theorem searcherOf_leaves (handle : Nat) : Leaves (searcherOf handle : Action ω ρ σ κ σ) := by
  intro w
  rw [searcherOf, outcome_bind_ok (outcome_getContext w)]
  cases w.context.handles[handle]?.bind fun h => w.context.tracker? h.generation <;> rfl

/-! ### Queries that are not run -/

theorem execute_unplanned {m : QueryModel ι} {e : Error} (hp : x.compiler.plan m = .error e) (w : World ω ρ σ κ) :
    outcome (x.execute m) w = (.error e, w) := by
  rw [execute, hp]
  exact outcome_bind_error (outcome_liftExcept (.error e) w) _

theorem execute_planned {m : QueryModel ι} {p : Plan ι} (hp : x.compiler.plan m = .ok p) (w : World ω ρ σ κ) :
    outcome (x.execute m) w =
      match p.unsupported with
      | operator :: _ => (.error (.unsupportedResultOperator operator), w)
      | [] => outcome (do
          let handle ← checkout x.engine
          let result ← attempt (do x.search p (← searcherOf handle))
          release x.engine handle
          liftExcept result) w := by
  rw [execute, hp, outcome_bind_ok (outcome_liftExcept (.ok p) w)]
  cases p.unsupported <;> rfl

/-! ### Queries that are run -/

/-- The claim of a query is given up whatever becomes of the search. -/
theorem execute_claimed (hx : x.Undisturbed) {m : QueryModel ι} {p : Plan ι} (hp : x.compiler.plan m = .ok p)
    (hsupported : p.unsupported = []) {w w₁ : World ω ρ σ κ} (hs₁ : w₁.context.Sound []) {handle : Nat}
    (hc : outcome (checkout x.engine) w = (.ok handle, w₁)) {t : Tracker ρ σ} (ht : t ∈ w₁.context.trackers)
    (hcur : w₁.context.current = some t.generation) (hh : w₁.context.handles[handle]? = some ⟨t.generation, false⟩) :
    (outcome (x.execute m) w).2.context = (w₁.context.markReleased handle).removeClient t.generation := by
  let run : Action ω ρ σ κ (QueryResult ι) := do x.search p (← searcherOf handle)
  have hrun : (outcome run w₁).2.context = w₁.context :=
    (searcherOf_leaves handle).bind (fun searcher => search_leaves hx p searcher) w₁
  have hrelease : outcome (release x.engine handle) (outcome run w₁).2 = _ :=
    outcome_release_current (hrun.symm ▸ hs₁) (hrun.symm ▸ ht) (hrun.symm ▸ hcur) (hrun.symm ▸ hh)
  rw [execute_planned hp, hsupported]
  simp only
  rw [outcome_bind_ok hc, outcome_bind_ok (outcome_attempt run w₁), outcome_bind_ok hrelease, outcome_liftExcept, hrun]

/-- After a query, all snapshots are as they were, and one that was opened for it has no clients. -/
theorem execute_trackers (hx : x.Undisturbed) {w : World ω ρ σ κ} (hs : w.context.Sound []) (m : QueryModel ι) :
    (outcome (x.execute m) w).2.context.Sound [] ∧
    ∃ opened, (outcome (x.execute m) w).2.context.trackers = w.context.trackers ++ opened ∧
      ∀ t ∈ opened, t.clients = 0 := by
  have hsame : ∀ {w' : World ω ρ σ κ}, w'.context = w.context → w'.context.Sound [] ∧
      ∃ opened, w'.context.trackers = w.context.trackers ++ opened ∧ ∀ t ∈ opened, t.clients = 0 := by
    intro w' hw
    rw [hw]
    exact ⟨hs, [], (List.append_nil _).symm, nofun⟩
  cases hp : x.compiler.plan m with
  | error e =>
    rw [execute_unplanned hp]
    exact hsame rfl
  | ok p =>
    cases hu : p.unsupported with
    | cons operator rest =>
      rw [execute_planned hp, hu]
      exact hsame rfl
    | nil =>
      rcases hc : outcome (checkout x.engine) w with ⟨e | handle, w₁⟩
      · rw [execute_planned hp, hu]
        simp only
        rw [outcome_bind_error hc]
        exact hsame (checkout_fails hx.engine hx.openView hs hc)
      · have hs₁ := (checkout_claims hx.engine hs hc).1
        obtain ⟨t, ht, hcur, hh, hopened⟩ := checkout_giveUp hx.engine hx.openView hs hc
        rw [execute_claimed hx hp hu hs₁ hc ht hcur hh]
        exact ⟨hs₁.giveUp hh rfl, hopened⟩

/-! ### Any number of queries, among other uses of the context -/

inductive Reachable (x : Executor ω ρ σ κ ι) : World ω ρ σ κ → Prop where
  | start (settings : ContextSettings) (outside : ω) : Reachable x (.start settings outside)
  | use {w : World ω ρ σ κ} (before : Reachable x w) (use : Use κ) : Reachable x (outcome (use.perform x.engine) w).2
  | query {w : World ω ρ σ κ} (before : Reachable x w) (m : QueryModel ι) : Reachable x (outcome (x.execute m) w).2

theorem Reachable.sound (hx : x.Undisturbed) {w : World ω ρ σ κ} (hw : x.Reachable w) : w.context.Sound [] := by
  induction hw with
  | start settings => exact .ofSettings settings
  | use _ use ih => exact (after_course hx.engine ih [use]).1
  | query _ m ih => exact (execute_trackers hx ih m).1

def journaled (x : Executor ω ρ σ κ ι) : Executor (Journaled ω ρ σ κ) ρ σ κ ι :=
  ⟨x.engine.journaled, x.compiler, fun searcher hit => recording (fun _ => .search) (x.mapper searcher hit)⟩

/-- Whatever becomes of a query, it leaves every snapshot with the clients it had, and a new one without any. If it
cannot be planned or has an operator that is not supported, neither the context nor anything outside is touched, and no
call of the index or of the mapper is noted. -/
theorem execute_keeps_clients (hx : x.Undisturbed) {w : World ω ρ σ κ} (hw : x.Reachable w) (m : QueryModel ι) :
    (∃ opened, (outcome (x.execute m) w).2.context.trackers = w.context.trackers ++ opened ∧
      ∀ t ∈ opened, t.clients = 0) ∧
    ∀ e, (x.compiler.plan m = .error e ∨ ∃ p operator rest, x.compiler.plan m = .ok p ∧
        p.unsupported = operator :: rest ∧ e = .unsupportedResultOperator operator) →
      outcome (x.execute m) w = (.error e, w) ∧
      ∀ J, outcome (x.journaled.execute m) ⟨w.context, w.outside, J⟩ = (.error e, ⟨w.context, w.outside, J⟩) := by
  refine ⟨(execute_trackers hx (hw.sound hx) m).2, ?_⟩
  rintro e (hp | ⟨p, operator, rest, hp, hu, rfl⟩)
  · exact ⟨execute_unplanned hp w, fun J => execute_unplanned (x := x.journaled) hp _⟩
  · refine ⟨?_, fun J => ?_⟩
    · rw [execute_planned hp, hu]
    · rw [execute_planned (x := x.journaled) hp, hu]

/-- An index of five documents, one of which cannot be loaded. -/
def torn : Executor Nat Nat Nat Unit Nat where
  engine := numbering fun _ => do let _ ← claimCurrent
  compiler := ⟨FieldRegistry.empty.provider, .standard⟩
  mapper _ hit := if hit.document = 3 then throw (.other "torn out") else pure hit.document

/-- A query opens the index and fails, a claim is made, and another query fails; a third is not run. -/
theorem execute_keeps_clients_torn :
    let w := (outcome (Use.checkout.perform torn.engine)
      (outcome (torn.execute (.index "shelf" [] [])) (.start .standard 0)).2).2
    w.context.trackers.map (·.clients) = [1] ∧
      (∃ opened, (outcome (torn.execute (.index "shelf" [] [])) w).2.context.trackers =
        w.context.trackers ++ opened ∧ ∀ t ∈ opened, t.clients = 0) ∧
      outcome (torn.execute (.index "shelf" [] [.other "distinct"])) w =
        (.error (.unsupportedResultOperator "distinct"), w) := by
  intro w
  have hx : torn.Undisturbed := by
    refine ⟨numbering_keeps (fun _ => .rest) fun _ => claimCurrent_meanwhile, fun _ => rfl, fun _ _ _ => rfl, ?_⟩
    intro searcher hit w
    by_cases h : hit.document = 3 <;> simp [torn, h]
  have hw : torn.Reachable w := ((Reachable.start .standard 0).query (.index "shelf" [] [])).use .checkout
  have hrefused := (execute_keeps_clients hx hw (.index "shelf" [] [.other "distinct"])).2
    (.unsupportedResultOperator "distinct") (.inr ⟨_, "distinct", [], rfl, rfl, rfl⟩)
  exact ⟨by decide +kernel, (execute_keeps_clients hx hw (.index "shelf" [] [])).1, hrefused.1⟩

end Executor

end IndexQuery
