import IndexQuery.Proofs.ReaderClosings

set_option autoImplicit false

/-!
What a claim sees never changes, and new claims see what was published last.

The elementary changes of a context only ever add to what claims see (`views_extend`, `claimed_extend`), and new
snapshots come in ascending order (`Ascending.changes`). A published snapshot serves all claims until the next one is
published (`ServesSince`), since nothing else can take its place: others may claim, give up and dispose, but they
cannot open or publish. Both are put together for all runs in `snapshots_isolated`.
-/

namespace IndexQuery.Snapshot

variable {ω ρ σ κ : Type}

/-! ### What a claim sees -/

namespace Context

def view? (c : Context ρ σ κ) (handle : Nat) : Option (View ρ σ) :=
  c.handles[handle]?.bind fun h => (c.tracker? h.generation).map Tracker.view

def claimed (c : Context ρ σ κ) : List Nat := c.handles.map (·.generation)

theorem tracker?_view (c : Context ρ σ κ) (g : Nat) :
    (c.tracker? g).map Tracker.view = c.views.find? (·.generation == g) := by
  rw [tracker?, views, List.find?_map]
  rfl

theorem view?_eq (c : Context ρ σ κ) (i : Nat) :
    c.view? i = c.claimed[i]?.bind fun g => c.views.find? (·.generation == g) := by
  rw [view?, claimed, List.getElem?_map, Option.bind_map]
  simp only [tracker?_view, Function.comp_def]

theorem claimed_markReleased (c : Context ρ σ κ) (i : Nat) : (c.markReleased i).claimed = c.claimed := by
  apply List.ext_getElem?
  intro j
  rw [claimed, claimed, List.getElem?_map, List.getElem?_map, markReleased, List.getElem?_modify]
  cases c.handles[j]? with
  | none => rfl
  | some h =>
    by_cases hij : i = j
    · simp [hij]
    · simp [hij]

theorem claimed_addHandle (c : Context ρ σ κ) (g : Nat) : (c.addHandle g).claimed = c.claimed ++ [g] := by
  simp [claimed, addHandle]

theorem views_extend {c c' : Context ρ σ κ} (h : c.Changes c') : c.views <+: c'.views := by
  induction h with
  | refl => exact List.prefix_rfl
  | tail _ hstep ih =>
    refine ih.trans ?_
    cases hstep with
    | addTracker reader searcher => exact ⟨_, (views_addTracker _ reader searcher).symm⟩
    | addHandle g => exact ⟨[], by rw [views_addHandle, List.append_nil]⟩
    | removeClient g => exact ⟨[], by rw [views_removeClient, List.append_nil]⟩
    | retireTracker g => exact ⟨[], by rw [views_retireTracker, List.append_nil]⟩
    | markReleased | serving | withdrawn | register => exact List.prefix_rfl

theorem claimed_extend {c c' : Context ρ σ κ} (h : c.Changes c') : c.claimed <+: c'.claimed := by
  induction h with
  | refl => exact List.prefix_rfl
  | tail _ hstep ih =>
    refine ih.trans ?_
    cases hstep with
    | addHandle g =>
      rw [claimed_addHandle]
      exact List.prefix_append _ _
    | markReleased i => exact ⟨[], by rw [claimed_markReleased, List.append_nil]⟩
    | addTracker | removeClient | retireTracker | serving | withdrawn | register => exact List.prefix_rfl

theorem tracker?_view_changes {c c' : Context ρ σ κ} {g : Nat} {v : View ρ σ} (h : c.Changes c')
    (hv : (c.tracker? g).map Tracker.view = some v) : (c'.tracker? g).map Tracker.view = some v := by
  rw [tracker?_view] at hv ⊢
  exact (views_extend h).find?_eq_some hv

theorem view?_changes {c c' : Context ρ σ κ} {i : Nat} {v : View ρ σ} (h : c.Changes c')
    (hv : c.view? i = some v) : c'.view? i = some v := by
  rw [view?_eq] at hv ⊢
  obtain ⟨g, hg, hfind⟩ := Option.bind_eq_some_iff.1 hv
  refine Option.bind_eq_some_iff.2 ⟨g, ?_, (views_extend h).find?_eq_some hfind⟩
  obtain ⟨hlt, _⟩ := List.getElem?_eq_some_iff.1 hg
  obtain ⟨since, hsince⟩ := claimed_extend h
  rw [← hsince, List.getElem?_append_left hlt, hg]

/-! ### The order of snapshots -/

/-- Every snapshot is newer than those before it, and the next one will be newer still. -/
def Ascending (c : Context ρ σ κ) : Prop := (c.views.map (·.generation) ++ [c.nextGeneration]).Pairwise (· < ·)

theorem Ascending.addTracker {c : Context ρ σ κ} (h : c.Ascending) (reader : ρ) (searcher : σ) :
    (c.addTracker reader searcher).Ascending := by
  have hnext : (c.addTracker reader searcher).nextGeneration = c.nextGeneration + 1 := rfl
  rw [Ascending, views_addTracker, hnext, List.map_append, List.pairwise_append]
  refine ⟨h, List.pairwise_singleton _ _, ?_⟩
  intro g hg n hn
  rw [List.mem_singleton.1 hn]
  rcases List.mem_append.1 hg with hg | hg
  · have hlt := (List.pairwise_append.1 h).2.2 g hg _ (List.mem_singleton_self _)
    omega
  · rw [List.mem_singleton.1 hg]
    exact Nat.lt_succ_self _

theorem Ascending.changes {c c' : Context ρ σ κ} (h : c.Changes c') (ha : c.Ascending) : c'.Ascending := by
  induction h with
  | refl => exact ha
  | tail _ hstep ih =>
    cases hstep with
    | addTracker reader searcher => exact ih.addTracker reader searcher
    | addHandle g =>
      rw [Ascending, views_addHandle]
      exact ih
    | removeClient g =>
      rw [Ascending, views_removeClient]
      exact ih
    | retireTracker g =>
      rw [Ascending, views_retireTracker]
      exact ih
    | markReleased | serving | withdrawn | register => exact ih

/-! ### What is served -/

/-- The current snapshot is this one unless the context is disposed, and so is every snapshot that was claimed since
there were `n` claims. -/
structure ServesSince (n g : Nat) (c : Context ρ σ κ) : Prop where
  current : c.current = some g ∨ c.disposed = true ∧ c.current = none
  claims : ∀ x ∈ c.claimed.drop n, x = g

namespace ServesSince

variable {n g : Nat} {c c' : Context ρ σ κ}

theorem eq_current (h : c.ServesSince n g) {x : Nat} (hx : c.current = some x) : x = g := by
  rcases h.current with hc | ⟨_, hc⟩
  · exact Option.some.inj (hx.symm.trans hc)
  · cases hx.symm.trans hc

theorem addHandle (h : c.ServesSince n g) {x : Nat} (hx : c.current = some x) : (c.addHandle x).ServesSince n g where
  current := h.current
  claims y hy := by
    rw [claimed_addHandle, List.drop_append, List.mem_append] at hy
    rcases hy with hy | hy
    · exact h.claims y hy
    · rw [List.mem_singleton.1 (List.mem_of_mem_drop hy)]
      exact h.eq_current hx

theorem giveUp (h : c.ServesSince n g) (i x : Nat) : ((c.markReleased i).removeClient x).ServesSince n g where
  current := h.current
  claims y hy := by
    change y ∈ (c.markReleased i).claimed.drop n at hy
    rw [claimed_markReleased] at hy
    exact h.claims y hy

theorem withdrawn (h : c.ServesSince n g) : c.withdrawn.ServesSince n g := ⟨.inr ⟨rfl, rfl⟩, h.claims⟩

theorem meanwhile (hm : c.Meanwhile c') (h : c.ServesSince n g) : c'.ServesSince n g := by
  induction hm with
  | rest => exact h
  | claim _ hg ih => exact ih.addHandle hg
  | giveUp _ _ _ ih => exact ih.giveUp _ _
  | register _ _ ih => exact ⟨ih.current, ih.claims⟩
  | dispose _ _ ih => exact ⟨ih.withdrawn.current, ih.claims⟩
  | disposeEmpty _ _ ih => exact ih.withdrawn

/-- What was claimed since is the snapshot that has been served. -/
theorem view?_eq_some (h : c.ServesSince n g) {v : View ρ σ} (hv : (c.tracker? g).map Tracker.view = some v) {i : Nat}
    (hn : n ≤ i) (hi : i < c.handles.length) : c.view? i = some v := by
  have hi' : i < c.claimed.length := by rwa [claimed, List.length_map]
  have hget : c.claimed[i]? = some c.claimed[i] := List.getElem?_eq_getElem hi'
  have hsince : c.claimed[i] ∈ c.claimed.drop n := by
    refine List.mem_of_getElem? (i := i - n) ?_
    rw [List.getElem?_drop, Nat.add_sub_cancel' hn, hget]
  rw [view?_eq, hget, Option.bind_some, h.claims _ hsince, ← tracker?_view, hv]

end ServesSince

end Context

section

open Context

variable {E : Engine ω ρ σ κ} (hE : E.Keeps Meanwhile) {w w' : World ω ρ σ κ} {n g : Nat}

include hE

theorem retired_serves (t : Tracker ρ σ) (h : w.context.ServesSince n g) :
    (retired E t w).context.ServesSince n g := by
  have hr : (w.context.retireTracker t.generation).ServesSince n g := ⟨h.current, h.claims⟩
  unfold retired
  split
  · exact hr.meanwhile (closeTracker_related hE t ⟨w.context.retireTracker t.generation, w.outside⟩)
  · exact hr

theorem Warmed.serves {searcher : σ} {callbacks : List κ} (hw : Warmed E searcher callbacks w w')
    (h : w.context.ServesSince n g) : w'.context.ServesSince n g := by
  induction hw with
  | nil => exact h
  | cons hwarm _ ih => exact ih (h.meanwhile (related_of_outcome (hE.warm _ searcher) hwarm))

omit hE in
/-- The published snapshot is there to be claimed, so that a checkout never opens the index. -/
theorem Checkout.serves {result : Except Error Nat} (hc : Checkout E w result w') (h : w.context.ServesSince n g) :
    w'.context.ServesSince n g := by
  have hserved : w.context.disposed = false → w.context.current ≠ none := by
    intro hd hnone
    rcases h.current with hcur | ⟨hdis, _⟩
    · cases hnone.symm.trans hcur
    · cases hd.symm.trans hdis
  cases hc with
  | disposed => exact h
  | claimed _ hg => exact h.addHandle hg
  | unopened hd hnone => exact absurd hnone (hserved hd)
  | overtaken hd hnone => exact absurd hnone (hserved hd)
  | opened hd hnone => exact absurd hnone (hserved hd)

theorem Release.serves {i : Nat} {result : Except Error Unit} (hr : Release E i w result w')
    (h : w.context.ServesSince n g) : w'.context.ServesSince n g := by
  cases hr with
  | refused => exact h
  | kept => exact h.giveUp i _
  | @closed x t _ _ _ _ _ _ _ hclose =>
    exact (h.giveUp i x.generation).meanwhile (related_of_outcome (closeTracker_related hE t) hclose)

theorem Reopened.serves {old : Tracker ρ σ} {reader : ρ} {searcher : σ} {w₁ w₂ : World ω ρ σ κ}
    (ho : Reopened E w old reader w₁) (hf : outcome (E.searcher reader) w₁ = (.ok searcher, w₂))
    (h : w.context.ServesSince n g) : (Snapshot.tracked E reader searcher w₂).context.ServesSince n g := by
  have h₁ := h.meanwhile (related_of_outcome (hE.reopen _) ho.reopened)
  have h₂ := h₁.meanwhile (related_of_outcome (hE.searcher _) hf)
  exact ⟨h₂.current, h₂.claims⟩

theorem Reload.serves {result : Except Error ReloadOutcome} (hr : Reload E w result w')
    (hresult : ∀ x, result ≠ .ok (.published x)) (h : w.context.ServesSince n g) : w'.context.ServesSince n g := by
  cases hr with
  | disposed | noSnapshot => exact h
  | unopened _ _ _ ho | unchanged _ _ _ ho => exact h.meanwhile (related_of_outcome (hE.reopen _) ho)
  | unsearchable ho hf =>
    have h₁ := h.meanwhile (related_of_outcome (hE.reopen _) ho.reopened)
    exact (h₁.meanwhile (related_of_outcome (hE.searcher _) hf)).meanwhile (hE.closeReader _ _)
  | discarded ho hf _ hw hfail =>
    have h₃ := hw.serves hE (ho.serves hE hf h)
    exact retired_serves hE _ (h₃.meanwhile (related_of_outcome (hE.warm _ _) hfail))
  | overtaken ho hf hw => exact retired_serves hE _ (hw.serves hE (ho.serves hE hf h))
  | published => exact absurd rfl (hresult _)

theorem Dispose.serves {result : DisposeOutcome} (hd : Dispose E w result w') (h : w.context.ServesSince n g) :
    w'.context.ServesSince n g := by
  cases hd with
  | already => exact h
  | empty => exact h.withdrawn
  | closed => exact retired_serves (w := ⟨w.context.withdrawn, w.outside⟩) hE _ h.withdrawn
  | deferred => exact ⟨h.withdrawn.current, h.claims⟩

/-! ### Publishing -/

/-- What a reload publishes is a new snapshot on the reader and the searcher that the index has made for it. -/
theorem reload_publishes (hs : w.context.Sound []) (hr : outcome (reload E) w = (.ok (.published g), w')) :
    ∃ old reader searcher w₁ w₂, w.context.currentTracker? = some old ∧
      outcome (E.reopen old.reader) w = (.ok reader, w₁) ∧ outcome (E.searcher reader) w₁ = (.ok searcher, w₂) ∧
      w'.context.Sound [] ∧ (w'.context.tracker? g).map Tracker.view = some ⟨g, reader, searcher⟩ ∧
      w'.context.ServesSince w'.context.handles.length g := by
  obtain ⟨result, w'', hout, hcourse⟩ := reload_course hE hs
  obtain ⟨rfl, rfl⟩ := Prod.mk.inj (hout.symm.trans hr)
  have hs' := hcourse.sound hE hs
  cases hcourse with
  | @published old previous reader searcher w₁ w₂ w₃ ho hf hw hd₃ ht hc =>
    have hold : w.context.currentTracker? = some old := by
      rw [currentTracker?, ho.current, Option.bind_some, hs.books.tracker?_eq ho.mem]
    refine ⟨old, reader, searcher, w₁, w₂, hold, ho.reopened, hf, hs', ?_, ?_⟩
    · have hfind := (ho.sound hE hf hs).books.tracker?_eq (newTracker_mem E reader searcher w₂)
      have hview : ((tracked E reader searcher w₂).context.tracker? w₂.context.nextGeneration).map Tracker.view =
          some ⟨w₂.context.nextGeneration, reader, searcher⟩ := congrArg (Option.map Tracker.view) hfind
      have hchanges := (hw.moves hE).changes.tail (.serving w₂.context.nextGeneration)
      exact tracker?_view_changes (hchanges.trans (retired_moves hE previous ⟨_, w₃.outside⟩).changes) hview
    · have hserved : (w₃.context.serving w₂.context.nextGeneration).ServesSince
          (w₃.context.serving w₂.context.nextGeneration).claimed.length w₂.context.nextGeneration :=
        ⟨.inl rfl, by simp⟩
      refine ⟨(retired_serves (w := ⟨_, w₃.outside⟩) hE previous hserved).current, ?_⟩
      rw [← List.length_map (f := Handle.generation), ← claimed, List.drop_length]
      intro x hx
      cases hx

def Unpublished (E : Engine ω ρ σ κ) (w : World ω ρ σ κ) (uses : List (Use κ)) : Prop :=
  ∀ earlier later g, uses = earlier ++ .reload :: later →
    (outcome (reload E) (after E w earlier)).1 ≠ .ok (.published g)

omit hE in
theorem Unpublished.tail {use : Use κ} {uses : List (Use κ)} (h : Unpublished E w (use :: uses)) :
    Unpublished E (outcome (use.perform E) w).2 uses :=
  fun earlier later x huses => h (use :: earlier) later x (by rw [huses, List.cons_append])

theorem use_serves (hs : w.context.Sound []) (use : Use κ)
    (hu : use = .reload → ∀ x, (outcome (reload E) w).1 ≠ .ok (.published x)) (h : w.context.ServesSince n g) :
    (outcome (use.perform E) w).2.context.ServesSince n g := by
  cases use with
  | checkout =>
    obtain ⟨result, w', hout, hc⟩ := checkout_course hE hs
    rw [Use.perform, outcome_ignore, hout]
    exact hc.serves h
  | release i =>
    obtain ⟨result, w', hout, hc⟩ := release_course (E := E) hs i
    rw [Use.perform, hout]
    exact hc.serves hE h
  | drop i =>
    obtain ⟨result, w', hout, hc⟩ := release_course (E := E) hs i
    rw [Use.perform, dropHandle, outcome_ignore, outcome_attempt, hout]
    exact hc.serves hE h
  | reload =>
    obtain ⟨result, w', hout, hc⟩ := reload_course hE hs
    have hresult := hu rfl
    rw [hout] at hresult
    rw [Use.perform, outcome_ignore, hout]
    exact hc.serves hE hresult h
  | dispose | dropContext =>
    obtain ⟨result, w', hout, hc⟩ := dispose_course (E := E) hs
    rw [Use.perform, outcome_ignore, hout]
    exact hc.serves hE h
  | register callback => exact ⟨h.current, h.claims⟩

theorem after_serves (hs : w.context.Sound []) (h : w.context.ServesSince n g) {uses : List (Use κ)}
    (hu : Unpublished E w uses) : (after E w uses).context.ServesSince n g := by
  induction uses generalizing w with
  | nil => exact h
  | cons use uses ih =>
    have hs' : (outcome (use.perform E) w).2.context.Sound [] := (after_course hE hs [use]).1
    refine ih hs' (use_serves hE hs use ?_ h) hu.tail
    rintro rfl
    exact fun x => hu [] uses x rfl

/-- A checkout after a publication claims the published snapshot. -/
theorem checkout_view (hs : w.context.Sound []) (h : w.context.ServesSince n g) {v : View ρ σ}
    (hv : (w.context.tracker? g).map Tracker.view = some v) {handle : Nat}
    (hc : outcome (checkout E) w = (.ok handle, w')) : w'.context.view? handle = some v := by
  obtain ⟨result, w'', hout, hcourse⟩ := checkout_course hE hs
  obtain ⟨rfl, rfl⟩ := Prod.mk.inj (hout.symm.trans hc)
  obtain ⟨_, t, _, hcur, hh⟩ := checkout_claims hE hs hc
  have hg : t.generation = g := (hcourse.serves h).eq_current hcur
  rw [view?, hh, Option.bind_some, hg]
  exact tracker?_view_changes (hcourse.moves hE).changes hv

end

theorem outcome_recording {α : Type} (call : Except Error α → Call ρ) {action : Action ω ρ σ κ α}
    {w w₁ : World ω ρ σ κ} {result : Except Error α} (ho : outcome action w = (result, w₁)) (J : Journal ρ σ κ) :
    outcome (recording call action) ⟨w.context, w.outside, J⟩ =
      (result, ⟨w₁.context, w₁.outside, J ++ [⟨call result, w.context⟩]⟩) := by
  obtain ⟨rfl, rfl⟩ := Prod.mk.inj ho
  rfl

/-- If the index has not changed, reloading asks it once and does nothing else. -/
theorem reload_unchanged {E : Engine ω ρ σ κ} {w w₁ : World ω ρ σ κ} (hs : w.context.Sound []) {old : Tracker ρ σ}
    {reader : ρ} (hold : w.context.currentTracker? = some old)
    (ho : outcome (E.reopen old.reader) w = (.ok reader, w₁)) (hsame : E.sameReader reader old.reader = true) :
    outcome (reload E) w = (.ok .unchanged, w₁) := by
  have hd : w.context.disposed = false := by
    rw [← Bool.not_eq_true]
    intro hd
    rw [Context.currentTracker?, hs.disposed hd] at hold
    cases hold
  simp only [reload, outcome_bind, outcome_getContext, hd, Bool.false_eq_true, if_false, hold, ho, hsame, if_true,
    outcome_pure]

/-- After any run: a claim sees the same snapshot for good; the generations of snapshots ascend in the order in which they
are opened; once a reload has published a snapshot, all claims made before the next publication, by checkouts or
in callbacks, are on it and on the searcher made for it; and a reload that gets back the reader it asked to renew makes
this one call and leaves all else as the call leaves it, which is unchanged if the index does not use the context. -/
theorem snapshots_isolated {E : Engine ω ρ σ κ} (hE : E.Keeps Context.Meanwhile) {settings : ContextSettings}
    {outside : ω} {uses : List (Use κ)} {w : World ω ρ σ κ} (hrun : after E (.start settings outside) uses = w) :
    (∀ i < w.context.handles.length, ∃ v, w.context.view? i = some v ∧
      ∀ later, (after E w later).context.view? i = some v) ∧
    ((w.context.trackers.map (·.generation)).Pairwise (· < ·) ∧
      ∀ later, w.context.trackers.map (·.generation) <+: (after E w later).context.trackers.map (·.generation)) ∧
    (∀ g w', outcome (reload E) w = (.ok (.published g), w') → ∃ old reader searcher w₁ w₂,
      w.context.currentTracker? = some old ∧ outcome (E.reopen old.reader) w = (.ok reader, w₁) ∧
      outcome (E.searcher reader) w₁ = (.ok searcher, w₂) ∧ ∀ between, Unpublished E w' between →
        (∀ i, w'.context.handles.length ≤ i → i < (after E w' between).context.handles.length →
          (after E w' between).context.view? i = some ⟨g, reader, searcher⟩) ∧
        ∀ handle w₃, outcome (checkout E) (after E w' between) = (.ok handle, w₃) →
          w₃.context.view? handle = some ⟨g, reader, searcher⟩) ∧
    ∀ old reader w₁, w.context.currentTracker? = some old → outcome (E.reopen old.reader) w = (.ok reader, w₁) →
      E.sameReader reader old.reader = true →
        outcome (reload E) w = (.ok .unchanged, w₁) ∧
        outcome (reload E.journaled) ⟨w.context, w.outside, []⟩ =
          (.ok .unchanged, ⟨w₁.context, w₁.outside, [⟨.reopen old.reader (some reader), w.context⟩]⟩) ∧
        (E.Passive → w₁.context = w.context) := by
  subst hrun
  have hstart : (World.start settings outside : World ω ρ σ κ).context.Sound [] := .ofSettings settings
  have hfirst : (World.start settings outside : World ω ρ σ κ).context.Ascending := List.pairwise_singleton _ _
  obtain ⟨hs, hchanges⟩ := after_course hE hstart uses
  have hgenerations : ∀ c : Context ρ σ κ, c.views.map (·.generation) = c.trackers.map (·.generation) := by
    intro c
    rw [Context.views, List.map_map]
    rfl
  refine ⟨?_, ⟨?_, ?_⟩, ?_, ?_⟩
  · intro i hi
    obtain ⟨t, ht, hg⟩ := hs.books.known _ (List.getElem_mem hi)
    have hview : (after E (.start settings outside) uses).context.view? i = some t.view := by
      rw [Context.view?, List.getElem?_eq_getElem hi, Option.bind_some, ← hg, hs.books.tracker?_eq ht, Option.map_some]
    exact ⟨t.view, hview, fun later => Context.view?_changes (after_course hE hs later).2 hview⟩
  · have ha := (List.pairwise_append.1 (hfirst.changes hchanges)).1
    rwa [hgenerations] at ha
  · intro later
    rw [← hgenerations, ← hgenerations]
    exact (Context.views_extend (after_course hE hs later).2).map _
  · intro g w' hr
    obtain ⟨old, reader, searcher, w₁, w₂, hold, ho, hf, hs', hv, hserves⟩ := reload_publishes hE hs hr
    refine ⟨old, reader, searcher, w₁, w₂, hold, ho, hf, fun between hbetween => ?_⟩
    obtain ⟨hs₂, hchanges₂⟩ := after_course hE hs' between
    have hserves₂ := after_serves hE hs' hserves hbetween
    have hv₂ := Context.tracker?_view_changes hchanges₂ hv
    exact ⟨fun i hn hi => hserves₂.view?_eq_some hv₂ hn hi, fun handle w₃ hc => checkout_view hE hs₂ hserves₂ hv₂ hc⟩
  · intro old reader w₁ hold ho hsame
    refine ⟨reload_unchanged hs hold ho hsame, ?_, ?_⟩
    · exact reload_unchanged (E := E.journaled) hs hold (outcome_recording (.ofReopening old.reader) ho []) hsame
    · intro hpassive
      have hc := hpassive.reopen old.reader (after E (.start settings outside) uses)
      rwa [ho] at hc

theorem outcome_of_fst {α : Type} {action : Action ω ρ σ κ α} {w : World ω ρ σ κ} {result : Except Error α}
    (h : (outcome action w).1 = result) : outcome action w = (result, (outcome action w).2) := by
  rw [← h]

def steady : Engine Nat Nat Nat Unit := { numbering fun _ => pure () with reopen := fun reader => pure reader }

/-- A callback claims the old snapshot while the new one is being loaded, and the next checkout gets the new one; over
an index that does not change, a reload leaves the context as it is. -/
theorem snapshots_isolated_callback :
    let E := numbering fun _ : Unit => do let _ ← claimCurrent
    let w := after E (.start .standard 0) [.register (), .checkout]
    let w' := (outcome (reload E) w).2
    w.context.view? 0 = some ⟨1, 0, 0⟩ ∧ w'.context.view? 1 = some ⟨1, 0, 0⟩ ∧
      (after E w [.reload, .release 0]).context.view? 0 = some ⟨1, 0, 0⟩ ∧
      (outcome (checkout E) (after E w' [.release 0])).2.context.view? 2 = some ⟨2, 1, 1⟩ ∧
      (outcome (reload steady) (after steady (.start .standard 0) [.checkout])).2.context =
        (after steady (.start .standard 0) [.checkout]).context := by
  intro E w w'
  have hE : E.Keeps Context.Meanwhile := numbering_keeps (fun _ => .rest) fun _ => claimCurrent_meanwhile
  have hrun : after E (.start .standard 0) [.register (), .checkout] = w := rfl
  have h := snapshots_isolated hE hrun
  have hfirst : w.context.view? 0 = some ⟨1, 0, 0⟩ := by decide +kernel
  obtain ⟨v, hv, hlater⟩ := h.1 0 (by decide)
  obtain rfl := Option.some.inj (hv.symm.trans hfirst)
  have hpublished : (outcome (reload E) w).1 = .ok (.published 2) := by decide +kernel
  obtain ⟨old, reader, searcher, w₁, w₂, _, ho, hf, hserved⟩ := h.2.2.1 2 w' (outcome_of_fst hpublished)
  obtain rfl : 1 = reader := Except.ok.inj (congrArg Prod.fst ho)
  obtain rfl : 1 = searcher := Except.ok.inj (congrArg Prod.fst hf)
  have hquiet : Unpublished E w' [.release 0] := by
    intro earlier later g huses
    rcases earlier with _ | ⟨use, _ | ⟨_, _⟩⟩ <;> simp at huses
  have hclaimed : (outcome (checkout E) (after E w' [.release 0])).1 = .ok 2 := by decide +kernel
  have hsteady : steady.Passive := by
    have hn : (numbering fun _ : Unit => pure ()).Passive :=
      numbering_keeps (R := fun c c' => c' = c) (fun _ => rfl) fun _ _ => rfl
    exact ⟨hn.openView, fun _ _ => rfl, hn.searcher, hn.close, hn.closeReader, hn.search, hn.warm⟩
  let ws := after steady (.start .standard 0) [.checkout]
  have hstill : after steady (.start .standard 0) [.checkout] = ws := rfl
  have hunchanged := (snapshots_isolated hsteady.meanwhile hstill).2.2.2
    ⟨1, 0, 0, 1, false, false⟩ 0 (outcome (steady.reopen 0) ws).2 rfl rfl rfl
  have hcallback : w'.context.view? 1 = some ⟨1, 0, 0⟩ := by decide +kernel
  have hnew := (hserved [.release 0] hquiet).2 2 _ (outcome_of_fst hclaimed)
  have hkept : (outcome (reload steady) ws).2.context = ws.context :=
    (congrArg (·.2.context) hunchanged.1).trans (hunchanged.2.2 hsteady)
  exact ⟨hfirst, hcallback, hlater [.reload, .release 0], hnew, hkept⟩

end IndexQuery.Snapshot
