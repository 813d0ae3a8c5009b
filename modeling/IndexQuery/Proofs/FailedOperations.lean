import IndexQuery.Proofs.SnapshotIsolation

set_option autoImplicit false

/-!
A checkout or reload that fails leaves the context as it was.

Others may use the context while the index is at work, but not the snapshot that an operation has in hand: what they do
with it there is what they would have done without it (`Aside.frame`). So a failed operation leaves the context
that the others leave, with at most one snapshot more, which is closed (`Checkout.restored`, `Reload.restored`). The
journal of the calls that it makes has this snapshot's reader closed once (`Checkout.calls`, `Reload.calls`).
-/

namespace IndexQuery.Snapshot

variable {ω ρ σ κ : Type}

/-! ### A snapshot that nobody else knows -/

namespace Context

def withTracker (t : Tracker ρ σ) (c : Context ρ σ κ) : Context ρ σ κ :=
  { c with trackers := c.trackers ++ [t], nextGeneration := c.nextGeneration + 1 }

theorem withTracker_injective {t : Tracker ρ σ} {c c' : Context ρ σ κ} (h : c.withTracker t = c'.withTracker t) :
    c = c' := by
  obtain ⟨settings, trackers, handles, callbacks, current, disposed, next⟩ := c
  obtain ⟨settings', trackers', handles', callbacks', current', disposed', next'⟩ := c'
  simpa [withTracker] using h

theorem mapTracker_withTracker {t : Tracker ρ σ} {g : Nat} (hg : g ≠ t.generation) (f : Tracker ρ σ → Tracker ρ σ)
    (c : Context ρ σ κ) : (c.withTracker t).mapTracker g f = (c.mapTracker g f).withTracker t := by
  simp [withTracker, mapTracker, Ne.symm hg]

theorem mapTracker_withTracker_self {t : Tracker ρ σ} {c : Context ρ σ κ}
    (ht : ∀ u ∈ c.trackers, u.generation ≠ t.generation) (f : Tracker ρ σ → Tracker ρ σ) :
    (c.withTracker t).mapTracker t.generation f = c.withTracker (f t) := by
  have hothers : c.trackers.map (fun u => if u.generation = t.generation then f u else u) = c.trackers := by
    have hkept : ∀ u ∈ c.trackers, (if u.generation = t.generation then f u else u) = id u :=
      fun u hu => if_neg (ht u hu)
    rw [List.map_congr_left hkept, List.map_id]
  simp [withTracker, mapTracker, hothers]

theorem Meanwhile.nextGeneration_eq {c c' : Context ρ σ κ} (h : c.Meanwhile c') :
    c'.nextGeneration = c.nextGeneration := by
  induction h with
  | rest => rfl
  | claim _ _ ih | giveUp _ _ _ ih | register _ _ ih | dispose _ _ ih | disposeEmpty _ _ ih => exact ih

/-- The current snapshot and the claimed ones are older than the next. -/
theorem Sound.older {c : Context ρ σ κ} (hs : c.Sound []) :
    (∀ g, c.current = some g → g ≠ c.nextGeneration) ∧ ∀ h ∈ c.handles, h.generation ≠ c.nextGeneration := by
  constructor
  · intro g hg
    obtain ⟨t, ht, rfl, _⟩ := hs.served (.inl hg)
    exact Nat.ne_of_lt (hs.books.below t ht)
  · intro h hh
    obtain ⟨t, ht, hg⟩ := hs.books.known h hh
    rw [← hg]
    exact Nat.ne_of_lt (hs.books.below t ht)

theorem Meanwhile.frame {c d : Context ρ σ κ} {t : Tracker ρ σ} (hs : c.Sound [])
    (ht : t.generation = c.nextGeneration) (h : (c.withTracker t).Meanwhile d) :
    ∃ c', c.Meanwhile c' ∧ d = c'.withTracker t := by
  induction h with
  | rest => exact ⟨c, .rest, rfl⟩
  | @claim _ g _ hg ih =>
    obtain ⟨c', hm, rfl⟩ := ih
    have hne : g ≠ t.generation := by
      rw [ht, ← hm.nextGeneration_eq]
      exact (hm.sound hs).older.1 g hg
    refine ⟨c'.addHandle g, hm.claim hg, ?_⟩
    rw [addHandle, mapTracker_withTracker hne]
    rfl
  | @giveUp _ i h _ hi hh ih =>
    obtain ⟨c', hm, rfl⟩ := ih
    have hne : h.generation ≠ t.generation := by
      rw [ht, ← hm.nextGeneration_eq]
      exact (hm.sound hs).older.2 h (List.mem_of_getElem? hi)
    exact ⟨_, hm.giveUp hi hh, mapTracker_withTracker hne _ (c'.markReleased i)⟩
  | register _ callback ih =>
    obtain ⟨c', hm, rfl⟩ := ih
    exact ⟨_, hm.register callback, rfl⟩
  | @dispose _ g _ hg ih =>
    obtain ⟨c', hm, rfl⟩ := ih
    have hne : g ≠ t.generation := by
      rw [ht, ← hm.nextGeneration_eq]
      exact (hm.sound hs).older.1 g hg
    exact ⟨_, hm.dispose hg, mapTracker_withTracker hne _ c'.withdrawn⟩
  | disposeEmpty _ hc ih =>
    obtain ⟨c', hm, rfl⟩ := ih
    exact ⟨_, hm.disposeEmpty hc, rfl⟩

/-- What others make of a context while an operation waits, and nothing at all if they are quiet. -/
def Aside (quiet : Prop) (c c' : Context ρ σ κ) : Prop := c.Meanwhile c' ∧ (quiet → c' = c)

namespace Aside

variable {quiet : Prop} {a b c d : Context ρ σ κ}

theorem rest : c.Aside quiet c := ⟨.rest, fun _ => rfl⟩

theorem trans (hab : a.Aside quiet b) (hbc : b.Aside quiet c) : a.Aside quiet c :=
  ⟨hab.1.trans hbc.1, fun h => (hbc.2 h).trans (hab.2 h)⟩

/-- A snapshot in hand does not enter into what others do. -/
theorem frame {t : Tracker ρ σ} (hs : c.Sound []) (ht : t.generation = c.nextGeneration)
    (h : (c.withTracker t).Aside quiet d) : ∃ c', c.Aside quiet c' ∧ d = c'.withTracker t := by
  obtain ⟨c', hm, rfl⟩ := h.1.frame hs ht
  exact ⟨c', ⟨hm, fun hq => withTracker_injective (h.2 hq)⟩, rfl⟩

end Aside

/-- A closed snapshot, opened in vain. -/
def discarded (reader : ρ) (searcher : σ) (c : Context ρ σ κ) : Tracker ρ σ :=
  ⟨c.nextGeneration, reader, searcher, 0, true, true⟩

/-- The context is as others leave it, with at most one snapshot more, which is closed. -/
def Restored (quiet : Prop) (c d : Context ρ σ κ) : Prop :=
  ∃ c', c.Aside quiet c' ∧ (d = c' ∨ ∃ reader searcher, d = c'.withTracker (c'.discarded reader searcher))

theorem Restored.eq {quiet : Prop} {c d : Context ρ σ κ} (h : c.Restored quiet d) :
    ∃ c' discarded, c.Meanwhile c' ∧ (quiet → c' = c) ∧
      d = { c' with trackers := c'.trackers ++ discarded, nextGeneration := c'.nextGeneration + discarded.length } ∧
      ∀ t ∈ discarded, t.clients = 0 ∧ t.retired = true ∧ t.released = true := by
  obtain ⟨c', ha, rfl | ⟨reader, searcher, rfl⟩⟩ := h
  · refine ⟨d, [], ha.1, ha.2, ?_, nofun⟩
    simp
  · refine ⟨c', [c'.discarded reader searcher], ha.1, ha.2, rfl, ?_⟩
    simp [Context.discarded]

theorem Restored.of_aside {quiet : Prop} {c c' d : Context ρ σ κ} (h : c.Aside quiet c') (hr : c'.Restored quiet d) :
    c.Restored quiet d := by
  obtain ⟨c'', h', hd⟩ := hr
  exact ⟨c'', h.trans h', hd⟩

end Context

open Context

section

variable {E : Engine ω ρ σ κ} (hE : E.Keeps Meanwhile) {w w' : World ω ρ σ κ}

include hE in
theorem Engine.Keeps.aside : E.Keeps (Context.Aside E.Passive) where
  openView w := ⟨hE.openView w, fun hp => hp.openView w⟩
  reopen reader w := ⟨hE.reopen reader w, fun hp => hp.reopen reader w⟩
  searcher reader w := ⟨hE.searcher reader w, fun hp => hp.searcher reader w⟩
  close reader searcher w := ⟨hE.close reader searcher w, fun hp => hp.close reader searcher w⟩
  closeReader reader w := ⟨hE.closeReader reader w, fun hp => hp.closeReader reader w⟩
  search searcher request w := ⟨hE.search searcher request w, fun hp => hp.search searcher request w⟩
  warm callback searcher w := ⟨hE.warm callback searcher w, fun hp => hp.warm callback searcher w⟩

variable {quiet : Prop} (hq : E.Keeps (Context.Aside quiet))

include hq

theorem Warmed.aside {searcher : σ} {callbacks : List κ} (hw : Warmed E searcher callbacks w w') :
    w.context.Aside quiet w'.context := by
  induction hw with
  | nil => exact .rest
  | cons hwarm _ ih => exact (related_of_outcome (hq.warm _ searcher) hwarm).trans ih

/-- Retiring a new snapshot that nobody else knows closes it. -/
theorem retired_restored {c : Context ρ σ κ} {reader : ρ} {searcher : σ} (hs : c.Sound [])
    (hc : w.context = c.withTracker (.ofView c.nextGeneration reader searcher)) :
    c.Restored quiet (retired E (.ofView c.nextGeneration reader searcher) w).context := by
  have hfresh : ∀ u ∈ c.trackers, u.generation ≠ c.nextGeneration := fun u hu => Nat.ne_of_lt (hs.books.below u hu)
  have hretired : w.context.retireTracker c.nextGeneration = c.withTracker (c.discarded reader searcher) := by
    rw [hc]
    exact mapTracker_withTracker_self (t := .ofView c.nextGeneration reader searcher) hfresh _
  have hclose := hq.close reader searcher ⟨w.context.retireTracker c.nextGeneration, w.outside⟩
  rw [hretired] at hclose
  obtain ⟨c', ha, hc'⟩ := hclose.frame hs rfl
  refine ⟨c', ha, .inr ⟨reader, searcher, ?_⟩⟩
  rw [discarded, ha.1.nextGeneration_eq, ← discarded, ← hc', retired]
  simp only [Tracker.ofView, if_true, outcome_closeTracker, hretired]

theorem Checkout.restored {e : Error} (h : Checkout E w (.error e) w') (hs : w.context.Sound []) :
    w.context.Restored quiet w'.context := by
  cases h with
  | disposed => exact ⟨_, .rest, .inl rfl⟩
  | unopened _ _ ho => exact ⟨_, related_of_outcome hq.openView ho, .inl rfl⟩
  | overtaken _ _ ho =>
    have ha := related_of_outcome hq.openView ho
    exact .of_aside ha (retired_restored hq (ha.1.sound hs) rfl)

/-- The new snapshot of a reload is as it was when it was opened, whatever has happened meanwhile. -/
theorem Reopened.frame {old t : Tracker ρ σ} {reader : ρ} {searcher : σ} {w₁ w₂ : World ω ρ σ κ}
    (ho : Reopened E w old reader w₁) (hf : outcome (E.searcher reader) w₁ = (.ok searcher, w₂))
    (ha : (Snapshot.tracked E reader searcher w₂).context.Aside quiet w'.context) (hs : w.context.Sound [])
    (ht : t ∈ w'.context.trackers) (hg : t.generation = w₂.context.nextGeneration) :
    ∃ c, w.context.Aside quiet c ∧ t = .ofView c.nextGeneration reader searcher ∧ w'.context = c.withTracker t := by
  have ha₂ := (related_of_outcome (hq.reopen _) ho.reopened).trans (related_of_outcome (hq.searcher _) hf)
  have hs₂ := ha₂.1.sound hs
  obtain ⟨c, hc, hw'⟩ := Aside.frame (t := newTracker reader searcher w₂) hs₂ rfl ha
  have hnext := hc.1.nextGeneration_eq
  have hnew : t = newTracker reader searcher w₂ := by
    rw [hw'] at ht
    rcases List.mem_append.1 ht with ht | ht
    · have hlt := (hc.1.sound hs₂).books.below t ht
      omega
    · exact List.mem_singleton.1 ht
  refine ⟨c, ha₂.trans hc, ?_, ?_⟩
  · rw [hnew, newTracker, hnext]
  · rw [hnew, hw']

theorem Reload.restored {e : Error} (h : Reload E w (.error e) w') (hs : w.context.Sound []) :
    w.context.Restored quiet w'.context := by
  cases h with
  | disposed => exact ⟨_, .rest, .inl rfl⟩
  | unopened _ _ _ ho => exact ⟨_, related_of_outcome (hq.reopen _) ho, .inl rfl⟩
  | unsearchable ho hf =>
    have ha := (related_of_outcome (hq.reopen _) ho.reopened).trans (related_of_outcome (hq.searcher _) hf)
    exact ⟨_, ha.trans (hq.closeReader _ _), .inl rfl⟩
  | discarded ho hf _ hw hfail ht hg =>
    have hwarm := (hw.aside hq).trans (related_of_outcome (hq.warm _ _) hfail)
    obtain ⟨c, ha, rfl, hc⟩ := ho.frame hq hf hwarm hs ht hg
    exact .of_aside ha (retired_restored hq (ha.1.sound hs) hc)
  | overtaken ho hf hw _ ht hg =>
    obtain ⟨c, ha, rfl, hc⟩ := ho.frame hq hf (hw.aside hq) hs ht hg
    exact .of_aside ha (retired_restored hq (ha.1.sound hs) hc)

end

/-! ### The calls of a failed operation -/

open Journal

theorem Engine.Keeps.journaled {R : Context ρ σ κ → Context ρ σ κ → Prop} {E : Engine ω ρ σ κ} (hE : E.Keeps R) :
    E.journaled.Keeps R where
  openView w := hE.openView ⟨w.context, w.outside.inner⟩
  reopen reader w := hE.reopen reader ⟨w.context, w.outside.inner⟩
  searcher reader w := hE.searcher reader ⟨w.context, w.outside.inner⟩
  close reader searcher w := hE.close reader searcher ⟨w.context, w.outside.inner⟩
  closeReader reader w := hE.closeReader reader ⟨w.context, w.outside.inner⟩
  search searcher request w := hE.search searcher request ⟨w.context, w.outside.inner⟩
  warm callback searcher w := hE.warm callback searcher ⟨w.context, w.outside.inner⟩

/-- The calls between two worlds make these readers and close those. -/
def Calls (made closed : List ρ) (w w' : World (Journaled ω ρ σ κ) ρ σ κ) : Prop :=
  ∃ calls, w'.outside.journal = w.outside.journal ++ calls ∧ obtained calls = made ∧ closings calls = closed

namespace Calls

variable {made made' closed closed' : List ρ} {w w₁ w₂ : World (Journaled ω ρ σ κ) ρ σ κ}

theorem of_journal_eq (h : w₁.outside.journal = w.outside.journal) : Calls [] [] w w₁ :=
  ⟨[], by rw [h, List.append_nil], rfl, rfl⟩

theorem trans (h : Calls made closed w w₁) (h' : Calls made' closed' w₁ w₂) :
    Calls (made ++ made') (closed ++ closed') w w₂ := by
  obtain ⟨calls, hj, hm, hc⟩ := h
  obtain ⟨calls', hj', hm', hc'⟩ := h'
  refine ⟨calls ++ calls', ?_, ?_, ?_⟩
  · rw [hj', hj, List.append_assoc]
  · rw [obtained, List.filterMap_append, ← obtained, ← obtained, hm, hm']
  · rw [closings, List.filterMap_append, ← closings, ← closings, hc, hc']

theorem recording {α : Type} (call : Except Error α → Call ρ) {action : Action ω ρ σ κ α} {result : Except Error α}
    (h : outcome (Snapshot.recording call action) w = (result, w₁)) :
    Calls (call result).made?.toList (call result).closed?.toList w w₁ := by
  obtain ⟨rfl, rfl⟩ := Prod.mk.inj h
  refine ⟨[⟨_, w.context⟩], rfl, ?_, ?_⟩
  · exact obtained_concat [] _
  · exact closings_concat [] _

end Calls

section

variable {E : Engine ω ρ σ κ} {w w' : World (Journaled ω ρ σ κ) ρ σ κ}

theorem Warmed.calls {searcher : σ} {callbacks : List κ} (hw : Warmed E.journaled searcher callbacks w w') :
    Calls [] [] w w' := by
  induction hw with
  | nil => exact .of_journal_eq rfl
  | cons hwarm _ ih => exact (Calls.recording (fun _ => .warm) hwarm).trans ih

theorem retired_calls {t : Tracker ρ σ} (ht : t.clients = 0) : Calls [] [t.reader] w (retired E.journaled t w) := by
  have hclose : Calls [] [t.reader] ⟨w.context.retireTracker t.generation, w.outside⟩
      (outcome (E.journaled.close t.reader t.searcher) ⟨w.context.retireTracker t.generation, w.outside⟩).2 :=
    .recording (fun _ => .close t.reader) (Prod.eta _).symm
  rw [retired, if_pos ht, outcome_closeTracker]
  exact hclose

theorem Checkout.calls {e : Error} (h : Checkout E.journaled w (.error e) w') :
    ∃ made : Option ρ, Calls made.toList made.toList w w' := by
  cases h with
  | disposed => exact ⟨none, .of_journal_eq rfl⟩
  | unopened _ _ ho => exact ⟨none, .recording .ofOpening ho⟩
  | @overtaken reader searcher w₁ _ _ ho =>
    have hopen : Calls [reader] [] w w₁ := .recording .ofOpening ho
    have htrack : Calls [] [] w₁ (tracked E.journaled reader searcher w₁) := .of_journal_eq rfl
    exact ⟨some reader, (hopen.trans htrack).trans (retired_calls rfl)⟩

theorem Reopened.calls {old : Tracker ρ σ} {reader : ρ} {searcher : σ} {w₁ w₂ : World (Journaled ω ρ σ κ) ρ σ κ}
    (ho : Reopened E.journaled w old reader w₁)
    (hf : outcome (E.journaled.searcher reader) w₁ = (.ok searcher, w₂)) :
    Calls [reader] [] w (Snapshot.tracked E.journaled reader searcher w₂) := by
  have hreopen : Calls [reader] [] w w₁ := .recording (.ofReopening old.reader) ho.reopened
  have hsearcher : Calls [] [] w₁ w₂ := .recording (fun _ => .searcher reader) hf
  have htrack : Calls [] [] w₂ (Snapshot.tracked E.journaled reader searcher w₂) := .of_journal_eq rfl
  exact (hreopen.trans hsearcher).trans htrack

theorem Reload.calls (hE : E.Keeps Meanwhile) {e : Error} (h : Reload E.journaled w (.error e) w')
    (hs : w.context.Sound []) : ∃ made : Option ρ, Calls made.toList made.toList w w' := by
  have hq := hE.journaled.aside
  cases h with
  | disposed => exact ⟨none, .of_journal_eq rfl⟩
  | unopened _ _ _ ho => exact ⟨none, .recording (.ofReopening _) ho⟩
  | @unsearchable old reader e w₁ w₂ ho hf =>
    have hreopen : Calls [reader] [] w w₁ := .recording (.ofReopening old.reader) ho.reopened
    have hsearcher : Calls [] [] w₁ w₂ := .recording (fun _ => .searcher reader) hf
    have hclose : Calls [] [reader] w₂ (outcome (E.journaled.closeReader reader) w₂).2 :=
      .recording (fun _ => .closeReader reader) (Prod.eta _).symm
    exact ⟨some reader, (hreopen.trans hsearcher).trans hclose⟩
  | @discarded _ _ reader _ _ _ _ _ _ _ w₃ w₄ ho hf _ hw hfail ht hg =>
    have hwarm := (hw.aside hq).trans (related_of_outcome (hq.warm _ _) hfail)
    obtain ⟨c, _, rfl, _⟩ := ho.frame hq hf hwarm hs ht hg
    have hfailing : Calls [] [] w₃ w₄ := .recording (fun _ => .warm) hfail
    exact ⟨some reader, (((ho.calls hf).trans hw.calls).trans hfailing).trans (retired_calls rfl)⟩
  | @overtaken _ _ reader _ _ _ _ ho hf hw _ ht hg =>
    obtain ⟨c, _, rfl, _⟩ := ho.frame hq hf (hw.aside hq) hs ht hg
    exact ⟨some reader, ((ho.calls hf).trans hw.calls).trans (retired_calls rfl)⟩

theorem use_failed (hE : E.Keeps Meanwhile) (hs : w.context.Sound []) {use : Use κ}
    (huse : use = .checkout ∨ use = .reload) {e : Error} (hfail : outcome (use.perform E.journaled) w = (.error e, w')) :
    w.context.Restored E.Passive w'.context ∧ ∃ made : Option ρ, Calls made.toList made.toList w w' := by
  have hq := hE.aside.journaled
  rcases huse with rfl | rfl
  · obtain ⟨result, w'', hout, hcourse⟩ := checkout_course hE.journaled hs
    rw [Use.perform, outcome_ignore, hout] at hfail
    cases result with
    | ok => cases hfail
    | error =>
      cases hfail
      exact ⟨hcourse.restored hq hs, hcourse.calls⟩
  · obtain ⟨result, w'', hout, hcourse⟩ := reload_course hE.journaled hs
    rw [Use.perform, outcome_ignore, hout] at hfail
    cases result with
    | ok => cases hfail
    | error =>
      cases hfail
      exact ⟨hcourse.restored hq hs, hcourse.calls hE hs⟩

theorem use_refused {E : Engine ω ρ σ κ} {w : World ω ρ σ κ} (hd : w.context.disposed = true) {use : Use κ}
    (huse : use = .checkout ∨ use = .reload) : outcome (use.perform E) w = (.error .disposed, w) := by
  rcases huse with rfl | rfl
  · simp only [Use.perform, checkout, claimCurrent, outcome_bind, outcome_getContext, hd, if_true, outcome_throw]
  · simp only [Use.perform, reload, outcome_bind, outcome_getContext, hd, if_true, outcome_throw]

theorem Release.calls {i : Nat} {result : Except Error Unit} (h : Release E.journaled i w result w') :
    ∃ calls, w'.outside.journal = w.outside.journal ++ calls ∧ ∀ x ∈ calls, ∃ r, x.call = .close r := by
  cases h with
  | refused | kept => exact ⟨[], (List.append_nil _).symm, nofun⟩
  | @closed h t _ _ _ _ _ _ _ hc =>
    rw [outcome_closeTracker] at hc
    obtain ⟨_, rfl⟩ := Prod.mk.inj hc
    exact ⟨[⟨.close t.reader, _⟩], rfl, by simp⟩

/-- A disposed context asks the index for nothing but to close what is given back. -/
theorem disposed_calls (hE : E.Keeps Meanwhile) (hs : w.context.Sound []) (hd : w.context.disposed = true)
    (use : Use κ) : ∃ calls, (outcome (use.perform E.journaled) w).2.outside.journal = w.outside.journal ++ calls ∧
      ∀ x ∈ calls, ∃ r, x.call = .close r := by
  obtain ⟨result, w', hout, hcourse⟩ := use_course hE.journaled hs use
  rw [hout]
  have hnone : ∃ calls, w.outside.journal = w.outside.journal ++ calls ∧ ∀ x ∈ calls, ∃ r, x.call = .close r :=
    ⟨[], (List.append_nil _).symm, nofun⟩
  cases hcourse with
  | checkout =>
    rw [use_refused hd (.inl rfl)] at hout
    obtain ⟨_, rfl⟩ := Prod.mk.inj hout
    exact hnone
  | release h | drop h => exact h.calls
  | reload =>
    rw [use_refused hd (.inr rfl)] at hout
    obtain ⟨_, rfl⟩ := Prod.mk.inj hout
    exact hnone
  | dispose h | dropContext h =>
    cases h with
    | already => exact hnone
    | empty hd' | closed hd' | deferred hd' => cases hd.symm.trans hd'
  | register => exact hnone

end

/-- A checkout or reload that fails leaves the context as others leave it meanwhile, and so as it was if the index does
not use the context, but for closed snapshots; a reader made by the call has been closed by the call, once. A disposed
context refuses both and has the index make nothing. -/
theorem failure_restores {E : Engine ω ρ σ κ} (hE : E.Keeps Meanwhile) {settings : ContextSettings} {outside : ω}
    {uses : List (Use κ)} {w : World (Journaled ω ρ σ κ) ρ σ κ}
    (hrun : after E.journaled (.start settings ⟨outside, []⟩) uses = w) :
    (∀ use : Use κ, use = .checkout ∨ use = .reload →
      ∀ e w', outcome (use.perform E.journaled) w = (.error e, w') →
      (∃ c discarded, w.context.Meanwhile c ∧ (E.Passive → c = w.context) ∧
        w'.context = { c with
          trackers := c.trackers ++ discarded, nextGeneration := c.nextGeneration + discarded.length } ∧
        ∀ t ∈ discarded, t.clients = 0 ∧ t.retired = true ∧ t.released = true) ∧
      ∃ made : Option ρ, ∃ calls, w'.outside.journal = w.outside.journal ++ calls ∧
        obtained calls = made.toList ∧ closings calls = made.toList) ∧
    (w.context.disposed = true →
      (∀ use : Use κ, use = .checkout ∨ use = .reload →
        outcome (use.perform E.journaled) w = (.error .disposed, w)) ∧
      ∀ use : Use κ, ∃ calls, (outcome (use.perform E.journaled) w).2.outside.journal = w.outside.journal ++ calls ∧
        ∀ x ∈ calls, ∃ r, x.call = .close r) := by
  subst hrun
  have hstart : (World.start settings ⟨outside, []⟩ : World (Journaled ω ρ σ κ) ρ σ κ).context.Sound [] :=
    .ofSettings settings
  have hs := (after_course hE.journaled hstart uses).1
  refine ⟨?_, fun hd => ⟨fun _ huse => use_refused hd huse, disposed_calls hE hs hd⟩⟩
  intro use huse e w' hfail
  obtain ⟨hrestored, hcalls⟩ := use_failed hE hs huse hfail
  exact ⟨hrestored.eq, hcalls⟩

/-- The second callback rejects a new snapshot while a claim is held on the old one. -/
theorem failure_restores_rejected :
    let E := numbering fun ready : Bool => if ready then return () else throw (.other "not ready")
    let w := after E.journaled (.start .standard ⟨0, []⟩) [.checkout, .register true, .register false]
    let w' := (outcome (Use.reload.perform E.journaled) w).2
    (∃ discarded, w'.context = { w.context with
      trackers := w.context.trackers ++ discarded, nextGeneration := w.context.nextGeneration + discarded.length }) ∧
      obtained w'.outside.journal = [0, 1] ∧ closings w'.outside.journal = [1] := by
  intro E w w'
  have hE : E.Passive := by
    refine numbering_keeps (R := fun c c' => c' = c) (fun _ => rfl) fun ready w => ?_
    cases ready <;> rfl
  have hfail : (outcome (Use.reload.perform E.journaled) w).1 = .error (.other "not ready") := by decide +kernel
  have h := (failure_restores hE.meanwhile (w := w) rfl).1 .reload (.inr rfl) _ w' (outcome_of_fst hfail)
  obtain ⟨⟨c, discarded, _, hc, hw', _⟩, _⟩ := h
  rw [hc hE] at hw'
  exact ⟨⟨discarded, hw'⟩, by decide +kernel, by decide +kernel⟩

end IndexQuery.Snapshot
