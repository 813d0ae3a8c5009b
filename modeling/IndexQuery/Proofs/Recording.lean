import IndexQuery.Proofs.SnapshotRuns

set_option autoImplicit false

/-!
What is on record of a context that others use as well.

A journal of the calls of an index, or a census of its snapshots, is kept beside a context from what is called and what
happens. While the index is at work for one operation, others may use the context, and what they do goes on record
too (`Record.Meanwhile`). Whoever does it, little can happen to a record: readers are made and then tracked or closed
again, snapshots are closed, a disposal is deferred, and all other calls and changes concern no open snapshot. These are
the steps of `Record.Trace`, and every run over an index that keeps the record is made of them (`after_trace`). What
is to hold of a record needs proof for these steps only.
-/

namespace IndexQuery.Snapshot

variable {ω ρ σ κ τ : Type}

/-! ### Snapshots as others see them -/

structure View (ρ σ : Type) where
  generation : Nat
  reader : ρ
  searcher : σ
deriving DecidableEq

def Tracker.view (t : Tracker ρ σ) : View ρ σ := ⟨t.generation, t.reader, t.searcher⟩

namespace Context

def views (c : Context ρ σ κ) : List (View ρ σ) := c.trackers.map Tracker.view

theorem views_mapTracker {g : Nat} {f : Tracker ρ σ → Tracker ρ σ} (hf : ∀ t, (f t).view = t.view)
    (c : Context ρ σ κ) : (c.mapTracker g f).views = c.views := by
  rw [views, mapTracker, List.map_map]
  refine List.map_congr_left fun t _ => ?_
  by_cases h : t.generation = g
  · simp [h, hf]
  · simp [h]

theorem views_addHandle (c : Context ρ σ κ) (g : Nat) : (c.addHandle g).views = c.views :=
  views_mapTracker (f := fun t => { t with clients := t.clients + 1 }) (fun _ => rfl) c

theorem views_removeClient (c : Context ρ σ κ) (g : Nat) : (c.removeClient g).views = c.views :=
  views_mapTracker (f := fun t => Tracker.settle { t with clients := t.clients - 1 }) (fun _ => rfl) c

theorem views_retireTracker (c : Context ρ σ κ) (g : Nat) : (c.retireTracker g).views = c.views :=
  views_mapTracker (f := fun t => Tracker.settle { t with retired := true }) (fun _ => rfl) c

theorem views_addTracker (c : Context ρ σ κ) (reader : ρ) (searcher : σ) :
    (c.addTracker reader searcher).views = c.views ++ [⟨c.nextGeneration, reader, searcher⟩] := by
  simp [views, addTracker, Tracker.view, Tracker.ofView]

def openViews (c : Context ρ σ κ) : List (View ρ σ) := (c.trackers.filter (!·.released)).map Tracker.view

variable {c : Context ρ σ κ} {g : Nat} {f : Tracker ρ σ → Tracker ρ σ}

theorem openViews_addTracker (c : Context ρ σ κ) (reader : ρ) (searcher : σ) :
    (c.addTracker reader searcher).openViews = c.openViews ++ [⟨c.nextGeneration, reader, searcher⟩] := by
  simp [openViews, addTracker, Tracker.view, Tracker.ofView]

theorem openViews_mapTracker (hview : ∀ t, (f t).view = t.view)
    (hreleased : ∀ t ∈ c.trackers, t.generation = g → (f t).released = t.released) :
    (c.mapTracker g f).openViews = c.openViews := by
  obtain ⟨settings, trackers, handles, callbacks, current, disposed, next⟩ := c
  simp only [openViews, mapTracker] at hreleased ⊢
  induction trackers with
  | nil => rfl
  | cons t rest ih =>
    have hrest := ih fun u hu => hreleased u (List.mem_cons_of_mem t hu)
    by_cases hg : t.generation = g
    · have ht := hreleased t List.mem_cons_self hg
      cases hr : t.released <;> simp [hg, ht, hr, hview, hrest]
    · cases hr : t.released <;> simp [hg, hr, hrest]

/-- A change that closes the snapshot it is about. -/
theorem openViews_perm {t : Tracker ρ σ} (hdistinct : (c.trackers.map (·.generation)).Nodup) (ht : t ∈ c.trackers)
    (hopen : t.released = false) (hclosed : (f t).released = true) :
    c.openViews.Perm (t.view :: (c.mapTracker t.generation f).openViews) := by
  -- Generations are distinct, so that the change leaves the trackers before and after this one alone.
  obtain ⟨front, back, hsplit⟩ := List.append_of_mem ht
  rw [hsplit, List.map_append, List.map_cons, List.nodup_middle, List.nodup_cons, ← List.map_append] at hdistinct
  have hothers : ∀ l ⊆ front ++ back, l.map (fun u => if u.generation = t.generation then f u else u) = l := by
    intro l hl
    have hne : ∀ u ∈ l, (if u.generation = t.generation then f u else u) = id u := by
      intro u hu
      refine if_neg fun h => hdistinct.1 ?_
      rw [← h]
      exact List.mem_map_of_mem (hl hu)
    rw [List.map_congr_left hne, List.map_id]
  simp only [openViews, mapTracker, hsplit]
  simp [hopen, hclosed, hothers front (List.subset_append_left _ _), hothers back (List.subset_append_right _ _)]

/-! ### Changes that close a snapshot or none -/

/-- No snapshot is made or closed. -/
structure Unmoved (c c' : Context ρ σ κ) : Prop where
  views : c'.views = c.views
  openViews : c'.openViews = c.openViews
  next : c'.nextGeneration = c.nextGeneration
  disposed : c.disposed = true → c'.disposed = true

def HeldOpen (c : Context ρ σ κ) : Prop := ∀ t ∈ c.trackers, c.unreleased t.generation ≠ 0 → t.released = false

/-- One snapshot is closed, and those that somebody still holds are open. -/
structure Closes (v : View ρ σ) (c c' : Context ρ σ κ) : Prop where
  views : c'.views = c.views
  openViews : c.openViews.Perm (v :: c'.openViews)
  next : c'.nextGeneration = c.nextGeneration
  disposed : c.disposed = true → c'.disposed = true
  held : c'.HeldOpen

theorem Unmoved.trans {a b c : Context ρ σ κ} (hab : a.Unmoved b) (hbc : b.Unmoved c) : a.Unmoved c where
  views := hbc.views.trans hab.views
  openViews := hbc.openViews.trans hab.openViews
  next := hbc.next.trans hab.next
  disposed h := hbc.disposed (hab.disposed h)

theorem unmoved_addHandle (c : Context ρ σ κ) (g : Nat) : c.Unmoved (c.addHandle g) where
  views := views_addHandle c g
  openViews :=
    openViews_mapTracker (c := c) (f := fun t => { t with clients := t.clients + 1 }) (fun _ => rfl) fun _ _ _ => rfl
  next := rfl
  disposed := id

theorem unmoved_withdrawn (c : Context ρ σ κ) : c.Unmoved c.withdrawn := ⟨rfl, rfl, rfl, fun _ => rfl⟩

theorem unmoved_serving (c : Context ρ σ κ) (g : Nat) : c.Unmoved (c.serving g) := ⟨rfl, rfl, rfl, id⟩

theorem unmoved_register (c : Context ρ σ κ) (callbacks : List κ) :
    c.Unmoved { c with callbacks := callbacks } := ⟨rfl, rfl, rfl, id⟩

namespace Books

variable {served : List Nat} {t : Tracker ρ σ} {i : Nat} {h : Handle}

theorem heldOpen (hb : c.Books served) : c.HeldOpen := by
  intro t ht hheld
  rw [← Bool.not_eq_true, hb.released t ht, hb.clients t ht]
  exact fun h => hheld h.2

theorem unmoved_giveUp (hb : c.Books served) (hi : c.handles[i]? = some h) (hh : h.released = false)
    (ht : t ∈ c.trackers) (hg : t.generation = h.generation) (hl : t.lastHeld = false) :
    c.Unmoved ((c.markReleased i).removeClient h.generation) where
  views := views_removeClient (c.markReleased i) h.generation
  openViews := by
    obtain ⟨hheld, hopen⟩ := hb.held hi hh ht hg
    refine openViews_mapTracker (c := c.markReleased i) (fun _ => rfl) fun u hu hgu => ?_
    obtain rfl := hb.ext_tracker hu ht (hgu.trans hg.symm)
    rw [Tracker.settle, Tracker.closable_lastHeld hheld hopen, hl, Bool.or_false]
  next := rfl
  disposed := id

theorem closes_giveUp (hb : c.Books served) (hi : c.handles[i]? = some h) (hh : h.released = false)
    (ht : t ∈ c.trackers) (hg : t.generation = h.generation) (hl : t.lastHeld = true) :
    c.Closes t.view ((c.markReleased i).removeClient h.generation) where
  views := views_removeClient (c.markReleased i) h.generation
  openViews := by
    obtain ⟨hheld, hopen⟩ := hb.held hi hh ht hg
    rw [← hg]
    refine openViews_perm (c := c.markReleased i) hb.distinct ht hopen ?_
    rw [Tracker.settle, Tracker.closable_lastHeld hheld hopen, hl, Bool.or_true]
  next := rfl
  disposed := id
  held := (hb.giveUp hi hh).heldOpen

theorem unmoved_retire (hb : c.Books served) (ht : t ∈ c.trackers) (hheld : t.clients ≠ 0) :
    c.Unmoved (c.retireTracker t.generation) where
  views := views_retireTracker c t.generation
  openViews := by
    refine openViews_mapTracker (fun _ => rfl) fun u hu hg => ?_
    obtain rfl := hb.ext_tracker hu ht hg
    simp [Tracker.settle, Tracker.closable, hheld]
  next := rfl
  disposed := id

theorem closes_retire (hb : c.Books served) (ht : t ∈ c.trackers) (hr : t.retired = false) (hidle : t.clients = 0) :
    c.Closes t.view (c.retireTracker t.generation) where
  views := views_retireTracker c t.generation
  openViews := by
    have hopen := hb.unreleased ht hr
    refine openViews_perm hb.distinct ht hopen ?_
    simp [Tracker.settle, Tracker.closable, hidle, hopen]
  next := rfl
  disposed := id
  held := (hb.retireTracker t.generation).heldOpen

end Books

theorem Sound.current_disposed {inHand : List Nat} (hs : c.Sound inHand) (hc : c.current = some g) :
    c.disposed = false := by
  rw [← Bool.not_eq_true]
  intro hd
  cases hc.symm.trans (hs.disposed hd)

end Context

open Context

/-! ### Records -/

/-- A call of the index, with the reader it was about and the reader it made. -/
inductive Call (ρ : Type) where
  | openView (made : Option ρ)
  | reopen (reader : ρ) (made : Option ρ)
  | searcher (reader : ρ)
  | close (reader : ρ)
  | closeReader (reader : ρ)
  | search
  | warm

namespace Call

def ofOpening (result : Except Error (ρ × σ)) : Call ρ := openView (result.toOption.map (·.1))

def ofReopening (reader : ρ) (result : Except Error ρ) : Call ρ := reopen reader result.toOption

def made? : Call ρ → Option ρ
  | openView made | reopen _ made => made
  | searcher _ | close _ | closeReader _ | search | warm => none

def renewed? : Call ρ → Option ρ
  | reopen reader _ => some reader
  | openView _ | searcher _ | close _ | closeReader _ | search | warm => none

def closed? : Call ρ → Option ρ
  | close reader | closeReader reader => some reader
  | openView _ | reopen _ _ | searcher _ | search | warm => none

/-- The call makes a reader that is not the one it was asked to renew. -/
structure Makes (same : ρ → ρ → Bool) (call : Call ρ) (reader : ρ) : Prop where
  made : call.made? = some reader
  closed : call.closed? = none
  differs : ∀ a ∈ call.renewed?, same reader a = false

end Call

/-- How a record of type `τ` grows. -/
structure Record (ρ σ κ τ : Type) where
  /-- What it says of a call, given the context at the time of the call. -/
  call : Call ρ → Context ρ σ κ → τ → τ
  event : Event → τ → τ

namespace Record

variable (K : Record ρ σ κ τ)

def closing (v : View ρ σ) (c : Context ρ σ κ) (r : τ) : τ :=
  K.event (.released v.generation) (K.call (.close v.reader) c r)

/-- `Context.Meanwhile` with what is on record of it. -/
inductive Meanwhile : Context ρ σ κ × τ → Context ρ σ κ × τ → Prop where
  | rest (p : Context ρ σ κ × τ) : Meanwhile p p
  | call {p : Context ρ σ κ × τ} {c : Context ρ σ κ} {r : τ} {call : Call ρ} (before : Meanwhile p (c, r))
      (hm : call.made? = none) (hc : call.closed? = none) (d : Context ρ σ κ) : Meanwhile p (c, K.call call d r)
  | claim {p : Context ρ σ κ × τ} {c : Context ρ σ κ} {r : τ} {g : Nat} (before : Meanwhile p (c, r))
      (hg : c.current = some g) : Meanwhile p (c.addHandle g, r)
  | giveUp {p : Context ρ σ κ × τ} {c : Context ρ σ κ} {r : τ} {i : Nat} {h : Handle} {t : Tracker ρ σ}
      (before : Meanwhile p (c, r)) (hi : c.handles[i]? = some h) (hh : h.released = false) (ht : t ∈ c.trackers)
      (hg : t.generation = h.generation) (hl : t.lastHeld = false) :
      Meanwhile p ((c.markReleased i).removeClient h.generation, r)
  /-- The snapshot is closed, and others may use the context in the meantime. -/
  | giveUpLast {p : Context ρ σ κ × τ} {c d : Context ρ σ κ} {r r' : τ} {i : Nat} {h : Handle} {t : Tracker ρ σ}
      (before : Meanwhile p (c, r)) (hi : c.handles[i]? = some h) (hh : h.released = false) (ht : t ∈ c.trackers)
      (hg : t.generation = h.generation) (hl : t.lastHeld = true)
      (during : Meanwhile ((c.markReleased i).removeClient h.generation, r) (d, r')) :
      Meanwhile p (d, K.closing t.view ((c.markReleased i).removeClient h.generation) r')
  | register {p : Context ρ σ κ × τ} {c : Context ρ σ κ} {r : τ} (before : Meanwhile p (c, r)) (callback : κ) :
      Meanwhile p ({ c with callbacks := c.callbacks ++ [callback] }, r)
  | dispose {p : Context ρ σ κ × τ} {c : Context ρ σ κ} {r : τ} {t : Tracker ρ σ} (before : Meanwhile p (c, r))
      (ht : t ∈ c.trackers) (hc : c.current = some t.generation) (hheld : t.clients ≠ 0) :
      Meanwhile p (c.withdrawn.retireTracker t.generation, K.event (.deferred t.generation t.clients) r)
  | disposeIdle {p : Context ρ σ κ × τ} {c d : Context ρ σ κ} {r r' : τ} {t : Tracker ρ σ}
      (before : Meanwhile p (c, r)) (ht : t ∈ c.trackers) (hc : c.current = some t.generation) (hidle : t.clients = 0)
      (during : Meanwhile (c.withdrawn.retireTracker t.generation, r) (d, r')) :
      Meanwhile p (d, K.closing t.view (c.withdrawn.retireTracker t.generation) r')
  | disposeEmpty {p : Context ρ σ κ × τ} {c : Context ρ σ κ} {r : τ} (before : Meanwhile p (c, r))
      (hc : c.current = none) : Meanwhile p (c.withdrawn, r)

/-- What any course of events is made of, as far as a record can tell. -/
inductive Trace (same : ρ → ρ → Bool) : Context ρ σ κ × τ → Context ρ σ κ × τ → Prop where
  | rest (p : Context ρ σ κ × τ) : Trace same p p
  /-- A call that closes nothing and makes nothing new. -/
  | call {p : Context ρ σ κ × τ} {c : Context ρ σ κ} {r : τ} {call : Call ρ} (before : Trace same p (c, r))
      (hclosed : call.closed? = none)
      (hmade : ∀ x ∈ call.made?, ∃ a ∈ call.renewed?, same x a = true ∧ ∃ v ∈ c.views, v.reader = a)
      (d : Context ρ σ κ) : Trace same p (c, K.call call d r)
  | unmoved {p : Context ρ σ κ × τ} {c c' : Context ρ σ κ} {r : τ} (before : Trace same p (c, r)) (h : c.Unmoved c') :
      Trace same p (c', r)
  | deferred {p : Context ρ σ κ × τ} {c c' : Context ρ σ κ} {r : τ} {g : Nat} (before : Trace same p (c, r))
      (h : c.Unmoved c') (hg : g < c.nextGeneration) (hd : c.disposed = false) (hd' : c'.disposed = true) (n : Nat) :
      Trace same p (c', K.event (.deferred g n) r)
  | closed {p : Context ρ σ κ × τ} {c c' d : Context ρ σ κ} {r r' : τ} {v : View ρ σ} (before : Trace same p (c, r))
      (h : c.Closes v c') (during : Trace same (c', r) (d, r')) : Trace same p (d, K.closing v c' r')
  /-- A new reader is closed again without having been tracked. -/
  | dropped {p : Context ρ σ κ × τ} {b c d : Context ρ σ κ} {r r₁ r₂ : τ} {call : Call ρ} {x : ρ}
      (before : Trace same p (b, r)) (hx : call.Makes same x) (a : Context ρ σ κ)
      (during : Trace same (b, K.call call a r) (c, r₁)) (hheld : c.HeldOpen)
      (closing : Trace same (c, r₁) (d, r₂)) : Trace same p (d, K.call (.closeReader x) c r₂)
  | tracked {p : Context ρ σ κ × τ} {b c : Context ρ σ κ} {r r' : τ} {call : Call ρ} {x : ρ}
      (before : Trace same p (b, r)) (hx : call.Makes same x) (a : Context ρ σ κ)
      (during : Trace same (b, K.call call a r) (c, r')) (searcher : σ) :
      Trace same p (c.addTracker x searcher, K.event (.created c.nextGeneration) r')

variable {K} {same : ρ → ρ → Bool} {p q s : Context ρ σ κ × τ}

theorem Trace.trans (h : K.Trace same p q) (h' : K.Trace same q s) : K.Trace same p s := by
  induction h' with
  | rest => exact h
  | call _ hclosed hmade d ih => exact .call (ih h) hclosed hmade d
  | unmoved _ hc ih => exact .unmoved (ih h) hc
  | deferred _ hc hg hd hd' n ih => exact .deferred (ih h) hc hg hd hd' n
  | closed _ hc during ih => exact .closed (ih h) hc during
  | dropped _ hx a during hheld closing ih => exact .dropped (ih h) hx a during hheld closing
  | tracked _ hx a during searcher ih => exact .tracked (ih h) hx a during searcher

theorem Trace.disposed (h : K.Trace same p q) (hd : p.1.disposed = true) : q.1.disposed = true := by
  induction h with
  | rest => exact hd
  | call _ _ _ _ ih => exact ih hd
  | unmoved _ hc ih | deferred _ hc _ _ _ _ ih => exact hc.disposed (ih hd)
  | closed _ hc _ ih ihd => exact ihd (hc.disposed (ih hd))
  | dropped _ _ _ _ _ _ ih ihd ihc => exact ihc (ihd (ih hd))
  | tracked _ _ _ _ _ ih ihd => exact ihd (ih hd)

theorem Meanwhile.context (h : K.Meanwhile p q) : p.1.Meanwhile q.1 := by
  induction h with
  | rest => exact .rest
  | call _ _ _ _ ih => exact ih
  | claim _ hg ih => exact ih.claim hg
  | giveUp _ hi hh _ _ _ ih => exact ih.giveUp hi hh
  | giveUpLast _ hi hh _ _ _ _ ih ihd => exact (ih.giveUp hi hh).trans ihd
  | register _ callback ih => exact ih.register callback
  | dispose _ _ hc _ ih => exact ih.dispose hc
  | disposeIdle _ _ hc _ _ ih ihd => exact (ih.dispose hc).trans ihd
  | disposeEmpty _ hc ih => exact ih.disposeEmpty hc

theorem Meanwhile.trace (h : K.Meanwhile p q) {inHand : List Nat} (hs : p.1.Sound inHand) : K.Trace same p q := by
  induction h with
  | rest => exact .rest _
  | call _ hm hc d ih => exact .call (ih hs) hc (by simp [hm]) d
  | claim _ _ ih => exact .unmoved (ih hs) (unmoved_addHandle _ _)
  | giveUp before hi hh ht hg hl ih =>
    exact .unmoved (ih hs) ((before.context.sound hs).books.unmoved_giveUp hi hh ht hg hl)
  | giveUpLast before hi hh ht hg hl _ ih ihd =>
    have hs' := before.context.sound hs
    exact .closed (ih hs) (hs'.books.closes_giveUp hi hh ht hg hl) (ihd (hs'.giveUp hi hh))
  | register _ _ ih => exact .unmoved (ih hs) (unmoved_register _ _)
  | dispose before ht hc hheld ih =>
    have hs' := before.context.sound hs
    have hd := hs'.current_disposed hc
    have hretire := hs'.withdraw.books.unmoved_retire ht hheld
    exact .deferred (ih hs) ((unmoved_withdrawn _).trans hretire) (hs'.books.below _ ht) hd rfl _
  | disposeIdle before ht hc hidle _ ih ihd =>
    have hs' := before.context.sound hs
    have hw := hs'.withdraw
    have hr := (hs'.books.unretired _ ht).2 (by simp [hc])
    rw [hc] at hw
    exact .closed (.unmoved (ih hs) (unmoved_withdrawn _)) (hw.books.closes_retire ht hr hidle) (ihd hw.retireTracker)
  | disposeEmpty _ _ ih => exact .unmoved (ih hs) (unmoved_withdrawn _)

end Record

theorem Context.Meanwhile.views_eq {c c' : Context ρ σ κ} (h : c.Meanwhile c') : c'.views = c.views := by
  induction h with
  | rest => rfl
  | claim _ _ ih => exact (views_addHandle _ _).trans ih
  | giveUp _ _ _ ih => exact (views_removeClient _ _).trans ih
  | register _ _ ih => exact ih
  | dispose _ _ ih => exact (views_retireTracker _ _).trans ih
  | disposeEmpty _ _ ih => exact ih

/-! ### An index that keeps a record -/

def World.recorded (view : ω → τ) (w : World ω ρ σ κ) : Context ρ σ κ × τ := (w.context, view w.outside)

/-- Others use the context, and then the call is on record. -/
def Record.Noted (K : Record ρ σ κ τ) (view : ω → τ) (call : Call ρ) (w w' : World ω ρ σ κ) : Prop :=
  ∃ r, K.Meanwhile (w.recorded view) (w'.context, r) ∧ view w'.outside = K.call call w.context r

/-- Changes that leave nothing on record. -/
def Record.Silent (K : Record ρ σ κ τ) (c c' : Context ρ σ κ) : Prop := ∀ r, K.Meanwhile (c, r) (c', r)

/-- Every call is on record and every event, and so is what others do while the index is at work. -/
structure Engine.Records (K : Record ρ σ κ τ) (view : ω → τ) (E : Engine ω ρ σ κ) : Prop where
  openView : ∀ w, K.Noted view (.ofOpening (outcome E.openView w).1) w (outcome E.openView w).2
  reopen : ∀ reader w,
    K.Noted view (.ofReopening reader (outcome (E.reopen reader) w).1) w (outcome (E.reopen reader) w).2
  searcher : ∀ reader w, K.Noted view (.searcher reader) w (outcome (E.searcher reader) w).2
  close : ∀ reader searcher w, K.Noted view (.close reader) w (outcome (E.close reader searcher) w).2
  closeReader : ∀ reader w, K.Noted view (.closeReader reader) w (outcome (E.closeReader reader) w).2
  search : ∀ searcher request w, K.Noted view .search w (outcome (E.search searcher request) w).2
  warm : ∀ callback searcher w, K.Noted view .warm w (outcome (E.warm callback searcher) w).2
  observe : ∀ event outside, view (E.observe event outside) = K.event event (view outside)

theorem Engine.Passive.silent {E : Engine ω ρ σ κ} (hE : E.Passive) (K : Record ρ σ κ τ) : E.Keeps K.Silent where
  openView w := hE.openView w ▸ fun _ => .rest _
  reopen reader w := hE.reopen reader w ▸ fun _ => .rest _
  searcher reader w := hE.searcher reader w ▸ fun _ => .rest _
  close reader searcher w := hE.close reader searcher w ▸ fun _ => .rest _
  closeReader reader w := hE.closeReader reader w ▸ fun _ => .rest _
  search searcher request w := hE.search searcher request w ▸ fun _ => .rest _
  warm callback searcher w := hE.warm callback searcher w ▸ fun _ => .rest _

section

variable {K : Record ρ σ κ τ} {view : ω → τ} {same : ρ → ρ → Bool} {call : Call ρ} {w w' w₁ w₂ : World ω ρ σ κ}
  {inHand : List Nat}

theorem Record.Noted.context (h : K.Noted view call w w') : w.context.Meanwhile w'.context := by
  obtain ⟨_, hm, _⟩ := h
  exact hm.context

theorem Record.Noted.trace (h : K.Noted view call w w') (hs : w.context.Sound inHand) (hclosed : call.closed? = none)
    (hmade : ∀ x ∈ call.made?, ∃ a ∈ call.renewed?, same x a = true ∧ ∃ v ∈ w.context.views, v.reader = a) :
    K.Trace same (w.recorded view) (w'.recorded view) := by
  obtain ⟨r, hm, hr⟩ := h
  have hviews : w'.context.views = w.context.views := hm.context.views_eq
  rw [← hviews] at hmade
  rw [World.recorded, World.recorded, hr]
  exact .call (hm.trace hs) hclosed hmade w.context

theorem Record.Noted.of_outcome {α : Type} (call : Except Error α → Call ρ) {action : Action ω ρ σ κ α}
    (h : ∀ w, K.Noted view (call (outcome action w).1) w (outcome action w).2) {result : Except Error α}
    (ho : outcome action w = (result, w')) : K.Noted view (call result) w w' := by
  have hw := h w
  rwa [ho] at hw

variable {E : Engine ω ρ σ κ} (hE : E.Records K view)

include hE

theorem Engine.Records.meanwhile : E.Keeps Context.Meanwhile where
  openView w := (hE.openView w).context
  reopen reader w := (hE.reopen reader w).context
  searcher reader w := (hE.searcher reader w).context
  close reader searcher w := (hE.close reader searcher w).context
  closeReader reader w := (hE.closeReader reader w).context
  search searcher request w := (hE.search searcher request w).context
  warm callback searcher w := (hE.warm callback searcher w).context

theorem closeTracker_recorded (t : Tracker ρ σ) (w : World ω ρ σ κ) : ∃ d r, K.Meanwhile (w.recorded view) (d, r) ∧
    (outcome (closeTracker E t) w).2.recorded view = (d, K.closing t.view w.context r) := by
  obtain ⟨r, hm, hr⟩ := hE.close t.reader t.searcher w
  refine ⟨_, r, hm, ?_⟩
  rw [outcome_closeTracker, World.recorded, hE.observe, hr]
  rfl

/-! ### What operations do is what others may do -/

theorem Release.meanwhile {i : Nat} {result : Except Error Unit} (h : Release E i w result w') :
    K.Meanwhile (w.recorded view) (w'.recorded view) := by
  cases h with
  | refused => exact .rest _
  | kept hi hh ht hg hl => exact .giveUp (.rest _) hi hh ht hg hl
  | @closed h t _ _ hi hh ht hg hl hc =>
    obtain ⟨d, r, hm, hr⟩ :=
      closeTracker_recorded hE t ⟨(w.context.markReleased i).removeClient h.generation, w.outside⟩
    rw [hc] at hr
    rw [hr]
    exact .giveUpLast (.rest _) hi hh ht hg hl hm

theorem Dispose.meanwhile {result : DisposeOutcome} (h : Dispose E w result w') :
    K.Meanwhile (w.recorded view) (w'.recorded view) := by
  cases h with
  | already => exact .rest _
  | empty _ hc => exact .disposeEmpty (.rest _) hc
  | @closed t _ ht hc hidle =>
    obtain ⟨d, r, hm, hr⟩ :=
      closeTracker_recorded hE t ⟨w.context.withdrawn.retireTracker t.generation, w.outside⟩
    rw [retired, if_pos hidle, hr]
    exact .disposeIdle (.rest _) ht hc hidle hm
  | deferred _ ht hc hheld =>
    rw [World.recorded, World.recorded, hE.observe]
    exact .dispose (.rest _) ht hc hheld

/-! ### What operations do to the record -/

theorem retired_trace {t : Tracker ρ σ} {others : List Nat} (hs : w.context.Sound (t.generation :: others))
    (ht : t ∈ w.context.trackers) : K.Trace same (w.recorded view) ((retired E t w).recorded view) := by
  have hr : t.retired = false := (hs.books.unretired t ht).2 (by simp)
  unfold retired
  by_cases hidle : t.clients = 0
  · rw [if_pos hidle]
    obtain ⟨d, r, hm, hr'⟩ := closeTracker_recorded hE t ⟨w.context.retireTracker t.generation, w.outside⟩
    rw [hr']
    exact .closed (.rest _) (hs.books.closes_retire ht hr hidle) (hm.trace hs.retireTracker)
  · rw [if_neg hidle]
    exact .unmoved (.rest _) (hs.books.unmoved_retire ht hidle)

/-- A new reader is tracked, perhaps after other things have happened. -/
theorem tracked_trace {x : ρ} (hn : K.Noted view call w w₁) (hx : call.Makes same x) (hs : w.context.Sound inHand)
    (during : K.Trace same (w₁.recorded view) (w₂.recorded view)) (searcher : σ) :
    K.Trace same (w.recorded view) ((tracked E x searcher w₂).recorded view) := by
  obtain ⟨r, hm, hr⟩ := hn
  rw [World.recorded, hr] at during
  rw [World.recorded, World.recorded, tracked, hE.observe]
  exact .tracked (hm.trace hs) hx w.context during searcher

theorem Checkout.trace {result : Except Error Nat} (h : Checkout E w result w') (hs : w.context.Sound []) :
    K.Trace same (w.recorded view) (w'.recorded view) := by
  have hopen : ∀ {reader searcher w₁}, outcome E.openView w = (.ok (reader, searcher), w₁) →
      w₁.context.Sound [] ∧ K.Trace same (w.recorded view) ((tracked E reader searcher w₁).recorded view) := by
    intro reader searcher w₁ ho
    have hn := Record.Noted.of_outcome .ofOpening hE.openView ho
    exact ⟨hn.context.sound hs, tracked_trace hE hn ⟨rfl, rfl, nofun⟩ hs (.rest _) searcher⟩
  cases h with
  | disposed => exact .rest _
  | claimed => exact .unmoved (.rest _) (unmoved_addHandle _ _)
  | unopened _ _ ho =>
    exact (Record.Noted.of_outcome .ofOpening hE.openView ho).trace hs rfl nofun
  | @overtaken reader searcher _ _ _ ho =>
    obtain ⟨hs₁, htracked⟩ := hopen ho
    exact htracked.trans (retired_trace hE (hs₁.addTracker reader searcher) (newTracker_mem _ _ _ _))
  | opened _ _ ho => exact .unmoved (.unmoved (hopen ho).2 (unmoved_addHandle _ _)) (unmoved_serving _ _)

theorem Warmed.trace {searcher : σ} {callbacks : List κ} (h : Warmed E searcher callbacks w w')
    (hs : w.context.Sound inHand) : K.Trace same (w.recorded view) (w'.recorded view) := by
  induction h with
  | nil => exact .rest _
  | @cons callback _ w _ _ hw _ ih =>
    have hn := Record.Noted.of_outcome (fun _ => .warm) (hE.warm callback searcher) hw
    exact (hn.trace hs rfl nofun).trans (ih (hn.context.sound hs))

theorem Reopened.tracked {old : Tracker ρ σ} {reader : ρ} {searcher : σ} (h : Reopened E w old reader w₁)
    (hf : outcome (E.searcher reader) w₁ = (.ok searcher, w₂)) (hs : w.context.Sound []) :
    K.Trace E.sameReader (w.recorded view) ((Snapshot.tracked E reader searcher w₂).recorded view) := by
  have hn := Record.Noted.of_outcome (.ofReopening old.reader) (hE.reopen old.reader) h.reopened
  have hf' := Record.Noted.of_outcome (fun _ => .searcher reader) (hE.searcher reader) hf
  refine tracked_trace hE hn ⟨rfl, rfl, ?_⟩ hs (hf'.trace (hn.context.sound hs) rfl nofun) searcher
  rintro a ⟨⟩
  exact h.differs

theorem Reload.trace {result : Except Error ReloadOutcome} (h : Reload E w result w') (hs : w.context.Sound []) :
    K.Trace E.sameReader (w.recorded view) (w'.recorded view) := by
  have hm := hE.meanwhile
  cases h with
  | disposed | noSnapshot => exact .rest _
  | @unopened old _ _ _ _ _ ho =>
    exact (Record.Noted.of_outcome (.ofReopening old.reader) (hE.reopen old.reader) ho).trace hs rfl nofun
  | @unchanged old reader _ _ ht _ ho hsame =>
    refine (Record.Noted.of_outcome (.ofReopening old.reader) (hE.reopen old.reader) ho).trace hs rfl ?_
    rintro x ⟨⟩
    exact ⟨old.reader, rfl, hsame, old.view, List.mem_map_of_mem ht, rfl⟩
  | @unsearchable old reader e w₁ w₂ ho hf =>
    obtain ⟨r, hmean, hr⟩ := Record.Noted.of_outcome (.ofReopening old.reader) (hE.reopen old.reader) ho.reopened
    have hs₁ := hmean.context.sound hs
    have hf' := Record.Noted.of_outcome (fun _ => .searcher reader) (hE.searcher reader) hf
    have hs₂ := hf'.context.sound hs₁
    obtain ⟨r', hclose, hr'⟩ := hE.closeReader reader w₂
    have hsearcher : K.Trace E.sameReader _ _ := hf'.trace hs₁ rfl nofun
    rw [World.recorded, hr] at hsearcher
    rw [World.recorded, World.recorded, hr']
    refine .dropped (hmean.trace hs) ⟨rfl, rfl, ?_⟩ w.context hsearcher hs₂.books.heldOpen (hclose.trace hs₂)
    rintro a ⟨⟩
    exact ho.differs
  | @discarded old t reader searcher before after callback e w₁ w₂ w₃ w₄ ho hf _ hw hfail ht hg =>
    have hs₂ := ho.sound hm hf hs
    have hs₃ := hw.sound hm hs₂
    have hn := Record.Noted.of_outcome (fun _ => .warm) (hE.warm callback searcher) hfail
    have hs₄ := hn.context.sound hs₃
    rw [← hg] at hs₄
    have hwarmed := ((ho.tracked hE hf hs).trans (hw.trace hE hs₂)).trans (hn.trace hs₃ rfl nofun)
    exact hwarmed.trans (retired_trace hE hs₄ ht)
  | overtaken ho hf hw _ ht hg =>
    have hs₂ := ho.sound hm hf hs
    have hs₃ := hw.sound hm hs₂
    rw [← hg] at hs₃
    exact ((ho.tracked hE hf hs).trans (hw.trace hE hs₂)).trans (retired_trace hE hs₃ ht)
  | @published old previous reader searcher w₁ w₂ w₃ ho hf hw hd₃ ht hc =>
    have hs₂ := ho.sound hm hf hs
    have hs₃ := (hw.sound hm hs₂).publish hd₃
    rw [hc] at hs₃
    have hwarmed := (ho.tracked hE hf hs).trans (hw.trace hE hs₂)
    have hserving : K.Trace E.sameReader _ (w₃.context.serving w₂.context.nextGeneration, view w₃.outside) :=
      .unmoved hwarmed (unmoved_serving _ _)
    exact hserving.trans (retired_trace (w := ⟨w₃.context.serving w₂.context.nextGeneration, w₃.outside⟩) hE hs₃ ht)

theorem Use.Course.trace {use : Use κ} {result : Except Error Unit} (h : use.Course E w result w')
    (hs : w.context.Sound []) : K.Trace E.sameReader (w.recorded view) (w'.recorded view) := by
  cases h with
  | checkout h => exact h.trace hE hs
  | release h | drop h => exact (h.meanwhile hE).trace hs
  | reload h => exact h.trace hE hs
  | dispose h | dropContext h => exact (h.meanwhile hE).trace hs
  | register => exact .unmoved (.rest _) (unmoved_register _ _)

theorem after_trace (hs : w.context.Sound []) (uses : List (Use κ)) :
    K.Trace E.sameReader (w.recorded view) ((after E w uses).recorded view) := by
  have hm := hE.meanwhile
  induction uses generalizing w with
  | nil => exact .rest _
  | cons use uses ih =>
    obtain ⟨result, w', hout, hc⟩ := use_course hm hs use
    rw [after, List.foldl_cons, hout]
    exact (hc.trace hE hs).trans (ih (hc.sound hm hs))

end

/-! ### Callbacks that give up claims -/

/-- The claim has not been given up, and its snapshot is open and has clients. -/
def Context.holds (c : Context ρ σ κ) (i : Nat) : Bool :=
  match c.handles[i]? with
  | none => false
  | some h => !h.released && (c.tracker? h.generation).any fun t => t.clients != 0 && !t.released

def yielding (E : Engine ω ρ σ κ) : Option Nat → Action ω ρ σ κ Unit
  | some i => do if (← getContext).holds i then dropHandle E i
  | none => throw (.other "not ready")

theorem yielding_meanwhile {K : Record ρ σ κ τ} {view : ω → τ} {E : Engine ω ρ σ κ} (hE : E.Records K view)
    (callback : Option Nat) (w : World ω ρ σ κ) :
    K.Meanwhile (w.recorded view) ((outcome (yielding E callback) w).2.recorded view) := by
  cases callback with
  | none => exact .rest _
  | some i =>
    simp only [yielding, outcome_bind, outcome_getContext]
    cases hi : w.context.holds i with
    | false => exact .rest _
    | true =>
      cases hh : w.context.handles[i]? with
      | none => simp [Context.holds, hh] at hi
      | some h =>
        cases ht : w.context.tracker? h.generation with
        | none => simp [Context.holds, hh, ht] at hi
        | some t =>
          simp only [Context.holds, hh, ht, Option.any_some, Bool.and_eq_true, bne_iff_ne, Bool.not_eq_true'] at hi
          obtain ⟨result, w', hout, hr⟩ := release_held (E := E) hh hi.1 ht hi.2.1 hi.2.2
          have hdrop : (outcome (dropHandle E i) w).2 = w' := by
            rw [dropHandle, outcome_ignore, outcome_attempt, hout]
          rw [if_pos rfl, hdrop]
          exact hr.meanwhile hE

end IndexQuery.Snapshot
