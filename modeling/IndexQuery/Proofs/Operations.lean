import IndexQuery.Proofs.Actions
import IndexQuery.Proofs.Bookkeeping

set_option autoImplicit false

/-!
What the operations of a snapshot context can do.

In a context whose books are right, every operation takes one of a few courses. They are listed here once, with what
is asked of the index on the way, the result and the world that remains; failed attempts of the index are among
them, but no error of bookkeeping is. `Checkout`, `Reload` and `Dispose` are the lists, and `checkout_course`,
`reload_course` and `dispose_course` say that they are complete.
-/

namespace IndexQuery.Snapshot

variable {ω ρ σ κ : Type}

/-- The operations of the engine change a context within the given relation. -/
structure Engine.Keeps (R : Context ρ σ κ → Context ρ σ κ → Prop) (E : Engine ω ρ σ κ) : Prop where
  openView : ∀ w, R w.context (outcome E.openView w).2.context
  reopen : ∀ reader w, R w.context (outcome (E.reopen reader) w).2.context
  searcher : ∀ reader w, R w.context (outcome (E.searcher reader) w).2.context
  close : ∀ reader searcher w, R w.context (outcome (E.close reader searcher) w).2.context
  closeReader : ∀ reader w, R w.context (outcome (E.closeReader reader) w).2.context
  search : ∀ searcher request w, R w.context (outcome (E.search searcher request) w).2.context
  warm : ∀ callback searcher w, R w.context (outcome (E.warm callback searcher) w).2.context

abbrev Engine.Passive (E : Engine ω ρ σ κ) : Prop := E.Keeps fun c c' => c' = c

theorem Engine.Passive.meanwhile {E : Engine ω ρ σ κ} (hE : E.Passive) : E.Keeps Context.Meanwhile where
  openView w := hE.openView w ▸ .rest
  reopen reader w := hE.reopen reader w ▸ .rest
  searcher reader w := hE.searcher reader w ▸ .rest
  close reader searcher w := hE.close reader searcher w ▸ .rest
  closeReader reader w := hE.closeReader reader w ▸ .rest
  search searcher request w := hE.search searcher request w ▸ .rest
  warm callback searcher w := hE.warm callback searcher w ▸ .rest

theorem related_of_outcome {R : Context ρ σ κ → Context ρ σ κ → Prop} {α : Type} {action : Action ω ρ σ κ α}
    (h : ∀ w, R w.context (outcome action w).2.context) {w w₁ : World ω ρ σ κ} {result : Except Error α}
    (ho : outcome action w = (result, w₁)) : R w.context w₁.context := by
  have hw := h w
  rwa [ho] at hw

variable (E : Engine ω ρ σ κ)

/-! ### Closing and retiring -/

theorem outcome_closeTracker (t : Tracker ρ σ) (w : World ω ρ σ κ) :
    outcome (closeTracker E t) w = ((outcome (E.close t.reader t.searcher) w).1,
      ⟨(outcome (E.close t.reader t.searcher) w).2.context,
        E.observe (.released t.generation) (outcome (E.close t.reader t.searcher) w).2.outside⟩) := by
  simp [closeTracker, outcome_bind]

def retired (t : Tracker ρ σ) (w : World ω ρ σ κ) : World ω ρ σ κ :=
  let w₁ : World ω ρ σ κ := ⟨w.context.retireTracker t.generation, w.outside⟩
  if t.clients = 0 then (outcome (closeTracker E t) w₁).2 else w₁

section

variable {w : World ω ρ σ κ} {served : List Nat} (hb : w.context.Books served)

include hb

theorem outcome_retire {t : Tracker ρ σ} (ht : t ∈ w.context.trackers) (hr : t.retired = false) :
    outcome (retire E t.generation) w =
      (.ok (if t.clients = 0 then .released else .deferred t.clients), retired E t w) := by
  have hreleased := hb.unreleased ht hr
  simp only [retire, outcome_bind, outcome_getContext, hb.tracker?_eq ht, hr, Bool.false_eq_true, if_false,
    outcome_modifyContext, retired]
  by_cases hc : t.clients = 0
  · simp only [Tracker.closable, hc, hreleased, beq_self_eq_true, Bool.and_self, Bool.not_false, if_true, outcome_bind,
      outcome_attempt, outcome_pure]
  · simp [hc, Tracker.closable]

theorem outcome_claim {t : Tracker ρ σ} (ht : t ∈ w.context.trackers) (hr : t.retired = false) :
    outcome (claim t.generation) w =
      (.ok w.context.handles.length, ⟨w.context.addHandle t.generation, w.outside⟩) := by
  have hreleased := hb.unreleased ht hr
  simp only [claim, outcome_bind, outcome_getContext, hb.tracker?_eq ht, hreleased, Bool.false_eq_true, if_false,
    outcome_modifyContext, outcome_pure]

end

def tracked (reader : ρ) (searcher : σ) (w : World ω ρ σ κ) : World ω ρ σ κ :=
  ⟨w.context.addTracker reader searcher, E.observe (.created w.context.nextGeneration) w.outside⟩

def newTracker (reader : ρ) (searcher : σ) (w : World ω ρ σ κ) : Tracker ρ σ :=
  .ofView w.context.nextGeneration reader searcher

theorem outcome_track (reader : ρ) (searcher : σ) (w : World ω ρ σ κ) :
    outcome (track E reader searcher) w = (.ok w.context.nextGeneration, tracked E reader searcher w) := by
  simp only [track, tracked, outcome_bind, outcome_getContext, outcome_modifyContext, outcome_emit, outcome_pure]

theorem newTracker_mem (reader : ρ) (searcher : σ) (w : World ω ρ σ κ) :
    newTracker reader searcher w ∈ (tracked E reader searcher w).context.trackers :=
  List.mem_append_right _ (List.mem_singleton_self _)

/-! ### Checking out -/

inductive Checkout (w : World ω ρ σ κ) : Except Error Nat → World ω ρ σ κ → Prop where
  | disposed (hd : w.context.disposed = true) : Checkout w (.error .disposed) w
  | claimed {g : Nat} (hd : w.context.disposed = false) (hg : w.context.current = some g) :
      Checkout w (.ok w.context.handles.length) ⟨w.context.addHandle g, w.outside⟩
  | unopened {e : Error} {w₁ : World ω ρ σ κ} (hd : w.context.disposed = false) (hc : w.context.current = none)
      (ho : outcome E.openView w = (.error e, w₁)) : Checkout w (.error e) w₁
  /-- The context is disposed while the index is being opened. -/
  | overtaken {reader : ρ} {searcher : σ} {w₁ : World ω ρ σ κ} (hd : w.context.disposed = false)
      (hc : w.context.current = none) (ho : outcome E.openView w = (.ok (reader, searcher), w₁))
      (hd₁ : w₁.context.disposed = true) :
      Checkout w (.error .disposed) (retired E (newTracker reader searcher w₁) (tracked E reader searcher w₁))
  | opened {reader : ρ} {searcher : σ} {w₁ : World ω ρ σ κ} (hd : w.context.disposed = false)
      (hc : w.context.current = none) (ho : outcome E.openView w = (.ok (reader, searcher), w₁))
      (hd₁ : w₁.context.disposed = false) :
      Checkout w (.ok w₁.context.handles.length)
        ⟨((tracked E reader searcher w₁).context.addHandle w₁.context.nextGeneration).serving w₁.context.nextGeneration,
          (tracked E reader searcher w₁).outside⟩

variable {E} {w : World ω ρ σ κ} (hE : E.Keeps Context.Meanwhile) (hs : w.context.Sound [])

theorem outcome_claimCurrent (hs : w.context.Sound []) :
    w.context.disposed = true ∧ outcome claimCurrent w = (.error .disposed, w) ∨
    w.context.disposed = false ∧ w.context.current = none ∧ outcome claimCurrent w = (.ok none, w) ∨
    w.context.disposed = false ∧ ∃ g, w.context.current = some g ∧
      outcome claimCurrent w = (.ok (some w.context.handles.length), ⟨w.context.addHandle g, w.outside⟩) := by
  cases hd : w.context.disposed with
  | true =>
    refine .inl ⟨rfl, ?_⟩
    simp only [claimCurrent, outcome_bind, outcome_getContext, hd, if_true, outcome_throw]
  | false =>
    refine .inr ?_
    cases hc : w.context.current with
    | none =>
      refine .inl ⟨rfl, rfl, ?_⟩
      simp only [claimCurrent, outcome_bind, outcome_getContext, hd, Bool.false_eq_true, if_false, hc, outcome_pure]
    | some g =>
      obtain ⟨t, ht, rfl, hr⟩ := hs.served (.inl hc)
      refine .inr ⟨rfl, _, rfl, ?_⟩
      simp only [claimCurrent, outcome_bind, outcome_getContext, hd, Bool.false_eq_true, if_false, hc,
        outcome_claim hs.books ht hr, outcome_pure]

include hE hs in
theorem checkout_course : ∃ result w', outcome (checkout E) w = (result, w') ∧ Checkout E w result w' := by
  rcases outcome_claimCurrent hs with ⟨hd, hc⟩ | ⟨hd, hcur, hc⟩ | ⟨hd, g, hg, hc⟩
  · exact ⟨_, _, outcome_bind_error hc _, .disposed hd⟩
  · rcases ho : outcome E.openView w with ⟨e | ⟨reader, searcher⟩, w₁⟩
    · refine ⟨.error e, w₁, ?_, .unopened hd hcur ho⟩
      rw [checkout, outcome_bind_ok hc, outcome_bind_error ho]
    · have hm := related_of_outcome hE.openView ho
      have hs₂ : (tracked E reader searcher w₁).context.Sound [w₁.context.nextGeneration] :=
        (hm.sound hs).addTracker reader searcher
      have ht := newTracker_mem E reader searcher w₁
      cases hd₁ : w₁.context.disposed with
      | true =>
        have hd₂ : (tracked E reader searcher w₁).context.disposed = true := hd₁
        have hr : outcome (retire E w₁.context.nextGeneration) (tracked E reader searcher w₁) = (_, _) :=
          outcome_retire E hs₂.books ht rfl
        refine ⟨_, _, ?_, .overtaken hd hcur ho hd₁⟩
        simp only [checkout, outcome_bind, hc, ho, outcome_track, outcome_getContext, hd₂, if_true, hr, outcome_throw]
      | false =>
        have hd₂ : (tracked E reader searcher w₁).context.disposed = false := hd₁
        have hr : outcome (claim w₁.context.nextGeneration) (tracked E reader searcher w₁) = (_, _) :=
          outcome_claim hs₂.books ht rfl
        refine ⟨_, _, ?_, .opened hd hcur ho hd₁⟩
        simp only [checkout, outcome_bind, hc, ho, outcome_track, outcome_getContext, hd₂, Bool.false_eq_true, if_false,
          hr, outcome_modifyContext, outcome_pure]
        rfl
  · refine ⟨_, _, ?_, .claimed hd hg⟩
    rw [checkout, outcome_bind_ok hc, outcome_pure]

/-! ### Giving up claims -/

def Tracker.lastHeld (t : Tracker ρ σ) : Bool := t.retired && t.clients == 1

inductive Release (E : Engine ω ρ σ κ) (i : Nat) (w : World ω ρ σ κ) : Except Error Unit → World ω ρ σ κ → Prop where
  | refused (hi : ∀ h, w.context.handles[i]? = some h → h.released = true) : Release E i w (.error .alreadyReleased) w
  | kept {h : Handle} {t : Tracker ρ σ} (hi : w.context.handles[i]? = some h) (hh : h.released = false)
      (ht : t ∈ w.context.trackers) (hg : t.generation = h.generation) (hl : t.lastHeld = false) :
      Release E i w (.ok ()) ⟨(w.context.markReleased i).removeClient h.generation, w.outside⟩
  | closed {h : Handle} {t : Tracker ρ σ} {result : Except Error Unit} {w' : World ω ρ σ κ}
      (hi : w.context.handles[i]? = some h) (hh : h.released = false) (ht : t ∈ w.context.trackers)
      (hg : t.generation = h.generation) (hl : t.lastHeld = true)
      (hc : outcome (closeTracker E t) ⟨(w.context.markReleased i).removeClient h.generation, w.outside⟩ =
        (result, w')) : Release E i w result w'

/-- A snapshot with a claim that has not been given up has clients and is open. -/
theorem Context.Books.held {c : Context ρ σ κ} {served : List Nat} (hb : c.Books served) {i : Nat} {h : Handle}
    {t : Tracker ρ σ} (hi : c.handles[i]? = some h) (hh : h.released = false) (ht : t ∈ c.trackers)
    (hg : t.generation = h.generation) : t.clients ≠ 0 ∧ t.released = false := by
  have hheld : t.clients ≠ 0 := by
    rw [hb.clients t ht, hg, ← Context.unreleased_markReleased hi hh, if_pos rfl]
    omega
  refine ⟨hheld, ?_⟩
  rw [← Bool.not_eq_true, hb.released t ht]
  omega

theorem Tracker.closable_lastHeld {t : Tracker ρ σ} (hheld : t.clients ≠ 0) (hopen : t.released = false) :
    Tracker.closable { t with clients := t.clients - 1 } = t.lastHeld := by
  rw [Bool.eq_iff_iff]
  simp [Tracker.closable, Tracker.lastHeld, hopen]
  omega

/-- A claim on an open snapshot that has clients is given up in one of two ways. -/
theorem release_held {i : Nat} {h : Handle} {t : Tracker ρ σ} (hi : w.context.handles[i]? = some h)
    (hh : h.released = false) (hfind : w.context.tracker? h.generation = some t) (hheld : t.clients ≠ 0)
    (hopen : t.released = false) : ∃ result w', outcome (release E i) w = (result, w') ∧ Release E i w result w' := by
  have hmarked : (w.context.markReleased i).tracker? h.generation = some t := hfind
  have ht : t ∈ w.context.trackers := List.mem_of_find?_eq_some hfind
  have hg : t.generation = h.generation := by simpa using List.find?_some hfind
  have hlast := Tracker.closable_lastHeld hheld hopen
  cases hl : t.lastHeld with
  | true =>
    rcases hc : outcome (closeTracker E t) ⟨(w.context.markReleased i).removeClient h.generation, w.outside⟩
      with ⟨result, w'⟩
    refine ⟨result, w', ?_, .closed hi hh ht hg hl hc⟩
    simp only [release, removeClient, outcome_bind, outcome_getContext, hi, hh, Bool.false_eq_true, if_false,
      outcome_modifyContext, hmarked, hheld, hlast, hl, if_true, hc]
  | false =>
    refine ⟨_, _, ?_, .kept hi hh ht hg hl⟩
    simp only [release, removeClient, outcome_bind, outcome_getContext, hi, hh, Bool.false_eq_true, if_false,
      outcome_modifyContext, hmarked, hheld, hlast, hl, outcome_pure]

include hs in
theorem release_course (i : Nat) : ∃ result w', outcome (release E i) w = (result, w') ∧ Release E i w result w' := by
  cases hi : w.context.handles[i]? with
  | none =>
    refine ⟨_, _, ?_, .refused (by simp [hi])⟩
    simp only [release, outcome_bind, outcome_getContext, hi, outcome_throw]
  | some h =>
    cases hh : h.released with
    | true =>
      refine ⟨_, _, ?_, .refused (by simpa [hi] using hh)⟩
      simp only [release, outcome_bind, outcome_getContext, hi, hh, if_true, outcome_throw]
    | false =>
      obtain ⟨t, ht, hg⟩ := hs.books.known h (List.mem_of_getElem? hi)
      obtain ⟨hheld, hopen⟩ := hs.books.held hi hh ht hg
      exact release_held hi hh (hg ▸ hs.books.tracker?_eq ht) hheld hopen

/-! ### Reloading -/

def Context.loading (c : Context ρ σ κ) : List κ := if c.settings.prewarm then c.callbacks else []

inductive Warmed (E : Engine ω ρ σ κ) (searcher : σ) : List κ → World ω ρ σ κ → World ω ρ σ κ → Prop where
  | nil (w : World ω ρ σ κ) : Warmed E searcher [] w w
  | cons {callback : κ} {rest : List κ} {w w₁ w₂ : World ω ρ σ κ}
      (h : outcome (E.warm callback searcher) w = (.ok (), w₁)) (tail : Warmed E searcher rest w₁ w₂) :
      Warmed E searcher (callback :: rest) w w₂

theorem outcome_prewarm (generation : Nat) (searcher : σ) (callbacks : List κ) (w : World ω ρ σ κ) :
    (∃ w', Warmed E searcher callbacks w w' ∧ outcome (prewarm E generation searcher callbacks) w = (.ok (), w')) ∨
    ∃ before callback after e w₁ w₂, callbacks = before ++ callback :: after ∧ Warmed E searcher before w w₁ ∧
      outcome (E.warm callback searcher) w₁ = (.error e, w₂) ∧
      outcome (prewarm E generation searcher callbacks) w = outcome (do let _ ← retire E generation; throw e) w₂ := by
  induction callbacks generalizing w with
  | nil => exact .inl ⟨w, .nil w, rfl⟩
  | cons callback rest ih =>
    rcases hw : outcome (E.warm callback searcher) w with ⟨e | ⟨⟩, w₁⟩
    · refine .inr ⟨[], callback, rest, e, w, w₁, rfl, .nil w, hw, ?_⟩
      simp only [prewarm, outcome_bind, outcome_attempt, hw]
    · have hstep : outcome (prewarm E generation searcher (callback :: rest)) w =
          outcome (prewarm E generation searcher rest) w₁ := by
        simp only [prewarm, outcome_bind, outcome_attempt, hw]
      rw [hstep]
      rcases ih w₁ with ⟨w', hwarm, hout⟩ | ⟨before, failing, after, e, w₂, w₃, rfl, hwarm, hfail, hout⟩
      · exact .inl ⟨w', .cons hw hwarm, hout⟩
      · exact .inr ⟨callback :: before, failing, after, e, w₂, w₃, rfl, .cons hw hwarm, hfail, hout⟩

theorem Warmed.sound (hE : E.Keeps Context.Meanwhile) {searcher : σ} {callbacks : List κ} {w w' : World ω ρ σ κ}
    {inHand : List Nat} (h : Warmed E searcher callbacks w w') (hs : w.context.Sound inHand) :
    w'.context.Sound inHand := by
  induction h with
  | nil => exact hs
  | cons hw _ ih => exact ih ((related_of_outcome (hE.warm _ searcher) hw).sound hs)

theorem Warmed.current (hE : E.Keeps Context.Meanwhile) {searcher : σ} {callbacks : List κ} {w w' : World ω ρ σ κ}
    {current : Option Nat} (h : Warmed E searcher callbacks w w')
    (hc : w.context.disposed = true ∨ w.context.current = current) :
    w'.context.disposed = true ∨ w'.context.current = current := by
  induction h with
  | nil => exact hc
  | cons hw _ ih => exact ih ((related_of_outcome (hE.warm _ searcher) hw).current hc)

/-- The index has a reader newer than that of the current snapshot. -/
structure Reopened (E : Engine ω ρ σ κ) (w : World ω ρ σ κ) (old : Tracker ρ σ) (reader : ρ)
    (w₁ : World ω ρ σ κ) : Prop where
  disposed : w.context.disposed = false
  mem : old ∈ w.context.trackers
  current : w.context.current = some old.generation
  reopened : outcome (E.reopen old.reader) w = (.ok reader, w₁)
  differs : E.sameReader reader old.reader = false

inductive Reload (E : Engine ω ρ σ κ) (w : World ω ρ σ κ) : Except Error ReloadOutcome → World ω ρ σ κ → Prop where
  | disposed (hd : w.context.disposed = true) : Reload E w (.error .disposed) w
  | noSnapshot (hd : w.context.disposed = false) (hc : w.context.current = none) : Reload E w (.ok .noSnapshot) w
  | unopened {old : Tracker ρ σ} {e : Error} {w₁ : World ω ρ σ κ} (hd : w.context.disposed = false)
      (ht : old ∈ w.context.trackers) (hc : w.context.current = some old.generation)
      (ho : outcome (E.reopen old.reader) w = (.error e, w₁)) : Reload E w (.error e) w₁
  | unchanged {old : Tracker ρ σ} {reader : ρ} {w₁ : World ω ρ σ κ} (hd : w.context.disposed = false)
      (ht : old ∈ w.context.trackers) (hc : w.context.current = some old.generation)
      (ho : outcome (E.reopen old.reader) w = (.ok reader, w₁)) (hsame : E.sameReader reader old.reader = true) :
      Reload E w (.ok .unchanged) w₁
  | unsearchable {old : Tracker ρ σ} {reader : ρ} {e : Error} {w₁ w₂ : World ω ρ σ κ}
      (ho : Reopened E w old reader w₁) (hf : outcome (E.searcher reader) w₁ = (.error e, w₂)) :
      Reload E w (.error e) (outcome (E.closeReader reader) w₂).2
  | discarded {old t : Tracker ρ σ} {reader : ρ} {searcher : σ} {before after : List κ} {callback : κ} {e : Error}
      {w₁ w₂ w₃ w₄ : World ω ρ σ κ} (ho : Reopened E w old reader w₁)
      (hf : outcome (E.searcher reader) w₁ = (.ok searcher, w₂))
      (hk : (tracked E reader searcher w₂).context.loading = before ++ callback :: after)
      (hw : Warmed E searcher before (tracked E reader searcher w₂) w₃)
      (hfail : outcome (E.warm callback searcher) w₃ = (.error e, w₄)) (ht : t ∈ w₄.context.trackers)
      (hg : t.generation = w₂.context.nextGeneration) : Reload E w (.error e) (retired E t w₄)
  /-- The context is disposed while the snapshot is being loaded. -/
  | overtaken {old t : Tracker ρ σ} {reader : ρ} {searcher : σ} {w₁ w₂ w₃ : World ω ρ σ κ}
      (ho : Reopened E w old reader w₁) (hf : outcome (E.searcher reader) w₁ = (.ok searcher, w₂))
      (hw : Warmed E searcher (tracked E reader searcher w₂).context.loading (tracked E reader searcher w₂) w₃)
      (hd₃ : w₃.context.disposed = true) (ht : t ∈ w₃.context.trackers)
      (hg : t.generation = w₂.context.nextGeneration) : Reload E w (.error .disposed) (retired E t w₃)
  | published {old previous : Tracker ρ σ} {reader : ρ} {searcher : σ} {w₁ w₂ w₃ : World ω ρ σ κ}
      (ho : Reopened E w old reader w₁) (hf : outcome (E.searcher reader) w₁ = (.ok searcher, w₂))
      (hw : Warmed E searcher (tracked E reader searcher w₂).context.loading (tracked E reader searcher w₂) w₃)
      (hd₃ : w₃.context.disposed = false) (ht : previous ∈ w₃.context.trackers)
      (hc : w₃.context.current = some previous.generation) :
      Reload E w (.ok (.published w₂.context.nextGeneration))
        (retired E previous ⟨w₃.context.serving w₂.context.nextGeneration, w₃.outside⟩)

theorem outcome_searcherFor (reader : ρ) (w : World ω ρ σ κ) :
    outcome (searcherFor E reader) w =
      match outcome (E.searcher reader) w with
      | (.ok searcher, w₁) => (.ok searcher, w₁)
      | (.error e, w₁) => (.error e, (outcome (E.closeReader reader) w₁).2) := by
  rcases hf : outcome (E.searcher reader) w with ⟨e | searcher, w₁⟩ <;>
    simp only [searcherFor, outcome_bind, outcome_attempt, hf, outcome_pure, outcome_throw]

/-- What is left of a reload once the new snapshot has been tracked. -/
theorem outcome_load (reader : ρ) (searcher : σ) (w : World ω ρ σ κ) :
    outcome (do
      let generation ← track E reader searcher
      let c ← getContext
      if c.settings.prewarm then prewarm E generation searcher c.callbacks
      publish E generation) w =
    outcome (do
      prewarm E w.context.nextGeneration searcher (tracked E reader searcher w).context.loading
      publish E w.context.nextGeneration) (tracked E reader searcher w) := by
  rw [outcome_bind_ok (outcome_track E reader searcher w), outcome_bind_ok (outcome_getContext _)]
  cases hp : (tracked E reader searcher w).context.settings.prewarm <;>
    simp [Context.loading, hp, prewarm]

theorem outcome_publish_disposed {n : Nat} (hs : w.context.Sound [n]) (hd : w.context.disposed = true) :
    ∃ t ∈ w.context.trackers, t.generation = n ∧ outcome (publish E n) w = (.error .disposed, retired E t w) := by
  obtain ⟨t, ht, rfl, hr⟩ := hs.served (.inr (List.mem_singleton_self n))
  refine ⟨t, ht, rfl, ?_⟩
  simp only [publish, outcome_bind, outcome_getContext, hd, if_true, outcome_retire E hs.books ht hr, outcome_throw]

theorem outcome_publish {n : Nat} {previous : Tracker ρ σ} (hs : w.context.Sound [n]) (hd : w.context.disposed = false)
    (ht : previous ∈ w.context.trackers) (hc : w.context.current = some previous.generation) :
    outcome (publish E n) w = (.ok (.published n), retired E previous ⟨w.context.serving n, w.outside⟩) := by
  have hb := (hs.publish hd).books
  have hr : previous.retired = false := (hs.books.unretired previous ht).2 (by simp [hc])
  have hretire : outcome (retire E previous.generation) ⟨w.context.serving n, w.outside⟩ = (_, _) :=
    outcome_retire E hb ht hr
  rw [publish, outcome_bind_ok (outcome_getContext w)]
  simp only [hd, Bool.false_eq_true, if_false, hc]
  rw [outcome_bind_ok (outcome_modifyContext _ w)]
  exact outcome_bind_ok hretire _

theorem load_course (hE : E.Keeps Context.Meanwhile) (hs : w.context.Sound []) {old : Tracker ρ σ} {reader : ρ}
    {searcher : σ} {w₁ w₂ : World ω ρ σ κ} (ho : Reopened E w old reader w₁)
    (hf : outcome (E.searcher reader) w₁ = (.ok searcher, w₂)) :
    ∃ result w', outcome (do
      prewarm E w₂.context.nextGeneration searcher (tracked E reader searcher w₂).context.loading
      publish E w₂.context.nextGeneration) (tracked E reader searcher w₂) = (result, w') ∧ Reload E w result w' := by
  have hm₁ := related_of_outcome (hE.reopen _) ho.reopened
  have hm₂ := related_of_outcome (hE.searcher _) hf
  have hs₂ := hm₂.sound (hm₁.sound hs)
  have hs₃ : (tracked E reader searcher w₂).context.Sound [w₂.context.nextGeneration] :=
    hs₂.addTracker reader searcher
  rcases outcome_prewarm w₂.context.nextGeneration searcher (tracked E reader searcher w₂).context.loading
    (tracked E reader searcher w₂) with
    ⟨w₃, hw, hout⟩ | ⟨before, callback, after, e, w₃, w₄, hk, hw, hfail, hout⟩
  · rw [outcome_bind_ok hout]
    have hs₄ := hw.sound hE hs₃
    cases hd : w₃.context.disposed with
    | true =>
      obtain ⟨t, ht, hg, hpublish⟩ := outcome_publish_disposed hs₄ hd
      exact ⟨_, _, hpublish, .overtaken ho hf hw hd ht hg⟩
    | false =>
      -- Callbacks cannot publish anything, so that the snapshot before is still the one that was reopened.
      have hcur : w₃.context.current = some old.generation := by
        have hc := hw.current hE (hm₂.current (hm₁.current (.inr ho.current)))
        exact hc.resolve_left (by simp [hd])
      obtain ⟨previous, ht, hg, _⟩ := hs₄.served (.inl hcur)
      rw [← hg] at hcur
      exact ⟨_, _, outcome_publish hs₄ hd ht hcur, .published ho hf hw hd ht hcur⟩
  · have hs₄ := (related_of_outcome (hE.warm _ _) hfail).sound (hw.sound hE hs₃)
    obtain ⟨t, ht, hg, hr⟩ := hs₄.served (.inr (List.mem_singleton_self _))
    refine ⟨_, _, ?_, .discarded ho hf hk hw hfail ht hg⟩
    rw [← hg] at hout ⊢
    rw [outcome_bind_ok (outcome_retire E hs₄.books ht hr), outcome_throw] at hout
    exact outcome_bind_error hout _

include hE hs in
theorem reload_course : ∃ result w', outcome (reload E) w = (result, w') ∧ Reload E w result w' := by
  cases hd : w.context.disposed with
  | true =>
    refine ⟨_, _, ?_, .disposed hd⟩
    simp only [reload, outcome_bind, outcome_getContext, hd, if_true, outcome_throw]
  | false =>
    cases hc : w.context.current with
    | none =>
      refine ⟨_, _, ?_, .noSnapshot hd hc⟩
      simp only [reload, outcome_bind, outcome_getContext, hd, Bool.false_eq_true, if_false, Context.currentTracker?, hc,
        Option.bind_none, outcome_pure]
    | some g =>
      obtain ⟨old, ht, rfl, hr⟩ := hs.served (.inl hc)
      have hold : w.context.currentTracker? = some old := by
        rw [Context.currentTracker?, hc, Option.bind_some, hs.books.tracker?_eq ht]
      rcases ho : outcome (E.reopen old.reader) w with ⟨e | reader, w₁⟩
      · refine ⟨_, _, ?_, .unopened hd ht hc ho⟩
        simp only [reload, outcome_bind, outcome_getContext, hd, Bool.false_eq_true, if_false, hold, ho]
      · cases hsame : E.sameReader reader old.reader with
        | true =>
          refine ⟨_, _, ?_, .unchanged hd ht hc ho hsame⟩
          simp only [reload, outcome_bind, outcome_getContext, hd, Bool.false_eq_true, if_false, hold, ho, hsame,
            if_true, outcome_pure]
        | false =>
          have hreopened : Reopened E w old reader w₁ := ⟨hd, ht, hc, ho, hsame⟩
          have hout : outcome (reload E) w = outcome (do
              let searcher ← searcherFor E reader
              let generation ← track E reader searcher
              let c ← getContext
              if c.settings.prewarm then prewarm E generation searcher c.callbacks
              publish E generation) w₁ := by
            rw [reload, outcome_bind_ok (outcome_getContext w)]
            simp only [hd, Bool.false_eq_true, if_false, hold]
            rw [outcome_bind_ok ho]
            simp only [hsame, Bool.false_eq_true, if_false]
          rcases hf : outcome (E.searcher reader) w₁ with ⟨e | searcher, w₂⟩
          · refine ⟨_, _, ?_, .unsearchable hreopened hf⟩
            rw [hout, outcome_bind, outcome_searcherFor, hf]
          · obtain ⟨result, w', hload, hcourse⟩ := load_course hE hs hreopened hf
            refine ⟨result, w', ?_, hcourse⟩
            rw [hout, outcome_bind, outcome_searcherFor, hf, ← hload, ← outcome_load]

/-! ### Disposing -/

inductive Dispose (E : Engine ω ρ σ κ) (w : World ω ρ σ κ) : DisposeOutcome → World ω ρ σ κ → Prop where
  | already (hd : w.context.disposed = true) : Dispose E w .alreadyDisposed w
  | empty (hd : w.context.disposed = false) (hc : w.context.current = none) :
      Dispose E w .released ⟨w.context.withdrawn, w.outside⟩
  | closed {t : Tracker ρ σ} (hd : w.context.disposed = false) (ht : t ∈ w.context.trackers)
      (hc : w.context.current = some t.generation) (hidle : t.clients = 0) :
      Dispose E w .released (retired E t ⟨w.context.withdrawn, w.outside⟩)
  | deferred {t : Tracker ρ σ} (hd : w.context.disposed = false) (ht : t ∈ w.context.trackers)
      (hc : w.context.current = some t.generation) (hheld : t.clients ≠ 0) :
      Dispose E w (.deferred t.clients) ⟨w.context.withdrawn.retireTracker t.generation,
        E.observe (.deferred t.generation t.clients) w.outside⟩

include hs in
theorem dispose_course : ∃ result w', outcome (dispose E) w = (.ok result, w') ∧ Dispose E w result w' := by
  cases hd : w.context.disposed with
  | true =>
    refine ⟨_, _, ?_, .already hd⟩
    simp only [dispose, outcome_bind, outcome_getContext, hd, if_true, outcome_pure]
  | false =>
    cases hc : w.context.current with
    | none =>
      refine ⟨_, _, ?_, .empty hd hc⟩
      simp only [dispose, outcome_bind, outcome_getContext, hd, Bool.false_eq_true, if_false, outcome_modifyContext, hc,
        outcome_pure, Context.withdrawn]
    | some g =>
      obtain ⟨t, ht, rfl, hr⟩ := hs.served (.inl hc)
      have hretire : outcome (retire E t.generation) ⟨w.context.withdrawn, w.outside⟩ = (_, _) :=
        outcome_retire E hs.withdraw.books ht hr
      by_cases hidle : t.clients = 0
      · refine ⟨_, _, ?_, .closed hd ht hc hidle⟩
        rw [if_pos hidle] at hretire
        rw [dispose, outcome_bind_ok (outcome_getContext w)]
        simp only [hd, Bool.false_eq_true, if_false, hc]
        rw [outcome_bind_ok (outcome_modifyContext _ w)]
        exact outcome_bind_ok hretire _
      · refine ⟨_, _, ?_, .deferred hd ht hc hidle⟩
        rw [if_neg hidle, retired, if_neg hidle] at hretire
        rw [dispose, outcome_bind_ok (outcome_getContext w)]
        simp only [hd, Bool.false_eq_true, if_false, hc]
        rw [outcome_bind_ok (outcome_modifyContext _ w)]
        exact outcome_bind_ok hretire _

end IndexQuery.Snapshot
