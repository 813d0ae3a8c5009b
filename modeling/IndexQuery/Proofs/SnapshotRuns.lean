import IndexQuery.Proofs.Operations

set_option autoImplicit false

/-!
Runs of a snapshot context: any sequence of checkouts, releases, reloads and disposals, over any index.

Each course of each operation keeps the books. So they are right after every run, no operation meets a snapshot
that has been closed or a client that is not counted, and a claim can be given up only once (`after_balanced`). The
index may fail whenever it is called, and while it works, others may use the context.
-/

namespace IndexQuery.Snapshot

variable {ω ρ σ κ : Type}

inductive Use (κ : Type) where
  | checkout
  | release (handle : Nat)
  | drop (handle : Nat)
  | reload
  | dispose
  | dropContext
  | register (callback : κ)

def Use.perform (E : Engine ω ρ σ κ) : Use κ → Action ω ρ σ κ Unit
  | checkout => do let _ ← Snapshot.checkout E
  | release i => Snapshot.release E i
  | drop i => dropHandle E i
  | reload => do let _ ← Snapshot.reload E
  | dispose | dropContext => do let _ ← Snapshot.dispose E
  | register callback => modifyContext fun c => { c with callbacks := c.callbacks ++ [callback] }

def after (E : Engine ω ρ σ κ) (w : World ω ρ σ κ) (uses : List (Use κ)) : World ω ρ σ κ :=
  uses.foldl (fun w use => (outcome (use.perform E) w).2) w

def World.start (settings : ContextSettings) (outside : ω) : World ω ρ σ κ := ⟨.ofSettings settings, outside⟩

theorem after_append (E : Engine ω ρ σ κ) (w : World ω ρ σ κ) (earlier later : List (Use κ)) :
    after E w (earlier ++ later) = after E (after E w earlier) later :=
  List.foldl_append

/-- Clients are the claims that have not been given up; a snapshot is closed if it is retired and nobody holds it; the
one snapshot that is not retired is the current one, which a disposed context has not. -/
structure Context.Balanced (c : Context ρ σ κ) : Prop where
  distinct : (c.trackers.map (·.generation)).Nodup
  known : ∀ h ∈ c.handles, ∃ t ∈ c.trackers, t.generation = h.generation
  clients : ∀ t ∈ c.trackers, t.clients = c.unreleased t.generation
  released : ∀ t ∈ c.trackers, t.released = true ↔ t.retired = true ∧ t.clients = 0
  unretired : ∀ t ∈ c.trackers, t.retired = false → c.current = some t.generation
  current : ∀ g, c.current = some g → ∃ t ∈ c.trackers, t.generation = g ∧ t.retired = false ∧ t.released = false
  disposed : c.disposed = true → c.current = none

theorem Context.Sound.balanced {c : Context ρ σ κ} (hs : c.Sound []) : c.Balanced where
  distinct := hs.books.distinct
  known := hs.books.known
  clients := hs.books.clients
  released := hs.books.released
  unretired t ht hr := by simpa using (hs.books.unretired t ht).1 hr
  current g hg := by
    obtain ⟨t, ht, rfl, hr⟩ := hs.served (.inl hg)
    exact ⟨t, ht, rfl, hr, hs.books.unreleased ht hr⟩
  disposed := hs.disposed

/-! ### Each course keeps the books -/

theorem closeTracker_related {E : Engine ω ρ σ κ} {R : Context ρ σ κ → Context ρ σ κ → Prop} (hE : E.Keeps R)
    (t : Tracker ρ σ) (w : World ω ρ σ κ) : R w.context (outcome (closeTracker E t) w).2.context := by
  rw [outcome_closeTracker]
  exact hE.close t.reader t.searcher w

section

variable {E : Engine ω ρ σ κ} (hE : E.Keeps Context.Meanwhile) {w w' : World ω ρ σ κ}

include hE

theorem retired_sound {t : Tracker ρ σ} {inHand : List Nat} (hs : w.context.Sound (t.generation :: inHand)) :
    (retired E t w).context.Sound inHand := by
  unfold retired
  split
  · exact (closeTracker_related hE t _).sound hs.retireTracker
  · exact hs.retireTracker

theorem Checkout.sound {result : Except Error Nat} (h : Checkout E w result w') (hs : w.context.Sound []) :
    w'.context.Sound [] := by
  cases h with
  | disposed => exact hs
  | claimed _ hg => exact hs.addHandle (.inl hg)
  | unopened _ _ ho => exact (related_of_outcome hE.openView ho).sound hs
  | overtaken _ _ ho =>
    have hs₁ := (related_of_outcome hE.openView ho).sound hs
    exact retired_sound hE (hs₁.addTracker _ _)
  | @opened reader searcher w₁ hd hc ho hd₁ =>
    have hm := related_of_outcome hE.openView ho
    -- Nobody else opens the index meanwhile, so that there is no current snapshot to take out of service.
    have hcur : w₁.context.current = none := (hm.current (.inr hc)).resolve_left (by simp [hd₁])
    have hs₂ := ((hm.sound hs).addTracker reader searcher).addHandle (.inr (List.mem_singleton_self _))
    have hs₃ := hs₂.publish hd₁
    rwa [show (((w₁.context.addTracker reader searcher).addHandle w₁.context.nextGeneration).current.toList) = [] by
      simp [Context.addHandle, Context.mapTracker, Context.addTracker, hcur]] at hs₃

theorem Release.sound {i : Nat} {result : Except Error Unit} (h : Release E i w result w') (hs : w.context.Sound []) :
    w'.context.Sound [] := by
  cases h with
  | refused => exact hs
  | kept hi hh => exact hs.giveUp hi hh
  | closed hi hh _ _ _ hc => exact (related_of_outcome (closeTracker_related hE _) hc).sound (hs.giveUp hi hh)

theorem Reopened.sound {old : Tracker ρ σ} {reader : ρ} {searcher : σ} {w₁ w₂ : World ω ρ σ κ}
    (ho : Reopened E w old reader w₁) (hf : outcome (E.searcher reader) w₁ = (.ok searcher, w₂))
    (hs : w.context.Sound []) : (tracked E reader searcher w₂).context.Sound [w₂.context.nextGeneration] :=
  ((related_of_outcome (hE.searcher _) hf).sound
    ((related_of_outcome (hE.reopen _) ho.reopened).sound hs)).addTracker reader searcher

theorem Reload.sound {result : Except Error ReloadOutcome} (h : Reload E w result w') (hs : w.context.Sound []) :
    w'.context.Sound [] := by
  cases h with
  | disposed | noSnapshot => exact hs
  | unopened _ _ _ ho | unchanged _ _ _ ho => exact (related_of_outcome (hE.reopen _) ho).sound hs
  | unsearchable ho hf =>
    have hs₁ := (related_of_outcome (hE.reopen _) ho.reopened).sound hs
    exact (hE.closeReader _ _).sound ((related_of_outcome (hE.searcher _) hf).sound hs₁)
  | discarded ho hf _ hw hfail ht hg =>
    have hs₃ := hw.sound hE (ho.sound hE hf hs)
    have hs₄ := (related_of_outcome (hE.warm _ _) hfail).sound hs₃
    rw [← hg] at hs₄
    exact retired_sound hE hs₄
  | overtaken ho hf hw _ ht hg =>
    have hs₃ := hw.sound hE (ho.sound hE hf hs)
    rw [← hg] at hs₃
    exact retired_sound hE hs₃
  | published ho hf hw hd₃ ht hc =>
    have hs₄ := (hw.sound hE (ho.sound hE hf hs)).publish hd₃
    rw [hc] at hs₄
    exact retired_sound hE hs₄

theorem Dispose.sound {result : DisposeOutcome} (h : Dispose E w result w') (hs : w.context.Sound []) :
    w'.context.Sound [] := by
  have hw := hs.withdraw
  cases h with
  | already => exact hs
  | empty _ hc =>
    rw [hc] at hw
    exact hw
  | closed _ _ hc =>
    rw [hc] at hw
    exact retired_sound hE hw
  | deferred _ _ hc =>
    rw [hc] at hw
    exact hw.retireTracker

end

/-! ### Each course is made of elementary changes -/

/-- One thing that happens to a context in an operation that does not dispose it; `R` is what happens to it while the
index is at work. -/
inductive Context.Move (R : Context ρ σ κ → Context ρ σ κ → Prop) (c : Context ρ σ κ) : Context ρ σ κ → Prop where
  | index {c' : Context ρ σ κ} (h : R c c') : Move R c c'
  | change {c' : Context ρ σ κ} (h : Change c c') (hd : c'.disposed = c.disposed) : Move R c c'

abbrev Context.Moves (R : Context ρ σ κ → Context ρ σ κ → Prop) : Context ρ σ κ → Context ρ σ κ → Prop :=
  Relation.ReflTransGen (Move R)

theorem Context.Moves.changes {c c' : Context ρ σ κ} (h : c.Moves Meanwhile c') : c.Changes c' := by
  induction h with
  | refl => exact .refl
  | tail _ hstep ih =>
    cases hstep with
    | index h => exact ih.trans h.changes
    | change h => exact ih.tail h

section

variable {E : Engine ω ρ σ κ} {R : Context ρ σ κ → Context ρ σ κ → Prop} (hE : E.Keeps R) {w w' : World ω ρ σ κ}

include hE

theorem retired_moves (t : Tracker ρ σ) (w : World ω ρ σ κ) : w.context.Moves R (retired E t w).context := by
  have hretire : w.context.Moves R (w.context.retireTracker t.generation) := .single (.change (.retireTracker _) rfl)
  unfold retired
  split
  · exact hretire.tail (.index (closeTracker_related hE t ⟨w.context.retireTracker t.generation, w.outside⟩))
  · exact hretire

theorem Checkout.moves {result : Except Error Nat} (h : Checkout E w result w') : w.context.Moves R w'.context := by
  cases h with
  | disposed => exact .refl
  | claimed => exact .single (.change (.addHandle _) rfl)
  | unopened _ _ ho => exact .single (.index (related_of_outcome hE.openView ho))
  | @overtaken reader searcher w₁ _ _ ho =>
    have hopen : w.context.Moves R w₁.context := .single (.index (related_of_outcome hE.openView ho))
    have htrack := hopen.tail (.change (.addTracker reader searcher) rfl)
    exact htrack.trans (retired_moves hE _ (tracked E reader searcher w₁))
  | @opened reader searcher w₁ _ _ ho =>
    have hopen : w.context.Moves R w₁.context := .single (.index (related_of_outcome hE.openView ho))
    have htrack := hopen.tail (.change (.addTracker reader searcher) rfl)
    exact (htrack.tail (.change (.addHandle _) rfl)).tail (.change (.serving _) rfl)

theorem Release.moves {i : Nat} {result : Except Error Unit} (h : Release E i w result w') :
    w.context.Moves R w'.context := by
  have hgiveUp : ∀ g, w.context.Moves R ((w.context.markReleased i).removeClient g) := fun g =>
    (Relation.ReflTransGen.single (.change (.markReleased i) rfl)).tail (.change (.removeClient g) rfl)
  cases h with
  | refused => exact .refl
  | kept => exact hgiveUp _
  | closed _ _ _ _ _ hc => exact (hgiveUp _).tail (.index (related_of_outcome (closeTracker_related hE _) hc))

theorem Warmed.moves {searcher : σ} {callbacks : List κ} (h : Warmed E searcher callbacks w w') :
    w.context.Moves R w'.context := by
  induction h with
  | nil => exact .refl
  | cons hw _ ih => exact ih.head (.index (related_of_outcome (hE.warm _ searcher) hw))

theorem Reopened.moves {old : Tracker ρ σ} {reader : ρ} {searcher : σ} {w₁ w₂ : World ω ρ σ κ}
    (ho : Reopened E w old reader w₁) (hf : outcome (E.searcher reader) w₁ = (.ok searcher, w₂)) :
    w.context.Moves R (tracked E reader searcher w₂).context := by
  have hreopen : w.context.Moves R w₁.context := .single (.index (related_of_outcome (hE.reopen _) ho.reopened))
  have hsearcher := hreopen.tail (.index (related_of_outcome (hE.searcher _) hf))
  exact hsearcher.tail (.change (.addTracker reader searcher) rfl)

theorem Reload.moves {result : Except Error ReloadOutcome} (h : Reload E w result w') :
    w.context.Moves R w'.context := by
  cases h with
  | disposed | noSnapshot => exact .refl
  | unopened _ _ _ ho | unchanged _ _ _ ho => exact .single (.index (related_of_outcome (hE.reopen _) ho))
  | @unsearchable _ reader _ w₁ _ ho hf =>
    have hreopen : w.context.Moves R w₁.context := .single (.index (related_of_outcome (hE.reopen _) ho.reopened))
    have hsearcher := hreopen.tail (.index (related_of_outcome (hE.searcher _) hf))
    exact hsearcher.tail (.index (hE.closeReader reader _))
  | discarded ho hf _ hw hfail =>
    have hwarmed := (ho.moves hE hf).trans (hw.moves hE)
    exact (hwarmed.tail (.index (related_of_outcome (hE.warm _ _) hfail))).trans (retired_moves hE _ _)
  | overtaken ho hf hw => exact ((ho.moves hE hf).trans (hw.moves hE)).trans (retired_moves hE _ _)
  | @published _ previous _ _ _ w₂ w₃ ho hf hw =>
    have hwarmed := (ho.moves hE hf).trans (hw.moves hE)
    have hserving := hwarmed.tail (.change (.serving w₂.context.nextGeneration) rfl)
    exact hserving.trans (retired_moves hE previous ⟨w₃.context.serving w₂.context.nextGeneration, w₃.outside⟩)

end

theorem Dispose.changes {E : Engine ω ρ σ κ} (hE : E.Keeps Context.Meanwhile) {w w' : World ω ρ σ κ}
    {result : DisposeOutcome} (h : Dispose E w result w') : w.context.Changes w'.context := by
  have hw : w.context.Changes w.context.withdrawn := .single .withdrawn
  cases h with
  | already => exact .refl
  | empty => exact hw
  | @closed t => exact hw.trans (retired_moves hE t ⟨w.context.withdrawn, w.outside⟩).changes
  | deferred => exact hw.tail (.retireTracker _)

/-! ### Runs -/

inductive Engine.Raises (E : Engine ω ρ σ κ) (e : Error) : Prop where
  | openView {w : World ω ρ σ κ} (h : (outcome E.openView w).1 = .error e)
  | reopen {reader : ρ} {w : World ω ρ σ κ} (h : (outcome (E.reopen reader) w).1 = .error e)
  | searcher {reader : ρ} {w : World ω ρ σ κ} (h : (outcome (E.searcher reader) w).1 = .error e)
  | close {reader : ρ} {searcher : σ} {w : World ω ρ σ κ} (h : (outcome (E.close reader searcher) w).1 = .error e)
  | warm {callback : κ} {searcher : σ} {w : World ω ρ σ κ} (h : (outcome (E.warm callback searcher) w).1 = .error e)

section

variable {E : Engine ω ρ σ κ} {w w' : World ω ρ σ κ} {e : Error}

theorem Checkout.error (h : Checkout E w (.error e) w') : e = .disposed ∨ E.Raises e := by
  cases h with
  | disposed | overtaken => exact .inl rfl
  | unopened _ _ ho => exact .inr (.openView (congrArg Prod.fst ho))

theorem Release.error {i : Nat} (h : Release E i w (.error e) w') : e = .alreadyReleased ∨ E.Raises e := by
  cases h with
  | refused => exact .inl rfl
  | closed _ _ _ _ _ hc =>
    rw [outcome_closeTracker] at hc
    exact .inr (.close (congrArg Prod.fst hc))

theorem Reload.error (h : Reload E w (.error e) w') : e = .disposed ∨ E.Raises e := by
  cases h with
  | disposed | overtaken => exact .inl rfl
  | unopened _ _ _ ho => exact .inr (.reopen (congrArg Prod.fst ho))
  | unsearchable _ hf => exact .inr (.searcher (congrArg Prod.fst hf))
  | discarded _ _ _ _ hfail => exact .inr (.warm (congrArg Prod.fst hfail))

end

inductive Use.Course (E : Engine ω ρ σ κ) (w : World ω ρ σ κ) :
    Use κ → Except Error Unit → World ω ρ σ κ → Prop where
  | checkout {result : Except Error Nat} {w' : World ω ρ σ κ} (h : Checkout E w result w') :
      Course E w .checkout (result.map fun _ => ()) w'
  | release {i : Nat} {result : Except Error Unit} {w' : World ω ρ σ κ} (h : Release E i w result w') :
      Course E w (.release i) result w'
  | drop {i : Nat} {result : Except Error Unit} {w' : World ω ρ σ κ} (h : Release E i w result w') :
      Course E w (.drop i) (.ok ()) w'
  | reload {result : Except Error ReloadOutcome} {w' : World ω ρ σ κ} (h : Reload E w result w') :
      Course E w .reload (result.map fun _ => ()) w'
  | dispose {result : DisposeOutcome} {w' : World ω ρ σ κ} (h : Dispose E w result w') : Course E w .dispose (.ok ()) w'
  | dropContext {result : DisposeOutcome} {w' : World ω ρ σ κ} (h : Dispose E w result w') :
      Course E w .dropContext (.ok ()) w'
  | register (callback : κ) : Course E w (.register callback) (.ok ())
      ⟨{ w.context with callbacks := w.context.callbacks ++ [callback] }, w.outside⟩

section

variable {E : Engine ω ρ σ κ} (hE : E.Keeps Context.Meanwhile) {w w' : World ω ρ σ κ}

include hE

theorem use_course (hs : w.context.Sound []) (use : Use κ) :
    ∃ result w', outcome (use.perform E) w = (result, w') ∧ use.Course E w result w' := by
  cases use with
  | checkout =>
    obtain ⟨result, w', hout, hc⟩ := checkout_course hE hs
    exact ⟨_, w', by rw [Use.perform, outcome_ignore, hout], .checkout hc⟩
  | release i =>
    obtain ⟨result, w', hout, hc⟩ := release_course (E := E) hs i
    exact ⟨result, w', hout, .release hc⟩
  | drop i =>
    obtain ⟨result, w', hout, hc⟩ := release_course (E := E) hs i
    refine ⟨_, w', ?_, .drop hc⟩
    rw [Use.perform, dropHandle, outcome_ignore, outcome_attempt, hout]
    rfl
  | reload =>
    obtain ⟨result, w', hout, hc⟩ := reload_course hE hs
    exact ⟨_, w', by rw [Use.perform, outcome_ignore, hout], .reload hc⟩
  | dispose =>
    obtain ⟨result, w', hout, hc⟩ := dispose_course (E := E) hs
    exact ⟨_, w', by rw [Use.perform, outcome_ignore, hout]; rfl, .dispose hc⟩
  | dropContext =>
    obtain ⟨result, w', hout, hc⟩ := dispose_course (E := E) hs
    exact ⟨_, w', by rw [Use.perform, outcome_ignore, hout]; rfl, .dropContext hc⟩
  | register callback => exact ⟨_, _, rfl, .register callback⟩

theorem Use.Course.sound {use : Use κ} {result : Except Error Unit} (h : use.Course E w result w')
    (hs : w.context.Sound []) : w'.context.Sound [] := by
  cases h with
  | checkout h => exact h.sound hE hs
  | release h | drop h => exact h.sound hE hs
  | reload h => exact h.sound hE hs
  | dispose h | dropContext h => exact h.sound hE hs
  | register => exact hs.register _

theorem Use.Course.changes {use : Use κ} {result : Except Error Unit} (h : use.Course E w result w') :
    w.context.Changes w'.context := by
  cases h with
  | checkout h => exact (h.moves hE).changes
  | release h | drop h => exact (h.moves hE).changes
  | reload h => exact (h.moves hE).changes
  | dispose h | dropContext h => exact h.changes hE
  | register callback => exact .single (.register callback)

omit hE in
theorem Use.Course.error {use : Use κ} {result : Except Error Unit} {e : Error} (h : use.Course E w result w')
    (he : result = .error e) : e = .disposed ∨ e = .alreadyReleased ∨ E.Raises e := by
  cases h with
  | @checkout result _ h =>
    cases result with
    | ok => cases he
    | error =>
      cases he
      exact h.error.imp_right .inr
  | release h =>
    subst he
    exact .inr h.error
  | @reload result _ h =>
    cases result with
    | ok => cases he
    | error =>
      cases he
      exact h.error.imp_right .inr
  | drop | dispose | dropContext | register => cases he

theorem after_course (hs : w.context.Sound []) (uses : List (Use κ)) :
    (after E w uses).context.Sound [] ∧ w.context.Changes (after E w uses).context := by
  induction uses generalizing w with
  | nil => exact ⟨hs, .refl⟩
  | cons use uses ih =>
    obtain ⟨result, w', hout, hc⟩ := use_course hE hs use
    obtain ⟨hsound, hchanges⟩ := ih (hc.sound hE hs)
    rw [after, List.foldl_cons, hout]
    exact ⟨hsound, (hc.changes hE).trans hchanges⟩

/-- What is never undone still holds at the end of a run. -/
theorem after_persists {P : Context ρ σ κ → Prop} (hP : ∀ c c', c.Changes c' → P c → P c') (hs : w.context.Sound [])
    {earlier later : List (Use κ)} {use : Use κ} (h : P (outcome (use.perform E) (after E w earlier)).2.context) :
    P (after E w (earlier ++ use :: later)).context := by
  have hs₁ := (after_course hE hs earlier).1
  obtain ⟨result, w', hout, hc⟩ := use_course hE hs₁ use
  rw [after_append, after, List.foldl_cons]
  rw [hout] at h ⊢
  exact hP _ _ (after_course hE (hc.sound hE hs₁) later).2 h

/-- The first release or drop of a claim gives it up. -/
theorem release_givenUp (hs : w.context.Sound []) {i : Nat} (hi : i < w.context.handles.length) :
    (outcome (release E i) w).2.context.GivenUp i := by
  obtain ⟨result, w', hout, hc⟩ := release_course (E := E) hs i
  rw [hout]
  cases hc with
  | refused h =>
    have hget := List.getElem?_eq_getElem hi
    exact ⟨_, hget, h _ hget⟩
  | kept => exact Context.markReleased_givenUp hi
  | closed _ _ _ _ _ hclose =>
    have hgiven : ∀ g, ((w.context.markReleased i).removeClient g).GivenUp i := fun _ => Context.markReleased_givenUp hi
    exact (hgiven _).changes (related_of_outcome (closeTracker_related hE _) hclose).changes

theorem dispose_disposed (hs : w.context.Sound []) :
    (outcome (dispose E) w).2.context.disposed = true := by
  obtain ⟨result, w', hout, hc⟩ := dispose_course (E := E) hs
  rw [hout]
  cases hc with
  | already hd => exact hd
  | empty => rfl
  | deferred => rfl
  | @closed t => exact Context.disposed_of_changes (retired_moves hE t ⟨w.context.withdrawn, w.outside⟩).changes rfl

end

theorem release_refused {E : Engine ω ρ σ κ} {w : World ω ρ σ κ} {i : Nat} (h : w.context.GivenUp i) :
    outcome (release E i) w = (.error .alreadyReleased, w) := by
  obtain ⟨x, hx, hr⟩ := h
  simp only [release, outcome_bind, outcome_getContext, hx, hr, if_true, outcome_throw]

/-- After any sequence of uses the books are right, without a current snapshot once the context has been disposed; an
operation fails only because the context is disposed, the claim has been given up or the index fails; and giving up a
claim again is refused without effect. -/
theorem after_balanced {E : Engine ω ρ σ κ} (hE : E.Keeps Context.Meanwhile) (settings : ContextSettings) (outside : ω)
    (uses : List (Use κ)) :
    (after E (.start settings outside) uses).context.Balanced ∧
    (∀ use ∈ uses, use = .dispose ∨ use = .dropContext →
      (after E (.start settings outside) uses).context.current = none) ∧
    (∀ (use : Use κ) (e : Error), (outcome (use.perform E) (after E (.start settings outside) uses)).1 = .error e →
      e = .disposed ∨ e = .alreadyReleased ∨ E.Raises e) ∧
    ∀ earlier use later i, uses = earlier ++ use :: later → use = .release i ∨ use = .drop i →
      i < (after E (.start settings outside) earlier).context.handles.length →
        outcome (release E i) (after E (.start settings outside) uses) =
          (.error .alreadyReleased, after E (.start settings outside) uses) := by
  have hstart : (World.start settings outside : World ω ρ σ κ).context.Sound [] := .ofSettings settings
  have hs := (after_course hE hstart uses).1
  refine ⟨hs.balanced, ?_, ?_, ?_⟩
  · intro use hmem huse
    obtain ⟨earlier, later, rfl⟩ := List.append_of_mem hmem
    refine hs.disposed (after_persists hE (fun _ _ => Context.disposed_of_changes) hstart ?_)
    have hd := dispose_disposed hE (after_course hE hstart earlier).1
    rcases huse with rfl | rfl <;> rwa [Use.perform, outcome_ignore]
  · intro use e he
    obtain ⟨result, w', hout, hc⟩ := use_course hE hs use
    rw [hout] at he
    exact hc.error he
  · rintro earlier use later i rfl huse hi
    refine release_refused (after_persists hE (fun _ _ hc h => Context.GivenUp.changes h hc) hstart ?_)
    have hgiven := release_givenUp hE (after_course hE hstart earlier).1 hi
    rcases huse with rfl | rfl
    · exact hgiven
    · rwa [Use.perform, dropHandle, outcome_ignore, outcome_attempt]

/-! ### Claims on the current snapshot -/

section

variable {E : Engine ω ρ σ κ} {w w₁ : World ω ρ σ κ} {handle : Nat}

/-- A successful checkout leaves a claim on the current snapshot. -/
theorem checkout_claims (hE : E.Keeps Context.Meanwhile) (hs : w.context.Sound [])
    (h : outcome (checkout E) w = (.ok handle, w₁)) : w₁.context.Sound [] ∧ ∃ t ∈ w₁.context.trackers,
      w₁.context.current = some t.generation ∧ w₁.context.handles[handle]? = some ⟨t.generation, false⟩ := by
  obtain ⟨result, w', hout, hcourse⟩ := checkout_course hE hs
  obtain ⟨rfl, rfl⟩ := Prod.mk.inj (hout.symm.trans h)
  have hs₁ := hcourse.sound hE hs
  refine ⟨hs₁, ?_⟩
  cases hcourse with
  | @claimed g _ hg =>
    obtain ⟨t, ht, rfl, _⟩ := hs₁.served (.inl hg)
    exact ⟨t, ht, hg, List.getElem?_concat_length⟩
  | opened =>
    obtain ⟨t, ht, hg, _⟩ := hs₁.served (.inl rfl)
    refine ⟨t, ht, congrArg some hg.symm, ?_⟩
    rw [hg]
    exact List.getElem?_concat_length

/-- A claim on the current snapshot can be given up without closing anything. -/
theorem outcome_release_current (hs : w.context.Sound []) {t : Tracker ρ σ} (ht : t ∈ w.context.trackers)
    (hc : w.context.current = some t.generation) (hh : w.context.handles[handle]? = some ⟨t.generation, false⟩) :
    outcome (release E handle) w =
      (.ok (), ⟨(w.context.markReleased handle).removeClient t.generation, w.outside⟩) := by
  obtain ⟨result, w', hout, hcourse⟩ := release_course (E := E) hs handle
  rw [hout]
  cases hcourse with
  | refused h => cases h _ hh
  | @kept h _ hi =>
    obtain rfl : h = ⟨t.generation, false⟩ := Option.some.inj (hi.symm.trans hh)
    rfl
  | @closed h u result w' hi _ hu hg hl =>
    obtain rfl : h = ⟨t.generation, false⟩ := Option.some.inj (hi.symm.trans hh)
    obtain rfl := hs.books.ext_tracker hu ht hg
    have hr : u.retired = false := (hs.books.unretired u hu).2 (by simp [hc])
    simp [Tracker.lastHeld, hr] at hl

theorem release_current (hs : w.context.Sound []) {t : Tracker ρ σ} (ht : t ∈ w.context.trackers)
    (hc : w.context.current = some t.generation) (hh : w.context.handles[handle]? = some ⟨t.generation, false⟩) :
    (outcome (release E handle) w).1 = .ok () := by
  rw [outcome_release_current hs ht hc hh]

end

/-! ### A numbering index -/

def fiveHits : List Hit := (List.range 5).map fun n => ⟨n, .one .single⟩

/-- An index of five documents that numbers its readers. Every third reader has no searcher, and odd ones do not
close. -/
def numbering (warm : κ → Action Nat Nat Nat κ Unit) : Engine Nat Nat Nat κ where
  openView := do
    let n := (← get).outside
    set (⟨← getContext, n + 1⟩ : World Nat Nat Nat κ)
    return (n, n)
  reopen _ := do
    let n := (← get).outside
    set (⟨← getContext, n + 1⟩ : World Nat Nat Nat κ)
    return n
  searcher reader := if reader % 3 = 2 then throw (.index "no searcher") else return reader
  close reader _ := if reader % 2 = 1 then throw (.index "not closed") else return ()
  closeReader _ := return ()
  sameReader := (· == ·)
  search _ request := return ⟨fiveHits.length, fiveHits.take request.limit⟩
  warm callback _ := warm callback
  observe _ n := n

theorem numbering_keeps {R : Context Nat Nat κ → Context Nat Nat κ → Prop} (hR : ∀ c, R c c)
    {warm : κ → Action Nat Nat Nat κ Unit} (hwarm : ∀ k w, R w.context (outcome (warm k) w).2.context) :
    (numbering warm).Keeps R where
  openView w := hR w.context
  reopen _ w := hR w.context
  searcher reader w := by
    by_cases h : reader % 3 = 2 <;> simp only [numbering, h, if_true, if_false, outcome_throw, outcome_pure] <;> exact hR _
  close reader _ w := by
    by_cases h : reader % 2 = 1 <;> simp only [numbering, h, if_true, if_false, outcome_throw, outcome_pure] <;> exact hR _
  closeReader _ w := hR w.context
  search _ _ w := hR w.context
  warm callback _ w := hwarm callback w

theorem claimCurrent_meanwhile (w : World ω ρ σ κ) :
    w.context.Meanwhile (outcome (do let _ ← claimCurrent) w).2.context := by
  rw [outcome_ignore]
  cases hd : w.context.disposed with
  | true =>
    simp only [claimCurrent, outcome_bind, outcome_getContext, hd, if_true, outcome_throw]
    exact .rest
  | false =>
    simp only [claimCurrent, claim, outcome_bind, outcome_getContext, hd, Bool.false_eq_true, if_false]
    cases hc : w.context.current with
    | none => exact .rest
    | some g =>
      simp only [outcome_bind, outcome_getContext]
      cases w.context.tracker? g with
      | none => exact .rest
      | some t =>
        cases hr : t.released with
        | true =>
          simp only [hr, if_true, outcome_bind, outcome_throw]
          exact .rest
        | false =>
          simp only [hr, Bool.false_eq_true, if_false, outcome_bind, outcome_modifyContext, outcome_pure]
          exact .claim .rest hc

/-- A claim made by a callback during a reload is on the snapshot that the reload replaces. -/
theorem after_balanced_callback :
    let E := numbering fun _ : Unit => do let _ ← claimCurrent
    let w := after E (.start .standard 0) [.register (), .checkout, .reload, .release 0, .drop 1, .reload]
    w.context.Balanced ∧ w.context.trackers.map (fun t => (t.clients, t.retired, t.released)) =
      [(0, true, true), (0, false, false)] ∧ outcome (release E 1) w = (.error .alreadyReleased, w) := by
  intro E w
  have h := after_balanced (numbering_keeps (fun _ => .rest) (fun _ => claimCurrent_meanwhile)) .standard 0
    [.register (), .checkout, .reload, .release 0, .drop 1, .reload]
  refine ⟨h.1, by decide, ?_⟩
  exact h.2.2.2 [.register (), .checkout, .reload, .release 0] (.drop 1) [.reload] 1 rfl (.inr rfl) (by decide)

end IndexQuery.Snapshot
