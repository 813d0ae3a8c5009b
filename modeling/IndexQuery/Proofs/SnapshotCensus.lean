import IndexQuery.Proofs.SnapshotIsolation
import IndexQuery.Snapshot.Census

set_option autoImplicit false

/-!
A census kept from the events of a context agrees with the context.

Events come from opening, from closing on several paths and from disposing. `Mirrors` says what the census looks like
at any moment: it lists the open snapshots in order, besides those that are being closed, and notes at most one of
them with the number of claims that held it when the context was disposed. Everything that happens to a context keeps
this, with the same deferral unless the context is disposed (`Record.Trace.mirrors`, `Dispose.mirrors`), and
`census_mirrors` reads the answers of the census off it, for all runs.
-/

namespace IndexQuery.Snapshot

variable {ω ρ σ κ : Type}

/-! ### A context with a census -/

structure Counted (ω : Type) where
  inner : ω
  census : Census

def uncounted {α : Type} (action : Action ω ρ σ κ α) : Action (Counted ω) ρ σ κ α :=
  ExceptT.mk fun w =>
    let (result, w') := outcome action ⟨w.context, w.outside.inner⟩
    (result, ⟨w'.context, w'.outside, w.outside.census⟩)

def Engine.counted (E : Engine ω ρ σ κ) : Engine (Counted ω) ρ σ κ where
  openView := uncounted E.openView
  reopen reader := uncounted (E.reopen reader)
  searcher reader := uncounted (E.searcher reader)
  close reader searcher := uncounted (E.close reader searcher)
  closeReader reader := uncounted (E.closeReader reader)
  sameReader := E.sameReader
  search searcher request := uncounted (E.search searcher request)
  warm callback searcher := uncounted (E.warm callback searcher)
  observe event outside := ⟨E.observe event outside.inner, outside.census.observe event⟩

/-- Events are counted, calls are not. -/
def Census.record : Record ρ σ κ Census where
  call _ _ r := r
  event := Census.observe

theorem uncounted_noted {α : Type} (call : Call ρ) {action : Action ω ρ σ κ α}
    (h : ∀ w, Census.record.Silent w.context (outcome action w).2.context) (w : World (Counted ω) ρ σ κ) :
    Census.record.Noted Counted.census call w (outcome (uncounted action) w).2 :=
  ⟨w.outside.census, h ⟨w.context, w.outside.inner⟩ _, rfl⟩

/-- The census is right if others cause no events. -/
theorem Engine.Keeps.counted_records {E : Engine ω ρ σ κ} (hE : E.Keeps Census.record.Silent) :
    E.counted.Records Census.record Counted.census where
  openView w := uncounted_noted (.ofOpening _) hE.openView w
  reopen reader w := uncounted_noted (.ofReopening reader _) (hE.reopen reader) w
  searcher reader := uncounted_noted _ (hE.searcher reader)
  close reader searcher := uncounted_noted _ (hE.close reader searcher)
  closeReader reader := uncounted_noted _ (hE.closeReader reader)
  search searcher request := uncounted_noted _ (hE.search searcher request)
  warm callback searcher := uncounted_noted _ (hE.warm callback searcher)
  observe _ _ := rfl

/-! ### Disposing -/

def Use.Disposes (use : Use κ) : Prop := use = .dispose ∨ use = .dropContext

section

variable {E : Engine ω ρ σ κ} {w w' : World ω ρ σ κ}

theorem after_cons {use : Use κ} {result : Except Error Unit} (h : outcome (use.perform E) w = (result, w'))
    (later : List (Use κ)) : after E w (use :: later) = after E w' later := by
  change after E (outcome (use.perform E) w).2 later = _
  rw [h]

theorem Use.Course.disposal {use : Use κ} {result : Except Error Unit} (h : use.Course E w result w')
    (huse : use.Disposes) : ∃ result, Dispose E w result w' := by
  cases h with
  | dispose h | dropContext h => exact ⟨_, h⟩
  | checkout | release | drop | reload | register => simp [Disposes] at huse

variable (hE : E.Keeps Context.Meanwhile)

include hE

theorem Dispose.withdraws {result : DisposeOutcome} (h : Dispose E w result w') : w'.context.disposed = true := by
  cases h with
  | already hd => exact hd
  | empty | deferred => rfl
  | @closed t => exact Context.disposed_of_changes (retired_moves hE t ⟨w.context.withdrawn, w.outside⟩).changes rfl

theorem Use.Course.withdraws {use : Use κ} {result : Except Error Unit} (h : use.Course E w result w')
    (huse : use.Disposes) : w'.context.disposed = true := by
  obtain ⟨_, h⟩ := h.disposal huse
  exact h.withdraws hE

end

theorem disposed_after {E : Engine ω ρ σ κ} (hE : E.Keeps Context.Meanwhile) {w : World ω ρ σ κ}
    (hs : w.context.Sound []) {earlier later : List (Use κ)} {use : Use κ} (huse : use.Disposes) :
    (after E w (earlier ++ use :: later)).context.disposed = true := by
  have hs₁ := (after_course hE hs earlier).1
  refine after_persists hE (fun _ _ => Context.disposed_of_changes) hs ?_
  obtain ⟨result, w', hout, hc⟩ := use_course hE hs₁ use
  rw [hout]
  exact hc.withdraws hE huse

/-! ### The generations of open snapshots -/

namespace Context

def openGenerations (c : Context ρ σ κ) : List Nat := c.openViews.map View.generation

theorem openGenerations_eq (c : Context ρ σ κ) :
    c.openGenerations = (c.trackers.filter (!·.released)).map (·.generation) := by
  rw [openGenerations, openViews, List.map_map]
  rfl

variable {c : Context ρ σ κ} {g : Nat}

theorem mem_openGenerations : g ∈ c.openGenerations ↔ ∃ t ∈ c.trackers, t.released = false ∧ t.generation = g := by
  simp [openGenerations_eq, and_assoc]

theorem openGenerations_sublist (c : Context ρ σ κ) : c.openGenerations.Sublist (c.views.map View.generation) :=
  (List.filter_sublist.map Tracker.view).map View.generation

theorem openGenerations_addTracker (c : Context ρ σ κ) (reader : ρ) (searcher : σ) :
    (c.addTracker reader searcher).openGenerations = c.openGenerations ++ [c.nextGeneration] := by
  rw [openGenerations, openViews_addTracker, List.map_append]
  rfl

theorem Ascending.openGenerations (ha : c.Ascending) : c.openGenerations.Pairwise (· < ·) :=
  (List.pairwise_append.1 ha).1.sublist c.openGenerations_sublist

/-- The current snapshot with the number of its claims that have not been given up, if there are any. -/
def heldCurrent? (c : Context ρ σ κ) : Option (Nat × Nat) :=
  c.current.bind fun g => if c.unreleased g = 0 then none else some (g, c.unreleased g)

theorem heldCurrent?_eq_some {n : Nat} :
    c.heldCurrent? = some (g, n) ↔ c.current = some g ∧ c.unreleased g = n ∧ n ≠ 0 := by
  rw [heldCurrent?, Option.bind_eq_some_iff]
  constructor
  · rintro ⟨x, hx, h⟩
    split at h
    · cases h
    · rename_i hn
      cases h
      exact ⟨hx, rfl, hn⟩
  · rintro ⟨hg, rfl, hn⟩
    exact ⟨g, hg, if_neg hn⟩

end Context

/-! ### What the census records -/

namespace Census

/-- A newer snapshot comes last. -/
theorem insert_newest {g : Nat} {live : List (Nat × Option Nat)} (h : ∀ x ∈ live, x.1 < g) :
    insert g live = live ++ [(g, none)] := by
  induction live with
  | nil => rfl
  | cons x rest ih =>
    have hx := h x List.mem_cons_self
    rw [insert, if_neg (by omega), if_neg (by omega), ih fun y hy => h y (List.mem_cons_of_mem x hy), List.cons_append]

theorem generations_released (r : Census) (g : Nat) :
    (r.observe (.released g)).generations = r.generations.filter (· != g) := by
  rw [generations, generations, List.filter_map]
  rfl

theorem generations_deferred (r : Census) (g n : Nat) : (r.observe (.deferred g n)).generations = r.generations := by
  rw [generations, generations]
  change (r.live.map _).map _ = _
  rw [List.map_map]
  refine List.map_congr_left fun x _ => ?_
  by_cases hx : x.1 = g
  · simp [hx]
  · simp [hx]

end Census

def noted (deferral : Option (Nat × Nat)) (g : Nat) : Option Nat :=
  deferral.bind fun (held, n) => if held = g then some n else none

/-- The snapshots in `pending` have been closed, but are not yet struck off. -/
structure Mirrors (deferral : Option (Nat × Nat)) (pending : List Nat) (c : Context ρ σ κ) (r : Census) : Prop where
  listed : r.generations.Perm (pending ++ c.openGenerations)
  ascending : r.generations.Pairwise (· < ·)
  below : ∀ g ∈ r.generations, g < c.nextGeneration
  entries : ∀ x ∈ r.live, x.2 = noted deferral x.1
  created : r.created = c.views.length
  balance : r.created = r.released + r.count
  older : ∀ x ∈ deferral, x.1 < c.nextGeneration
  undisposed : c.disposed = false → deferral = none

namespace Mirrors

variable {deferral : Option (Nat × Nat)} {pending : List Nat} {c c' : Context ρ σ κ} {r : Census}

theorem congr {pending' : List Nat} (hm : Mirrors deferral pending c r)
    (hopen : (pending ++ c.openGenerations).Perm (pending' ++ c'.openGenerations)) (hviews : c'.views = c.views)
    (hnext : c'.nextGeneration = c.nextGeneration) (hdisposed : c.disposed = true → c'.disposed = true) :
    Mirrors deferral pending' c' r where
  listed := hm.listed.trans hopen
  ascending := hm.ascending
  below := hnext ▸ hm.below
  entries := hm.entries
  created := hviews ▸ hm.created
  balance := hm.balance
  older := hnext ▸ hm.older
  undisposed hd := by
    refine hm.undisposed ?_
    rw [← Bool.not_eq_true] at hd ⊢
    exact fun h => hd (hdisposed h)

theorem unmoved (hm : Mirrors deferral pending c r) (h : c.Unmoved c') : Mirrors deferral pending c' r := by
  refine hm.congr ?_ h.views h.next h.disposed
  rw [Context.openGenerations, Context.openGenerations, h.openViews]

theorem closes {v : View ρ σ} (hm : Mirrors deferral pending c r) (h : c.Closes v c') :
    Mirrors deferral (v.generation :: pending) c' r := by
  have hopen : c.openGenerations.Perm (v.generation :: c'.openGenerations) := h.openViews.map View.generation
  exact hm.congr ((hopen.append_left pending).trans List.perm_middle) h.views h.next h.disposed

/-- A snapshot that has been closed is struck off. -/
theorem release {g : Nat} (hm : Mirrors deferral (g :: pending) c r) :
    Mirrors deferral pending c (r.observe (.released g)) := by
  have hdistinct := hm.listed.nodup_iff.1 (hm.ascending.imp Nat.ne_of_lt)
  have hothers : (g :: pending ++ c.openGenerations).filter (· != g) = pending ++ c.openGenerations := by
    rw [← hdistinct.erase_eq_filter, List.cons_append, List.erase_cons_head]
  have hlisted : (r.observe (.released g)).generations.Perm (pending ++ c.openGenerations) := by
    rw [Census.generations_released, ← hothers]
    exact hm.listed.filter _
  refine ⟨hlisted, ?_, ?_, fun x hx => hm.entries x (List.mem_of_mem_filter hx), hm.created, ?_, hm.older,
    hm.undisposed⟩
  · rw [Census.generations_released]
    exact hm.ascending.filter _
  · intro x hx
    rw [Census.generations_released] at hx
    exact hm.below x (List.mem_of_mem_filter hx)
  · have hbalance := hm.balance
    have hcount := hlisted.length_eq
    have hcount' := hm.listed.length_eq
    rw [Census.generations, List.length_map] at hcount hcount'
    rw [List.cons_append, List.length_cons] at hcount'
    rw [Census.count] at hbalance ⊢
    change r.created = r.released + 1 + _
    omega

theorem track (hm : Mirrors deferral pending c r) (reader : ρ) (searcher : σ) :
    Mirrors deferral pending (c.addTracker reader searcher) (r.observe (.created c.nextGeneration)) := by
  have hlive : (r.observe (.created c.nextGeneration)).live = r.live ++ [(c.nextGeneration, none)] :=
    Census.insert_newest fun x hx => hm.below _ (List.mem_map_of_mem hx)
  have hgenerations : (r.observe (.created c.nextGeneration)).generations = r.generations ++ [c.nextGeneration] := by
    rw [Census.generations, hlive, List.map_append]
    rfl
  have hnew : noted deferral c.nextGeneration = none := by
    cases hd : deferral with
    | none => rfl
    | some x =>
      have hx := hm.older x hd
      exact if_neg (by omega)
  refine ⟨?_, ?_, ?_, ?_, ?_, ?_, fun x hx => Nat.lt_succ_of_lt (hm.older x hx), hm.undisposed⟩
  · rw [hgenerations, Context.openGenerations_addTracker, ← List.append_assoc]
    exact hm.listed.append_right _
  · rw [hgenerations]
    refine List.pairwise_append.2 ⟨hm.ascending, List.pairwise_singleton _ _, ?_⟩
    intro g hg n hn
    rw [List.mem_singleton.1 hn]
    exact hm.below g hg
  · intro g hg
    rw [hgenerations] at hg
    rcases List.mem_append.1 hg with hg | hg
    · exact Nat.lt_succ_of_lt (hm.below g hg)
    · rw [List.mem_singleton.1 hg]
      exact Nat.lt_succ_self _
  · intro x hx
    rw [hlive] at hx
    rcases List.mem_append.1 hx with hx | hx
    · exact hm.entries x hx
    · rw [List.mem_singleton.1 hx, hnew]
  · rw [Context.views_addTracker, List.length_append, List.length_singleton, ← hm.created]
    rfl
  · have hbalance := hm.balance
    rw [Census.count] at hbalance ⊢
    rw [hlive, List.length_append, List.length_singleton]
    change r.created + 1 = r.released + _
    omega

/-- The context is disposed while the snapshot is held. -/
theorem defer {g : Nat} (hm : Mirrors none pending c r) (h : c.Unmoved c') (hg : g < c.nextGeneration)
    (hd : c'.disposed = true) (n : Nat) : Mirrors (some (g, n)) pending c' (r.observe (.deferred g n)) := by
  have hm' := hm.unmoved h
  have hgenerations := r.generations_deferred g n
  refine ⟨hgenerations ▸ hm'.listed, hgenerations ▸ hm.ascending, hgenerations ▸ hm'.below, ?_, hm'.created, ?_, ?_, ?_⟩
  · intro x hx
    obtain ⟨⟨y, m⟩, hy, rfl⟩ := List.mem_map.1 hx
    obtain rfl : m = none := hm.entries _ hy
    by_cases hyg : y = g
    · simp [noted, hyg]
    · simp [noted, hyg, Ne.symm hyg]
  · have hbalance := hm.balance
    rw [Census.count] at hbalance ⊢
    change _ = _ + (r.live.map _).length
    rw [List.length_map]
    exact hbalance
  · rintro x ⟨⟩
    rw [h.next]
    exact hg
  · simp [hd]

end Mirrors

/-! ### Everything that happens keeps the census right -/

theorem disposed_between {a b c : Bool} (hab : a = true → b = true) (hbc : b = true → c = true) (h : c = a) :
    b = a ∧ c = b := by
  subst h
  cases c with
  | false =>
    cases b with
    | false => exact ⟨rfl, rfl⟩
    | true => cases hbc rfl
  | true => exact ⟨hab rfl, (hab rfl).symm⟩

/-- The deferral stays unless the context is disposed in between. -/
theorem Record.Trace.mirrors {same : ρ → ρ → Bool} {p q : Context ρ σ κ × Census} (h : Census.record.Trace same p q)
    {deferral : Option (Nat × Nat)} {pending : List Nat} (hm : Mirrors deferral pending p.1 p.2) :
    ∃ deferral', Mirrors deferral' pending q.1 q.2 ∧ (q.1.disposed = p.1.disposed → deferral' = deferral) := by
  induction h generalizing deferral pending with
  | rest => exact ⟨deferral, hm, fun _ => rfl⟩
  | call _ _ _ _ ih => exact ih hm
  | unmoved before hc ih =>
    obtain ⟨deferral', hm', hstays⟩ := ih hm
    exact ⟨deferral', hm'.unmoved hc, fun hd => hstays (disposed_between before.disposed hc.disposed hd).1⟩
  | deferred before hc hg hd hd' n ih =>
    obtain ⟨deferral', hm', _⟩ := ih hm
    rw [hm'.undisposed hd] at hm'
    refine ⟨_, hm'.defer hc hg hd' n, fun h => ?_⟩
    have hbetween := (disposed_between before.disposed hc.disposed h).2
    rw [hd, hd'] at hbetween
    cases hbetween
  | closed before hc during ih ihd =>
    obtain ⟨deferral₁, hm₁, hstays₁⟩ := ih hm
    obtain ⟨deferral₂, hm₂, hstays₂⟩ := ihd (hm₁.closes hc)
    refine ⟨deferral₂, hm₂.release, fun hd => ?_⟩
    obtain ⟨hd₁, hd₂⟩ := disposed_between (fun h => hc.disposed (before.disposed h)) during.disposed hd
    exact (hstays₂ hd₂).trans (hstays₁ (disposed_between before.disposed hc.disposed hd₁).1)
  | dropped before _ _ during _ closing ih ihd ihc =>
    obtain ⟨deferral₁, hm₁, hstays₁⟩ := ih hm
    obtain ⟨deferral₂, hm₂, hstays₂⟩ := ihd hm₁
    obtain ⟨deferral₃, hm₃, hstays₃⟩ := ihc hm₂
    refine ⟨deferral₃, hm₃, fun hd => ?_⟩
    obtain ⟨hd₁, hd₂⟩ := disposed_between before.disposed (fun h => closing.disposed (during.disposed h)) hd
    obtain ⟨hd₂, hd₃⟩ := disposed_between during.disposed closing.disposed hd₂
    exact ((hstays₃ hd₃).trans (hstays₂ hd₂)).trans (hstays₁ hd₁)
  | tracked before _ _ during _ ih ihd =>
    obtain ⟨deferral₁, hm₁, hstays₁⟩ := ih hm
    obtain ⟨deferral₂, hm₂, hstays₂⟩ := ihd hm₁
    refine ⟨deferral₂, hm₂.track _ _, fun hd => ?_⟩
    obtain ⟨hd₁, hd₂⟩ := disposed_between before.disposed during.disposed hd
    exact (hstays₂ hd₂).trans (hstays₁ hd₁)

def World.Mirrors (deferral : Option (Nat × Nat)) (w : World (Counted ω) ρ σ κ) : Prop :=
  Snapshot.Mirrors deferral [] w.context w.outside.census

section

variable {E : Engine (Counted ω) ρ σ κ} (hE : E.Records Census.record Counted.census) {deferral : Option (Nat × Nat)}
  {w w' : World (Counted ω) ρ σ κ}

include hE

theorem after_mirrors (hs : w.context.Sound []) (hm : w.Mirrors deferral) (uses : List (Use κ)) :
    ∃ deferral', (after E w uses).Mirrors deferral' ∧
      ((after E w uses).context.disposed = w.context.disposed → deferral' = deferral) :=
  (after_trace hE hs uses).mirrors hm

/-- Disposing notes the claims on the current snapshot, if there are any. -/
theorem Dispose.mirrors {result : DisposeOutcome} (h : Dispose E w result w') (hs : w.context.Sound [])
    (hd : w.context.disposed = false) (hm : w.Mirrors none) : w'.Mirrors w.context.heldCurrent? := by
  have hw := hs.withdraw
  have hmw : Snapshot.Mirrors none [] w.context.withdrawn w.outside.census := hm.unmoved (Context.unmoved_withdrawn _)
  cases h with
  | already hd' =>
    rw [hd] at hd'
    cases hd'
  | empty _ hc =>
    rw [Context.heldCurrent?, hc]
    exact hmw
  | @closed t _ ht hc hidle =>
    rw [Context.heldCurrent?, hc, Option.bind_some, ← hs.books.clients _ ht, if_pos hidle]
    rw [hc] at hw
    have htrace : Census.record.Trace E.sameReader _ _ :=
      retired_trace (w := ⟨w.context.withdrawn, w.outside⟩) hE hw ht
    obtain ⟨deferral, hm', hstays⟩ := htrace.mirrors hmw
    obtain rfl := hstays (htrace.disposed rfl)
    exact hm'
  | @deferred t _ ht hc hheld =>
    rw [Context.heldCurrent?, hc, Option.bind_some, ← hs.books.clients t ht, if_neg hheld]
    rw [World.Mirrors, hE.observe]
    exact hmw.defer (hw.books.unmoved_retire ht hheld) (hs.books.below t ht) rfl _

/-- A run in which the context is disposed defers what was held at that moment. -/
theorem disposal_mirrors (hs : w.context.Sound []) (hm : w.Mirrors none) {earlier : List (Use κ)} {use : Use κ}
    (huse : use.Disposes) (hd : (after E w earlier).context.disposed = false) (later : List (Use κ)) :
    (after E w (earlier ++ use :: later)).Mirrors (after E w earlier).context.heldCurrent? := by
  have hmean := hE.meanwhile
  have hs₁ := (after_course hmean hs earlier).1
  obtain ⟨deferral, hm₁, _⟩ := after_mirrors hE hs hm earlier
  obtain rfl := hm₁.undisposed hd
  obtain ⟨result, w', hout, hc⟩ := use_course hmean hs₁ use
  have hs' := hc.sound hmean hs₁
  have hw' := hc.withdraws hmean huse
  obtain ⟨_, h⟩ := hc.disposal huse
  obtain ⟨deferral, hm', hstays⟩ := after_mirrors hE hs' (h.mirrors hE hs₁ hd hm₁) later
  obtain rfl := hstays ((Context.disposed_of_changes (after_course hmean hs' later).2 hw').trans hw'.symm)
  rw [after_append, after_cons hout]
  exact hm'

end

/-! ### Who disposes a context -/

/-- Nobody disposes the context while the index is at work. -/
abbrev Engine.Undisposing (E : Engine ω ρ σ κ) : Prop := E.Keeps fun c c' => c'.disposed = c.disposed

theorem Context.Moves.disposed_eq {c c' : Context ρ σ κ} (h : c.Moves (fun c c' => c'.disposed = c.disposed) c') :
    c'.disposed = c.disposed := by
  induction h with
  | refl => rfl
  | tail _ hstep ih =>
    cases hstep with
    | index h | change _ h => exact h.trans ih

theorem Use.Course.disposed_eq {E : Engine ω ρ σ κ} (hE : E.Undisposing) {w w' : World ω ρ σ κ} {use : Use κ}
    {result : Except Error Unit} (h : use.Course E w result w') (huse : ¬use.Disposes) :
    w'.context.disposed = w.context.disposed := by
  cases h with
  | checkout h => exact (h.moves hE).disposed_eq
  | release h | drop h => exact (h.moves hE).disposed_eq
  | reload h => exact (h.moves hE).disposed_eq
  | register => rfl
  | dispose => exact absurd (.inl rfl) huse
  | dropContext => exact absurd (.inr rfl) huse

theorem exists_disposal {E : Engine ω ρ σ κ} (hm : E.Keeps Context.Meanwhile) (hE : E.Undisposing) {w : World ω ρ σ κ}
    (hs : w.context.Sound []) (hd : w.context.disposed = false) {uses : List (Use κ)}
    (hend : (after E w uses).context.disposed = true) : ∃ earlier use later, uses = earlier ++ use :: later ∧
      use.Disposes ∧ (after E w earlier).context.disposed = false := by
  induction uses generalizing w with
  | nil => cases hd.symm.trans hend
  | cons use uses ih =>
    by_cases huse : use.Disposes
    · exact ⟨[], use, uses, rfl, huse, hd⟩
    · obtain ⟨result, w', hout, hc⟩ := use_course hm hs use
      have hstep : ∀ rest, after E w (use :: rest) = after E w' rest := after_cons hout
      rw [hstep] at hend
      obtain ⟨earlier, disposal, later, rfl, hdisposes, hd'⟩ :=
        ih (hc.sound hm hs) ((hc.disposed_eq hE huse).trans hd) hend
      exact ⟨use :: earlier, disposal, later, rfl, hdisposes, hstep earlier ▸ hd'⟩

/-! ### Claims on a disposed context -/

/-- A disposed context has no snapshot to claim. -/
theorem Context.Meanwhile.claimed_eq {c c' : Context ρ σ κ} {inHand : List Nat} (h : c.Meanwhile c')
    (hs : c.Sound inHand) (hd : c.disposed = true) : c'.claimed = c.claimed := by
  induction h with
  | rest => rfl
  | claim before hg _ =>
    cases hg.symm.trans ((before.sound hs).disposed (disposed_of_changes before.changes hd))
  | giveUp _ _ _ ih => exact (claimed_markReleased _ _).trans ih
  | register _ _ ih | dispose _ _ ih | disposeEmpty _ _ ih => exact ih

section

variable {E : Engine ω ρ σ κ} (hE : E.Keeps Context.Meanwhile) {w w' : World ω ρ σ κ}

include hE

theorem Dispose.claimed_eq {result : DisposeOutcome} (h : Dispose E w result w') (hs : w.context.Sound []) :
    w'.context.claimed = w.context.claimed := by
  cases h with
  | already | empty | deferred => rfl
  | @closed t _ _ hc hidle =>
    have hw := hs.withdraw
    rw [hc] at hw
    rw [retired, if_pos hidle]
    exact (closeTracker_related hE t ⟨w.context.withdrawn.retireTracker t.generation, w.outside⟩).claimed_eq
      hw.retireTracker rfl

/-- Only checking out makes claims, and a disposed context refuses it. -/
theorem Use.Course.claimed_eq {use : Use κ} {result : Except Error Unit} (h : use.Course E w result w')
    (hs : w.context.Sound []) (hd : use.Disposes ∨ w.context.disposed = true) :
    w'.context.claimed = w.context.claimed := by
  have hrelease : ∀ {i result}, Release E i w result w' → w.context.disposed = true →
      w'.context.claimed = w.context.claimed := by
    intro i result h hd
    cases h with
    | refused => rfl
    | kept => exact Context.claimed_markReleased _ _
    | closed hi hh _ _ _ hc =>
      have hclose := related_of_outcome (closeTracker_related hE _) hc
      exact (hclose.claimed_eq (hs.giveUp hi hh) hd).trans (Context.claimed_markReleased _ _)
  cases h with
  | release h | drop h => exact hrelease h (hd.resolve_left (by simp [Use.Disposes]))
  | dispose h | dropContext h => exact h.claimed_eq hE hs
  | register => rfl
  | checkout h =>
    have hd := hd.resolve_left (by simp [Use.Disposes])
    cases h with
    | disposed => rfl
    | claimed hd' | unopened hd' | overtaken hd' | opened hd' =>
      rw [hd] at hd'
      cases hd'
  | reload h =>
    have hd := hd.resolve_left (by simp [Use.Disposes])
    cases h with
    | disposed | noSnapshot => rfl
    | unopened hd' | unchanged hd' =>
      rw [hd] at hd'
      cases hd'
    | unsearchable ho | discarded ho | overtaken ho | published ho => simp [ho.disposed] at hd

theorem after_claimed_eq (hs : w.context.Sound []) (hd : w.context.disposed = true) (uses : List (Use κ)) :
    (after E w uses).context.claimed = w.context.claimed := by
  induction uses generalizing w with
  | nil => rfl
  | cons use uses ih =>
    obtain ⟨result, w', hout, hc⟩ := use_course hE hs use
    have hd' := Context.disposed_of_changes (hc.changes hE) hd
    rw [after_cons hout]
    exact (ih (hc.sound hE hs) hd').trans (hc.claimed_eq hE hs (.inr hd))

/-- A claim that holds a disposed context held it when it was disposed. -/
theorem held_since_disposal (hs : w.context.Sound []) {earlier later : List (Use κ)} {use : Use κ}
    (huse : use.Disposes) {g i : Nat}
    (hi : (after E w (earlier ++ use :: later)).context.handles[i]? = some ⟨g, false⟩) :
    (after E w earlier).context.handles[i]? = some ⟨g, false⟩ := by
  have hs₁ := (after_course hE hs earlier).1
  obtain ⟨result, w', hout, hc⟩ := use_course hE hs₁ use
  have hs' := hc.sound hE hs₁
  have hclaimed : (after E w' later).context.claimed = (after E w earlier).context.claimed :=
    (after_claimed_eq hE hs' (hc.withdraws hE huse) later).trans (hc.claimed_eq hE hs₁ (.inl huse))
  rw [after_append, after_cons hout] at hi
  have hg : (after E w earlier).context.claimed[i]? = some g := by
    rw [← hclaimed, Context.claimed, List.getElem?_map, hi]
    rfl
  rw [Context.claimed, List.getElem?_map, Option.map_eq_some_iff] at hg
  obtain ⟨⟨_, released⟩, hh, rfl⟩ := hg
  cases released with
  | false => exact hh
  | true =>
    have hgiven : (after E w earlier).context.GivenUp i := ⟨_, hh, rfl⟩
    have hchanges := (hc.changes hE).trans (after_course hE hs' later).2
    obtain ⟨x, hx, hr⟩ := hgiven.changes hchanges
    rw [hi] at hx
    cases hx
    cases hr

end

/-! ### The answers of the census -/

theorem filterMap_noted (g n : Nat) {l : List Nat} (hl : l.Nodup) :
    (l.filterMap fun x => (noted (some (g, n)) x).map (x, ·)) = if g ∈ l then [(g, n)] else [] := by
  induction l with
  | nil => rfl
  | cons x rest ih =>
    obtain ⟨hx, hrest⟩ := List.nodup_cons.1 hl
    rw [List.filterMap_cons, ih hrest]
    by_cases hg : g = x
    · subst hg
      simp [noted, hx]
    · simp [noted, hg]

theorem Mirrors.generations_eq {deferral : Option (Nat × Nat)} {c : Context ρ σ κ} {r : Census}
    (hm : Mirrors deferral [] c r) (ha : c.Ascending) : r.generations = c.openGenerations :=
  hm.listed.eq_of_pairwise (fun _ _ _ _ h h' => absurd h (Nat.lt_asymm h')) hm.ascending ha.openGenerations

theorem Mirrors.deferred_eq {deferral : Option (Nat × Nat)} {c : Context ρ σ κ} {r : Census}
    (hm : Mirrors deferral [] c r) (ha : c.Ascending) :
    r.deferred = c.openGenerations.filterMap fun g => (noted deferral g).map (g, ·) := by
  rw [Census.deferred, ← hm.generations_eq ha, Census.generations, List.filterMap_map]
  refine List.filterMap_congr fun x hx => ?_
  rw [Function.comp_apply, ← hm.entries x hx]

namespace Context

theorem unreleased_ne_zero {c : Context ρ σ κ} {g : Nat} :
    c.unreleased g ≠ 0 ↔ ∃ i : Nat, c.handles[i]? = some ⟨g, false⟩ := by
  rw [← Nat.pos_iff_ne_zero, unreleased, List.countP_pos_iff]
  constructor
  · rintro ⟨⟨_, released⟩, hmem, h⟩
    obtain ⟨i, hi⟩ := List.mem_iff_getElem?.1 hmem
    refine ⟨i, ?_⟩
    simp_all
  · rintro ⟨i, hi⟩
    exact ⟨_, List.mem_of_getElem? hi, by simp⟩

/-- The open snapshots of a disposed context are those that somebody holds. -/
theorem Sound.open_iff_held {c : Context ρ σ κ} (hs : c.Sound []) (hd : c.disposed = true) (g : Nat) :
    g ∈ c.openGenerations ↔ c.unreleased g ≠ 0 := by
  have hopen : ∀ t ∈ c.trackers, t.released = false ↔ c.unreleased t.generation ≠ 0 := by
    intro t ht
    have hretired : t.retired = true := by
      rw [← Bool.not_eq_false, hs.books.unretired t ht, hs.disposed hd]
      simp
    rw [← Bool.not_eq_true, hs.books.released t ht, hs.books.clients t ht]
    simp [hretired]
  rw [mem_openGenerations]
  constructor
  · rintro ⟨t, ht, hr, rfl⟩
    exact (hopen t ht).1 hr
  · intro hg
    obtain ⟨i, hi⟩ := unreleased_ne_zero.1 hg
    obtain ⟨t, ht, rfl⟩ := hs.books.known _ (List.mem_of_getElem? hi)
    exact ⟨t, ht, (hopen t ht).2 hg, rfl⟩

end Context

/-- In this run the context was disposed while `n` claims on its current snapshot `g` had not been given up, and one
of them has not been given up at the end. -/
def HeldDisposal (E : Engine ω ρ σ κ) (w : World ω ρ σ κ) (uses : List (Use κ)) (g n : Nat) : Prop :=
  ∃ earlier use later, uses = earlier ++ use :: later ∧ use.Disposes ∧
    (after E w earlier).context.disposed = false ∧ (after E w earlier).context.current = some g ∧
    (after E w earlier).context.unreleased g = n ∧
    ∃ i : Nat, (after E w earlier).context.handles[i]? = some ⟨g, false⟩ ∧
      (after E w uses).context.handles[i]? = some ⟨g, false⟩

/-- After any sequence of uses, whatever fails on the way, the census lists the generations of the snapshots that are
not closed, by age; it has counted each snapshot once when it was made and once when it was closed; and it reports a
deferral exactly for a snapshot that has been held since the context was disposed, with the claims of that moment.
Others may use the context while the index is at work, and the census has what happens then as well; if they dispose
the context, a deferral may come from there. -/
theorem census_mirrors {E : Engine (Counted ω) ρ σ κ} (hE : E.Records Census.record Counted.census)
    {settings : ContextSettings} {outside : ω} {uses : List (Use κ)} {w : World (Counted ω) ρ σ κ}
    (hrun : after E (.start settings ⟨outside, .empty⟩) uses = w) :
    w.outside.census.generations = (w.context.trackers.filter (!·.released)).map (·.generation) ∧
    w.outside.census.generations.Pairwise (· < ·) ∧
    w.outside.census.created = w.context.trackers.length ∧
    w.outside.census.created = w.outside.census.released + w.outside.census.count ∧
    (∀ g n, HeldDisposal E (.start settings ⟨outside, .empty⟩) uses g n → w.outside.census.deferred = [(g, n)]) ∧
    (E.Undisposing → (∀ g n, ¬HeldDisposal E (.start settings ⟨outside, .empty⟩) uses g n) →
      w.outside.census.deferred = []) := by
  subst hrun
  have hmean := hE.meanwhile
  have hstart : (World.start settings ⟨outside, .empty⟩ : World (Counted ω) ρ σ κ).context.Sound [] :=
    .ofSettings settings
  have hnone : (World.start settings ⟨outside, .empty⟩ : World (Counted ω) ρ σ κ).Mirrors none :=
    ⟨.nil, .nil, nofun, nofun, rfl, rfl, nofun, fun _ => rfl⟩
  obtain ⟨hs, hchanges⟩ := after_course hmean hstart uses
  have hascending : (after E (.start settings ⟨outside, .empty⟩) uses).context.Ascending :=
    Context.Ascending.changes hchanges (List.pairwise_singleton _ _)
  have hnodup := hascending.openGenerations.imp Nat.ne_of_lt
  obtain ⟨deferral, hm, _⟩ := after_mirrors hE hstart hnone uses
  refine ⟨(hm.generations_eq hascending).trans (Context.openGenerations_eq _), hm.ascending, ?_, hm.balance, ?_, ?_⟩
  · rw [hm.created, Context.views, List.length_map]
  · rintro g n ⟨earlier, use, later, rfl, huse, hd, hcurrent, hn, i, hi, hend⟩
    have hheld : (after E (.start settings ⟨outside, .empty⟩) earlier).context.heldCurrent? = some (g, n) :=
      Context.heldCurrent?_eq_some.2 ⟨hcurrent, hn, hn ▸ Context.unreleased_ne_zero.2 ⟨i, hi⟩⟩
    have hdisposal := disposal_mirrors hE hstart hnone huse hd later
    have hopen := (hs.open_iff_held (disposed_after hmean hstart huse) g).2
      (Context.unreleased_ne_zero.2 ⟨i, hend⟩)
    rw [hdisposal.deferred_eq hascending, hheld, filterMap_noted g n hnodup, if_pos hopen]
  · intro hkeeps hno
    cases hdisposed : (after E (.start settings ⟨outside, .empty⟩) uses).context.disposed with
    | false =>
      rw [hm.deferred_eq hascending, hm.undisposed hdisposed]
      exact List.filterMap_eq_nil_iff.2 fun _ _ => rfl
    | true =>
      obtain ⟨earlier, use, later, rfl, huse, hd⟩ := exists_disposal hmean hkeeps hstart rfl hdisposed
      have hdisposal := disposal_mirrors hE hstart hnone huse hd later
      rw [hdisposal.deferred_eq hascending]
      cases hheld : (after E (.start settings ⟨outside, .empty⟩) earlier).context.heldCurrent? with
      | none => exact List.filterMap_eq_nil_iff.2 fun _ _ => rfl
      | some x =>
        obtain ⟨g, n⟩ := x
        obtain ⟨hcurrent, hn, _⟩ := Context.heldCurrent?_eq_some.1 hheld
        rw [filterMap_noted g n hnodup]
        refine if_neg fun hg => ?_
        obtain ⟨i, hi⟩ := Context.unreleased_ne_zero.1 ((hs.open_iff_held hdisposed g).1 hg)
        have hsince := held_since_disposal hmean hstart huse hi
        exact hno g n ⟨earlier, use, later, rfl, huse, hd, hcurrent, hn, i, hsince, hi⟩

/-- A numbering index whose callbacks give up claims, and its census. -/
def yieldingCensus : Engine (Counted Nat) Nat Nat (Option Nat) :=
  let E := (numbering fun _ : Option Nat => pure ()).counted
  { E with warm := fun callback _ => yielding E callback }

theorem yieldingCensus_records : yieldingCensus.Records Census.record Counted.census := by
  have hpassive : (numbering fun _ : Option Nat => pure ()).Passive :=
    numbering_keeps (R := fun c c' => c' = c) (fun _ => rfl) fun _ _ => rfl
  have hE := (hpassive.silent Census.record).counted_records
  exact ⟨hE.openView, hE.reopen, hE.searcher, hE.close, hE.closeReader, hE.search,
    fun callback _ w => ⟨_, yielding_meanwhile hE callback w, rfl⟩, hE.observe⟩

/-- Two claims hold the third snapshot when the context goes, and one is given up afterwards. The second snapshot is
held as well, the first was closed when a callback gave up its last claim, and the fourth was rejected by a callback. -/
theorem census_mirrors_rejected :
    let earlier : List (Use (Option Nat)) := [.checkout, .reload, .checkout, .reload, .reload, .register (some 0),
      .register none, .checkout, .checkout, .reload]
    let w := after yieldingCensus (.start .standard ⟨0, .empty⟩) (earlier ++ .dropContext :: [.drop 2])
    w.outside.census.generations = [2, 3] ∧ w.outside.census.created = 4 ∧
      4 = w.outside.census.released + w.outside.census.count ∧ w.outside.census.deferred = [(3, 2)] := by
  intro earlier w
  have hheld : HeldDisposal yieldingCensus (.start .standard ⟨0, .empty⟩) (earlier ++ .dropContext :: [.drop 2]) 3 2 :=
    ⟨earlier, .dropContext, [.drop 2], rfl, .inr rfl, by decide +kernel, by decide +kernel, by decide +kernel, 3,
      by decide +kernel, by decide +kernel⟩
  obtain ⟨hgenerations, _, hcreated, hbalance, hdeferred, _⟩ := census_mirrors (w := w) yieldingCensus_records rfl
  refine ⟨?_, ?_, ?_, hdeferred 3 2 hheld⟩
  · rw [hgenerations]
    decide +kernel
  · rw [hcreated]
    decide +kernel
  · rw [← hbalance, hcreated]
    decide +kernel

end IndexQuery.Snapshot
