import IndexQuery.Proofs.Recording

set_option autoImplicit false

/-!
Every reader that the index hands out is closed exactly once.

The calls of an index are kept in a journal (`Engine.journaled`), each with the context at the time of the call. At any
moment a reader of the journal is either closed, or somebody has it in hand, or an open snapshot has it, and no reader
is counted twice (`Account`). What happens to a context moves readers from one place to another, whoever does it
(`Record.Trace.account`), and a disposed context that nobody holds has no open snapshot, so that all readers end up
closed (`readers_closed_once`).
-/

namespace IndexQuery.Snapshot

variable {ω ρ σ κ : Type}

/-! ### The journal of an index -/

structure JournalEntry (ρ σ κ : Type) where
  call : Call ρ
  /-- The context at the time of the call. -/
  context : Context ρ σ κ

abbrev Journal (ρ σ κ : Type) := List (JournalEntry ρ σ κ)

structure Journaled (ω ρ σ κ : Type) where
  inner : ω
  journal : Journal ρ σ κ

def recording {α : Type} (call : Except Error α → Call ρ) (action : Action ω ρ σ κ α) :
    Action (Journaled ω ρ σ κ) ρ σ κ α :=
  ExceptT.mk fun w =>
    let (result, w') := outcome action ⟨w.context, w.outside.inner⟩
    (result, ⟨w'.context, w'.outside, w.outside.journal ++ [⟨call result, w.context⟩]⟩)

def Engine.journaled (E : Engine ω ρ σ κ) : Engine (Journaled ω ρ σ κ) ρ σ κ where
  openView := recording .ofOpening E.openView
  reopen reader := recording (.ofReopening reader) (E.reopen reader)
  searcher reader := recording (fun _ => .searcher reader) (E.searcher reader)
  close reader searcher := recording (fun _ => .close reader) (E.close reader searcher)
  closeReader reader := recording (fun _ => .closeReader reader) (E.closeReader reader)
  sameReader := E.sameReader
  search searcher request := recording (fun _ => .search) (E.search searcher request)
  warm callback searcher := recording (fun _ => .warm) (E.warm callback searcher)
  observe event outside := ⟨E.observe event outside.inner, outside.journal⟩

namespace Journal

def obtained (J : Journal ρ σ κ) : List ρ := J.filterMap (·.call.made?)

/-- Readers passed to one of the two closing operations, as often as they were. -/
def closings (J : Journal ρ σ κ) : List ρ := J.filterMap (·.call.closed?)

/-- A reader that the index makes is the one it was asked to renew, or one that it has never returned before. -/
def Fresh (J : Journal ρ σ κ) : Prop :=
  ∀ i (h : i < J.length), ∀ r ∈ J[i].call.made?, J[i].call.renewed? = some r ∨ r ∉ obtained (J.take i)

instance [DecidableEq ρ] (J : Journal ρ σ κ) : Decidable (Fresh J) :=
  inferInstanceAs (Decidable (∀ i (h : i < J.length), ∀ r ∈ J[i].call.made?,
    J[i].call.renewed? = some r ∨ r ∉ obtained (J.take i)))

variable {J : Journal ρ σ κ} {e : JournalEntry ρ σ κ}

theorem Fresh.of_prefix {J' : Journal ρ σ κ} (h : Fresh J') (hp : J <+: J') : Fresh J := by
  obtain ⟨since, rfl⟩ := hp
  intro i hi r hr
  have hi' : i < (J ++ since).length := by
    rw [List.length_append]
    omega
  have hget : (J ++ since)[i] = J[i] := List.getElem_append_left hi
  have htake : (J ++ since).take i = J.take i := List.take_append_of_le_length (Nat.le_of_lt hi)
  have hlater := h i hi' r
  rw [hget, htake] at hlater
  exact hlater hr

theorem Fresh.last (h : Fresh (J ++ [e])) {r : ρ} (hr : e.call.made? = some r) :
    e.call.renewed? = some r ∨ r ∉ obtained J := by
  have hlast := h J.length (by simp) r
  simp only [List.getElem_concat_length, List.take_left] at hlast
  exact hlast hr

theorem obtained_concat (J : Journal ρ σ κ) (e : JournalEntry ρ σ κ) :
    obtained (J ++ [e]) = obtained J ++ e.call.made?.toList := by
  rw [obtained, List.filterMap_append]
  cases h : e.call.made? <;> simp [h, obtained]

theorem closings_concat (J : Journal ρ σ κ) (e : JournalEntry ρ σ κ) :
    closings (J ++ [e]) = closings J ++ e.call.closed?.toList := by
  rw [closings, List.filterMap_append]
  cases h : e.call.closed? <;> simp [h, closings]

/-- Calls are written down, events are not. -/
def record : Record ρ σ κ (Journal ρ σ κ) where
  call call context J := J ++ [⟨call, context⟩]
  event _ J := J

end Journal

open Journal

theorem Record.Trace.journal_prefix {same : ρ → ρ → Bool} {p q : Context ρ σ κ × Journal ρ σ κ}
    (h : Journal.record.Trace same p q) : p.2 <+: q.2 := by
  induction h with
  | rest => exact List.prefix_rfl
  | unmoved _ _ ih | deferred _ _ _ _ _ _ ih => exact ih
  | call _ _ _ _ ih => exact ih.trans (List.prefix_append _ _)
  | closed _ _ _ ih ihd => exact (ih.trans ihd).trans (List.prefix_append _ _)
  | dropped _ _ _ _ _ _ ih ihd ihc =>
    have hcall := (ih.trans (List.prefix_append _ _)).trans ihd
    exact (hcall.trans ihc).trans (List.prefix_append _ _)
  | tracked _ _ _ _ _ ih ihd => exact (ih.trans (List.prefix_append _ _)).trans ihd

theorem recording_noted {α : Type} (call : Except Error α → Call ρ) {action : Action ω ρ σ κ α}
    (h : ∀ w, Journal.record.Silent w.context (outcome action w).2.context) (w : World (Journaled ω ρ σ κ) ρ σ κ) :
    Journal.record.Noted Journaled.journal (call (outcome (recording call action) w).1) w
      (outcome (recording call action) w).2 :=
  ⟨w.outside.journal, h ⟨w.context, w.outside.inner⟩ _, rfl⟩

/-- The journal is complete if others make no calls of their own. -/
theorem Engine.Keeps.journaled_records {E : Engine ω ρ σ κ} (hE : E.Keeps Journal.record.Silent) :
    E.journaled.Records Journal.record Journaled.journal where
  openView := recording_noted .ofOpening hE.openView
  reopen reader := recording_noted (.ofReopening reader) (hE.reopen reader)
  searcher reader := recording_noted (fun _ => .searcher reader) (hE.searcher reader)
  close reader searcher := recording_noted (fun _ => .close reader) (hE.close reader searcher)
  closeReader reader := recording_noted (fun _ => .closeReader reader) (hE.closeReader reader)
  search searcher request := recording_noted (fun _ => .search) (hE.search searcher request)
  warm callback searcher := recording_noted (fun _ => .warm) (hE.warm callback searcher)
  observe _ _ := rfl

/-! ### Where the readers are -/

namespace Context

def openReaders (c : Context ρ σ κ) : List ρ := c.openViews.map View.reader

theorem mem_openReaders {c : Context ρ σ κ} {r : ρ} :
    r ∈ c.openReaders ↔ ∃ t ∈ c.trackers, t.released = false ∧ t.reader = r := by
  simp [openReaders, openViews, Tracker.view, and_assoc]

theorem openReaders_addTracker (c : Context ρ σ κ) (reader : ρ) (searcher : σ) :
    (c.addTracker reader searcher).openReaders = c.openReaders ++ [reader] := by
  rw [openReaders, openViews_addTracker, List.map_append]
  rfl

end Context

/-- Every reader of the journal is closed, in hand or open, and only one of these, and those of snapshots are in the
journal; none was closed while it was held. -/
structure Account (J : Journal ρ σ κ) (inHand : List ρ) (c : Context ρ σ κ) : Prop where
  apart : (closings J ++ (inHand ++ c.openReaders)).Nodup
  complete : ∀ r, r ∈ obtained J ↔ r ∈ closings J ++ (inHand ++ c.openReaders)
  known : ∀ v ∈ c.views, v.reader ∈ obtained J
  unheld : ∀ e ∈ J, ∀ r ∈ e.call.closed?, ∀ t ∈ e.context.trackers, t.reader = r →
    e.context.unreleased t.generation = 0

namespace Account

variable {J : Journal ρ σ κ} {inHand inHand' : List ρ} {c c' : Context ρ σ κ} {call : Call ρ} {r : ρ}

theorem of_perm (ha : Account J inHand c) (hknown : ∀ v ∈ c'.views, v.reader ∈ obtained J)
    (h : (inHand ++ c.openReaders).Perm (inHand' ++ c'.openReaders)) : Account J inHand' c' where
  apart := (h.append_left (closings J)).nodup_iff.1 ha.apart
  complete r := (ha.complete r).trans (h.append_left (closings J)).mem_iff
  known := hknown
  unheld := ha.unheld

theorem unmoved (ha : Account J inHand c) (h : c.Unmoved c') : Account J inHand c' := by
  refine ha.of_perm (h.views ▸ ha.known) ?_
  rw [Context.openReaders, Context.openReaders, h.openViews]

/-- The reader of a snapshot that is to be closed comes into hand. -/
theorem closes {v : View ρ σ} (ha : Account J inHand c) (h : c.Closes v c') : Account J (v.reader :: inHand) c' := by
  have hopen : c.openReaders.Perm (v.reader :: c'.openReaders) := h.openViews.map View.reader
  exact ha.of_perm (h.views ▸ ha.known) ((hopen.append_left inHand).trans List.perm_middle)

/-- A new reader gets a snapshot. -/
theorem track (ha : Account J (r :: inHand) c) (searcher : σ) : Account J inHand (c.addTracker r searcher) := by
  refine ha.of_perm ?_ ?_
  · intro v hv
    rw [Context.views_addTracker] at hv
    rcases List.mem_append.1 hv with hv | hv
    · exact ha.known v hv
    · rw [List.mem_singleton.1 hv, ha.complete]
      simp
  · rw [Context.openReaders_addTracker, ← List.append_assoc]
    exact (List.perm_append_singleton r _).symm

/-- Nobody holds a snapshot whose reader is in hand: held snapshots are open, and their readers are theirs only. -/
theorem unheld_inHand (ha : Account J (r :: inHand) c) (hh : c.HeldOpen) :
    ∀ t ∈ c.trackers, t.reader = r → c.unreleased t.generation = 0 := by
  intro t ht htr
  by_contra hheld
  have hr : r ∈ c.openReaders := Context.mem_openReaders.2 ⟨t, ht, hh t ht hheld, htr⟩
  have hin := (List.nodup_append.1 ha.apart).2.1
  exact (List.nodup_cons.1 hin).1 (List.mem_append_right _ hr)

theorem known_concat (ha : Account J inHand c) (call : Call ρ) (context : Context ρ σ κ) :
    ∀ v ∈ c.views, v.reader ∈ obtained (J ++ [⟨call, context⟩]) := by
  intro v hv
  rw [obtained_concat]
  exact List.mem_append_left _ (ha.known v hv)

theorem unheld_concat (ha : Account J inHand c) {context : Context ρ σ κ}
    (h : ∀ r ∈ call.closed?, ∀ t ∈ context.trackers, t.reader = r → context.unreleased t.generation = 0) :
    ∀ e ∈ J ++ [⟨call, context⟩], ∀ r ∈ e.call.closed?, ∀ t ∈ e.context.trackers, t.reader = r →
      e.context.unreleased t.generation = 0 := by
  intro e he
  rcases List.mem_append.1 he with he | he
  · exact ha.unheld e he
  · rw [List.mem_singleton.1 he]
    exact h

/-- A call that neither makes nor closes a reader changes nothing, nor does one that returns a known reader. -/
theorem note (ha : Account J inHand c) (hc : call.closed? = none) (hm : ∀ r ∈ call.made?, r ∈ obtained J)
    (context : Context ρ σ κ) : Account (J ++ [⟨call, context⟩]) inHand c where
  apart := by
    rw [closings_concat, hc, Option.toList_none, List.append_nil]
    exact ha.apart
  complete r := by
    rw [closings_concat, hc, Option.toList_none, List.append_nil, obtained_concat, ← ha.complete, List.mem_append,
      Option.mem_toList]
    exact ⟨fun h => h.elim id (hm r), .inl⟩
  known := ha.known_concat call context
  unheld := ha.unheld_concat (by simp [hc])

theorem obtain (ha : Account J inHand c) (hc : call.closed? = none) (hm : call.made? = some r) (hr : r ∉ obtained J)
    (context : Context ρ σ κ) : Account (J ++ [⟨call, context⟩]) (r :: inHand) c where
  apart := by
    rw [closings_concat, hc, Option.toList_none, List.append_nil, List.cons_append, List.nodup_middle, List.nodup_cons]
    rw [ha.complete] at hr
    exact ⟨hr, ha.apart⟩
  complete x := by
    rw [closings_concat, hc, Option.toList_none, List.append_nil, obtained_concat, hm, List.mem_append, ha.complete]
    simp only [Option.toList_some, List.mem_append, List.mem_cons, List.not_mem_nil, or_false]
    tauto
  known := ha.known_concat call context
  unheld := ha.unheld_concat (by simp [hc])

theorem make {same : ρ → ρ → Bool} (hsame : ∀ a b, same a b = true ↔ a = b) (ha : Account J inHand c)
    (hr : call.Makes same r) {context : Context ρ σ κ} (hf : Fresh (J ++ [⟨call, context⟩])) :
    Account (J ++ [⟨call, context⟩]) (r :: inHand) c := by
  refine ha.obtain hr.closed hr.made ((hf.last hr.made).resolve_left fun hrenewed => ?_) context
  have hdiffers := hr.differs r hrenewed
  rw [(hsame r r).2 rfl] at hdiffers
  cases hdiffers

theorem close (ha : Account J (r :: inHand) c) (hc : call.closed? = some r) (hm : call.made? = none)
    {context : Context ρ σ κ} (hu : ∀ t ∈ context.trackers, t.reader = r → context.unreleased t.generation = 0) :
    Account (J ++ [⟨call, context⟩]) inHand c := by
  have hmoved : closings (J ++ [⟨call, context⟩]) ++ (inHand ++ c.openReaders) =
      closings J ++ (r :: inHand ++ c.openReaders) := by
    rw [closings_concat, hc, Option.toList_some, List.append_assoc, List.singleton_append, List.cons_append]
  refine ⟨?_, ?_, ha.known_concat call context, ha.unheld_concat ?_⟩
  · rw [hmoved]
    exact ha.apart
  · intro x
    rw [hmoved, obtained_concat, hm, Option.toList_none, List.append_nil, ha.complete]
  · rw [hc]
    rintro _ ⟨⟩
    exact hu

end Account

/-- What happens to a context moves readers from one place to another, whatever readers are in hand. -/
theorem Record.Trace.account {same : ρ → ρ → Bool} (hsame : ∀ a b, same a b = true ↔ a = b)
    {p q : Context ρ σ κ × Journal ρ σ κ} (h : Journal.record.Trace same p q) (hf : Fresh q.2) {inHand : List ρ}
    (ha : Account p.2 inHand p.1) : Account q.2 inHand q.1 := by
  induction h generalizing inHand with
  | rest => exact ha
  | call _ hclosed hmade d ih =>
    have hac := ih (hf.of_prefix (List.prefix_append _ _)) ha
    refine hac.note hclosed ?_ d
    intro x hx
    obtain ⟨a, _, hxa, v, hv, rfl⟩ := hmade x hx
    rw [(hsame _ _).1 hxa]
    exact hac.known v hv
  | unmoved _ hc ih | deferred _ hc _ _ _ _ ih => exact (ih hf ha).unmoved hc
  | closed _ hc during ih ihd =>
    have hfd := hf.of_prefix (List.prefix_append _ _)
    have hac := (ih (hfd.of_prefix during.journal_prefix) ha).closes hc
    exact (ihd hfd hac).close rfl rfl (hac.unheld_inHand hc.held)
  | dropped _ hx a during hheld closing ih ihd ihc =>
    have hfc := hf.of_prefix (List.prefix_append _ _)
    have hfd := hfc.of_prefix closing.journal_prefix
    have hfb := hfd.of_prefix during.journal_prefix
    have hac := ihd hfd ((ih (hfb.of_prefix (List.prefix_append _ _)) ha).make hsame hx hfb)
    exact (ihc hfc hac).close rfl rfl (hac.unheld_inHand hheld)
  | tracked _ hx a during searcher ih ihd =>
    have hfb := hf.of_prefix during.journal_prefix
    exact (ihd hf ((ih (hfb.of_prefix (List.prefix_append _ _)) ha).make hsame hx hfb)).track searcher

/-- A disposed context that nobody holds has no open snapshot. -/
theorem Context.Sound.openReaders_eq_nil {c : Context ρ σ κ} (hs : c.Sound []) (hd : c.disposed = true)
    (hh : ∀ h ∈ c.handles, h.released = true) : c.openReaders = [] := by
  rw [List.eq_nil_iff_forall_not_mem]
  intro r hr
  obtain ⟨t, ht, hopen, _⟩ := Context.mem_openReaders.1 hr
  have hretired : t.retired = true := by
    rw [← Bool.not_eq_false, hs.books.unretired t ht, hs.disposed hd]
    simp
  have hidle : t.clients = 0 := by
    rw [hs.books.clients t ht, Context.unreleased, List.countP_eq_zero]
    intro h hmem
    simp [hh h hmem]
  rw [(hs.books.released t ht).2 ⟨hretired, hidle⟩] at hopen
  cases hopen

/-- Over an index that returns the reader it was asked to renew or one that it has never returned before, every reader
is closed at most once and never while it is held, and exactly once by the time that the context is disposed and all
claims are given up. Others may use the context while the index is at work, and the journal has their calls as well. -/
theorem readers_closed_once [DecidableEq ρ] {E : Engine (Journaled ω ρ σ κ) ρ σ κ}
    (hE : E.Records Journal.record Journaled.journal) (hsame : ∀ a b, E.sameReader a b = true ↔ a = b)
    {settings : ContextSettings} {outside : ω} {uses : List (Use κ)} {w : World (Journaled ω ρ σ κ) ρ σ κ}
    (hrun : after E (.start settings ⟨outside, []⟩) uses = w) (hfresh : Fresh w.outside.journal) :
    (∀ r, (closings w.outside.journal).count r ≤ 1) ∧
    (∀ e ∈ w.outside.journal, ∀ r ∈ e.call.closed?, ∀ t ∈ e.context.trackers, t.reader = r →
      ∀ h ∈ e.context.handles, h.generation = t.generation → h.released = true) ∧
    (w.context.disposed = true → (∀ h ∈ w.context.handles, h.released = true) →
      ∀ r ∈ obtained w.outside.journal, (closings w.outside.journal).count r = 1) := by
  subst hrun
  have hstart : (World.start settings ⟨outside, []⟩ : World (Journaled ω ρ σ κ) ρ σ κ).context.Sound [] :=
    .ofSettings settings
  have hs := (after_course hE.meanwhile hstart uses).1
  have hnone : Account ([] : Journal ρ σ κ) [] (.ofSettings settings : Context ρ σ κ) :=
    ⟨.nil, fun _ => .rfl, nofun, nofun⟩
  have ha := (after_trace hE hstart uses).account hsame hfresh hnone
  have honce := (List.nodup_append.1 ha.apart).1
  refine ⟨List.nodup_iff_count_le_one.1 honce, ?_, ?_⟩
  · intro e he r hr t ht htr h hh hg
    have hzero := List.countP_eq_zero.1 (ha.unheld e he r hr t ht htr) h hh
    simpa [hg] using hzero
  · intro hd hh r hr
    have hclosed := (ha.complete r).1 hr
    rw [World.recorded, hs.openReaders_eq_nil hd hh, List.append_nil, List.append_nil] at hclosed
    exact List.count_eq_one_of_mem honce hclosed

/-- A numbering index whose callbacks give up claims, and its journal. -/
def yieldingIndex : Engine (Journaled Nat Nat Nat (Option Nat)) Nat Nat (Option Nat) :=
  let E := (numbering fun _ : Option Nat => pure ()).journaled
  { E with
    warm := fun callback _ => ExceptT.mk fun w =>
      let (result, w') := outcome (yielding E callback) w
      (result, ⟨w'.context, { w'.outside with journal := w'.outside.journal ++ [⟨.warm, w.context⟩] }⟩) }

theorem yieldingIndex_records : yieldingIndex.Records Journal.record Journaled.journal := by
  have hpassive : (numbering fun _ : Option Nat => pure ()).Passive :=
    numbering_keeps (R := fun c c' => c' = c) (fun _ => rfl) fun _ _ => rfl
  have hE := (hpassive.silent Journal.record).journaled_records
  exact ⟨hE.openView, hE.reopen, hE.searcher, hE.close, hE.closeReader, hE.search,
    fun callback _ w => ⟨_, yielding_meanwhile hE callback w, rfl⟩, hE.observe⟩

/-- A reader without a searcher, one whose last claim a callback gives up, one that is superseded, one that a callback
rejects and one that outlives its context, in this order; closing the third and the last fails. -/
theorem readers_closed_once_numbering :
    let w := after yieldingIndex (.start .standard ⟨0, []⟩) [.checkout, .reload, .register (some 0), .reload, .reload,
      .register none, .reload, .checkout, .dropContext, .drop 1]
    closings w.outside.journal = [2, 0, 1, 4, 3] ∧
      ∀ r ∈ obtained w.outside.journal, (closings w.outside.journal).count r = 1 := by
  intro w
  have hw := readers_closed_once (w := w) yieldingIndex_records (fun _ _ => beq_iff_eq) rfl (by decide +kernel)
  exact ⟨by decide +kernel, hw.2.2 (by decide +kernel) (by decide +kernel)⟩

end IndexQuery.Snapshot
