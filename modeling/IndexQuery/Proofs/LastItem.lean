import IndexQuery.Proofs.NestedModels

set_option autoImplicit false

/-!
Where the last item is asked for does not matter.

Skips, takes, requests for the last item and boosts are collected in a draft each for itself: the skips and takes in one
window, the request in one flag (`Draft.shaped`). So the last item is that of the window made from all skips and takes,
those behind the request included (`Executor.execute_last`). It is the item that the operators leave one after another
if those behind the request have nothing to cut off.
-/

namespace IndexQuery

variable {ι : Type}

/-! ### Kinds of operators -/

namespace ResultOperator

def narrowing? : ResultOperator ι → Option Narrowing
  | .skip n => some (.skip n)
  | .take n => some (.take n)
  | _ => none

def factor? : ResultOperator ι → Option (ι → Number.Binary32)
  | .boost factor => some factor
  | _ => none

def isLast : ResultOperator ι → Bool
  | .last => true
  | _ => false

/-- Does the operator leave a part of the sequence, by place? -/
def cuts (operator : ResultOperator ι) : Bool := operator.narrowing?.isSome || operator.isLast

def narrowings (operators : List (ResultOperator ι)) : List (ResultOperator ι) :=
  operators.filter (·.narrowing?.isSome)

theorem narrowing?_operator {operator : ResultOperator ι} {narrowing : Narrowing}
    (h : operator.narrowing? = some narrowing) : narrowing.operator = operator := by
  cases operator with
  | skip | take =>
    obtain rfl := Option.some.inj h
    rfl
  | _ => cases h

theorem narrowings_eq (operators : List (ResultOperator ι)) :
    narrowings operators = (operators.filterMap (·.narrowing?)).map (·.operator) := by
  induction operators with
  | nil => rfl
  | cons operator operators ih =>
    cases hn : operator.narrowing? with
    | none => rw [narrowings, List.filter_cons_of_neg (by simp [hn]), List.filterMap_cons_none hn, ← ih, narrowings]
    | some narrowing =>
      rw [narrowings, List.filter_cons_of_pos (by simp [hn]), List.filterMap_cons_some hn, List.map_cons, ← ih,
        narrowing?_operator hn, narrowings]

end ResultOperator

open ResultOperator

/-! ### One window, one flag, one product -/

def multiplied (earlier : Option (ι → Number.Binary32)) (factor : ι → Number.Binary32) : ι → Number.Binary32 :=
  match earlier with
  | some earlier => fun item => (earlier item).mul (factor item)
  | none => factor

/-- Operators that are no questions act on a draft in three places that have nothing to do with one another. -/
theorem Draft.shaped {operators : List (ResultOperator ι)}
    (h : ∀ operator ∈ operators, operator.cuts = true ∨ operator.factor?.isSome = true) (d : Draft ι) :
    ∃ skip max, operators.foldl Draft.apply d = { d with
      skip := skip
      max := max
      takeLast := d.takeLast || operators.any (·.isLast)
      boost := (operators.filterMap (·.factor?)).foldl (fun earlier factor => some (multiplied earlier factor))
        d.boost } ∧
    ∀ items : List ι, items.length ≤ countLimit →
      narrow skip max items = kept (narrowings operators) (narrow d.skip d.max items) := by
  induction operators generalizing d with
  | nil => exact ⟨d.skip, d.max, by simp, fun _ _ => rfl⟩
  | cons operator operators ih =>
    have hrest := fun operator ho => h operator (List.mem_cons_of_mem _ ho)
    obtain ⟨skip, max, hfold, hkept⟩ := ih hrest (d.apply operator)
    refine ⟨skip, max, ?_, fun items hlen => ?_⟩
    · rw [List.foldl_cons, hfold]
      cases operator with
      | skip | take => rfl
      | last => simp [apply, isLast, factor?]
      | boost factor =>
        simp only [apply, boostBy, List.any_cons, isLast, Bool.false_or, List.filterMap_cons, factor?, List.foldl_cons]
        rfl
      | _ => simpa [cuts, narrowing?, isLast, factor?] using h _ List.mem_cons_self
    · rw [hkept items hlen]
      cases operator with
      | skip n =>
        rw [show Draft.apply d (.skip n) = d.apply (Narrowing.skip n).operator from rfl, narrow_apply _ d hlen]
        rfl
      | take n =>
        rw [show Draft.apply d (.take n) = d.apply (Narrowing.take n).operator from rfl, narrow_apply _ d hlen]
        rfl
      | last | boost => rfl
      | _ => simpa [cuts, narrowing?, isLast, factor?] using h _ List.mem_cons_self

/-! ### The last item of a window -/

namespace ResultOperator

theorem kept_append (operators later : List (ResultOperator ι)) (items : List ι) :
    kept (operators ++ later) items = kept later (kept operators items) := List.foldl_append

theorem isLast_iff {operator : ResultOperator ι} : operator.isLast = true ↔ operator = .last := by
  cases operator <;> simp [isLast]

theorem length_kept_mono (steps : List Narrowing) {items shorter : List ι} (hlen : shorter.length ≤ items.length) :
    (kept (steps.map (·.operator)) shorter).length ≤ (kept (steps.map (·.operator)) items).length := by
  induction steps generalizing items shorter with
  | nil => exact hlen
  | cons step steps ih =>
    refine ih ?_
    cases step with
    | skip n =>
      change (shorter.drop n).length ≤ (items.drop n).length
      rw [List.length_drop, List.length_drop]
      omega
    | take n =>
      change (shorter.take n).length ≤ (items.take n).length
      rw [List.length_take, List.length_take]
      omega

/-- One item is its own last one, so that further requests for the last item do nothing. -/
theorem kept_sole {operators : List (ResultOperator ι)} (h : ∀ operator ∈ operators, operator.cuts = true)
    {items : List ι} (hlen : items.length ≤ 1) : kept operators items = kept (narrowings operators) items := by
  induction operators generalizing items with
  | nil => rfl
  | cons operator operators ih =>
    have hrest := fun operator ho => h operator (List.mem_cons_of_mem _ ho)
    change kept operators (operator.keep items) = _
    cases hn : operator.narrowing? with
    | some step =>
      obtain rfl := narrowing?_operator hn
      rw [narrowings, List.filter_cons_of_pos (by rw [hn]; rfl)]
      exact ih hrest ((keep_sublist step items).length_le.trans hlen)
    | none =>
      have hlast : operator = .last := by
        have hcuts := h operator List.mem_cons_self
        rw [cuts, hn] at hcuts
        exact isLast_iff.1 hcuts
      rw [narrowings, List.filter_cons_of_neg (by simp [hn]), hlast]
      match items, hlen with
      | [], hlen => exact ih hrest hlen
      | [_], hlen => exact ih hrest hlen

/-- The operators leave the last item of the window, if those behind the first request for it cut nothing off, or if the
window is empty. -/
theorem kept_last {earlier later : List (ResultOperator ι)}
    (h : ∀ operator ∈ earlier ++ .last :: later, operator.cuts = true) (hfirst : .last ∉ earlier) {items : List ι}
    (hwindow : kept (narrowings (earlier ++ .last :: later)) items = [] ∨
      kept (narrowings (earlier ++ .last :: later)) items = kept earlier items) :
    kept (earlier ++ .last :: later) items =
      (kept (narrowings (earlier ++ .last :: later)) items).getLast?.toList := by
  have hearlier : narrowings earlier = earlier := by
    refine List.filter_eq_self.2 fun operator ho => ?_
    have hcuts := h operator (List.mem_append_left _ ho)
    rw [cuts, Bool.or_eq_true, isLast_iff] at hcuts
    exact hcuts.resolve_right fun heq => hfirst (heq ▸ ho)
  have hsplit : narrowings (earlier ++ .last :: later) = earlier ++ narrowings later := by
    rw [narrowings, List.filter_append, List.filter_cons_of_neg (by simp [narrowing?])]
    exact congrArg (· ++ narrowings later) hearlier
  have hlater := fun operator ho => h operator (List.mem_append_right _ (List.mem_cons_of_mem _ ho))
  rw [hsplit, kept_append] at hwindow ⊢
  rw [kept_append]
  generalize kept earlier items = reached at hwindow ⊢
  change kept later reached.getLast?.toList = _
  have hsole : reached.getLast?.toList.length ≤ 1 ∧ reached.getLast?.toList.length ≤ reached.length := by
    cases reached with
    | nil => simp
    | cons item reached => simp [List.getLast?_cons]
  rw [kept_sole hlater hsole.1]
  rw [narrowings_eq] at hwindow ⊢
  rcases hwindow with hnone | hall
  · -- what cuts off a whole sequence cuts off a shorter one
    have hlen := length_kept_mono (later.filterMap (·.narrowing?)) hsole.2
    rw [hnone] at hlen ⊢
    exact List.eq_nil_of_length_eq_zero (Nat.le_zero.1 hlen)
  · rw [hall]
    exact kept_shorter _ hall hsole.2

end ResultOperator

namespace Executor

open Snapshot

variable {ω ρ σ κ : Type} {x : Executor ω ρ σ κ ι} {p : Plan ι} {hits : σ → List Hit} {item : σ → Hit → ι}

/-- A query made of skips, takes and requests for the last item gives the last item of the window that all skips and
takes make, wherever the requests stand. This is what the operators leave of the hits one after another if those behind
the first request cut nothing off, or if the window is empty. -/
theorem execute_last {m : QueryModel ι} (hm : ∀ operator ∈ m.allOperators, operator.cuts = true)
    (hlast : .last ∈ m.allOperators) (hp : x.compiler.plan m = .ok p) (hx : x.Serves p hits item)
    (hlen : ∀ searcher, (hits searcher).length ≤ countLimit) {w w₁ : World ω ρ σ κ} (hs : w.context.Sound [])
    {handle : Nat} (hc : outcome (checkout x.engine) w = (.ok handle, w₁)) :
    ∃ t, w₁.context.currentTracker? = some t ∧
      let items := (hits t.searcher).map (item t.searcher)
      let window := kept (narrowings m.allOperators) items
      let output := (outcome (x.execute m) w).1
      output = Plan.firstOf window.getLast?.toList ∧
      ∀ earlier later, m.allOperators = earlier ++ .last :: later → .last ∉ earlier →
        window = [] ∨ window = kept earlier items → output = Plan.firstOf (kept m.allOperators items) := by
  obtain ⟨d, hd, hfinish⟩ := bind_eq_ok.1 hp
  obtain rfl := pure_eq_ok.1 hfinish
  obtain ⟨skip, max, hfold, hkept⟩ := Draft.shaped (fun operator ho => .inl (hm operator ho)) (Draft.empty : Draft ι)
  rw [← Compiler.draft_bare hd] at hfold
  have hfactors : m.allOperators.filterMap (·.factor?) = [] := by
    refine List.filterMap_eq_nil_iff.2 fun operator ho => ?_
    have hcuts := hm operator ho
    cases operator with
    | boost => cases hcuts
    | _ => rfl
  have hflag : m.allOperators.any (·.isLast) = true := List.any_eq_true.2 ⟨_, hlast, rfl⟩
  rw [hfactors, hflag] at hfold
  have hboost : d.finish.boost = none := congrArg Draft.boost hfold
  have hunsupported : d.finish.unsupported = [] := congrArg Draft.unsupported hfold
  have htake : d.finish.takeLast = true := congrArg Draft.takeLast hfold
  have haggregate : d.finish.aggregate = none := congrArg Draft.aggregate hfold
  have hskip : d.finish.skip = skip := congrArg Draft.skip hfold
  have hmax : d.finish.max = max := congrArg Draft.max hfold
  obtain ⟨t, ht, hresult⟩ := execute_reduce hp hx hlen hboost hunsupported hs hc
  refine ⟨t, ht, ?_⟩
  intro items window output
  have hwindow : narrow skip max items = window := hkept items (by simpa [items] using hlen t.searcher)
  have houtput : output = Plan.firstOf window.getLast?.toList := by
    rw [← hwindow]
    change (outcome (x.execute m) w).1 = _
    rw [hresult, Plan.window_eq, htake, hskip, hmax, Plan.reduce, haggregate, htake]
    rfl
  refine ⟨houtput, fun earlier later hsplit hfirst hcut => ?_⟩
  rw [houtput]
  change window = [] ∨ _ at hcut
  simp only [window, hsplit] at hm hcut ⊢
  rw [kept_last hm hfirst hcut]

def numbered : Executor Nat Nat Nat Unit Nat :=
  ⟨numbering fun _ => pure (), ⟨FieldRegistry.empty.provider, .standard⟩, fun _ hit => pure hit.document⟩

theorem numbered_serves (p : Plan Nat) : numbered.Serves p (fun _ => fiveHits) fun _ hit => hit.document :=
  ⟨numbering_keeps (R := fun c c' => c' = c) (fun _ => rfl) fun _ _ => rfl, fun _ _ _ _ => rfl, fun _ _ _ => rfl,
    fun _ _ _ => rfl⟩

/-- Of the last four of five hits the last one, of which four may be taken; if only three may, the item is another. -/
theorem execute_last_taken :
    let query (taken : Nat) := QueryModel.nested (.index "shelf" [] [.skip 1, .last]) [] [.take taken, .last]
    (outcome (numbered.execute (query 4)) (.start .standard 0)).1 = .ok (.item 4) ∧
      (outcome (numbered.execute (query 3)) (.start .standard 0)).1 = .ok (.item 3) := by
  intro query
  have hcuts : ∀ taken, ∀ operator ∈ (query taken).allOperators, operator.cuts = true := by
    simp [query, QueryModel.allOperators, cuts, narrowing?, isLast]
  have hlast : ∀ taken, .last ∈ (query taken).allOperators := by simp [query, QueryModel.allOperators]
  obtain ⟨t, _, _, hwhole⟩ := execute_last (hcuts 4) (hlast 4) rfl (numbered_serves _) (fun _ => by decide)
    (w := .start .standard 0) (.ofSettings _) rfl
  obtain ⟨t', _, hthird, _⟩ := execute_last (hcuts 3) (hlast 3) rfl (numbered_serves _) (fun _ => by decide)
    (w := .start .standard 0) (.ofSettings _) rfl
  exact ⟨hwhole [.skip 1] [.take 4, .last] rfl (by simp) (.inr rfl), hthird⟩

end Executor

open Snapshot in
/-- Two documents: the last one is asked for, and then one item of that; the query gives the first document. -/
theorem Rehearsal.last_not_in_turn :
    let documents : List Document := [⟨1, .one .single, none⟩, ⟨2, .one .single, none⟩]
    let s := Session.start .standard ⟨FieldRegistry.empty.provider, .standard⟩ (.ofDocuments documents true)
    let query : QueryModel Nat := .index "books" [] [.last, .take 1]
    (outcome (s.executor.execute query) s.world).1.toOption.bind (·.item?) = some 1 ∧
      kept query.allOperators [1, 2] = [2] := by
  decide +kernel

end IndexQuery
