import IndexQuery.Proofs.LastItem
import Mathlib.Data.List.Pairwise

set_option autoImplicit false

/-!
The order of boosted results.

Boosts change the scores that the engine has given, so that results in order of relevance are sorted again: by boosted
score, highest first, those with one score as the engine had them (`Plan.rank_ranked`). All hits are loaded for that,
and the window is that of the new order (`Executor.execute_boosted`). The order asked for plays no part: who asks for the
lowest score first gets the highest first (`Rehearsal.ascending_scores_reversed`).
-/

namespace IndexQuery

open Number (Binary32)
open ResultOperator

variable {ι : Type}

/-! ### Sorting by score -/

/-- May an item stand before another one, from how their scores compare? -/
def SortOrder.admits : SortOrder → Ordering → Bool
  | ascending, o => o != .gt
  | descending, o => o != .lt

/-- The scored items by score; equal scores are in the order in which they came. -/
structure Ranked (order : SortOrder) (scored ranked : List (Binary32 × ι)) : Prop where
  perm : ranked.Perm scored
  sorted : ranked.Pairwise fun a b => order.admits (a.1.totalCompare b.1) = true
  stable : ∀ score : Binary32, ranked.filter (fun a => a.1.totalCompare score == .eq) =
    scored.filter fun a => a.1.totalCompare score == .eq

theorem totalCompare_ne_lt (x y : Binary32) : x.totalCompare y ≠ .lt ↔ y.rank ≤ x.rank := by
  rw [Number.Binary.totalCompare, compare_ge_iff_ge]

theorem totalCompare_ne_gt (x y : Binary32) : x.totalCompare y ≠ .gt ↔ x.rank ≤ y.rank := by
  rw [Number.Binary.totalCompare, compare_le_iff_le]

theorem totalCompare_eq_eq (x y : Binary32) : x.totalCompare y = .eq ↔ x.rank = y.rank := by
  rw [Number.Binary.totalCompare, compare_eq_iff_eq]

theorem SortOrder.admits_antisymm {order : SortOrder} {x y : Binary32} (h : order.admits (x.totalCompare y) = true)
    (h' : order.admits (y.totalCompare x) = true) : x.totalCompare y = .eq := by
  rw [totalCompare_eq_eq]
  cases order with
  | ascending =>
    rw [admits, bne_iff_ne, totalCompare_ne_gt] at h h'
    omega
  | descending =>
    rw [admits, bne_iff_ne, totalCompare_ne_lt] at h h'
    omega

theorem sorted_unique {order : SortOrder} {xs ys : List (Binary32 × ι)}
    (hxs : xs.Pairwise fun a b => order.admits (a.1.totalCompare b.1) = true)
    (hys : ys.Pairwise fun a b => order.admits (a.1.totalCompare b.1) = true)
    (h : ∀ score : Binary32, xs.filter (fun a => a.1.totalCompare score == .eq) =
      ys.filter fun a => a.1.totalCompare score == .eq) : xs = ys := by
  have hself : ∀ score : Binary32, (score.totalCompare score == .eq) = true := fun score =>
    beq_iff_eq.2 ((totalCompare_eq_eq _ _).2 rfl)
  have hmem : ∀ a, a ∈ xs ↔ a ∈ ys := by
    intro a
    have ha := congrArg (a ∈ ·) (h a.1)
    simpa only [List.mem_filter, hself, and_true, eq_iff_iff] using ha
  induction xs generalizing ys with
  | nil => exact (List.eq_nil_iff_forall_not_mem.2 fun a ha => List.not_mem_nil ((hmem a).2 ha)).symm
  | cons x xs ih =>
    cases ys with
    | nil => exact absurd ((hmem x).1 List.mem_cons_self) List.not_mem_nil
    | cons y ys =>
      rw [List.pairwise_cons] at hxs hys
      have hkey : y.1.totalCompare x.1 = .eq := by
        rcases List.mem_cons.1 ((hmem x).1 List.mem_cons_self) with rfl | hx
        · exact beq_iff_eq.1 (hself _)
        rcases List.mem_cons.1 ((hmem y).2 List.mem_cons_self) with rfl | hy
        · exact beq_iff_eq.1 (hself _)
        exact SortOrder.admits_antisymm (hys.1 x hx) (hxs.1 y hy)
      have hhead := h x.1
      rw [List.filter_cons_of_pos (by exact hself x.1), List.filter_cons_of_pos (by exact beq_iff_eq.2 hkey)] at hhead
      obtain rfl := (List.cons.inj hhead).1
      have htail : ∀ score : Binary32, xs.filter (fun a => a.1.totalCompare score == .eq) =
          ys.filter fun a => a.1.totalCompare score == .eq := by
        intro score
        have hscore := h score
        simp only [List.filter_cons] at hscore
        split at hscore
        · exact (List.cons.inj hscore).2
        · exact hscore
      rw [ih hxs.2 hys.2 htail fun a => ?_]
      have ha := congrArg (a ∈ ·) (htail a.1)
      simpa only [List.mem_filter, hself, and_true, eq_iff_iff] using ha

/-- There is one such order. -/
theorem Ranked.unique {order : SortOrder} {scored ranked ranked' : List (Binary32 × ι)} (h : Ranked order scored ranked)
    (h' : Ranked order scored ranked') : ranked = ranked' :=
  sorted_unique h.sorted h'.sorted fun score => (h.stable score).trans (h'.stable score).symm

theorem Plan.rank_ranked (scored : List (Binary32 × ι)) : Ranked .descending scored (Plan.rank scored) := by
  let precedes (a b : Binary32 × ι) : Bool := decide (b.1.rank ≤ a.1.rank)
  have htrans : ∀ a b c, precedes a b = true → precedes b c = true → precedes a c = true := by
    intro a b c hab hbc
    simp only [precedes, decide_eq_true_eq] at hab hbc ⊢
    omega
  have htotal : ∀ a b, (precedes a b || precedes b a) = true := by
    intro a b
    simp only [precedes, Bool.or_eq_true, decide_eq_true_eq]
    omega
  have hperm := List.mergeSort_perm scored precedes
  refine ⟨hperm, ?_, fun score => ?_⟩
  · refine (List.pairwise_mergeSort htrans htotal scored).imp fun {a b} h => ?_
    rw [SortOrder.admits, bne_iff_ne, totalCompare_ne_lt]
    exact of_decide_eq_true h
  · -- items with one score form a sorted sublist, which sorting leaves as it is
    let same (a : Binary32 × ι) : Bool := a.1.totalCompare score == .eq
    have hsame : ∀ a, same a = true → a.1.rank = score.rank := by
      intro a ha
      exact (totalCompare_eq_eq _ _).1 (beq_iff_eq.1 ha)
    have hsorted : (scored.filter same).Pairwise fun a b => precedes a b = true := by
      refine List.pairwise_of_forall_mem_list fun a ha b hb => ?_
      have h := hsame a (List.mem_filter.1 ha).2
      have h' := hsame b (List.mem_filter.1 hb).2
      simp only [precedes, decide_eq_true_eq]
      omega
    have hsub := (List.sublist_mergeSort htrans htotal hsorted List.filter_sublist).filter same
    rw [List.filter_filter] at hsub
    simp only [Bool.and_self] at hsub
    exact (hsub.eq_of_length (hperm.filter same).length_eq.symm).symm

/-- Scores that increase from item to item turn the items round. -/
theorem Plan.rank_increasing {scored : List (Binary32 × ι)} (h : scored.Pairwise fun a b => a.1.rank < b.1.rank) :
    Plan.rank scored = scored.reverse := by
  have hsame : ∀ a ∈ scored, ∀ b ∈ scored, a.1.rank = b.1.rank → a = b := by
    let R (a b : Binary32 × ι) : Prop := a.1.rank = b.1.rank → a = b
    have hsymm : Std.Symm R := ⟨fun a b hab heq => (hab heq.symm).symm⟩
    exact List.Pairwise.forall_of_forall (R := R) (fun _ _ _ => rfl) (h.imp fun hlt heq => absurd heq hlt.ne)
  have hranked := rank_ranked scored
  have hsorted : (Plan.rank scored).Pairwise fun a b => b.1.rank ≤ a.1.rank := by
    refine hranked.sorted.imp fun hle => ?_
    rwa [SortOrder.admits, bne_iff_ne, totalCompare_ne_lt] at hle
  have hreversed : scored.reverse.Pairwise fun a b => b.1.rank ≤ a.1.rank :=
    List.pairwise_reverse.2 (h.imp fun hlt => hlt.le)
  refine List.Perm.eq_of_pairwise (fun a b ha hb hab hba => ?_) hsorted hreversed
    (hranked.perm.trans scored.reverse_perm.symm)
  exact hsame a (hranked.perm.mem_iff.1 ha) b (List.mem_reverse.1 hb) (le_antisymm hba hab)

/-! ### Boosted scores -/

def product (factor : ι → Binary32) (factors : List (ι → Binary32)) (item : ι) : Binary32 :=
  factors.foldl (fun amount factor => amount.mul (factor item)) (factor item)

theorem foldl_multiplied (factor : ι → Binary32) (factors : List (ι → Binary32)) :
    factors.foldl (fun earlier factor => some (multiplied earlier factor)) (some factor) =
      some (product factor factors) := by
  induction factors generalizing factor with
  | nil => rfl
  | cons next factors ih =>
    rw [List.foldl_cons, ih]
    rfl

/-- The scored items of a plan that boosts them, all in order of relevance. -/
theorem Plan.shape_boosted {p : Plan ι} {factor : ι → Binary32} (hb : p.boost = some factor) (ha : p.aggregate = none)
    (hl : p.takeLast = false) (found : List (Binary32 × ι)) :
    p.shape true found =
      .ok (.items (narrow p.skip p.max ((Plan.rank (found.map fun a => (a.1.mul (factor a.2), a.2))).map (·.2)))) := by
  rw [shape, hb, reduce, ha, hl, window_eq, hl]
  simp only [boostOf, hb, Option.isSome_some, Bool.and_self, if_true, Bool.false_eq_true, if_false]

namespace Executor

open Snapshot

variable {ω ρ σ κ : Type} {x : Executor ω ρ σ κ ι} {p : Plan ι} {hits : σ → List Hit} {item : σ → Hit → ι}

/-- A query made of skips, takes and boosts whose results come in order of relevance sorts all hits by boosted score,
highest first, and gives the window of that order. -/
theorem execute_boosted {m : QueryModel ι} {factor : ι → Binary32} {factors : List (ι → Binary32)}
    (hm : ∀ operator ∈ m.allOperators, operator.narrowing?.isSome = true ∨ operator.factor?.isSome = true)
    (hfactors : m.allOperators.filterMap (·.factor?) = factor :: factors) (hp : x.compiler.plan m = .ok p)
    (hsort : ∀ key, p.sort.head? = some key → key.isScore = true) (hx : x.Serves p hits item)
    (hlen : ∀ searcher, (hits searcher).length ≤ countLimit) {w w₁ : World ω ρ σ κ} (hs : w.context.Sound [])
    {handle : Nat} (hc : outcome (checkout x.engine) w = (.ok handle, w₁)) :
    ∃ t, w₁.context.currentTracker? = some t ∧
      let scored := (hits t.searcher).map fun hit =>
        let item := item t.searcher hit
        (hit.score.mul (product factor factors item), item)
      ∃ ranked, Ranked .descending scored ranked ∧
        (outcome (x.execute m) w).1 = .ok (.items (kept (narrowings m.allOperators) (ranked.map (·.2)))) := by
  obtain ⟨d, hd, hfinish⟩ := bind_eq_ok.1 hp
  obtain rfl := pure_eq_ok.1 hfinish
  obtain ⟨skip, max, hfold, hkept⟩ := Draft.shaped
    (fun operator ho => (hm operator ho).imp_left fun h => by rw [cuts, h, Bool.true_or]) (Draft.empty : Draft ι)
  have hflag : m.allOperators.any (·.isLast) = false := by
    refine List.any_eq_false.2 fun operator ho => ?_
    rcases hm operator ho with h | h <;> cases operator <;> first | exact Bool.false_ne_true | cases h
  rw [← Compiler.draft_bare hd, hflag, hfactors, List.foldl_cons,
    show multiplied (Draft.empty : Draft ι).boost factor = factor from rfl, foldl_multiplied] at hfold
  have hboost : d.finish.boost = some (product factor factors) := congrArg Draft.boost hfold
  have hunsupported : d.finish.unsupported = [] := congrArg Draft.unsupported hfold
  have hlast : d.finish.takeLast = false := congrArg Draft.takeLast hfold
  have haggregate : d.finish.aggregate = none := congrArg Draft.aggregate hfold
  have hskip : d.finish.skip = skip := congrArg Draft.skip hfold
  have hmax : d.finish.max = max := congrArg Draft.max hfold
  have hcount : d.finish.countsOnly = false := by rw [Plan.countsOnly, haggregate]; rfl
  have hrelevance : (d.finish.request countLimit).byRelevance = true := by
    rw [SearchRequest.byRelevance, Plan.request]
    cases hkeys : d.finish.sort with
    | nil => rfl
    | cons key keys => exact hsort key (by rw [hkeys]; rfl)
  obtain ⟨t, ht, hresult⟩ := execute_searched hp hx.passive hunsupported (outcome_search_loaded hx hcount) hs hc
  refine ⟨t, ht, ?_⟩
  intro scored
  refine ⟨_, Plan.rank_ranked scored, ?_⟩
  have hall : d.finish.collectLimit.getD countLimit = countLimit := by
    rw [Plan.collectLimit, hboost, Option.isSome_some, Bool.or_true]
    rfl
  have hscored : ((hits t.searcher).map fun hit => (hit.score, item t.searcher hit)).map
      (fun a => (a.1.mul (product factor factors a.2), a.2)) = scored := List.map_map
  have hfits : ((Plan.rank scored).map (·.2)).length ≤ countLimit := by
    rw [List.length_map, Plan.rank, List.length_mergeSort, List.length_map]
    exact hlen _
  rw [hresult, hrelevance, hall, List.take_of_length_le (hlen _), Plan.shape_boosted hboost haggregate hlast, hscored,
    hskip, hmax, hkept _ hfits]
  rfl

/-- What a query sorted by score alone compiles to. -/
theorem plan_byScore {c : Compiler} (hrounds : 1 < c.settings.maxRounds) (index row : String) (order : SortOrder)
    (operators : List (ResultOperator ι)) :
    c.plan (.index index [.ordering [⟨.call (.source row) .score [], order⟩]] operators) =
      .ok (operators.foldl Draft.apply { (Draft.empty : Draft ι) with sort := [.score order] }).finish := by
  have hlower : Lowering.lower c.settings .ordering (.call (.source row) .score []) = .ok .relevance :=
    Lowering.lower_settled (k := 1) (t := .relevance) hrounds rfl rfl
  have hkey : c.sortKey ⟨.call (.source row) .score [], order⟩ = .ok (.score order) := by
    rw [Compiler.sortKey, hlower]
    rfl
  rw [Compiler.plan, Compiler.draft, Compiler.addParts, List.foldlM_cons, Compiler.addClause, List.mapM_cons, hkey]
  rfl

/-- Two boosts, one of them by the number of the item: of the four best of five hits, all but the first. -/
theorem execute_boosted_numbers :
    let query : QueryModel Nat := .index "shelf" [.ordering [⟨.call (.source "b") .score [], .descending⟩]]
      [.take 4, .boost (.ofNat .single), .skip 1, .boost fun _ => .ofNat .single 2]
    (outcome (numbered.execute query) (.start .standard 0)).1 = .ok (.items [3, 2, 1]) := by
  intro query
  obtain ⟨t, _, ranked, hranked, hresult⟩ := execute_boosted (m := query)
    (by simp [query, QueryModel.allOperators, narrowing?, factor?]) rfl
    (plan_byScore (c := numbered.compiler) (by decide) _ _ _ _) (by rintro key ⟨⟩; rfl) (numbered_serves _)
    (fun _ => by decide) (w := .start .standard 0) (.ofSettings _) rfl
  rw [hresult, hranked.unique (Plan.rank_ranked _), Plan.rank_increasing (by decide +kernel)]
  rfl

end Executor

open Snapshot in
/-- Two documents with boosted scores one and two, asked for with the lowest score first; they come highest first. -/
theorem Rehearsal.ascending_scores_reversed :
    let documents : List Document := [⟨1, .one .single, none⟩, ⟨2, .ofNat .single 2, none⟩]
    let s := Session.start .standard ⟨FieldRegistry.empty.provider, .standard⟩ (.ofDocuments documents true)
    let query : QueryModel Nat :=
      .index "books" [.ordering [⟨.call (.source "b") .score [], .ascending⟩]] [.boost fun _ => .one .single]
    let scored := documents.map fun document => (document.score.mul (.one .single), document.id)
    (outcome (s.executor.execute query) s.world).1.toOption.bind (·.items?) = some [2, 1] ∧
      ∀ ranked, Ranked .ascending scored ranked → ranked.map (·.2) = [1, 2] := by
  intro documents s query scored
  have hplan := Executor.plan_byScore (c := s.executor.compiler) (by decide) "books" "b" .ascending
    [.boost fun _ : Nat => .one .single]
  have hout : (outcome (s.executor.execute query) s.world).1 = .ok (.items ((Plan.rank scored).map (·.2))) := by
    rw [Executor.execute, hplan]
    rfl
  have hreversed : Plan.rank scored = scored.reverse := by
    rw [Plan.rank_increasing]
    decide +kernel
  have hsorted : Ranked .ascending scored scored := ⟨.refl _, by decide +kernel, fun _ => rfl⟩
  refine ⟨?_, fun ranked h => ?_⟩
  · rw [hout, hreversed]
    rfl
  · rw [h.unique hsorted]
    rfl

end IndexQuery
