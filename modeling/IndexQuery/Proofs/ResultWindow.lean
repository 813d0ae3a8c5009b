import IndexQuery.Execution
import IndexQuery.Proofs.Drafting
import IndexQuery.Proofs.SnapshotRuns

set_option autoImplicit false

/-!
A query gives what its operators make of all hits, one after another.

A plan keeps one window, made from all skips and takes; it searches no further than the end of that window, and counts
without loading anything if it can. `ResultOperator.answer` knows nothing of this: it applies the operators to a list.
-/

namespace IndexQuery

variable {ι : Type}

/-! ### What operators make of a sequence -/

namespace ResultOperator

def keep : ResultOperator ι → List ι → List ι
  | .skip n, items => items.drop n
  | .take n, items => items.take n
  | .last, items => items.getLast?.toList
  | _, items => items

/-- The answer if this operator is the last one, from what is left of the sequence. -/
def conclude : ResultOperator ι → List ι → Except Error (QueryResult ι)
  | .last, items | .first, items =>
    match items with
    | [] => .error .noResults
    | item :: _ => .ok (.item item)
  | .single, items =>
    match items with
    | [] => .error .noResults
    | [item] => .ok (.item item)
    | _ => .error .moreThanOneResult
  | .count, items => .ok (.count items.length)
  | .any, items => .ok (.any (!items.isEmpty))
  | _, items => .ok (.items items)

def kept (operators : List (ResultOperator ι)) (items : List ι) : List ι :=
  operators.foldl (fun items operator => operator.keep items) items

def answer (operators : List (ResultOperator ι)) (items : List ι) : Except Error (QueryResult ι) :=
  match operators.getLast? with
  | none => .ok (.items (kept operators items))
  | some operator => operator.conclude (kept operators items)

end ResultOperator

inductive Narrowing where
  | skip (count : Nat)
  | take (count : Nat)

def Narrowing.operator : Narrowing → ResultOperator ι
  | skip count => .skip count
  | take count => .take count

def Aggregate.operator : Aggregate → ResultOperator ι
  | first => .first
  | single => .single
  | count => .count
  | any => .any

/-- Skips and takes in any order, then perhaps the last item, then perhaps one question. -/
structure Selection where
  narrowings : List Narrowing
  last : Bool
  aggregate : Option Aggregate

namespace Selection

def operators (s : Selection) : List (ResultOperator ι) :=
  s.narrowings.map (·.operator) ++ (if s.last then [.last] else []) ++ (s.aggregate.map (·.operator)).toList

end Selection

/-! ### The window of a draft -/

def narrow {α : Type} (skip : Nat) (max : Option Nat) (items : List α) : List α :=
  match max with
  | some max => (items.drop skip).take max
  | none => items.drop skip

section

variable {α : Type} {items : List α} (hlen : items.length ≤ countLimit)

theorem narrow_take (skip : Nat) (max : Option Nat) (count : Nat) (items : List α) :
    narrow skip (some (match max with | some max => min max count | none => count)) items =
      (narrow skip max items).take count := by
  cases max with
  | none => rfl
  | some max => rw [narrow, narrow, List.take_take, Nat.min_comm]

include hlen

/-- The sum of skips may have been cut off, but then nothing is left. -/
theorem drop_addCounts (a b : Nat) : items.drop (addCounts a b) = items.drop (a + b) := by
  unfold addCounts
  by_cases h : a + b ≤ countLimit
  · rw [Nat.min_eq_left h]
  · rw [List.drop_eq_nil_of_le (by omega), List.drop_eq_nil_of_le (by omega)]

theorem narrow_skip (skip : Nat) (max : Option Nat) (count : Nat) :
    narrow (addCounts skip count) (max.map (· - count)) items = (narrow skip max items).drop count := by
  cases max with
  | none => rw [Option.map_none, narrow, narrow, drop_addCounts hlen, List.drop_drop]
  | some max =>
    rw [Option.map_some, narrow, narrow, drop_addCounts hlen, List.drop_take, List.drop_drop]

theorem narrow_collected (skip max : Nat) :
    narrow skip (some max) (items.take (addCounts skip max)) = narrow skip (some max) items := by
  unfold addCounts
  by_cases h : skip + max ≤ countLimit
  · rw [Nat.min_eq_left h, narrow, narrow, List.drop_take, List.take_take]
    congr 1
    omega
  · rw [List.take_of_length_le (by omega)]

end

/-! ### From operators to the plan -/

namespace Draft

def bare (d : Draft ι) : Draft ι := { d with conditions := [], filters := [], sort := [] }

theorem bare_apply (d : Draft ι) (operator : ResultOperator ι) : (d.apply operator).bare = d.bare.apply operator :=
  (d.apply_withClauses [] [] [] operator).symm

end Draft

theorem Compiler.draft_bare {c : Compiler} {m : QueryModel ι} {d : Draft ι} (h : c.draft m = .ok d) :
    d.bare = m.allOperators.foldl Draft.apply .empty := by
  refine draft_induction (P := fun _ operators d => d.bare = operators.foldl Draft.apply .empty) ?_ ?_ rfl h
  · intro body operators d clause d' hd h
    rw [← hd]
    cases clause with
    | condition | filter | ordering =>
      obtain ⟨_, _, h⟩ := bind_eq_ok.1 h
      obtain rfl := pure_eq_ok.1 h
      rfl
  · intro body operators d operator hd
    rw [d.bare_apply, hd, List.foldl_append]
    rfl

/-- A skip or a take changes the window of a draft as it changes the sequence. -/
theorem narrow_apply (narrowing : Narrowing) (d : Draft ι) {items : List ι} (hlen : items.length ≤ countLimit) :
    narrow (d.apply narrowing.operator).skip (d.apply narrowing.operator).max items =
      narrowing.operator.keep (narrow d.skip d.max items) := by
  cases narrowing with
  | skip count => exact narrow_skip hlen d.skip d.max count
  | take count => exact narrow_take d.skip d.max count items

theorem kept_narrowings (narrowings : List Narrowing) (d : Draft ι) :
    ∃ skip max, (narrowings.map (·.operator)).foldl Draft.apply d = { d with skip := skip, max := max } ∧
      ∀ items : List ι, items.length ≤ countLimit → narrow skip max items =
        ResultOperator.kept (narrowings.map (·.operator)) (narrow d.skip d.max items) := by
  -- The first operator changes the window of the draft as it changes the sequence; the rest start from there.
  induction narrowings generalizing d with
  | nil => exact ⟨d.skip, d.max, rfl, fun _ _ => rfl⟩
  | cons narrowing narrowings ih =>
    obtain ⟨skip, max, hfold, hkept⟩ := ih (d.apply narrowing.operator)
    refine ⟨skip, max, ?_, ?_⟩
    · rw [List.map_cons, List.foldl_cons, hfold]
      cases narrowing <;> rfl
    · intro items hlen
      rw [hkept items hlen, narrow_apply narrowing d hlen]
      rfl

namespace Selection

def bound (s : Selection) (max : Option Nat) : Option Nat :=
  if s.last then max
  else match s.aggregate.bind (·.needed?) with
    | some count => some (match max with | some max => min max count | none => count)
    | none => max

theorem draft_eq (s : Selection) : ∃ skip max,
    s.operators.foldl Draft.apply .empty = { (Draft.empty : Draft ι) with
      skip := skip, max := s.bound max, takeLast := s.last, aggregate := s.aggregate } ∧
    ∀ items : List ι, items.length ≤ countLimit → narrow skip max items =
      ResultOperator.kept (s.narrowings.map (·.operator)) items := by
  obtain ⟨narrowings, last, aggregate⟩ := s
  obtain ⟨skip, max, hfold, hkept⟩ := kept_narrowings narrowings (Draft.empty : Draft ι)
  refine ⟨skip, max, ?_, hkept⟩
  rw [operators, List.foldl_append, List.foldl_append, hfold]
  cases last <;> rcases aggregate with _ | a
  · rfl
  · cases a <;> rfl
  · rfl
  · cases a <;> rfl

theorem draft_plain (s : Selection) {d : Draft ι} (hd : d.bare = s.operators.foldl Draft.apply .empty) :
    d.finish.boost = none ∧ d.finish.unsupported = [] := by
  obtain ⟨skip, max, hdraft, _⟩ := s.draft_eq (ι := ι)
  rw [← hd] at hdraft
  exact ⟨congrArg Draft.boost hdraft, congrArg Draft.unsupported hdraft⟩

end Selection

theorem ResultOperator.conclude_take {a : Aggregate} {n : Nat} (h : a.needed? = some n) (items : List ι) :
    a.operator.conclude (items.take n) = a.operator.conclude items := by
  cases a with
  | first | any =>
    cases h
    cases items <;> rfl
  | single =>
    cases h
    match items with
    | [] | [_] | _ :: _ :: _ => rfl
  | count => cases h

namespace Plan

theorem window_eq (p : Plan ι) (items : List ι) : p.window items =
    if p.takeLast then (narrow p.skip p.max items).getLast?.toList else narrow p.skip p.max items := by
  unfold window narrow
  cases p.max <;> rfl

theorem reduce_eq {p : Plan ι} {a : Aggregate} (h : p.aggregate = some a) (items : List ι) :
    p.reduce items = a.operator.conclude items := by
  rw [reduce, h]
  match a, items with
  | .first, [] | .first, _ :: _ | .single, [] | .single, [_] | .count, _ | .any, _ => rfl
  | .single, _ :: _ :: _ => simp [Aggregate.operator, ResultOperator.conclude]

end Plan

namespace Selection

theorem answer_narrowings (narrowings : List Narrowing) (items : List ι) :
    ResultOperator.answer (narrowings.map (·.operator)) items =
      .ok (.items (ResultOperator.kept (narrowings.map (·.operator)) items)) := by
  rw [ResultOperator.answer, List.getLast?_map]
  cases narrowings.getLast? with
  | none => rfl
  | some narrowing => cases narrowing <;> rfl

theorem answer_concat (operators : List (ResultOperator ι)) (operator : ResultOperator ι) (items : List ι) :
    ResultOperator.answer (operators ++ [operator]) items =
      operator.conclude (operator.keep (ResultOperator.kept operators items)) := by
  rw [ResultOperator.answer, List.getLast?_concat, ResultOperator.kept, List.foldl_append]
  rfl

def selected (s : Selection) (items : List ι) : List ι :=
  let narrowed := ResultOperator.kept (s.narrowings.map (·.operator)) items
  if s.last then narrowed.getLast?.toList else narrowed

theorem answer_asked {s : Selection} {a : Aggregate} (ha : s.aggregate = some a) (items : List ι) :
    ResultOperator.answer s.operators items = a.operator.conclude (s.selected items) := by
  rw [operators, ha]
  change ResultOperator.answer (_ ++ [a.operator]) items = _
  have hkeep : ∀ items : List ι, a.operator.keep items = items := by
    intro items
    cases a <;> rfl
  rw [answer_concat, hkeep, ResultOperator.kept, List.foldl_append, selected]
  cases s.last <;> rfl

theorem answer_unasked {s : Selection} (ha : s.aggregate = none) (items : List ι) :
    ResultOperator.answer s.operators items =
      if s.last then ResultOperator.last.conclude (s.selected items) else .ok (.items (s.selected items)) := by
  rw [operators, ha, selected]
  change ResultOperator.answer (_ ++ []) items = _
  rw [List.append_nil]
  cases s.last with
  | true => exact answer_concat _ _ _
  | false =>
    change ResultOperator.answer (_ ++ []) items = _
    rw [List.append_nil]
    exact answer_narrowings _ _

theorem reduce_window (s : Selection) {d : Draft ι} (hd : d.bare = s.operators.foldl Draft.apply .empty)
    {items : List ι} (hlen : items.length ≤ countLimit) :
    d.finish.reduce (d.finish.window items) = ResultOperator.answer s.operators items := by
  obtain ⟨skip, max, hdraft, hkept⟩ := s.draft_eq (ι := ι)
  rw [← hd] at hdraft
  have hskip : d.finish.skip = skip := congrArg Draft.skip hdraft
  have hmax : d.finish.max = s.bound max := congrArg Draft.max hdraft
  have hlast : d.finish.takeLast = s.last := congrArg Draft.takeLast hdraft
  have haggregate : d.finish.aggregate = s.aggregate := congrArg Draft.aggregate hdraft
  rw [Plan.window_eq, hskip, hmax, hlast]
  cases ha : s.aggregate with
  | some a =>
    rw [answer_asked ha, Plan.reduce_eq (haggregate.trans ha), selected, ← hkept items hlen, bound, ha]
    cases s.last with
    | true => rfl
    | false =>
      -- The bound that the question sets cuts off only what does not change its answer.
      cases hn : a.needed? with
      | none => simp [hn]
      | some n => simp [hn, narrow_take, ResultOperator.conclude_take hn]
  | none =>
    rw [answer_unasked ha, Plan.reduce, haggregate, ha, hlast, selected, ← hkept items hlen, bound, ha]
    cases s.last with
    | true =>
      simp only [if_true]
      cases (narrow skip max items).getLast?.toList <;> rfl
    | false => rfl

end Selection

/-! ### Searching no further than needed -/

namespace Plan

variable {p : Plan ι}

/-- Hits beyond the collection limit do not matter. -/
theorem window_collected (hb : p.boost = none) {items : List ι} (hlen : items.length ≤ countLimit) :
    p.window (items.take (p.collectLimit.getD countLimit)) = p.window items := by
  rw [window_eq, window_eq, collectLimit, hb]
  cases p.takeLast with
  | true => simp [List.take_of_length_le hlen]
  | false =>
    cases p.max with
    | none => simp [List.take_of_length_le hlen]
    | some max => simp [narrow_collected hlen]

theorem windowCount_eq (hl : p.takeLast = false) (items : List ι) :
    p.windowCount items.length = (p.window items).length := by
  rw [window_eq, hl, windowCount]
  cases p.max with
  | none => simp [narrow]
  | some max => simp [narrow, Nat.min_comm]

theorem shape_eq (hb : p.boost = none) (byRelevance : Bool) (found : List (Number.Binary32 × ι)) :
    p.shape byRelevance found = p.reduce (p.window (found.map (·.2))) := by
  simp [shape, hb, Function.comp_def]

theorem collectLimit_le (p : Plan ι) : p.collectLimit.getD countLimit ≤ countLimit := by
  unfold collectLimit
  split
  · exact Nat.le_refl _
  · cases p.max with
    | none => exact Nat.le_refl _
    | some max => exact Nat.min_le_right _ _

end Plan

/-! ### Running a query -/

namespace Executor

open Snapshot

variable {ω ρ σ κ : Type} {x : Executor ω ρ σ κ ι} {p : Plan ι} {hits : σ → List Hit} {item : σ → Hit → ι}

/-- The index has these hits for a plan, of which a search gives the first ones, up to the limit it is asked for, and
the number of all; they can be loaded. -/
structure Serves (x : Executor ω ρ σ κ ι) (p : Plan ι) (hits : σ → List Hit) (item : σ → Hit → ι) : Prop where
  passive : x.engine.Passive
  search : ∀ searcher limit w, limit ≤ countLimit →
    (outcome (x.engine.search searcher (p.request limit)) w).1 =
      .ok ⟨(hits searcher).length, (hits searcher).take limit⟩
  load : ∀ searcher hit w, (outcome (x.mapper searcher hit) w).1 = .ok (item searcher hit)
  unchanged : ∀ searcher hit w, (outcome (x.mapper searcher hit) w).2.context = w.context

theorem outcome_mapHits (hx : x.Serves p hits item) (searcher : σ) (found : List Hit) (w : World ω ρ σ κ) :
    ∃ w', outcome (x.mapHits searcher found) w = (.ok (found.map fun hit => (hit.score, item searcher hit)), w') ∧
      w'.context = w.context := by
  induction found generalizing w with
  | nil => exact ⟨w, rfl, rfl⟩
  | cons hit rest ih =>
    obtain ⟨w', hout, hc⟩ := ih (outcome (x.mapper searcher hit) w).2
    have hload : outcome (x.mapper searcher hit) w = (.ok (item searcher hit), (outcome (x.mapper searcher hit) w).2) :=
      Prod.ext (hx.load searcher hit w) rfl
    refine ⟨w', ?_, hc.trans (hx.unchanged searcher hit w)⟩
    rw [mapHits, outcome_bind_ok hload, outcome_bind_ok hout, outcome_pure, List.map_cons]

theorem outcome_found (hx : x.Serves p hits item) (searcher : σ) (w : World ω ρ σ κ) :
    ∃ w', outcome (x.engine.search searcher (p.request (p.collectLimit.getD countLimit))) w =
        (.ok ⟨(hits searcher).length, (hits searcher).take (p.collectLimit.getD countLimit)⟩, w') ∧
      w'.context = w.context :=
  ⟨_, Prod.ext (hx.search searcher _ w p.collectLimit_le) rfl, hx.passive.search _ _ _⟩

/-- If the number of hits does not answer the query, those up to the collection limit are loaded. -/
theorem outcome_search_loaded (hx : x.Serves p hits item) (hcount : p.countsOnly = false) (searcher : σ)
    (w : World ω ρ σ κ) :
    ∃ w', outcome (x.search p searcher) w =
        (p.shape (p.request countLimit).byRelevance
          (((hits searcher).take (p.collectLimit.getD countLimit)).map fun hit => (hit.score, item searcher hit)), w') ∧
      w'.context = w.context := by
  obtain ⟨w₁, hfound, hc₁⟩ := outcome_found hx searcher w
  obtain ⟨w', hmap, hc⟩ := outcome_mapHits hx searcher ((hits searcher).take (p.collectLimit.getD countLimit)) w₁
  refine ⟨w', ?_, hc.trans hc₁⟩
  rw [search, outcome_bind_ok hfound]
  simp only [hcount, Bool.false_eq_true, if_false]
  rw [outcome_bind_ok hmap, outcome_liftExcept]
  rfl

theorem outcome_search (hx : x.Serves p hits item) (hb : p.boost = none) (searcher : σ)
    (hlen : (hits searcher).length ≤ countLimit) (w : World ω ρ σ κ) :
    ∃ w', outcome (x.search p searcher) w =
        (p.reduce (p.window ((hits searcher).map (item searcher))), w') ∧ w'.context = w.context := by
  cases hcount : p.countsOnly with
  | true =>
    obtain ⟨w₁, hfound, hc₁⟩ := outcome_found hx searcher w
    refine ⟨w₁, ?_, hc₁⟩
    simp only [Plan.countsOnly, Bool.and_eq_true, beq_iff_eq, Bool.not_eq_true'] at hcount
    rw [search, outcome_bind_ok hfound]
    simp only [Plan.countsOnly, hcount, Plan.reduce, ← Plan.windowCount_eq hcount.2, List.length_map]
    rfl
  | false =>
    obtain ⟨w', hsearch, hc⟩ := outcome_search_loaded hx hcount searcher w
    refine ⟨w', ?_, hc⟩
    rw [hsearch, Plan.shape_eq hb, List.map_map]
    rw [show (Prod.snd ∘ fun hit : Hit => (hit.score, item searcher hit)) = item searcher from rfl, List.map_take,
      Plan.window_collected hb (by simpa using hlen)]

/-- A query gives what its search of the current snapshot gives. -/
theorem execute_searched {m : QueryModel ι} (hp : x.compiler.plan m = .ok p) (hengine : x.engine.Passive)
    (hunsupported : p.unsupported = []) {result : σ → Except Error (QueryResult ι)}
    (hsearch : ∀ searcher w, ∃ w', outcome (x.search p searcher) w = (result searcher, w') ∧ w'.context = w.context)
    {w w₁ : World ω ρ σ κ} (hs : w.context.Sound []) {handle : Nat}
    (hc : outcome (checkout x.engine) w = (.ok handle, w₁)) :
    ∃ t, w₁.context.currentTracker? = some t ∧ (outcome (x.execute m) w).1 = result t.searcher := by
  obtain ⟨hs₁, t, ht, hcur, hh⟩ := checkout_claims hengine.meanwhile hs hc
  have hfind := hs₁.books.tracker?_eq ht
  refine ⟨t, by rw [Context.currentTracker?, hcur, Option.bind_some, hfind], ?_⟩
  have hplan : outcome (liftExcept (x.compiler.plan m) : Action ω ρ σ κ (Plan ι)) w = (.ok p, w) := by
    rw [hp, outcome_liftExcept]
  have hsearcher : outcome (searcherOf handle) w₁ = (.ok t.searcher, w₁) := by
    simp only [searcherOf, outcome_bind, outcome_getContext, hh, Option.bind_some, hfind, outcome_pure]
  obtain ⟨w₂, hfound, hc₂⟩ := hsearch t.searcher w₁
  have hrun : outcome (attempt (do x.search p (← searcherOf handle))) w₁ = (.ok (result t.searcher), w₂) := by
    rw [outcome_attempt, outcome_bind_ok hsearcher, hfound]
  have hrelease : (outcome (release x.engine handle) w₂).1 = .ok () := by
    rw [← hc₂] at hs₁ ht hcur hh
    exact release_current hs₁ ht hcur hh
  rw [execute, outcome_bind_ok hplan, hunsupported]
  change (outcome (checkout x.engine >>= _) w).1 = _
  rw [outcome_bind_ok hc, outcome_bind_ok hrun, outcome_bind_ok (Prod.ext hrelease rfl), outcome_liftExcept]

/-- A query without boosts gives what its plan makes of all hits of the current snapshot. -/
theorem execute_reduce {m : QueryModel ι} (hp : x.compiler.plan m = .ok p) (hx : x.Serves p hits item)
    (hlen : ∀ searcher, (hits searcher).length ≤ countLimit) (hboost : p.boost = none)
    (hunsupported : p.unsupported = []) {w w₁ : World ω ρ σ κ} (hs : w.context.Sound []) {handle : Nat}
    (hc : outcome (checkout x.engine) w = (.ok handle, w₁)) :
    ∃ t, w₁.context.currentTracker? = some t ∧
      (outcome (x.execute m) w).1 = p.reduce (p.window ((hits t.searcher).map (item t.searcher))) :=
  execute_searched hp hx.passive hunsupported
    (fun searcher => outcome_search hx hboost searcher (hlen searcher)) hs hc

/-- A query made of skips and takes, perhaps the last item and perhaps one question gives what its operators make of all
hits, one after another. -/
theorem execute_answer {m : QueryModel ι} {s : Selection} (hm : m.allOperators = s.operators)
    (hp : x.compiler.plan m = .ok p) (hx : x.Serves p hits item) (hlen : ∀ searcher, (hits searcher).length < Nat.pow 2 63)
    {w w₁ : World ω ρ σ κ} (hs : w.context.Sound []) {handle : Nat}
    (hc : outcome (checkout x.engine) w = (.ok handle, w₁)) :
    ∃ t, w₁.context.currentTracker? = some t ∧
      (outcome (x.execute m) w).1 =
        ResultOperator.answer m.allOperators ((hits t.searcher).map (item t.searcher)) := by
  obtain ⟨d, hd, hfinish⟩ := bind_eq_ok.1 hp
  obtain rfl := pure_eq_ok.1 hfinish
  have hbare := Compiler.draft_bare hd
  rw [hm] at hbare ⊢
  have hfits : ∀ searcher, (hits searcher).length ≤ countLimit := by
    intro searcher
    have hlt := hlen searcher
    have hle : Nat.pow 2 63 ≤ countLimit := by decide
    omega
  obtain ⟨hboost, hunsupported⟩ := s.draft_plain hbare
  obtain ⟨t, ht, hresult⟩ := execute_reduce hp hx hfits hboost hunsupported hs hc
  refine ⟨t, ht, ?_⟩
  rw [hresult]
  exact s.reduce_window hbare (by simpa using hfits t.searcher)

/-- Of five hits, the last one after one skip, a take that is as long as what is left, and two more skips. -/
theorem execute_answer_last :
    let x : Executor Nat Nat Nat Unit Nat :=
      ⟨numbering fun _ => pure (), ⟨FieldRegistry.empty.provider, .standard⟩, fun _ hit => pure hit.document⟩
    (outcome (x.execute (.nested (.index "shelf" [] [.skip 1, .take 4]) [] [.skip 2, .last])) (.start .standard 0)).1 =
      .ok (.item 4) := by
  intro x
  have hx : ∀ p : Plan Nat, x.Serves p (fun _ => fiveHits) fun _ hit => hit.document := fun p =>
    ⟨numbering_keeps (R := fun c c' => c' = c) (fun _ => rfl) fun _ _ => rfl, fun _ _ _ _ => rfl, fun _ _ _ => rfl,
      fun _ _ _ => rfl⟩
  obtain ⟨t, _, hresult⟩ := execute_answer (x := x)
    (m := .nested (.index "shelf" [] [.skip 1, .take 4]) [] [.skip 2, .last])
    (s := ⟨[.skip 1, .take 4, .skip 2], true, none⟩) rfl rfl (hx _) (fun _ => by decide)
    (w := .start .standard 0) (.ofSettings _) rfl
  rw [hresult]
  rfl

end Executor

end IndexQuery
