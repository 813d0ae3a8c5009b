import IndexQuery.Proofs.Conjoining
import IndexQuery.Proofs.ResultWindow
import IndexQuery.Rehearsal.Session

set_option autoImplicit false

/-!
Models over other models.

The clauses and operators of a model and of its sources act on one draft. As operators neither read nor change what
clauses add, all clauses can be added first: a nested model has the plan of the index model with the clauses and
operators of all levels (`Compiler.plan_flattened`).

A restriction does not commute with a window. On the output of a query with skips and takes it acts below them, so that
the window is filled up with matches that the query itself would not have given (`Executor.execute_restricted`).
-/

namespace IndexQuery

variable {ι : Type}

/-! ### Clauses before operators -/

namespace Compiler

variable (c : Compiler)

theorem addClause_apply (d : Draft ι) (operator : ResultOperator ι) (clause : BodyClause) :
    c.addClause (d.apply operator) clause = (·.apply operator) <$> c.addClause d clause := by
  rw [d.apply_eq]
  cases clause with
  | condition | filter | ordering =>
    simp only [addClause, map_bind, map_pure]
    exact bind_congr fun _ => congrArg pure (d.apply_withClauses _ _ _ operator).symm

theorem addClause_foldl (d : Draft ι) (operators : List (ResultOperator ι)) (clause : BodyClause) :
    c.addClause (operators.foldl Draft.apply d) clause = (operators.foldl Draft.apply ·) <$> c.addClause d clause := by
  induction operators generalizing d with
  | nil => exact (id_map (c.addClause d clause)).symm
  | cons operator operators ih =>
    rw [List.foldl_cons, ih, addClause_apply, Functor.map_map]
    rfl

/-- Clauses can be added before operators are applied that came first. -/
theorem foldlM_addClause_foldl (d : Draft ι) (operators : List (ResultOperator ι)) (body : List BodyClause) :
    body.foldlM c.addClause (operators.foldl Draft.apply d) =
      (operators.foldl Draft.apply ·) <$> body.foldlM c.addClause d := by
  induction body generalizing d with
  | nil => rfl
  | cons clause body ih =>
    rw [List.foldlM_cons, List.foldlM_cons, addClause_foldl, map_bind, bind_map_left]
    exact bind_congr ih

theorem addParts_addParts (d : Draft ι) (body later : List BodyClause) (operators added : List (ResultOperator ι)) :
    (do c.addParts (← c.addParts d body operators) later added) =
      c.addParts d (body ++ later) (operators ++ added) := by
  simp only [addParts, bind_assoc, pure_bind, foldlM_addClause_foldl, bind_map_left, List.foldlM_append,
    List.foldl_append]

theorem draft_flattened (m : QueryModel ι) : c.draft m = c.addParts .empty m.allBody m.allOperators := by
  induction m with
  | index name body operators => rfl
  | nested inner body operators ih =>
    rw [draft, ih]
    exact c.addParts_addParts .empty inner.allBody body inner.allOperators operators

/-- A model over models, however deep, has the outcome of the index model with the clauses and the operators of all
levels. -/
theorem plan_flattened (m : QueryModel ι) (name : String) :
    c.plan m = c.plan (.index name m.allBody m.allOperators) := by
  rw [plan, plan, draft_flattened]
  rfl

end Compiler

/-! ### What is cut off -/

namespace ResultOperator

variable {α : Type} (narrowings : List Narrowing)

theorem kept_map {β : Type} (f : α → β) (items : List α) :
    kept (narrowings.map (·.operator)) (items.map f) = (kept (narrowings.map (·.operator)) items).map f := by
  induction narrowings generalizing items with
  | nil => rfl
  | cons narrowing narrowings ih =>
    have hkeep : narrowing.operator.keep (items.map f) = (narrowing.operator.keep items).map f := by
      cases narrowing with
      | skip count => exact List.map_drop.symm
      | take count => exact List.map_take.symm
    change kept _ (narrowing.operator.keep (items.map f)) = _
    rw [hkeep, ih]
    rfl

theorem keep_sublist (narrowing : Narrowing) (items : List α) : (narrowing.operator.keep items).Sublist items := by
  cases narrowing with
  | skip count => exact List.drop_sublist count items
  | take count => exact List.take_sublist count items

theorem kept_sublist (items : List α) : (kept (narrowings.map (·.operator)) items).Sublist items := by
  induction narrowings generalizing items with
  | nil => exact List.Sublist.refl items
  | cons narrowing narrowings ih => exact (ih _).trans (keep_sublist narrowing items)

theorem keep_shorter {narrowing : Narrowing} {items shorter : List α} (h : narrowing.operator.keep items = items)
    (hlen : shorter.length ≤ items.length) : narrowing.operator.keep shorter = shorter := by
  have hkept := congrArg List.length h
  cases narrowing with
  | skip count =>
    change (items.drop count).length = items.length at hkept
    rw [List.length_drop] at hkept
    by_cases hcount : count = 0
    · rw [hcount]
      rfl
    · rw [List.eq_nil_of_length_eq_zero (show shorter.length = 0 by omega)]
      exact List.drop_nil
  | take count =>
    change (items.take count).length = items.length at hkept
    rw [List.length_take] at hkept
    exact List.take_of_length_le (by omega)

/-- If nothing of a sequence is cut off, then nothing of a shorter one. -/
theorem kept_shorter {items shorter : List α} (h : kept (narrowings.map (·.operator)) items = items)
    (hlen : shorter.length ≤ items.length) : kept (narrowings.map (·.operator)) shorter = shorter := by
  induction narrowings generalizing items shorter with
  | nil => rfl
  | cons narrowing narrowings ih =>
    change kept _ (narrowing.operator.keep items) = items at h
    -- All that the first step drops is missing at the end.
    have hfirst : narrowing.operator.keep items = items := by
      refine (keep_sublist narrowing items).eq_of_length_le ?_
      rw [← congrArg List.length h]
      exact (kept_sublist narrowings _).length_le
    rw [hfirst] at h
    change kept _ (narrowing.operator.keep shorter) = shorter
    rw [keep_shorter hfirst hlen]
    exact ih h hlen

theorem kept_filter {items : List α} {holds : α → Bool}
    (h : kept (narrowings.map (·.operator)) items = items ∨ ∀ item ∈ items, holds item = true) :
    kept (narrowings.map (·.operator)) (items.filter holds) =
      (kept (narrowings.map (·.operator)) items).filter holds := by
  rcases h with hall | hholds
  · rw [hall]
    exact kept_shorter narrowings hall (List.length_filter_le holds items)
  · rw [List.filter_eq_self.2 hholds, List.filter_eq_self.2]
    exact fun item hmem => hholds item ((kept_sublist narrowings items).subset hmem)

end ResultOperator

/-! ### A restriction over a window -/

/-- All documents that a request matches, in the order of its sort keys. -/
def SearchRequest.matched (request : SearchRequest) (ranked : List SortKey → List Hit) (leaf : Hit → Query → Bool) :
    List Hit :=
  (ranked request.sort).filter fun hit =>
    request.query.matchesUnder (leaf hit) && request.filter.all (·.matchesUnder (leaf hit))

def Plan.found (p : Plan ι) (ranked : List SortKey → List Hit) (leaf : Hit → Query → Bool) : List Hit :=
  (p.request countLimit).matched ranked leaf

namespace Compiler

variable {c : Compiler}

theorem Conjoins.query_matchesUnder (hb : c.fields.BuildsLeaves) {restrictions : List Expr} {d : Draft ι}
    (h : c.Conjoins restrictions d.conditions) (leaf : Query → Bool) :
    d.finish.query.matchesUnder leaf = Draft.verdict leaf d.conditions :=
  Draft.joined?_matchesUnder (h.joinable hb).2

/-- A restriction on the output of a model leaves those of its matches that satisfy it. -/
theorem plan_restricted (hb : c.fields.BuildsLeaves) {inner : QueryModel ι} {p : Plan ι} (hp : c.plan inner = .ok p)
    {e : Expr} {f : Fragment} (hf : c.condition e = .ok f) :
    ∃ q, c.plan (.nested inner [.condition e] []) = .ok q ∧
      ∀ ranked leaf, q.found ranked leaf = (p.found ranked leaf).filter fun hit => f.verdict (leaf hit) := by
  obtain ⟨d, hd, hfinish⟩ := bind_eq_ok.1 hp
  obtain rfl := pure_eq_ok.1 hfinish
  let d' : Draft ι := { d with conditions := d.conditions ++ Draft.clausesOf f }
  have hconjoins : c.Conjoins inner.conditions d.conditions := (draft_conjoins hd).1
  have hconjoins' : c.Conjoins (inner.conditions ++ [e]) d'.conditions := hconjoins.snoc hf
  have hquery : ∀ leaf, d'.finish.query.matchesUnder leaf =
      (d.finish.query.matchesUnder leaf && f.verdict leaf) := by
    intro leaf
    rw [hconjoins'.query_matchesUnder hb, hconjoins.query_matchesUnder hb, Draft.verdict, List.all_append,
      ← Draft.clausesOf_verdict f (condition_isPositive hb hf)]
    rfl
  refine ⟨d'.finish, ?_, ?_⟩
  · rw [plan, draft, hd]
    simp only [ok_bind, addParts, List.foldlM_cons, addClause, hf]
    rfl
  · intro ranked leaf
    rw [Plan.found, SearchRequest.matched, Plan.found, SearchRequest.matched, List.filter_filter]
    refine List.filter_congr fun hit _ => ?_
    change (d'.finish.query.matchesUnder (leaf hit) && _) = _
    rw [hquery, Bool.and_right_comm, Bool.and_comm]
    rfl

end Compiler

namespace Executor

open Snapshot

variable {ω ρ σ κ : Type} {x : Executor ω ρ σ κ ι} {p : Plan ι} {item : σ → Hit → ι}

/-- The index gives what a plan matches of a snapshot's documents, which it has in the order of any sort keys. -/
def Matches (x : Executor ω ρ σ κ ι) (ranked : σ → List SortKey → List Hit) (leaf : σ → Hit → Query → Bool)
    (item : σ → Hit → ι) : Prop :=
  ∀ p : Plan ι, x.Serves p (fun searcher => p.found (ranked searcher) (leaf searcher)) item

theorem execute_narrowed {hits : σ → List Hit} {m : QueryModel ι} {narrowings : List Narrowing}
    (hm : m.allOperators = narrowings.map (·.operator)) (hp : x.compiler.plan m = .ok p) (hx : x.Serves p hits item)
    (hlen : ∀ searcher, (hits searcher).length ≤ countLimit) {w w₁ : World ω ρ σ κ} (hs : w.context.Sound [])
    {handle : Nat} (hc : outcome (checkout x.engine) w = (.ok handle, w₁)) :
    ∃ t, w₁.context.currentTracker? = some t ∧ (outcome (x.execute m) w).1 =
      .ok (.items ((ResultOperator.kept (narrowings.map (·.operator)) (hits t.searcher)).map (item t.searcher))) := by
  obtain ⟨d, hd, hfinish⟩ := bind_eq_ok.1 hp
  obtain rfl := pure_eq_ok.1 hfinish
  let s : Selection := ⟨narrowings, false, none⟩
  have hoperators : (s.operators : List (ResultOperator ι)) = narrowings.map (·.operator) := by
    simp [s, Selection.operators]
  have hbare : d.bare = s.operators.foldl Draft.apply .empty := by
    rw [Compiler.draft_bare hd, hm, hoperators]
  obtain ⟨hboost, hunsupported⟩ := s.draft_plain hbare
  obtain ⟨t, ht, hresult⟩ := execute_reduce hp hx hlen hboost hunsupported hs hc
  refine ⟨t, ht, ?_⟩
  rw [hresult, s.reduce_window hbare (by simpa using hlen t.searcher), hoperators, Selection.answer_narrowings,
    ResultOperator.kept_map]

/-- A restriction on the output of a query with skips and takes acts before these, on all that the query matches. It
restricts the output itself if nothing has been cut off, or if it holds of all matches. -/
theorem execute_restricted {ranked : σ → List SortKey → List Hit} {leaf : σ → Hit → Query → Bool}
    {inner : QueryModel ι} {narrowings : List Narrowing} (hm : inner.allOperators = narrowings.map (·.operator))
    (hb : x.compiler.fields.BuildsLeaves) (hp : x.compiler.plan inner = .ok p) {e : Expr} {f : Fragment}
    (hf : x.compiler.condition e = .ok f) (hx : x.Matches ranked leaf item)
    (hlen : ∀ searcher keys, (ranked searcher keys).length ≤ countLimit) {w w₁ : World ω ρ σ κ}
    (hs : w.context.Sound []) {handle : Nat} (hc : outcome (checkout x.engine) w = (.ok handle, w₁)) :
    ∃ t, w₁.context.currentTracker? = some t ∧
      let matched := p.found (ranked t.searcher) (leaf t.searcher)
      let kept : List Hit → List Hit := ResultOperator.kept (narrowings.map (·.operator))
      let holds : Hit → Bool := fun hit => f.verdict (leaf t.searcher hit)
      let output := (outcome (x.execute inner) w).1
      let restricted := (outcome (x.execute (.nested inner [.condition e] [])) w).1
      output = .ok (.items ((kept matched).map (item t.searcher))) ∧
      restricted = .ok (.items ((kept (matched.filter holds)).map (item t.searcher))) ∧
      (kept matched = matched ∨ (∀ hit ∈ matched, holds hit = true) →
        restricted = .ok (.items (((kept matched).filter holds).map (item t.searcher)))) := by
  have hfits : ∀ (q : Plan ι) searcher, (q.found (ranked searcher) (leaf searcher)).length ≤ countLimit :=
    fun q searcher => (List.length_filter_le _ _).trans (hlen searcher q.sort)
  obtain ⟨q, hq, hfound⟩ := Compiler.plan_restricted hb hp hf
  have hm' : (QueryModel.nested inner [.condition e] []).allOperators = narrowings.map (·.operator) := by
    rw [QueryModel.allOperators, hm, List.append_nil]
  obtain ⟨t, ht, houtput⟩ := execute_narrowed hm hp (hx p) (hfits p) hs hc
  obtain ⟨t', ht', hrestricted⟩ := execute_narrowed hm' hq (hx q) (hfits q) hs hc
  obtain rfl : t = t' := Option.some.inj (ht.symm.trans ht')
  rw [hfound] at hrestricted
  refine ⟨t, ht, houtput, hrestricted, fun h => ?_⟩
  rw [hrestricted, ResultOperator.kept_filter narrowings h]

end Executor

section Shelf

open Snapshot

def bookTitle : Member := ⟨.root "book" "title" .text, by decide⟩

/-- The first item by title of those with an "a" in it. -/
def firstTitle : QueryModel Nat :=
  let holdsA := Formula.atom (.pattern .contains bookTitle (.constant (.text "a") rfl))
  .index "shelf" [.condition holdsA.expr, .ordering [⟨bookTitle.path.expr, .ascending⟩]] [.take 1]

def titleHoldsB : Expr := (Formula.atom (.pattern .contains bookTitle (.constant (.text "b") rfl))).expr

/-- The title of the first hit is "a", that of the others "ab". -/
def shelfLeaf (hit : Hit) : Query → Bool :=
  Document.matchesLeaf (fun _ _ _ => false) fun _ => if hit.document = 0 then "a" else "ab"

def shelfExecutor : Executor Nat Nat Nat Unit Nat where
  engine := { numbering fun _ => pure () with
    search := fun _ request =>
      let matched := request.matched (fun _ => fiveHits) shelfLeaf
      return ⟨matched.length, matched.take request.limit⟩ }
  compiler := ⟨FieldRegistry.empty.provider, .standard⟩
  mapper _ hit := pure hit.document

theorem shelfExecutor_matches :
    shelfExecutor.Matches (fun _ _ => fiveHits) (fun _ => shelfLeaf) fun _ hit => hit.document := by
  intro p
  have hkeeps : (numbering fun _ : Unit => pure ()).Keeps fun c c' => c' = c :=
    numbering_keeps (R := fun c c' => c' = c) (fun _ => rfl) fun _ _ => rfl
  exact ⟨{ hkeeps with search := fun _ _ _ => rfl }, fun _ _ _ _ => rfl, fun _ _ _ => rfl, fun _ _ _ => rfl⟩

theorem Executor.execute_restricted_shelf :
    (outcome (shelfExecutor.execute firstTitle) (.start .standard 0)).1 = .ok (.items [0]) ∧
    (outcome (shelfExecutor.execute (.nested firstTitle [.condition titleHoldsB] [])) (.start .standard 0)).1 =
      .ok (.items [1]) := by
  let kept : List Hit → List Hit := ResultOperator.kept [.take 1]
  have hb := (FieldRegistry.insertKeywords_isKeyword []).buildsLeaves
  have hcompiled : ((shelfExecutor.compiler.plan firstTitle).toOption.bind fun p =>
      (shelfExecutor.compiler.condition titleHoldsB).toOption.map fun f =>
        let matched := p.found (fun _ => fiveHits) shelfLeaf
        let holds : Hit → Bool := fun hit => f.verdict (shelfLeaf hit)
        ((kept matched).map (·.document), (kept (matched.filter holds)).map (·.document))) =
      some ([0], [1]) := by decide +kernel
  cases hp : shelfExecutor.compiler.plan firstTitle with
  | error =>
    rw [hp] at hcompiled
    cases hcompiled
  | ok p =>
    cases hf : shelfExecutor.compiler.condition titleHoldsB with
    | error =>
      rw [hp, hf] at hcompiled
      cases hcompiled
    | ok f =>
      rw [hp, hf] at hcompiled
      obtain ⟨hfirst, hsecond⟩ := Prod.mk.inj (Option.some.inj hcompiled)
      have hoperators : firstTitle.allOperators = [Narrowing.take 1].map (·.operator) := rfl
      obtain ⟨t, _, houtput, hrestricted, _⟩ := Executor.execute_restricted hoperators hb hp hf shelfExecutor_matches
        (fun _ _ => by decide) (w := .start .standard 0) (.ofSettings _) rfl
      constructor
      · rw [houtput]
        exact congrArg (fun found => Except.ok (QueryResult.items found)) hfirst
      · rw [hrestricted]
        exact congrArg (fun found => Except.ok (QueryResult.items found)) hsecond

/-- Of two documents, "a" is all that the query gives, and "ab" all that is left by a restriction on its output. -/
theorem Rehearsal.restricted_not_from_output :
    let documents : List Document := [⟨1, .one .single, some "a"⟩, ⟨2, .one .single, some "ab"⟩]
    let s := Session.start .standard ⟨(FieldRegistry.empty.insertKeywords ["title"]).provider, .standard⟩
      (.ofDocuments documents true)
    let output := (outcome (s.executor.execute firstTitle) s.world).1
    let restricted := (outcome (s.executor.execute (.nested firstTitle [.condition titleHoldsB] [])) s.world).1
    output.toOption.bind (·.items?) = some [1] ∧ restricted.toOption.bind (·.items?) = some [2] := by
  decide +kernel

end Shelf

end IndexQuery
