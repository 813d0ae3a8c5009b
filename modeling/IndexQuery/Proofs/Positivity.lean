import IndexQuery.Plan.Drafting
import IndexQuery.Proofs.ConditionTruth

set_option autoImplicit false

/-!
Boolean queries that compilation makes can match something.

A query of exclusions alone matches nothing, so that every boolean query of a fragment has a clause that is none
(`Compiler.build_isPositive`), at any depth (`Query.IsPositive.of_mem_subqueries`). This is what allows a plan to take
the clauses of a conjunction apart and to join them with those of other conditions (`Draft.clausesOf_verdict`,
`Draft.joined?_matchesUnder`).
-/

namespace IndexQuery

namespace Query

def isLeaf : Query → Bool
  | bool _ _ => false
  | _ => true

inductive IsPositive : Query → Prop where
  | leaf {q : Query} (h : q.isLeaf = true) : IsPositive q
  | bool {clauses : List (Clause Query)} {boost : Number.Binary32} (hsome : ∃ c ∈ clauses, c.occur ≠ .mustNot)
      (hall : ∀ c ∈ clauses, c.query.IsPositive) : IsPositive (bool clauses boost)

theorem IsPositive.of_bool {clauses : List (Clause Query)} {boost : Number.Binary32}
    (h : (Query.bool clauses boost).IsPositive) : ∃ c ∈ clauses, c.occur ≠ .mustNot := by
  cases h with
  | leaf h => cases h
  | bool hsome => exact hsome

theorem IsPositive.withBoost {q : Query} (h : q.IsPositive) (boost : Number.Binary32) :
    (q.withBoost boost).IsPositive := by
  cases h with
  | leaf h =>
    cases q with
    | bool => cases h
    | _ => exact .leaf rfl
  | bool hsome hall => exact .bool hsome hall

theorem ensurePositive_isPositive {clauses : List (Clause Query)} (hne : clauses ≠ [])
    (h : ∀ c ∈ clauses, c.query.IsPositive) : (ofClauses (ensurePositive clauses)).IsPositive := by
  unfold ensurePositive
  by_cases hneg : purelyNegative clauses = true
  · rw [if_pos hneg]
    refine .bool ⟨_, List.mem_append_right _ (List.mem_singleton_self _), by decide⟩ ?_
    intro c hc
    rcases List.mem_append.1 hc with hc | hc
    · exact h c hc
    · rw [List.mem_singleton.1 hc]
      exact .leaf rfl
  · rw [if_neg hneg]
    rw [purelyNegative_iff hne] at hneg
    obtain ⟨c, hc, ho⟩ := not_forall₂.1 hneg
    exact .bool ⟨c, hc, ho⟩ h

mutual

def subqueries : Query → List Query
  | bool clauses boost => bool clauses boost :: subqueriesOf clauses
  | q => [q]

def subqueriesOf : List (Clause Query) → List Query
  | [] => []
  | ⟨_, query⟩ :: rest => subqueries query ++ subqueriesOf rest

end

theorem subqueriesOf_eq (clauses : List (Clause Query)) :
    subqueriesOf clauses = clauses.flatMap fun c => c.query.subqueries := by
  induction clauses with
  | nil => rfl
  | cons c rest ih => rw [subqueriesOf, ih, List.flatMap_cons]

theorem IsPositive.of_mem_subqueries {q s : Query} (h : q.IsPositive) (hs : s ∈ q.subqueries) : s.IsPositive := by
  induction h with
  | @leaf q h =>
    cases q with
    | bool => cases h
    | _ =>
      obtain rfl := List.mem_singleton.1 hs
      exact .leaf rfl
  | bool hsome hall ih =>
    rw [subqueries, List.mem_cons, subqueriesOf_eq, List.mem_flatMap] at hs
    rcases hs with rfl | ⟨c, hc, hs⟩
    · exact .bool hsome hall
    · exact ih c hc hs

end Query

namespace Fragment

theorem conjunction_isPositive {parts : List Fragment} (hne : parts ≠ [])
    (h : ∀ f ∈ parts, f.query.IsPositive) : (conjunction parts).query.IsPositive := by
  refine Query.ensurePositive_isPositive (by simpa using hne) ?_
  intro c hc
  obtain ⟨f, hf, rfl⟩ := List.mem_map.1 hc
  exact h f hf

theorem alternative_isPositive {f : Fragment} (h : f.query.IsPositive) : f.alternative.IsPositive := by
  unfold alternative
  split
  · refine Query.ensurePositive_isPositive (by simp) ?_
    intro c hc
    rw [List.mem_singleton.1 hc]
    exact h
  · exact h

theorem alternatives_isPositive {parts : List Fragment} (hne : parts ≠ [])
    (h : ∀ f ∈ parts, f.query.IsPositive) (occur : Occur) : (alternatives parts occur).query.IsPositive := by
  obtain ⟨f, hf⟩ := List.exists_mem_of_ne_nil parts hne
  refine .bool ⟨_, List.mem_map_of_mem hf, by simp⟩ ?_
  intro c hc
  obtain ⟨g, hg, rfl⟩ := List.mem_map.1 hc
  exact alternative_isPositive (h g hg)

end Fragment

def FieldProvider.BuildsLeaves (fields : FieldProvider) : Prop :=
  ∀ name q, (∀ text, (fields.resolve name).exactQuery text = .ok q → q.isLeaf = true) ∧
    ∀ terms, (fields.resolve name).rangeQuery terms = .ok q → q.isLeaf = true

namespace Compiler

variable {c : Compiler}

theorem withBoost_isPositive {q : Query} (h : q.IsPositive) (boost : Number.Binary32) :
    (withBoost boost q).IsPositive := by
  unfold withBoost
  split
  · exact h
  · exact h.withBoost boost

theorem testQuery_isLeaf (hb : c.fields.BuildsLeaves) {name text : String} {p : Predicate Expr} {q : Query}
    (h : c.testQuery (c.fields.resolve name) name p text = .ok q) : q.isLeaf = true := by
  obtain ⟨hexact, hrange⟩ := hb name q
  unfold testQuery at h
  cases hm : p.matching <;> simp only [hm] at h
  case exact => exact hexact _ h
  case greater | greaterOrEqual | less | lessOrEqual => exact hrange _ h
  all_goals
    cases h
    rfl

theorem fieldFragment_isPositive (hb : c.fields.BuildsLeaves) {name : String} {p : Predicate Expr} {f : Fragment}
    (h : c.fieldFragment name p = .ok f) : f.query.IsPositive := by
  obtain ⟨value, _, ⟨_, rfl⟩ | ⟨_, text, q, _, hq, rfl⟩⟩ := fieldFragment_ok h
  · exact .leaf rfl
  · exact withBoost_isPositive (.leaf (testQuery_isLeaf hb hq)) _

theorem fieldFragments_isPositive (hb : c.fields.BuildsLeaves) {p : Predicate Expr} {names : List String}
    {parts : List Fragment} (h : names.mapM (fun name => c.fieldFragment name p) = .ok parts) :
    ∀ f ∈ parts, f.query.IsPositive := by
  replace h := mapM_eq_ok h
  induction h with
  | nil => simp
  | cons hf _ ih => exact List.forall_mem_cons.2 ⟨fieldFragment_isPositive hb hf, ih⟩

theorem predicateFragment_isPositive (hb : c.fields.BuildsLeaves) {p : Predicate Expr} {f : Fragment}
    (h : c.predicateFragment p = .ok f) : f.query.IsPositive := by
  obtain ⟨_, h⟩ | ⟨_, hne, parts, hp, rfl⟩ := predicateFragment_ok h
  · exact fieldFragment_isPositive hb h
  · refine Fragment.alternatives_isPositive ?_ (fieldFragments_isPositive hb hp) _
    rintro rfl
    exact hne (List.length_eq_zero_iff.1 (mapM_eq_ok hp).length_eq)

theorem intervalFragment_isPositive (hb : c.fields.BuildsLeaves) {r : Interval Expr} {f : Fragment}
    (h : c.intervalFragment r = .ok f) : f.query.IsPositive := by
  obtain ⟨lower, upper, q, _, _, hq, rfl⟩ := intervalFragment_ok h
  exact withBoost_isPositive (.leaf ((hb _ q).2 _ hq)) _

theorem closedFragment_isPositive {e : Expr} {f : Fragment} (h : closedFragment e = .ok f) :
    f.query.IsPositive := by
  obtain ⟨b, _, rfl⟩ := closedFragment_ok h
  exact .leaf rfl

theorem positiveLaws (hb : c.fields.BuildsLeaves) : BuildLaws c (fun _ f => f.query.IsPositive)
    (fun _ parts => parts ≠ [] ∧ ∀ f ∈ parts, f.query.IsPositive)
    (fun _ parts => parts ≠ [] ∧ ∀ f ∈ parts, f.query.IsPositive) where
  predicate := predicateFragment_isPositive hb
  interval := intervalFragment_isPositive hb
  closed _ h := closedFragment_isPositive h
  not h := h
  boosted boost h := h.withBoost _
  every_single h := by simpa using h
  every_append hl hr := ⟨by simp [hl.1], List.forall_mem_append.2 ⟨hl.2, hr.2⟩⟩
  every_whole h := Fragment.conjunction_isPositive h.1 h.2
  either_single h := by simpa using h
  either_append hl hr := ⟨by simp [hl.1], List.forall_mem_append.2 ⟨hl.2, hr.2⟩⟩
  either_whole h := Fragment.alternatives_isPositive h.1 h.2 .must

theorem build_isPositive (hb : c.fields.BuildsLeaves) {e : Expr} {f : Fragment} (h : c.build e = .ok f) :
    f.query.IsPositive :=
  (positiveLaws hb).build h

end Compiler

namespace Draft

variable {leaf : Query → Bool}

def verdict (leaf : Query → Bool) (clauses : List (Clause Query)) : Bool :=
  clauses.all fun c => c.occur.verdict (c.query.matchesUnder leaf)

theorem clausesOf_cases (f : Fragment) : clausesOf f = [f.toClause] ∨ ∃ clauses boost,
    f.occur = .must ∧ f.query = .bool clauses boost ∧ (∀ c ∈ clauses, c.occur ≠ .should) ∧
      clausesOf f = clauses := by
  unfold clausesOf
  split
  · rename_i clauses boost ho hq
    split
    · rename_i h
      simp only [Bool.and_eq_true, List.all_eq_true, bne_iff_ne] at h
      exact .inr ⟨clauses, boost, ho, hq, h.2, rfl⟩
    · exact .inl rfl
  · exact .inl rfl

theorem clausesOf_joinable (f : Fragment) (h : f.query.IsPositive) :
    clausesOf f ≠ [] ∧ ∀ c ∈ clausesOf f, c.occur ≠ .should := by
  rcases clausesOf_cases f with hc | ⟨clauses, boost, _, hq, hno, hc⟩
  · rw [hc]
    refine ⟨by simp, ?_⟩
    intro c hmem
    rw [List.mem_singleton.1 hmem]
    exact f.occur.inConjunction_ne_should
  · rw [hq] at h
    obtain ⟨c, hmem, _⟩ := h.of_bool
    rw [hc]
    exact ⟨List.ne_nil_of_mem hmem, hno⟩

theorem clausesOf_isPositive {f : Fragment} (h : f.query.IsPositive) : ∀ c ∈ clausesOf f, c.query.IsPositive := by
  rcases clausesOf_cases f with hc | ⟨clauses, boost, _, hq, _, hc⟩
  · rw [hc, List.forall_mem_singleton]
    exact h
  · rw [hq] at h
    rw [hc]
    cases h with
    | leaf h => cases h
    | bool _ hall => exact hall

theorem joined?_isPositive {clauses : List (Clause Query)} (h : ∀ c ∈ clauses, c.query.IsPositive) {q : Query}
    (hq : joined? clauses = some q) : q.IsPositive := by
  unfold joined? at hq
  split at hq
  · cases hq
  · rename_i hne
    cases hq
    exact Query.ensurePositive_isPositive (by simpa using hne) h

/-- Taken apart or not, the clauses of a fragment decide as it does. -/
theorem clausesOf_verdict (f : Fragment) (h : f.query.IsPositive) :
    verdict leaf (clausesOf f) = f.verdict leaf := by
  rcases clausesOf_cases f with hc | ⟨clauses, boost, ho, hq, hno, hc⟩
  · rw [hc, verdict, List.all_cons, List.all_nil, Bool.and_true]
    exact f.occur.verdict_inConjunction _
  · rw [hq] at h
    obtain ⟨c, hmem, hpos⟩ := h.of_bool
    have hne := List.ne_nil_of_mem hmem
    have hensure : Query.ensurePositive clauses = clauses := by
      rw [Query.ensurePositive, if_neg]
      rw [Query.purelyNegative_iff hne]
      exact fun hall => hpos (hall c hmem)
    have hm : (Query.ofClauses (Query.ensurePositive clauses)).matchesUnder leaf = verdict leaf clauses :=
      Query.conjoined_matchesUnder hne hno
    rw [hensure] at hm
    rw [hc, Fragment.verdict, ho, hq]
    exact hm.symm

theorem joined?_matchesUnder {clauses : List (Clause Query)} (hno : ∀ c ∈ clauses, c.occur ≠ .should) :
    ((joined? clauses).getD .matchAll).matchesUnder leaf = verdict leaf clauses := by
  unfold joined?
  cases clauses with
  | nil => rfl
  | cons c rest => exact Query.conjoined_matchesUnder (List.cons_ne_nil c rest) hno

end Draft

end IndexQuery
