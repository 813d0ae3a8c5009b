import IndexQuery.Proofs.Drafting
import IndexQuery.Proofs.FormulaPlan

set_option autoImplicit false

/-!
The restrictions of a model and of all its sources conjoin exactly.

Each restriction adds the clauses of its fragment to those before it, taken apart or whole (`Compiler.Conjoins`). The
query of the finished plan holds where all restrictions do (`plan_conjoins`), also if only exclusions have come
together, in which case everything is put beside them, once. Nowhere in it are there exclusions alone
(`plan_matchable`).
-/

namespace IndexQuery

variable {ι : Type}

namespace BodyClause

def condition? : BodyClause → Option Expr
  | condition e => some e
  | filter _ | ordering _ => none

def filter? : BodyClause → Option Expr
  | filter e => some e
  | condition _ | ordering _ => none

end BodyClause

/-- The restrictions at all levels that count toward the score. -/
def QueryModel.conditions (m : QueryModel ι) : List Expr := m.allBody.filterMap (·.condition?)

def QueryModel.filters (m : QueryModel ι) : List Expr := m.allBody.filterMap (·.filter?)

namespace Compiler

variable {c : Compiler} {leaf : Query → Bool} {restrictions : List Expr} {clauses : List (Clause Query)}

def Holds (c : Compiler) (leaf : Query → Bool) (e : Expr) : Prop :=
  ∃ f, c.condition e = .ok f ∧ f.verdict leaf = true

inductive Conjoins (c : Compiler) : List Expr → List (Clause Query) → Prop where
  | nil : Conjoins c [] []
  | snoc {restrictions : List Expr} {clauses : List (Clause Query)} {e : Expr} {f : Fragment}
      (before : Conjoins c restrictions clauses) (hf : c.condition e = .ok f) :
      Conjoins c (restrictions ++ [e]) (clauses ++ Draft.clausesOf f)

theorem holds_iff {e : Expr} {f : Fragment} (hf : c.condition e = .ok f) :
    c.Holds leaf e ↔ f.verdict leaf = true := by
  constructor
  · rintro ⟨g, hg, hv⟩
    rw [hf] at hg
    cases hg
    exact hv
  · exact fun hv => ⟨f, hf, hv⟩

instance (c : Compiler) (leaf : Query → Bool) (e : Expr) : Decidable (c.Holds leaf e) :=
  match h : c.condition e with
  | .ok f => decidable_of_iff (f.verdict leaf = true) (holds_iff h).symm
  | .error _ => .isFalse fun ⟨_, hf, _⟩ => by
    rw [h] at hf
    cases hf

theorem condition_isPositive (hb : c.fields.BuildsLeaves) {e : Expr} {f : Fragment} (h : c.condition e = .ok f) :
    f.query.IsPositive := by
  obtain ⟨lowered, _, hf⟩ := bind_eq_ok.1 h
  exact build_isPositive hb hf

namespace Conjoins

theorem joinable (hb : c.fields.BuildsLeaves) (h : c.Conjoins restrictions clauses) :
    (clauses = [] ↔ restrictions = []) ∧ ∀ clause ∈ clauses, clause.occur ≠ .should := by
  induction h with
  | nil => simp
  | snoc _ hf ih =>
    obtain ⟨hne, hno⟩ := Draft.clausesOf_joinable _ (condition_isPositive hb hf)
    exact ⟨by simp [hne], List.forall_mem_append.2 ⟨ih.2, hno⟩⟩

theorem verdict (hb : c.fields.BuildsLeaves) (h : c.Conjoins restrictions clauses) :
    Draft.verdict leaf clauses = true ↔ ∀ e ∈ restrictions, c.Holds leaf e := by
  induction h with
  | nil => simp [Draft.verdict]
  | @snoc restrictions clauses e f _ hf ih =>
    have hclauses : Draft.verdict leaf (Draft.clausesOf f) = f.verdict leaf :=
      Draft.clausesOf_verdict f (condition_isPositive hb hf)
    rw [List.forall_mem_append, List.forall_mem_singleton, ← ih, holds_iff hf, ← hclauses]
    simp only [Draft.verdict, List.all_append, Bool.and_eq_true]

theorem isPositive (hb : c.fields.BuildsLeaves) (h : c.Conjoins restrictions clauses) :
    ∀ clause ∈ clauses, clause.query.IsPositive := by
  induction h with
  | nil => simp
  | snoc _ hf ih =>
    exact List.forall_mem_append.2 ⟨ih, Draft.clausesOf_isPositive (condition_isPositive hb hf)⟩

end Conjoins

theorem draft_conjoins {m : QueryModel ι} {d : Draft ι} (h : c.draft m = .ok d) :
    c.Conjoins m.conditions d.conditions ∧ c.Conjoins m.filters d.filters := by
  refine draft_induction (P := fun body _ d => c.Conjoins (body.filterMap (·.condition?)) d.conditions ∧
    c.Conjoins (body.filterMap (·.filter?)) d.filters) ?_ ?_ ⟨.nil, .nil⟩ h
  · rintro body operators d clause d' ⟨hc, hf⟩ h
    rw [List.filterMap_append, List.filterMap_append]
    cases clause with
    | condition e =>
      obtain ⟨f, he, h⟩ := bind_eq_ok.1 h
      obtain rfl := pure_eq_ok.1 h
      exact ⟨hc.snoc he, by simpa [BodyClause.filter?] using hf⟩
    | filter e =>
      obtain ⟨f, he, h⟩ := bind_eq_ok.1 h
      obtain rfl := pure_eq_ok.1 h
      exact ⟨by simpa [BodyClause.condition?] using hc, hf.snoc he⟩
    | ordering keys =>
      obtain ⟨sort, _, h⟩ := bind_eq_ok.1 h
      obtain rfl := pure_eq_ok.1 h
      exact ⟨by simpa [BodyClause.condition?] using hc, by simpa [BodyClause.filter?] using hf⟩
  · rintro body operators d operator ⟨hc, hf⟩
    obtain ⟨hconditions, hfilters⟩ := d.apply_clauses operator
    rw [hconditions, hfilters]
    exact ⟨hc, hf⟩

/-- The query of a plan matches where all conditions of the model and its sources hold; there is a filter if they have
one, and it matches where all of theirs hold. -/
theorem plan_conjoins (hb : c.fields.BuildsLeaves) {m : QueryModel ι} {p : Plan ι} (h : c.plan m = .ok p)
    (leaf : Query → Bool) :
    (p.query.matchesUnder leaf = true ↔ ∀ e ∈ m.conditions, c.Holds leaf e) ∧
    (p.filter = none ↔ m.filters = []) ∧
    ∀ q, p.filter = some q → (q.matchesUnder leaf = true ↔ ∀ e ∈ m.filters, c.Holds leaf e) := by
  obtain ⟨d, hd, h⟩ := bind_eq_ok.1 h
  obtain rfl := pure_eq_ok.1 h
  obtain ⟨hconditions, hfilters⟩ := draft_conjoins hd
  refine ⟨?_, ?_, ?_⟩
  · rw [← hconditions.verdict hb, ← Draft.joined?_matchesUnder (hconditions.joinable hb).2]
    rfl
  · rw [← (hfilters.joinable hb).1]
    simp [Draft.finish, Draft.joined?]
  · intro q hq
    rw [← hfilters.verdict hb, ← Draft.joined?_matchesUnder (hfilters.joinable hb).2]
    rw [show Draft.joined? d.filters = some q from hq, Option.getD_some]

theorem plan_isPositive (hb : c.fields.BuildsLeaves) {m : QueryModel ι} {p : Plan ι} (h : c.plan m = .ok p) :
    p.query.IsPositive ∧ ∀ q, p.filter = some q → q.IsPositive := by
  obtain ⟨d, hd, h⟩ := bind_eq_ok.1 h
  obtain rfl := pure_eq_ok.1 h
  obtain ⟨hconditions, hfilters⟩ := draft_conjoins hd
  refine ⟨?_, fun q hq => Draft.joined?_isPositive (hfilters.isPositive hb) hq⟩
  change ((Draft.joined? d.conditions).getD .matchAll).IsPositive
  cases hq : Draft.joined? d.conditions with
  | none => exact .leaf rfl
  | some q => exact Draft.joined?_isPositive (hconditions.isPositive hb) hq

/-- No boolean query of a plan, at any depth of its query or its filter, is empty or made of exclusions alone. -/
theorem plan_matchable (hb : c.fields.BuildsLeaves) {m : QueryModel ι} {p : Plan ι} (h : c.plan m = .ok p)
    {clauses : List (Clause Query)} {boost : Number.Binary32}
    (hin : .bool clauses boost ∈ p.query.subqueries ∨
      ∃ q, p.filter = some q ∧ .bool clauses boost ∈ q.subqueries) :
    clauses ≠ [] ∧ ∃ clause ∈ clauses, clause.occur ≠ .mustNot := by
  obtain ⟨hquery, hfilter⟩ := plan_isPositive hb h
  have hpos : (Query.bool clauses boost).IsPositive := by
    rcases hin with hin | ⟨q, hq, hin⟩
    · exact hquery.of_mem_subqueries hin
    · exact (hfilter q hq).of_mem_subqueries hin
  obtain ⟨clause, hmem, ho⟩ := hpos.of_bool
  exact ⟨List.ne_nil_of_mem hmem, clause, hmem, ho⟩

end Compiler

section Shelf

/-- Items of one series that are not drafts and not by a group: an exclusion at either level, and a filter. -/
def shelfExclusions : QueryModel Unit :=
  let title : Member := ⟨.root "item" "title" .text, by decide⟩
  let author : Member := ⟨.root "item" "author" .text, by decide⟩
  let series : Member := ⟨.root "item" "series" .text, by decide⟩
  let isDraft := Formula.atom (.pattern .startsWith title (.constant (.text "draft") rfl))
  let isGroup := Formula.atom (.pattern .contains author (.constant (.text "group") rfl))
  let isClassic := Formula.atom (.pattern .endsWith series (.constant (.text "classics") rfl))
  .nested (.index "shelf" [.condition (Formula.not isDraft).expr, .filter isClassic.expr] [.take 5])
    [.condition (Formula.not isGroup).expr] [.skip 1]

theorem Compiler.plan_conjoins_shelf :
    ∃ p, Compiler.plan ⟨(FieldRegistry.empty.insertKeywords ["series"]).provider, .standard⟩ shelfExclusions = .ok p ∧
      p.query.matchesUnder (fun _ => false) = true ∧ p.query.matchesUnder (fun _ => true) = false ∧
      p.filter ≠ none := by
  have hb := (FieldRegistry.insertKeywords_isKeyword ["series"]).buildsLeaves
  cases hp : Compiler.plan ⟨(FieldRegistry.empty.insertKeywords ["series"]).provider, .standard⟩ shelfExclusions with
  | error e =>
    have hok : (Compiler.plan ⟨(FieldRegistry.empty.insertKeywords ["series"]).provider, .standard⟩
      shelfExclusions).toBool = true := by decide +kernel
    rw [hp] at hok
    cases hok
  | ok p =>
    refine ⟨p, rfl, ?_, ?_, ?_⟩
    · exact (Compiler.plan_conjoins hb hp _).1.2 (by decide +kernel)
    · rw [← Bool.not_eq_true, (Compiler.plan_conjoins hb hp _).1]
      decide +kernel
    · rw [Ne, (Compiler.plan_conjoins hb hp fun _ => true).2.1]
      decide +kernel

/-- Items that are not drafts or not by a group: two exclusions of which one is enough. -/
def shelfAlternatives : QueryModel Unit :=
  let title : Member := ⟨.root "item" "title" .text, by decide⟩
  let author : Member := ⟨.root "item" "author" .text, by decide⟩
  let isDraft := Formula.atom (.pattern .startsWith title (.constant (.text "draft") rfl))
  let isGroup := Formula.atom (.pattern .contains author (.constant (.text "group") rfl))
  .index "shelf" [.condition (Formula.or (.not isDraft) (.not isGroup)).expr] []

theorem Compiler.plan_matchable_shelf :
    ∃ p clauses boost, Compiler.plan ⟨FieldRegistry.empty.provider, .standard⟩ shelfAlternatives = .ok p ∧
      p.query.subqueries[2]? = some (.bool clauses boost) ∧
      clauses ≠ [] ∧ ∃ clause ∈ clauses, clause.occur ≠ .mustNot := by
  have hb := (FieldRegistry.insertKeywords_isKeyword []).buildsLeaves
  have hthird : (match Compiler.plan ⟨FieldRegistry.empty.provider, .standard⟩ shelfAlternatives with
    | .ok p => p.query.subqueries[2]?.any (!·.isLeaf)
    | .error _ => false) = true := by decide +kernel
  split at hthird
  · rename_i p hp
    cases hq : p.query.subqueries[2]? with
    | none => simp [hq] at hthird
    | some q =>
      rw [hq] at hthird
      cases q with
      | bool clauses boost =>
        exact ⟨p, clauses, boost, hp, hq, Compiler.plan_matchable hb hp (.inl (List.mem_of_getElem? hq))⟩
      | _ => cases hthird
  · cases hthird

end Shelf

end IndexQuery
