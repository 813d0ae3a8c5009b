import IndexQuery.Plan.Fragment
import IndexQuery.Proofs.Traversal

set_option autoImplicit false

/-!
What a native query decides, given what its leaves decide.

A boolean query needs all its required clauses and none of its excluded ones, and one of its optional clauses
if nothing is required. A fragment turns the verdict of its query around when it excludes. Conjunctions and
alternatives of fragments decide as their parts do (`conjunction_verdict`, `alternatives_verdict`), although
a query of exclusions alone would match nothing.
-/

namespace IndexQuery

namespace Occur

def isRequired : Occur → Bool
  | must | filter => true
  | _ => false

/-- What a clause says of a document, given whether its query matches. -/
def verdict (occur : Occur) (hit : Bool) : Bool := if occur = mustNot then !hit else hit

theorem verdict_negate (occur : Occur) (hit : Bool) : occur.negate.verdict hit = !occur.verdict hit := by
  cases occur <;> cases hit <;> rfl

theorem verdict_inConjunction (occur : Occur) (hit : Bool) :
    occur.inConjunction.verdict hit = occur.verdict hit := by
  cases occur <;> rfl

theorem inConjunction_ne_should (occur : Occur) : occur.inConjunction ≠ should := by
  cases occur <;> decide

end Occur

def accepted (clauses : List (Clause Bool)) : Bool :=
  clauses.all (fun c => !c.occur.isRequired || c.query) &&
  clauses.all (fun c => c.occur != .mustNot || !c.query) &&
  (clauses.any (·.occur.isRequired) || clauses.any (fun c => c.occur == .should && c.query))

namespace Query

mutual

/-- Does the query match, where `leaf` decides the queries that test one field? Boosts are left out. -/
def matchesUnder (leaf : Query → Bool) : Query → Bool
  | all _ => true
  | bool clauses _ => accepted (verdicts leaf clauses)
  | q => leaf (q.withBoost unboosted)

def verdicts (leaf : Query → Bool) : List (Clause Query) → List (Clause Bool)
  | [] => []
  | ⟨occur, query⟩ :: rest => ⟨occur, matchesUnder leaf query⟩ :: verdicts leaf rest

end

variable {leaf : Query → Bool}

theorem verdicts_eq_map (clauses : List (Clause Query)) :
    verdicts leaf clauses = clauses.map fun c => ⟨c.occur, c.query.matchesUnder leaf⟩ := by
  induction clauses with
  | nil => rfl
  | cons c rest ih => rw [verdicts, ih, List.map_cons]

theorem withBoost_matchesUnder (boost : Number.Binary32) (q : Query) :
    (q.withBoost boost).matchesUnder leaf = q.matchesUnder leaf := by
  cases q <;> rfl

theorem matchesUnder_ofClauses {clauses : List (Clause Query)} :
    (ofClauses clauses).matchesUnder leaf = true ↔
      (∀ c ∈ clauses, c.occur.isRequired → c.query.matchesUnder leaf = true) ∧
      (∀ c ∈ clauses, c.occur = .mustNot → c.query.matchesUnder leaf = false) ∧
      ((∃ c ∈ clauses, c.occur.isRequired) ∨
        ∃ c ∈ clauses, c.occur = .should ∧ c.query.matchesUnder leaf = true) := by
  rw [ofClauses, matchesUnder, verdicts_eq_map, accepted]
  simp only [Bool.and_eq_true, Bool.or_eq_true, List.all_eq_true, List.any_eq_true, List.mem_map,
    forall_exists_index, and_imp, forall_apply_eq_imp_iff₂, exists_exists_and_eq_and, bne_iff_ne,
    Bool.not_eq_true', beq_iff_eq, ne_eq, and_assoc]
  refine and_congr ?_ (and_congr ?_ Iff.rfl)
  · refine forall₂_congr fun c _ => ?_
    cases c.occur.isRequired <;> simp
  · exact forall₂_congr fun c _ => Classical.or_iff_not_imp_left.trans (by simp)

theorem purelyNegative_iff {clauses : List (Clause Query)} (hne : clauses ≠ []) :
    purelyNegative clauses = true ↔ ∀ c ∈ clauses, c.occur = .mustNot := by
  simp [purelyNegative, hne]

/-- Clauses none of which is optional decide together. -/
theorem conjoined_matchesUnder {clauses : List (Clause Query)} (hne : clauses ≠ [])
    (hno : ∀ c ∈ clauses, c.occur ≠ .should) :
    (ofClauses (ensurePositive clauses)).matchesUnder leaf =
      clauses.all fun c => c.occur.verdict (c.query.matchesUnder leaf) := by
  have hsplit : ∀ c ∈ clauses, c.occur.isRequired = true ∨ c.occur = .mustNot := by
    intro c hc
    have h := hno c hc
    cases ho : c.occur <;> simp_all [Occur.isRequired]
  have hverdict : ∀ c ∈ clauses, c.occur.verdict (c.query.matchesUnder leaf) = true ↔
      (c.occur.isRequired → c.query.matchesUnder leaf = true) ∧
      (c.occur = .mustNot → c.query.matchesUnder leaf = false) := by
    intro c hc
    have h := hno c hc
    cases ho : c.occur <;> simp_all [Occur.isRequired, Occur.verdict]
  rw [Bool.eq_iff_iff, List.all_eq_true]
  unfold ensurePositive
  by_cases hneg : purelyNegative clauses = true
  · rw [if_pos hneg, matchesUnder_ofClauses]
    rw [purelyNegative_iff hne] at hneg
    constructor
    · rintro ⟨_, hex, _⟩ c hc
      have hm := hex c (by simp [hc]) (hneg c hc)
      simp [hneg c hc, Occur.verdict, hm]
    · intro hall
      refine ⟨?_, ?_, .inr ⟨_, List.mem_append_right _ (List.mem_singleton_self _), rfl, rfl⟩⟩
      · intro c hc hr
        rcases List.mem_append.1 hc with hc | hc
        · rw [hneg c hc] at hr
          cases hr
        · rw [List.mem_singleton.1 hc] at hr
          cases hr
      · intro c hc hm
        rcases List.mem_append.1 hc with hc | hc
        · exact ((hverdict c hc).1 (hall c hc)).2 hm
        · rw [List.mem_singleton.1 hc] at hm
          cases hm
  · rw [if_neg hneg, matchesUnder_ofClauses]
    rw [purelyNegative_iff hne] at hneg
    have hreq : ∃ c ∈ clauses, c.occur.isRequired = true := by
      obtain ⟨c, hc, hm⟩ := not_forall₂.1 hneg
      exact ⟨c, hc, (hsplit c hc).resolve_right hm⟩
    constructor
    · rintro ⟨hr, hm, _⟩ c hc
      exact (hverdict c hc).2 ⟨hr c hc, hm c hc⟩
    · intro hall
      exact ⟨fun c hc => ((hverdict c hc).1 (hall c hc)).1, fun c hc => ((hverdict c hc).1 (hall c hc)).2,
        .inl hreq⟩

theorem optional_matchesUnder (queries : List Query) :
    (ofClauses (queries.map fun q => ⟨.should, q⟩)).matchesUnder leaf =
      queries.any fun q => q.matchesUnder leaf := by
  rw [Bool.eq_iff_iff, matchesUnder_ofClauses]
  simp [Occur.isRequired]

end Query

namespace Fragment

variable (leaf : Query → Bool)

def verdict (f : Fragment) : Bool := f.occur.verdict (f.query.matchesUnder leaf)

theorem negated_verdict (f : Fragment) : f.negated.verdict leaf = !f.verdict leaf :=
  Occur.verdict_negate _ _

theorem boostedBy_verdict (boost : Number.Binary32) (f : Fragment) :
    (f.boostedBy boost).verdict leaf = f.verdict leaf := by
  simp [verdict, boostedBy, Query.withBoost_matchesUnder]

theorem conjunction_verdict {parts : List Fragment} (hne : parts ≠ []) :
    (conjunction parts).verdict leaf = parts.all (·.verdict leaf) := by
  have hno : ∀ c ∈ parts.map toClause, c.occur ≠ .should := by
    intro c hc
    obtain ⟨f, _, rfl⟩ := List.mem_map.1 hc
    exact f.occur.inConjunction_ne_should
  change (Query.ofClauses (Query.ensurePositive (parts.map toClause))).matchesUnder leaf = _
  rw [Query.conjoined_matchesUnder (by simpa using hne) hno, List.all_map]
  congr 1
  funext f
  exact f.occur.verdict_inConjunction _

theorem alternative_matchesUnder (f : Fragment) :
    f.alternative.matchesUnder leaf = f.verdict leaf := by
  unfold alternative
  split
  · rename_i h
    rw [Query.conjoined_matchesUnder (by simp) (by simp)]
    simp [verdict, h]
  · rename_i h
    rw [verdict, Occur.verdict, if_neg h]

theorem alternatives_verdict (parts : List Fragment) (occur : Occur) :
    (alternatives parts occur).verdict leaf = occur.verdict (parts.any (·.verdict leaf)) := by
  have hmap : (parts.map fun part => (⟨.should, part.alternative⟩ : Clause Query)) =
      (parts.map alternative).map fun q => ⟨.should, q⟩ := by
    rw [List.map_map]
    rfl
  change occur.verdict ((Query.ofClauses _).matchesUnder leaf) = _
  rw [hmap, Query.optional_matchesUnder, List.any_map]
  congr 2
  funext f
  exact f.alternative_matchesUnder leaf

end Fragment

end IndexQuery
