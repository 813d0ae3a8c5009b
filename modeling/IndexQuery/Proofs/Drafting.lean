import IndexQuery.Plan.Drafting
import IndexQuery.Proofs.Traversal

set_option autoImplicit false

/-!
How a draft comes about: the clauses and operators of a model and of all its sources are added to the empty draft, from
the innermost source out. What holds of the empty draft and is kept by each of them holds of the draft of the model
(`draft_induction`). Operators neither read nor change what clauses add (`Draft.apply_withClauses`).
-/

namespace IndexQuery

variable {ι : Type}

/-- The clauses of a model and of its sources, from the innermost one out. -/
def QueryModel.allBody : QueryModel ι → List BodyClause
  | index _ body _ => body
  | nested inner body _ => inner.allBody ++ body

def QueryModel.allOperators : QueryModel ι → List (ResultOperator ι)
  | index _ _ operators => operators
  | nested inner _ operators => inner.allOperators ++ operators

namespace Draft

def withClauses (d : Draft ι) (conditions filters : List (Clause Query)) (sort : List SortKey) : Draft ι :=
  { d with conditions := conditions, filters := filters, sort := sort }

section

variable (d : Draft ι) (conditions filters : List (Clause Query)) (sort : List SortKey)

theorem aggregateBy_withClauses (a : Aggregate) :
    (d.withClauses conditions filters sort).aggregateBy a = (d.aggregateBy a).withClauses conditions filters sort := by
  obtain ⟨_, _, _, skip, max, takeLast, boost, aggregate, unsupported⟩ := d
  cases aggregate with
  | some => rfl
  | none => cases a <;> cases takeLast <;> rfl

theorem apply_withClauses (operator : ResultOperator ι) :
    (d.withClauses conditions filters sort).apply operator =
      (d.apply operator).withClauses conditions filters sort := by
  cases operator with
  | first | single | count | any => exact d.aggregateBy_withClauses conditions filters sort _
  | skip | take | last | boost | other => rfl

end

theorem apply_eq (d : Draft ι) (operator : ResultOperator ι) :
    d.apply operator = (d.apply operator).withClauses d.conditions d.filters d.sort :=
  d.apply_withClauses d.conditions d.filters d.sort operator

/-- Operators on the results leave the clauses alone. -/
theorem apply_clauses (d : Draft ι) (operator : ResultOperator ι) :
    (d.apply operator).conditions = d.conditions ∧ (d.apply operator).filters = d.filters := by
  rw [d.apply_eq]
  exact ⟨rfl, rfl⟩

end Draft

namespace Compiler

variable {c : Compiler} {P : List BodyClause → List (ResultOperator ι) → Draft ι → Prop}
  (hclause : ∀ body operators d clause d', P body operators d → c.addClause d clause = .ok d' →
    P (body ++ [clause]) operators d')
  (hoperator : ∀ body operators d operator, P body operators d → P body (operators ++ [operator]) (d.apply operator))

include hclause in
theorem foldlM_addClause {body later : List BodyClause} {operators : List (ResultOperator ι)} {d d' : Draft ι}
    (hd : P body operators d) (h : later.foldlM c.addClause d = .ok d') : P (body ++ later) operators d' := by
  induction later generalizing body d with
  | nil =>
    obtain rfl := pure_eq_ok.1 h
    rwa [List.append_nil]
  | cons clause later ih =>
    rw [List.foldlM_cons] at h
    obtain ⟨d₁, hd₁, h⟩ := bind_eq_ok.1 h
    have hlater := ih (hclause body operators d clause d₁ hd hd₁) h
    rwa [List.append_assoc] at hlater

include hoperator in
theorem foldl_apply {body : List BodyClause} {operators later : List (ResultOperator ι)} {d : Draft ι}
    (hd : P body operators d) : P body (operators ++ later) (later.foldl Draft.apply d) := by
  induction later generalizing operators d with
  | nil => rwa [List.append_nil]
  | cons operator later ih =>
    have hlater := ih (hoperator body operators d operator hd)
    rwa [List.append_assoc] at hlater

include hclause hoperator

theorem addParts_induction {body later : List BodyClause} {operators added : List (ResultOperator ι)} {d d' : Draft ι}
    (hd : P body operators d) (h : c.addParts d later added = .ok d') : P (body ++ later) (operators ++ added) d' := by
  obtain ⟨d₁, hd₁, h⟩ := bind_eq_ok.1 h
  obtain rfl := pure_eq_ok.1 h
  exact foldl_apply hoperator (foldlM_addClause hclause hd hd₁)

theorem draft_induction (hempty : P [] [] .empty) {m : QueryModel ι} {d : Draft ι} (h : c.draft m = .ok d) :
    P m.allBody m.allOperators d := by
  induction m generalizing d with
  | index name body operators => exact addParts_induction hclause hoperator hempty h
  | nested inner body operators ih =>
    obtain ⟨d₁, hd₁, h⟩ := bind_eq_ok.1 h
    exact addParts_induction hclause hoperator (ih hd₁) h

end Compiler

end IndexQuery
