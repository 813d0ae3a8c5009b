import IndexQuery.Proofs.Drafting
import IndexQuery.Proofs.FormulaTruth
import IndexQuery.Proofs.Positivity

set_option autoImplicit false

/-!
Plans of formulas.

Every tree of tests over keyword fields can be built into a fragment (`TestTree.buildable`), and the query of a plan
decides as the fragment of its condition does. With the lowering of formulas this gives the whole way from a
condition to its hits: the plan exists, and its query matches the documents of which the formula holds
(`Formula.plan_satisfies`).
-/

namespace IndexQuery

open IndexQuery.Expr IndexQuery.Lowering

namespace FieldProvider

theorem IsKeyword.buildsLeaves {fields : FieldProvider} (hk : fields.IsKeyword) : fields.BuildsLeaves := by
  intro name q
  obtain ⟨sortKind, hr⟩ := hk name
  rw [hr]
  constructor
  · intro text h
    cases h
    rfl
  · intro terms h
    cases h
    rfl

end FieldProvider

namespace FieldRegistry

theorem insertKeywords_keyword (names : List String) {r : FieldRegistry}
    (h : ∀ m ∈ r.mappings, m = .keyword m.name) : ∀ m ∈ (r.insertKeywords names).mappings, m = .keyword m.name := by
  induction names generalizing r with
  | nil => exact h
  | cons name names ih =>
    refine ih (List.forall_mem_cons.2 ⟨rfl, ?_⟩)
    intro m hm
    exact h m (List.mem_of_mem_filter hm)

theorem insertKeywords_isKeyword (names : List String) : (empty.insertKeywords names).provider.IsKeyword := by
  intro name
  have hall := insertKeywords_keyword names (r := empty) (by simp [empty])
  refine ⟨some .string, ?_⟩
  change ((empty.insertKeywords names).find? name).getD (.keyword name) = .keyword name
  cases hf : (empty.insertKeywords names).find? name with
  | none => rfl
  | some m =>
    rw [find?] at hf
    have hname := List.find?_some hf
    rw [Option.getD_some, hall m (List.mem_of_find?_eq_some hf), eq_of_beq hname]

end FieldRegistry

namespace Compiler

variable {c : Compiler}

theorem predicateFragment_plain (hk : c.fields.IsKeyword) {p : Predicate Expr} (hp : p.IsPlain) :
    ∃ f, c.predicateFragment p = .ok f := by
  obtain ⟨v, hv⟩ := hp.known
  obtain ⟨sortKind, hr⟩ := hk p.field.name
  obtain ⟨q, hq, _⟩ := testQuery_plain hk hp v.text
  refine ⟨⟨withBoost p.boost q, p.occur⟩, ?_⟩
  rw [predicateFragment, hp.single, if_pos (by decide), fieldFragment, hv, v.evaluate_expr, ok_bind,
    if_neg (by simp [v.isNull_value])]
  simp only [hr, v.encode_value, ok_bind]
  rw [← hr, hq]
  rfl

theorem intervalFragment_plain (hk : c.fields.IsKeyword) {r : Interval Expr} (hr : r.IsPlain) :
    ∃ f, c.intervalFragment r = .ok f := by
  obtain ⟨v, hv⟩ := hr.lower
  obtain ⟨w, hw⟩ := hr.upper
  obtain ⟨lower, hl, hrest⟩ := bind_eq_ok.1 (intervalQuery_plain hk hv hw)
  obtain ⟨upper, hu, hq⟩ := bind_eq_ok.1 hrest
  rw [intervalFragment, hr.single, if_neg (by decide)]
  simp only [hl, hu, hq, ok_bind]
  exact ⟨_, rfl⟩

end Compiler

theorem TestTree.buildable {c : Compiler} (hk : c.fields.IsKeyword) {e : Expr} (h : TestTree e) :
    c.Buildable e := by
  induction h with
  | predicate h => exact Compiler.buildable_iff.2 (Compiler.predicateFragment_plain hk h)
  | interval h => exact Compiler.buildable_iff.2 (Compiler.intervalFragment_plain hk h)
  | join hop hl hr ihl ihr =>
    rcases BinaryOp.logical_cases hop with rfl | rfl
    · exact Compiler.buildable_and.2 ⟨ihl, ihr⟩
    · exact Compiler.buildable_or.2 ⟨ihl, ihr⟩
  | not h hn ih => exact Compiler.buildable_not.2 ih

/-! ### From the fragment to the plan -/

namespace Draft

variable {ι : Type}

theorem foldl_apply_clauses (operators : List (ResultOperator ι)) (d : Draft ι) :
    (operators.foldl apply d).conditions = d.conditions ∧ (operators.foldl apply d).filters = d.filters := by
  induction operators generalizing d with
  | nil => exact ⟨rfl, rfl⟩
  | cons operator operators ih =>
    obtain ⟨hc, hf⟩ := ih (d.apply operator)
    obtain ⟨hc', hf'⟩ := d.apply_clauses operator
    exact ⟨hc.trans hc', hf.trans hf'⟩

end Draft

theorem Compiler.plan_condition {ι : Type} {c : Compiler} {e : Expr} {f : Fragment} (h : c.condition e = .ok f)
    (index : String) (operators : List (ResultOperator ι)) :
    ∃ plan, c.plan (.index index [.condition e] operators) = .ok plan ∧ plan.filter = none ∧
      plan.query = (Draft.joined? (Draft.clausesOf f)).getD .matchAll := by
  have hd : c.draft (.index index [.condition e] operators) =
      .ok (operators.foldl Draft.apply { (Draft.empty : Draft ι) with conditions := Draft.clausesOf f }) := by
    simp [draft, addParts, addClause, h, ok_bind, Draft.empty, pure, Except.pure]
  obtain ⟨hc, hf⟩ := Draft.foldl_apply_clauses operators
    { (Draft.empty : Draft ι) with conditions := Draft.clausesOf f }
  refine ⟨_, by rw [plan, hd]; rfl, ?_, ?_⟩
  · rw [Draft.finish, hf]
    rfl
  · rw [Draft.finish, hc]

/-- A condition over keyword fields is compiled, and the query of its plan matches exactly the documents of which
the condition holds, provided that they answer its flags. -/
theorem Formula.plan_satisfies {ι : Type} {fields : FieldProvider} (hk : fields.IsKeyword) (φ : Formula)
    (index : String) (operators : List (ResultOperator ι)) :
    ∃ plan, Compiler.plan ⟨fields, .standard⟩ (.index index [.condition φ.expr] operators) = .ok plan ∧
      plan.filter = none ∧ ∀ (near : Nearness) (doc : Document), φ.Answers doc →
        (doc.satisfies near plan.query = true ↔ φ.Holds near doc) := by
  let c : Compiler := ⟨fields, .standard⟩
  have hlower := φ.lower_expr (show 2 < CompilerSettings.standard.maxRounds by decide)
  obtain ⟨f, hf⟩ := (φ.literals_testTree.settled.buildable (c := c) hk).whole
  have hcondition : c.condition φ.expr = .ok f := by
    change (lower .standard .condition φ.expr >>= c.build) = .ok f
    rw [hlower, ok_bind]
    exact hf
  obtain ⟨plan, hplan, hfilter, hquery⟩ := Compiler.plan_condition hcondition index operators
  refine ⟨plan, hplan, hfilter, ?_⟩
  intro near doc ha
  have hpos := Compiler.build_isPositive hk.buildsLeaves hf
  obtain ⟨_, hno⟩ := Draft.clausesOf_joinable f hpos
  have hverdict : doc.satisfies near plan.query = c.truth (doc.matchesLeaf near) (settled φ.literals) := by
    rw [Document.satisfies, hquery, Draft.joined?_matchesUnder hno, Draft.clausesOf_verdict f hpos]
    exact (Compiler.verdictLaws c _).build hf
  rw [hverdict]
  exact φ.lowered_truth hk rfl ha

section Shelf

/-- Not cheaper than "d" nor dearer than "t", from a company, and not sold: two bounds that become one interval
under a negation, a double negation and a negated flag. -/
def shelfCondition : Formula :=
  let price : Member := ⟨.root "item" "price" .text, by decide⟩
  let maker : Member := ⟨.member (.root "item" "maker" .other) "name" .text, by decide⟩
  let sold : Member := ⟨.root "item" "sold" .bool, by decide⟩
  let zero : Zero := ⟨.int 0, by decide⟩
  let below := Atom.comparison (.direct false) .less rfl price (.constant (.text "d") rfl)
  let above := Atom.comparison (.function true zero true) .greater rfl price
    (.captured ⟨"limit", 0, .text "t"⟩ rfl)
  .and (.and (.not (.or (.atom below) (.atom above)))
    (.not (.not (.atom (.pattern .contains maker (.constant (.text "co") rfl))))))
    (.not (.atom (.flag sold rfl)))

def shelfItem (price : String) : Document := fun field =>
  if field = "price" then price else if field = "sold" then "false" else "acme co."

theorem Formula.plan_satisfies_shelf :
    ∃ plan : Plan Unit, Compiler.plan ⟨(FieldRegistry.empty.insertKeywords ["price", "sold"]).provider, .standard⟩
        (.index "shelf" [.condition shelfCondition.expr] [.take 3]) = .ok plan ∧
      (shelfItem "m").satisfies (fun _ _ _ => false) plan.query = true ∧
      (shelfItem "x").satisfies (fun _ _ _ => false) plan.query = false := by
  have hk := FieldRegistry.insertKeywords_isKeyword ["price", "sold"]
  obtain ⟨plan, hplan, _, hsatisfies⟩ := Formula.plan_satisfies hk shelfCondition "shelf" [.take 3]
  refine ⟨plan, hplan, ?_, ?_⟩
  · exact (hsatisfies _ _ (by decide +kernel)).2 (by decide +kernel)
  · rw [← Bool.not_eq_true, hsatisfies _ _ (by decide +kernel)]
    decide +kernel

end Shelf

end IndexQuery
