import IndexQuery.Proofs.Building
import IndexQuery.Proofs.Verdict

set_option autoImplicit false

/-!
The truth of a lowered expression, and that fragments decide it.

`Compiler.truth` reads a tree of index tests classically, from what the native queries of its tests match. The
fragment built for the tree carries its polarity outside its query, flattens chains and adds match-all
clauses; its verdict is nevertheless that truth value (`build_verdict`).
-/

namespace IndexQuery

namespace Compiler

variable (c : Compiler) (leaf : Query → Bool)

/-- The native query for a test of one field; a null pattern asks for any value. -/
def leafQuery (name : String) (p : Predicate Expr) : Except Error Query := do
  let value ← p.pattern.evaluate
  if value.isNull then return .wildcard name c.settings.anyValue Query.unboosted
  else c.testQuery (c.fields.resolve name) name p (← (c.fields.resolve name).encode value)

def hasNullPattern (p : Predicate Expr) : Bool :=
  match p.pattern.evaluate with
  | .ok value => value.isNull
  | .error _ => false

def matchesLeaf (q : Except Error Query) : Bool :=
  match q with
  | .ok q => q.matchesUnder leaf
  | .error _ => false

/-- A test of one field holds if its query matches, or does not for a null pattern. -/
def fieldTruth (p : Predicate Expr) (name : String) : Bool :=
  matchesLeaf leaf (c.leafQuery name p) != hasNullPattern p

def predicateTruth (p : Predicate Expr) : Bool :=
  p.occur.verdict (if p.field.isAny then c.fields.names.any (c.fieldTruth leaf p)
    else c.fieldTruth leaf p p.field.name)

def intervalQuery (r : Interval Expr) : Except Error Query := do
  let lower ← boundText (c.fields.resolve r.field.name) r.lower
  let upper ← boundText (c.fields.resolve r.field.name) r.upper
  (c.fields.resolve r.field.name).rangeQuery ⟨lower, upper, r.includesLower, r.includesUpper⟩

def intervalTruth (r : Interval Expr) : Bool := r.occur.verdict (matchesLeaf leaf (c.intervalQuery r))

def evaluatesToTrue (e : Expr) : Bool :=
  match e.evaluate with
  | .ok (.bool b) => b
  | _ => false

/-- The classical reading of a lowered expression. -/
def truth : Expr → Bool
  | .predicate p => c.predicateTruth leaf p
  | .interval r => c.intervalTruth leaf r
  | .binary .and left right => truth left && truth right
  | .binary .or left right => truth left || truth right
  | .unary .not operand => !truth operand
  | .boosted target _ => truth target
  | e => evaluatesToTrue e

variable {c leaf}

theorem withBoost_matchesUnder (boost : Number.Binary32) (q : Query) :
    (withBoost boost q).matchesUnder leaf = q.matchesUnder leaf := by
  unfold withBoost
  split
  · rfl
  · exact Query.withBoost_matchesUnder boost q

theorem fieldFragment_verdict {name : String} {p : Predicate Expr} {f : Fragment}
    (h : c.fieldFragment name p = .ok f) : f.verdict leaf = p.occur.verdict (c.fieldTruth leaf p name) := by
  unfold fieldTruth leafQuery hasNullPattern
  obtain ⟨value, hv, ⟨hn, rfl⟩ | ⟨hn, text, q, ht, hq, rfl⟩⟩ := fieldFragment_ok h
  · rw [hv, ok_bind]
    simp only [hn, if_true]
    change p.occur.negate.verdict _ = p.occur.verdict (_ != true)
    rw [Occur.verdict_negate, Bool.bne_true]
    cases p.occur <;> rfl
  · rw [hv, ok_bind, if_neg (by simp [hn]), ht, ok_bind, hq]
    simp only [hn, matchesLeaf, Fragment.verdict, withBoost_matchesUnder, Bool.bne_false]

theorem fieldFragments_verdict {p : Predicate Expr} {names : List String} {parts : List Fragment}
    (h : names.mapM (fun name => c.fieldFragment name { p with occur := .must }) = .ok parts) :
    parts.any (·.verdict leaf) = names.any (c.fieldTruth leaf p) := by
  replace h := mapM_eq_ok h
  induction h with
  | nil => rfl
  | cons hf _ ih =>
    rw [List.any_cons, List.any_cons, ih, fieldFragment_verdict hf]
    rfl

theorem predicateFragment_verdict {p : Predicate Expr} {f : Fragment}
    (h : c.predicateFragment p = .ok f) : f.verdict leaf = c.predicateTruth leaf p := by
  unfold predicateTruth
  obtain ⟨ha, h⟩ | ⟨ha, _, parts, hp, rfl⟩ := predicateFragment_ok h
  · rw [if_neg (by simp [ha])]
    exact fieldFragment_verdict h
  · rw [if_pos ha, Fragment.alternatives_verdict, fieldFragments_verdict hp]

theorem intervalFragment_verdict {r : Interval Expr} {f : Fragment}
    (h : c.intervalFragment r = .ok f) : f.verdict leaf = c.intervalTruth leaf r := by
  obtain ⟨lower, upper, q, hl, hu, hq, rfl⟩ := intervalFragment_ok h
  unfold intervalTruth intervalQuery
  simp only [hl, hu, hq, ok_bind, matchesLeaf, Fragment.verdict, withBoost_matchesUnder]

theorem closedFragment_verdict {e : Expr} {f : Fragment} (h : closedFragment e = .ok f) :
    f.verdict leaf = evaluatesToTrue e := by
  obtain ⟨b, hb, rfl⟩ := closedFragment_ok h
  rw [evaluatesToTrue, hb]
  cases b <;> rfl

theorem truth_rest {e : Expr} (h : Condition.ofExpr e = .rest e) : c.truth leaf e = evaluatesToTrue e := by
  cases e with
  | predicate | interval | boosted => cases h
  | binary op =>
    cases op with
    | and | or => cases h
    | _ => rfl
  | unary op =>
    cases op with
    | not => cases h
    | negate => rfl
  | _ => rfl

variable (c leaf) in
/-- The fragment of an expression decides its truth, and so do the fragments of its conjuncts and of its
disjuncts taken together. -/
theorem verdictLaws : BuildLaws c (fun e f => f.verdict leaf = c.truth leaf e)
    (fun e parts => parts ≠ [] ∧ parts.all (·.verdict leaf) = c.truth leaf e)
    (fun e parts => parts.any (·.verdict leaf) = c.truth leaf e) where
  predicate := predicateFragment_verdict
  interval := intervalFragment_verdict
  closed hr h := by rw [closedFragment_verdict h, truth_rest hr]
  not h := by rw [Fragment.negated_verdict, h, truth]
  boosted boost h := by rw [Fragment.boostedBy_verdict, h, truth]
  every_single h := by simp [h]
  every_append hl hr := ⟨by simp [hl.1], by rw [List.all_append, hl.2, hr.2, truth]⟩
  every_whole h := by rw [Fragment.conjunction_verdict leaf h.1, h.2]
  either_single h := by simp [h]
  either_append hl hr := by rw [List.any_append, hl, hr, truth]
  either_whole h := by
    rw [Fragment.alternatives_verdict, h]
    rfl

theorem expectBool_eq_ok {v : Value} {b : Bool} (h : v.expectBool = .ok b) : v = .bool b := by
  cases v with
  | bool x =>
    cases h
    rfl
  | _ => cases h

theorem applyUnary_not_eq_bool {v : Value} {b : Bool} (h : v.applyUnary .not = .ok (.bool b)) :
    v = .bool !b := by
  cases v with
  | bool x =>
    cases h
    simp
  | _ => cases h

theorem evaluatesToTrue_of_evaluate {e : Expr} {b : Bool} (h : e.evaluate = .ok (.bool b)) :
    evaluatesToTrue e = b := by
  rw [evaluatesToTrue, h]

/-- Truth agrees with evaluation wherever that gives a truth value. -/
theorem truth_of_evaluate : (e : Expr) → {b : Bool} → e.evaluate = .ok (.bool b) → c.truth leaf e = b
  | .binary op left right, b, h => by
    cases op with
    | and =>
      obtain ⟨v, hv, hl⟩ := bind_eq_ok.1 h
      obtain ⟨x, hx, hb⟩ := bind_eq_ok.1 hl
      obtain rfl := expectBool_eq_ok hx
      rw [truth, truth_of_evaluate left hv]
      cases x with
      | false =>
        cases hb
        rfl
      | true =>
        obtain ⟨w, hw, hr⟩ := bind_eq_ok.1 hb
        obtain ⟨y, hy, hb⟩ := bind_eq_ok.1 hr
        obtain rfl := expectBool_eq_ok hy
        cases hb
        rw [truth_of_evaluate right hw, Bool.true_and]
    | or =>
      obtain ⟨v, hv, hl⟩ := bind_eq_ok.1 h
      obtain ⟨x, hx, hb⟩ := bind_eq_ok.1 hl
      obtain rfl := expectBool_eq_ok hx
      rw [truth, truth_of_evaluate left hv]
      cases x with
      | true =>
        cases hb
        rfl
      | false =>
        obtain ⟨w, hw, hr⟩ := bind_eq_ok.1 hb
        obtain ⟨y, hy, hb⟩ := bind_eq_ok.1 hr
        obtain rfl := expectBool_eq_ok hy
        cases hb
        rw [truth_of_evaluate right hw, Bool.false_or]
    | _ => exact evaluatesToTrue_of_evaluate h
  | .unary op operand, b, h => by
    cases op with
    | not =>
      obtain ⟨v, hv, h⟩ := bind_eq_ok.1 h
      obtain rfl := applyUnary_not_eq_bool h
      rw [truth, truth_of_evaluate operand hv, Bool.not_not]
    | negate => exact evaluatesToTrue_of_evaluate h
  | .predicate _, _, h | .interval _, _, h | .boosted _ _, _, h => by cases h
  | .constant _, _, h | .captured _, _, h | .source _, _, h | .member _ _ _, _, h | .call _ _ _, _, h
  | .invoke _ _, _, h | .conditional _ _ _, _, h | .convert _ _, _, h | .field _, _, h
  | .relevance, _, h | .anyField, _, h => evaluatesToTrue_of_evaluate h

theorem build_verdict {e : Expr} {f : Fragment} (h : c.build e = .ok f) (leaf : Query → Bool) :
    f.verdict leaf = c.truth leaf e ∧
      ∀ b, e.evaluate = .ok (.bool b) → f.verdict leaf = b := by
  have ht : f.verdict leaf = c.truth leaf e := (verdictLaws c leaf).build h
  refine ⟨ht, ?_⟩
  intro b hb
  rw [ht, truth_of_evaluate e hb]

section

open IndexQuery.Expr

/-- A negated conjunction of a test that no field is "x" with a boosted test that there is no title. -/
def untitledWithout : Expr :=
  unary .not (binary .and
    (predicate ⟨.any, constant (.text "x"), .mustNot, .exact, .one .single, false, none⟩)
    (boosted (binary .or
      (predicate (Predicate.ofField (.ofName "title" .text) .exact (constant .null)))
      (constant (.bool false))) (.ofNat .single 2)))

def keywordPair : Compiler := ⟨(FieldRegistry.empty.insertKeywords ["title", "body"]).provider, .standard⟩

theorem build_verdict_untitled : ∃ f, keywordPair.build untitledWithout = .ok f ∧ ∀ leaf, f.verdict leaf =
    !(!(leaf (.term "title" "x" Query.unboosted) || leaf (.term "body" "x" Query.unboosted)) &&
      !leaf (.wildcard "title" "*" Query.unboosted)) := by
  obtain ⟨f, hf⟩ : ∃ f, keywordPair.build untitledWithout = .ok f := ⟨_, rfl⟩
  refine ⟨f, hf, ?_⟩
  intro leaf
  rw [(build_verdict hf leaf).1]
  have ht : keywordPair.truth leaf untitledWithout =
      !(!((leaf (.term "title" "x" Query.unboosted) != false) ||
          ((leaf (.term "body" "x" Query.unboosted) != false) || false)) &&
        ((leaf (.wildcard "title" "*" Query.unboosted) != true) || false)) := rfl
  rw [ht, Bool.bne_false, Bool.bne_false, Bool.bne_true, Bool.or_false, Bool.or_false]

end

end Compiler

end IndexQuery
