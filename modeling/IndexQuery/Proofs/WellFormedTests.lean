import IndexQuery.Proofs.RoundSteps
import IndexQuery.Proofs.TestTree

set_option autoImplicit false

/-!
The index tests that lowering makes are well formed.

A test is made by a pattern call or a comparison, annotated, negated, and merged with another, in any of many rounds.
Each step of a round keeps the tests of a tree well formed (`keepsTests_stepClosed`), so that those of a lowered tree
are, if there were none before (`lower_wellFormed`).
-/

namespace IndexQuery

namespace Expr

def isIndexNode : Expr → Bool
  | field _ | predicate _ | interval _ | relevance | anyField | boosted _ _ => true
  | _ => false

/-- A value of its own: no part of it reads the document, is made by lowering or annotates a query. -/
structure IsClosed (e : Expr) : Prop where
  evaluable : e.isEvaluable = true
  parts : ∀ n ∈ e.postorder, n.isDocumentNode = false ∧ n.isIndexNode = false ∧ n.isAnnotation = false

theorem isDocumentNode_of_isIndexNode {n : Expr} (h : n.isIndexNode = true) : n.isDocumentNode = true := by
  cases n <;> first | rfl | cases h

theorem isClosed_of_isEvaluable {e : Expr} (h : e.isEvaluable = true) : e.IsClosed := by
  refine ⟨h, ?_⟩
  rw [isEvaluable, referencesDocument, Bool.and_eq_true, Bool.not_eq_true', Bool.not_eq_true', any_eq_false,
    any_eq_false] at h
  intro n hn
  refine ⟨h.1 n hn, ?_, h.2 n hn⟩
  have hd := h.1 n hn
  rw [← Bool.not_eq_true] at hd ⊢
  exact fun hi => hd (isDocumentNode_of_isIndexNode hi)

end Expr

open IndexQuery.Expr

structure Predicate.WellFormed (p : Predicate Expr) : Prop where
  occur : p.occur = .must ∨ p.occur = .mustNot
  pattern : p.pattern.IsClosed
  similarity : p.similarity ≠ none → p.matching = .similar

structure Interval.WellFormed (r : Interval Expr) : Prop where
  occur : r.occur = .must ∨ r.occur = .mustNot
  lower : ∃ bound, r.lower = some bound ∧ bound.IsClosed
  upper : ∃ bound, r.upper = some bound ∧ bound.IsClosed
  lowerKind : r.lowerKind = .greater ∨ r.lowerKind = .greaterOrEqual
  upperKind : r.upperKind = .less ∨ r.upperKind = .lessOrEqual

theorem Occur.negate_cases (occur : Occur) : occur.negate = .must ∨ occur.negate = .mustNot := by
  cases occur <;> simp [negate]

theorem Predicate.WellFormed.negated {p : Predicate Expr} (h : p.WellFormed) : p.negated.WellFormed :=
  ⟨p.occur.negate_cases, h.pattern, h.similarity⟩

theorem Interval.WellFormed.negated {r : Interval Expr} (h : r.WellFormed) : r.negated.WellFormed :=
  ⟨r.occur.negate_cases, h.lower, h.upper, h.lowerKind, h.upperKind⟩

theorem Matching.isLowerBound_cases {m : Matching} (h : m.isLowerBound = true) :
    m = .greater ∨ m = .greaterOrEqual := by
  cases m <;> simp [isLowerBound] at h ⊢

theorem Matching.isUpperBound_cases {m : Matching} (h : m.isUpperBound = true) :
    m = .less ∨ m = .lessOrEqual := by
  cases m <;> simp [isUpperBound] at h ⊢

namespace Expr

def IsSound : Expr → Prop
  | predicate p => p.WellFormed
  | interval r => r.WellFormed
  | _ => True

def WellTested (e : Expr) : Prop := ∀ n ∈ e.postorder, n.IsSound

theorem wellTested_iff (e : Expr) : e.WellTested ↔ (∀ c ∈ e.children, c.WellTested) ∧ e.IsSound := by
  unfold WellTested
  rw [postorder_eq, List.forall_mem_append, List.forall_mem_singleton, List.forall_mem_flatMap]

section Parts

variable {a b c : Expr} {es : List Expr}

@[simp] theorem wellTested_constant (v : Value) : (constant v).WellTested :=
  (wellTested_iff _).2 (by simp [children, IsSound])

@[simp] theorem wellTested_field (ref : FieldRef) : (field ref).WellTested :=
  (wellTested_iff _).2 (by simp [children, IsSound])

@[simp] theorem wellTested_relevance : relevance.WellTested :=
  (wellTested_iff _).2 (by simp [children, IsSound])

@[simp] theorem wellTested_anyField : anyField.WellTested :=
  (wellTested_iff _).2 (by simp [children, IsSound])

@[simp] theorem wellTested_predicate {p : Predicate Expr} : (predicate p).WellTested ↔ p.WellFormed :=
  (wellTested_iff _).trans (by simp [children, IsSound])

@[simp] theorem wellTested_interval {r : Interval Expr} : (interval r).WellTested ↔ r.WellFormed :=
  (wellTested_iff _).trans (by simp [children, IsSound])

@[simp] theorem wellTested_member {name : String} {kind : ScalarKind} :
    (member a name kind).WellTested ↔ a.WellTested :=
  (wellTested_iff _).trans (by simp [children, IsSound])

@[simp] theorem wellTested_call {method : Method} :
    (call a method es).WellTested ↔ a.WellTested ∧ ∀ e ∈ es, e.WellTested :=
  (wellTested_iff _).trans (by simp [children, IsSound])

@[simp] theorem wellTested_invoke {method : Method} :
    (invoke method es).WellTested ↔ ∀ e ∈ es, e.WellTested :=
  (wellTested_iff _).trans (by simp [children, IsSound])

@[simp] theorem wellTested_unary {op : UnaryOp} : (unary op a).WellTested ↔ a.WellTested :=
  (wellTested_iff _).trans (by simp [children, IsSound])

@[simp] theorem wellTested_binary {op : BinaryOp} :
    (binary op a b).WellTested ↔ a.WellTested ∧ b.WellTested :=
  (wellTested_iff _).trans (by simp [children, IsSound])

@[simp] theorem wellTested_conditional :
    (conditional a b c).WellTested ↔ a.WellTested ∧ b.WellTested ∧ c.WellTested :=
  (wellTested_iff _).trans (by simp [children, IsSound])

@[simp] theorem wellTested_convert {kind : ScalarKind} : (convert a kind).WellTested ↔ a.WellTested :=
  (wellTested_iff _).trans (by simp [children, IsSound])

@[simp] theorem wellTested_boosted {boost : Number.Binary32} : (boosted a boost).WellTested ↔ a.WellTested :=
  (wellTested_iff _).trans (by simp [children, IsSound])

end Parts

def KeepsTests (e e' : Expr) : Prop := e.WellTested → e'.WellTested

theorem keepsTests_congruent : Congruent KeepsTests where
  refl _ h := h
  trans hab hbc h := hbc (hab h)
  member _ _ h := by simpa [KeepsTests] using h
  call _ ht ha := by
    intro h
    rw [wellTested_call] at h ⊢
    exact ⟨ht h.1, forall_mem_of_forall₂ ha h.2⟩
  invoke _ ha := by
    intro h
    rw [wellTested_invoke] at h ⊢
    exact forall_mem_of_forall₂ ha h
  unary _ h := by simpa [KeepsTests] using h
  binary _ ha hb := by
    intro h
    rw [wellTested_binary] at h ⊢
    exact ⟨ha h.1, hb h.2⟩
  conditional ha hb hc := by
    intro h
    rw [wellTested_conditional] at h ⊢
    exact ⟨ha h.1, hb h.2.1, hc h.2.2⟩
  convert _ h := by simpa [KeepsTests] using h
  boosted _ h := by simpa [KeepsTests] using h

end Expr

namespace Lowering

/-! ### Passes that make no tests -/

theorem memberNode_keepsTests {e e' : Expr} (h : memberNode e = .ok e') : KeepsTests e e' := by
  intro he
  unfold memberNode at h
  split at h
  · cases h
    simp
  · cases h
    simp
  · obtain ⟨ref, rfl⟩ := namedField_field h
    simp
  · cases h
    exact he

theorem marker?_wellTested {method : Method} {e : Expr} (h : marker? method = some e) : e.WellTested := by
  unfold marker? at h
  split at h
  · cases h
    simp
  · cases h
    simp
  · cases h

theorem markerNode_keepsTests (e : Expr) : KeepsTests e (markerNode e) := by
  intro he
  unfold markerNode
  split
  · rename_i name method
    cases hm : marker? method with
    | none => exact he
    | some m => exact marker?_wellTested hm
  · rename_i method name
    cases hm : marker? method with
    | none => exact he
    | some m => exact marker?_wellTested hm
  · exact he

theorem collapse_keepsTests (op : BinaryOp) (left right : Expr) :
    KeepsTests (binary op left right) (collapse op left right) := by
  intro he
  have hparts := wellTested_binary.1 he
  unfold collapse
  split
  · exact he
  · split
    · exact hparts.2
    · split
      · exact hparts.1
      · exact he

theorem redundantNode_keepsTests (e : Expr) : KeepsTests e (redundantNode e) := by
  intro he
  unfold redundantNode
  split
  · split
    · exact (wellTested_call.1 he).1
    · exact he
  · split
    · exact (wellTested_call.1 he).1
    · exact he
  · simp
  · simp
  · exact collapse_keepsTests _ _ _ he
  · exact he

theorem nullGuardNode_keepsTests (e : Expr) : KeepsTests e (nullGuardNode e) := by
  intro he
  unfold nullGuardNode
  split
  · rename_i test ifTrue ifFalse
    have hparts := wellTested_conditional.1 he
    cases hg : guarded? test ifTrue ifFalse with
    | none => exact he
    | some v =>
      rw [Option.getD_some]
      rcases guarded?_branch hg with rfl | rfl
      · exact hparts.2.1
      · exact hparts.2.2
  · exact he

theorem fieldBoostNode_keepsTests {e e' : Expr} (h : fieldBoostNode e = .ok e') : KeepsTests e e' := by
  intro he
  unfold fieldBoostNode at h
  split at h
  · split at h
    · obtain ⟨x, _, hp⟩ := bind_eq_ok.1 h
      obtain rfl := pure_eq_ok.1 hp
      simp
    · cases h
      exact he
  · cases h
    exact he

/-! ### Passes that make tests, annotate, negate and merge them -/

theorem patternArguments_similarity {method : Method} {matching : Matching} {args : List Expr} {pattern : Expr}
    {similarity : Option Number.Binary32} (h : patternArguments method matching args = .ok (pattern, similarity)) :
    similarity ≠ none → matching = .similar := by
  intro hs
  unfold patternArguments at h
  split at h
  · rfl
  · cases h
    exact absurd rfl hs
  · cases h

theorem checkPattern_evaluable {method : Method} {pattern : Expr} (h : checkPattern method pattern = .ok ()) :
    pattern.isEvaluable = true := by
  unfold checkPattern at h
  split at h
  · assumption
  · split at h
    · obtain ⟨_, _, h⟩ := bind_eq_ok.1 h
      cases h
    · cases h

theorem patternTest_wellTested {ref : FieldRef} {method : Method} {matching : Matching} {args : List Expr} {e : Expr}
    (h : patternTest ref method matching args = .ok e) : e.WellTested := by
  obtain ⟨⟨pattern, similarity⟩, hargs, h⟩ := bind_eq_ok.1 h
  obtain ⟨_, hcheck, h⟩ := bind_eq_ok.1 h
  obtain rfl := pure_eq_ok.1 h
  rw [wellTested_predicate]
  exact ⟨.inl rfl, isClosed_of_isEvaluable (checkPattern_evaluable hcheck), patternArguments_similarity hargs⟩

theorem threeWay?_wellTested {e a b : Expr} (h : threeWay? e = some (a, b)) (he : e.WellTested) :
    a.WellTested ∧ b.WellTested := by
  unfold threeWay? at h
  split at h
  · cases h
    simpa using he
  · cases h
    simpa using he
  · cases h

theorem againstZero_keepsTests (op : BinaryOp) (left right : Expr) :
    KeepsTests (binary op left right) (againstZero op left right) := by
  intro he
  have hparts := wellTested_binary.1 he
  unfold againstZero
  split
  · cases hw : threeWay? left with
    | none => exact he
    | some ab => exact wellTested_binary.2 (threeWay?_wellTested hw hparts.1)
  · split
    · cases hw : threeWay? right with
      | none => exact he
      | some ab => exact wellTested_binary.2 (threeWay?_wellTested hw hparts.2)
    · exact he

theorem patternNode_keepsTests {e e' : Expr} (h : patternNode e = .ok e') : KeepsTests e e' := by
  intro he
  unfold patternNode at h
  split at h
  · split at h
    · exact patternTest_wellTested h
    · cases h
      exact he
  · cases h
    split
    · exact againstZero_keepsTests _ _ _ he
    · exact he
  · cases h
    exact he

theorem comparison?_occur {op : BinaryOp} {matching : Matching} {occur : Occur}
    (h : comparison? op = some (matching, occur)) : occur = .must ∨ occur = .mustNot := by
  cases op <;> cases h <;> simp

theorem comparisonTest_keepsTests {op : BinaryOp} {matching : Matching} {occur : Occur}
    (ho : occur = .must ∨ occur = .mustNot) (left right : Expr) :
    KeepsTests (binary op left right) (comparisonTest op matching occur left right) := by
  intro he
  unfold comparisonTest
  split
  · have hr : right.isEvaluable = true := by assumption
    exact wellTested_predicate.2 ⟨ho, isClosed_of_isEvaluable hr, fun h => absurd rfl h⟩
  · have hl : left.isEvaluable = true := by assumption
    exact wellTested_predicate.2 ⟨ho, isClosed_of_isEvaluable hl, fun h => absurd rfl h⟩
  · exact he

theorem otherOperator_keepsTests {op : BinaryOp} {left right e : Expr} (h : otherOperator op left right = .ok e) :
    KeepsTests (binary op left right) e := by
  intro he
  have hparts := wellTested_binary.1 he
  simp only [otherOperator] at h
  split at h
  · cases h
    exact he
  · cases h
    exact he
  · cases h
    exact wellTested_binary.2 hparts
  · cases h
    exact wellTested_binary.2 hparts
  · split at h
    · cases h
    · cases h
      exact he

theorem comparisonNode_keepsTests {e e' : Expr} (h : comparisonNode e = .ok e') : KeepsTests e e' := by
  unfold comparisonNode at h
  split at h
  · split at h
    · rename_i hc
      cases h
      exact comparisonTest_keepsTests (comparison?_occur hc) _ _
    · exact otherOperator_keepsTests h
  · cases h
    exact keepsTests_congruent.refl _

theorem negated?_wellTested {e n : Expr} (h : negated? e = some n) (he : e.WellTested) : n.WellTested := by
  unfold negated? at h
  split at h
  · cases h
    exact wellTested_predicate.2 (wellTested_predicate.1 he).negated
  · cases h
    exact wellTested_interval.2 (wellTested_interval.1 he).negated
  · cases h

theorem polarize_wellTested (op : BinaryOp) (value : Bool) {test : Expr} (ht : test.WellTested) :
    (polarize op value test).WellTested := by
  unfold polarize
  split
  · exact ht
  · cases hn : negated? test with
    | none => exact ht
    | some n => exact negated?_wellTested hn ht

theorem polarized_keepsTests (op : BinaryOp) (left right : Expr) :
    KeepsTests (binary op left right) (polarized op left right) := by
  intro he
  have hparts := wellTested_binary.1 he
  unfold polarized
  split
  · split
    · exact polarize_wellTested _ _ hparts.1
    · exact he
  · split
    · split
      · exact polarize_wellTested _ _ hparts.2
      · exact he
    · exact he

theorem polarityNode_keepsTests (e : Expr) : KeepsTests e (polarityNode e) := by
  intro he
  unfold polarityNode
  split
  · rename_i operand
    cases hn : negated? operand with
    | none => exact he
    | some n => exact negated?_wellTested hn (wellTested_unary.1 he)
  · exact polarized_keepsTests _ _ _ he
  · exact polarized_keepsTests _ _ _ he
  · exact he

theorem attachBoost_keepsTests {target e : Expr} {amount : Number.Binary32} (h : attachBoost target amount = .ok e) :
    KeepsTests target e := by
  intro ht
  unfold attachBoost at h
  split at h
  · cases h
    obtain ⟨ho, hp, hs⟩ := wellTested_predicate.1 ht
    exact wellTested_predicate.2 ⟨ho, hp, hs⟩
  · cases h
    obtain ⟨ho, hl, hu, hlk, huk⟩ := wellTested_interval.1 ht
    exact wellTested_interval.2 ⟨ho, hl, hu, hlk, huk⟩
  · cases h
    simpa using ht
  · split at h
    · cases h
      simpa using ht
    · cases h

theorem allowSpecialNode_keepsTests (e : Expr) : KeepsTests e (allowSpecialNode e) := by
  intro he
  unfold allowSpecialNode
  split
  · obtain ⟨ho, hp, hs⟩ := wellTested_predicate.1 he
    exact wellTested_predicate.2 ⟨ho, hp, hs⟩
  · exact he

theorem allowSpecialIn_keepsTests {target e : Expr} (h : allowSpecialIn target = .ok e) : KeepsTests target e := by
  have hmap := keepsTests_congruent.mapUp allowSpecialNode allowSpecialNode_keepsTests
  unfold allowSpecialIn at h
  split at h
  · cases h
    exact allowSpecialNode_keepsTests _
  · cases h
    exact hmap _
  · split at h
    · cases h
      exact hmap _
    · cases h

theorem annotationNode_keepsTests {e e' : Expr} (h : annotationNode e = .ok e') : KeepsTests e e' := by
  intro he
  unfold annotationNode at h
  split at h
  · obtain ⟨x, _, h⟩ := bind_eq_ok.1 h
    exact attachBoost_keepsTests h (wellTested_call.1 he).1
  · exact allowSpecialIn_keepsTests h (wellTested_call.1 he).1
  · cases h
    exact he

theorem conjoined?_wellFormed {a b : Predicate Expr} {test : Interval Expr} (h : conjoined? a b = some test)
    (ha : a.WellFormed) (hb : b.WellFormed) : test.WellFormed := by
  have hmerge : ∀ {lower upper : Predicate Expr}, lower.WellFormed → upper.WellFormed →
      lower.matching.isLowerBound = true → upper.matching.isUpperBound = true → (between lower upper).WellFormed := by
    intro lower upper hl hu hlk huk
    exact ⟨.inl rfl, ⟨_, rfl, hl.pattern⟩, ⟨_, rfl, hu.pattern⟩, Matching.isLowerBound_cases hlk,
      Matching.isUpperBound_cases huk⟩
  obtain ⟨_, ⟨hlk, huk, rfl⟩ | ⟨hlk, huk, rfl⟩⟩ := conjoined?_cases h
  · exact hmerge ha hb hlk huk
  · exact hmerge hb ha hlk huk

/-- The bounds of a gap are the complements of those that leave it out. -/
theorem gap?_wellFormed {a b : Predicate Expr} {test : Interval Expr} (h : gap? a b = some test)
    (ha : a.WellFormed) (hb : b.WellFormed) : test.WellFormed := by
  have hmerge : ∀ {below above : Predicate Expr}, below.WellFormed → above.WellFormed →
      below.matching = .less → above.matching = .greater → (excluded below above).WellFormed := by
    intro below above hl hu hlk huk
    refine ⟨.inr rfl, ⟨_, rfl, hl.pattern⟩, ⟨_, rfl, hu.pattern⟩, .inr ?_, .inr ?_⟩
    · rw [excluded, hlk]
      rfl
    · rw [excluded, huk]
      rfl
  obtain ⟨_, ⟨hlk, huk, rfl⟩ | ⟨huk, hlk, rfl⟩⟩ := gap?_cases h
  · exact hmerge ha hb hlk huk
  · exact hmerge hb ha hlk huk

theorem boundsNode_keepsTests (e : Expr) : KeepsTests e (boundsNode e) := by
  intro he
  unfold boundsNode
  split
  · obtain ⟨ha, hb⟩ := wellTested_binary.1 he
    split
    · rename_i hm
      exact wellTested_interval.2
        (conjoined?_wellFormed hm (wellTested_predicate.1 ha) (wellTested_predicate.1 hb))
    · exact he
  · obtain ⟨ha, hb⟩ := wellTested_binary.1 he
    split
    · rename_i hm
      exact wellTested_interval.2 (gap?_wellFormed hm (wellTested_predicate.1 ha) (wellTested_predicate.1 hb))
    · exact he
  · exact he

/-! ### Rounds -/

theorem keepsTests_stepClosed : StepClosed KeepsTests where
  toCongruent := keepsTests_congruent
  members := memberNode_keepsTests
  markers := markerNode_keepsTests
  redundancies := redundantNode_keepsTests
  nullGuards := nullGuardNode_keepsTests
  fieldBoosts := fieldBoostNode_keepsTests
  patterns := patternNode_keepsTests
  flag _ _ := by simp [flagEquals]
  negatedFlag _ _ := by simp [flagEquals]
  doubleNegation _ h := wellTested_unary.1 (wellTested_unary.1 h)
  comparisons := comparisonNode_keepsTests
  polarity := polarityNode_keepsTests
  annotations := annotationNode_keepsTests
  bounds := boundsNode_keepsTests

theorem wellTested_of_host {e : Expr} (h : e.any isIndexNode = false) : e.WellTested := by
  rw [any_eq_false] at h
  intro n hn
  have hi := h n hn
  cases n with
  | predicate | interval => cases hi
  | _ => trivial

/-- Every test in a lowered expression is well formed, if the expression had no index nodes before. -/
theorem lower_wellFormed {settings : CompilerSettings} {role : Role} {e r : Expr}
    (hhost : e.any isIndexNode = false) (h : lower settings role e = .ok r) :
    (∀ p, predicate p ∈ r.postorder → p.WellFormed) ∧ (∀ t, interval t ∈ r.postorder → t.WellFormed) := by
  have hr := keepsTests_stepClosed.lower h (wellTested_of_host hhost)
  exact ⟨fun p hp => hr _ hp, fun t ht => hr _ ht⟩

/-- Not similar to a title within two edits, and either between two years, the later one written first, or outside of
them. -/
def mixedTests : Expr :=
  let title := member (source "doc") "title" .text
  let year := member (source "doc") "year" .int64
  binary .and (unary .not (call title .similarTo [constant (.text "lean"), constant (.int 2)]))
    (binary .or
      (binary .and (binary .greater (constant (.int 2010)) year) (binary .greaterOrEqual year (constant (.int 2000))))
      (binary .or (binary .less year (constant (.int 1990))) (binary .greater year (constant (.int 2020)))))

theorem lower_wellFormed_mixed : ∃ r p t, lower .standard .condition mixedTests = .ok r ∧
    predicate p ∈ r.postorder ∧ p.similarity ≠ none ∧ interval t ∈ r.postorder ∧ t.occur = .mustNot ∧
    p.WellFormed ∧ t.WellFormed := by
  have h : lower .standard .condition mixedTests = _ := lower_settled (k := 1) (by decide) rfl rfl
  rw [if_neg (by decide)] at h
  obtain ⟨hp, ht⟩ := lower_wellFormed (by decide) h
  exact ⟨_, _, _, h, .head _, by decide, .tail _ (.tail _ (.head _)), rfl, hp _ (.head _),
    ht _ (.tail _ (.tail _ (.head _)))⟩

end Lowering

end IndexQuery
