import IndexQuery.Proofs.FormulaLowering
import IndexQuery.Proofs.WildcardLanguage
import Mathlib.Data.String.Basic

set_option autoImplicit false

/-!
The truth of a lowered formula on a document.

Over keyword fields a test of a field holds the text of its value against the term of the document
(`Matching.accepts`). Changing a polarity and merging two bounds keep the truth of a tree of tests
(`TestTree.polarity_truth`, `TestTree.bounds_truth`), so that a lowered formula is true of a document exactly if
the formula holds of it (`Formula.lowered_truth`).
-/

namespace IndexQuery

open IndexQuery.Expr IndexQuery.Lowering

def FieldProvider.IsKeyword (fields : FieldProvider) : Prop :=
  ∀ name, ∃ sortKind, fields.resolve name = .keywordWith name sortKind

/-- What a test of a keyword field says of a term. -/
def Matching.accepts (settings : CompilerSettings) (near : Nearness) (text term : String) : Matching → Bool
  | exact => term == text
  | startsWith => text.toList.isPrefixOf term.toList
  | endsWith => Wildcard.accepts ("*" ++ Wildcard.escape text) term
  | contains => Wildcard.accepts ("*" ++ Wildcard.escape text ++ "*") term
  | similar => near text term (Similarity.edits text settings.similarity settings.maxEdits)
  | greater => decide (text < term)
  | greaterOrEqual => decide (text ≤ term)
  | less => decide (term < text)
  | lessOrEqual => decide (term ≤ text)

namespace Operand

variable (v : Operand)

theorem evaluate_expr : v.expr.evaluate = .ok v.value := by cases v <;> rfl

theorem isNull_value : v.value.isNull = false := by
  cases v with
  | constant value proper | captured _ proper =>
    simp only [Value.isProper, Bool.and_eq_true, Bool.not_eq_true'] at proper
    exact proper.1

theorem encode_value (name : String) (sortKind : Option SortKind) :
    (FieldMapping.keywordWith name sortKind).encode v.value = .ok v.text := by
  have h := v.isNull_value
  unfold text
  cases hv : v.value with
  | null =>
    rw [hv] at h
    cases h
  | _ => rfl

end Operand

namespace Compiler

variable {c : Compiler} {near : Nearness} {doc : Document}

theorem rangeOf_matchesUnder (name : String) (terms : TermRange) :
    (FieldMapping.rangeOf name terms).matchesUnder (doc.matchesLeaf near) = terms.contains (doc name) := rfl

/-- The native query of a plain test. -/
theorem testQuery_plain (hk : c.fields.IsKeyword) {p : Predicate Expr} (hp : p.IsPlain) (text : String) :
    ∃ q, c.testQuery (c.fields.resolve p.field.name) p.field.name p text = .ok q ∧
      q.field? = some p.field.name ∧ ∀ near doc, q.matchesUnder (Document.matchesLeaf near doc) =
        p.matching.accepts c.settings near text (doc p.field.name) := by
  obtain ⟨sortKind, hr⟩ := hk p.field.name
  rw [hr]
  unfold testQuery
  rw [hp.escaped, hp.standard]
  cases p.matching with
  | greater | greaterOrEqual =>
    refine ⟨_, rfl, rfl, fun near doc => ?_⟩
    rw [rangeOf_matchesUnder]
    simp [TermRange.contains, TermRange.above, Matching.accepts]
  | less | lessOrEqual =>
    refine ⟨_, rfl, rfl, fun near doc => ?_⟩
    rw [rangeOf_matchesUnder]
    simp [TermRange.contains, TermRange.below, Matching.accepts]
  | _ => exact ⟨_, rfl, rfl, fun near doc => rfl⟩

theorem predicateTruth_plain (hk : c.fields.IsKeyword) {p : Predicate Expr} (hp : p.IsPlain) {v : Operand}
    (hv : p.pattern = v.expr) : c.predicateTruth (doc.matchesLeaf near) p =
      p.occur.verdict (p.matching.accepts c.settings near v.text (doc p.field.name)) := by
  obtain ⟨sortKind, hr⟩ := hk p.field.name
  obtain ⟨q, hq, _, hm⟩ := testQuery_plain hk hp v.text
  have hl : c.leafQuery p.field.name p = .ok q := by
    rw [leafQuery, hv, v.evaluate_expr, ok_bind, if_neg (by simp [v.isNull_value]), hr, v.encode_value, ok_bind,
      ← hr, hq]
  rw [predicateTruth, hp.single, if_neg (by decide), fieldTruth, hl, hasNullPattern, hv, v.evaluate_expr]
  simp only [matchesLeaf, v.isNull_value, hm, Bool.bne_false]

theorem intervalQuery_plain (hk : c.fields.IsKeyword) {r : Interval Expr} {v w : Operand}
    (hv : r.lower = some v.expr) (hw : r.upper = some w.expr) : c.intervalQuery r =
      .ok (FieldMapping.rangeOf r.field.name ⟨some v.text, some w.text, r.includesLower, r.includesUpper⟩) := by
  obtain ⟨sortKind, hr⟩ := hk r.field.name
  have hb : ∀ u : Operand, boundText (c.fields.resolve r.field.name) (some u.expr) = .ok (some u.text) := by
    intro u
    rw [boundText, u.evaluate_expr, ok_bind, if_neg (by simp [u.isNull_value]), hr, u.encode_value]
    rfl
  rw [intervalQuery, hv, hw, hb, ok_bind, hb, ok_bind, hr]
  rfl

theorem intervalTruth_plain (hk : c.fields.IsKeyword) {r : Interval Expr} {v w : Operand}
    (hv : r.lower = some v.expr) (hw : r.upper = some w.expr) : c.intervalTruth (doc.matchesLeaf near) r =
      r.occur.verdict (TermRange.contains ⟨some v.text, some w.text, r.includesLower, r.includesUpper⟩
        (doc r.field.name)) := by
  rw [intervalTruth, intervalQuery_plain hk hv hw, matchesLeaf, rangeOf_matchesUnder]

end Compiler

/-! ### Polarities and bounds keep the truth -/

namespace TestTree

open IndexQuery.Compiler

variable {c : Compiler} {leaf : Query → Bool} {near : Nearness} {doc : Document} {e left right : Expr}

theorem truth_join {op : BinaryOp} (hop : op.isLogical = true) {left' right' : Expr}
    (hl : c.truth leaf left' = c.truth leaf left) (hr : c.truth leaf right' = c.truth leaf right) :
    c.truth leaf (binary op left' right') = c.truth leaf (binary op left right) := by
  rcases BinaryOp.logical_cases hop with rfl | rfl <;> rw [truth, truth, hl, hr]

theorem negated?_truth {operand test : Expr} (h : negated? operand = some test) :
    c.truth leaf test = !c.truth leaf operand := by
  unfold negated? at h
  split at h
  · obtain rfl := Option.some.inj h
    exact Occur.verdict_negate _ _
  · obtain rfl := Option.some.inj h
    exact Occur.verdict_negate _ _
  · cases h

theorem polarity_truth (h : TestTree e) : c.truth leaf (e.mapUp polarityNode) = c.truth leaf e := by
  induction h with
  | predicate | interval => rfl
  | join hop hl hr ihl ihr =>
    rw [polarity_join hop]
    exact truth_join hop ihl ihr
  | @not operand h hn ih =>
    rw [mapUp_unary]
    rcases polarityNode_not (operand.mapUp polarityNode) with hp | ⟨test, ht, hp, _⟩
    · rw [hp, truth, truth, ih]
    · rw [hp, negated?_truth ht, ih, truth]

theorem mergeable_iff {a b : Predicate Expr} : mergeable a b = true ↔
    a.field.name = b.field.name ∧ a.occur = .must ∧ b.occur = .must := by
  simp [mergeable, FieldRef.same, and_assoc]

theorem mergeable_symm {a b : Predicate Expr} (h : mergeable a b = true) : mergeable b a = true := by
  obtain ⟨hname, ha, hb⟩ := mergeable_iff.1 h
  exact mergeable_iff.2 ⟨hname.symm, hb, ha⟩

/-- A term lies between two bounds if it satisfies both. -/
theorem between_truth (hk : c.fields.IsKeyword) {a b : Predicate Expr} (ha : a.IsPlain) (hb : b.IsPlain)
    (hm : mergeable a b = true) (hla : a.matching.isLowerBound = true) (hub : b.matching.isUpperBound = true) :
    c.intervalTruth (doc.matchesLeaf near) (between a b) =
      (c.predicateTruth (doc.matchesLeaf near) a && c.predicateTruth (doc.matchesLeaf near) b) := by
  obtain ⟨v, hv⟩ := ha.known
  obtain ⟨w, hw⟩ := hb.known
  obtain ⟨hname, hoa, hob⟩ := mergeable_iff.1 hm
  rw [intervalTruth_plain hk (v := v) (w := w) (by rw [← hv]; rfl) (by rw [← hw]; rfl),
    predicateTruth_plain hk ha hv, predicateTruth_plain hk hb hw, hoa, hob, ← hname]
  change TermRange.contains ⟨some v.text, some w.text, a.matching == .greaterOrEqual, b.matching == .lessOrEqual⟩
    (doc a.field.name) = (a.matching.accepts c.settings near v.text (doc a.field.name) &&
      b.matching.accepts c.settings near w.text (doc a.field.name))
  cases hma : a.matching <;> rw [hma] at hla <;> cases hla <;>
    cases hmb : b.matching <;> rw [hmb] at hub <;> cases hub <;> rfl

/-- A term lies below one bound or above another if it is not between them, the bounds included. -/
theorem excluded_truth (hk : c.fields.IsKeyword) {a b : Predicate Expr} (ha : a.IsPlain) (hb : b.IsPlain)
    (hm : mergeable a b = true) (hla : a.matching = .less) (hgb : b.matching = .greater) :
    c.intervalTruth (doc.matchesLeaf near) (excluded a b) =
      (c.predicateTruth (doc.matchesLeaf near) a || c.predicateTruth (doc.matchesLeaf near) b) := by
  obtain ⟨v, hv⟩ := ha.known
  obtain ⟨w, hw⟩ := hb.known
  obtain ⟨hname, hoa, hob⟩ := mergeable_iff.1 hm
  rw [intervalTruth_plain hk (v := v) (w := w) (by rw [← hv]; rfl) (by rw [← hw]; rfl),
    predicateTruth_plain hk ha hv, predicateTruth_plain hk hb hw, hoa, hob, ← hname]
  change (!TermRange.contains ⟨some v.text, some w.text, a.matching.complement == .greaterOrEqual,
    b.matching.complement == .lessOrEqual⟩ (doc a.field.name)) =
      (a.matching.accepts c.settings near v.text (doc a.field.name) ||
        b.matching.accepts c.settings near w.text (doc a.field.name))
  rw [hla, hgb]
  change (!(decide (v.text ≤ doc a.field.name) && decide (doc a.field.name ≤ w.text))) =
    (decide (doc a.field.name < v.text) || decide (w.text < doc a.field.name))
  rw [Bool.not_and, ← decide_not, ← decide_not]
  simp only [not_le]

theorem merge_truth (hk : c.fields.IsKeyword) {op : BinaryOp} (hop : op.isLogical = true) (hl : TestTree left)
    (hr : TestTree right) : c.truth (doc.matchesLeaf near) (boundsNode (binary op left right)) =
      c.truth (doc.matchesLeaf near) (binary op left right) := by
  rcases boundsNode_join hop left right with hb | ⟨a, b, test, rfl, rfl, hb, hm⟩
  · rw [hb]
  · rw [hb, truth]
    have hpa := hl.of_predicate
    have hpb := hr.of_predicate
    rcases hm with ⟨rfl, hm⟩ | ⟨rfl, hm⟩
    · rw [truth, truth, truth]
      obtain ⟨hmerge, ⟨hlow, hup, rfl⟩ | ⟨hlow, hup, rfl⟩⟩ := conjoined?_cases hm
      · exact between_truth hk hpa hpb hmerge hlow hup
      · rw [between_truth hk hpb hpa (mergeable_symm hmerge) hlow hup, Bool.and_comm]
    · rw [truth, truth, truth]
      obtain ⟨hmerge, ⟨hless, hgreater, rfl⟩ | ⟨hgreater, hless, rfl⟩⟩ := gap?_cases hm
      · exact excluded_truth hk hpa hpb hmerge hless hgreater
      · rw [excluded_truth hk hpb hpa (mergeable_symm hmerge) hless hgreater, Bool.or_comm]

theorem bounds_truth (hk : c.fields.IsKeyword) (h : TestTree e) :
    c.truth (doc.matchesLeaf near) (e.mapUp boundsNode) = c.truth (doc.matchesLeaf near) e := by
  induction h with
  | predicate | interval => rfl
  | join hop hl hr ihl ihr =>
    rw [mapUp_binary, merge_truth hk hop hl.bounds hr.bounds]
    exact truth_join hop ihl ihr
  | @not operand h hn ih =>
    have hm : (unary .not operand).mapUp boundsNode = unary .not (operand.mapUp boundsNode) := rfl
    rw [hm, truth, truth, ih]

end TestTree

/-! ### Tests say what their atoms mean -/

theorem BinaryOp.swapped_holdsOf (op : BinaryOp) (order : Ordering) :
    op.swapped.holdsOf order = op.holdsOf order.swap := by
  cases op <;> cases order <;> rfl

/-- The verdict of a comparison, with the field on the left and with the value on the left. -/
theorem comparison_verdict {op : BinaryOp} {matching : Matching} {occur : Occur}
    (h : comparison? op = some (matching, occur)) (settings : CompilerSettings) (near : Nearness)
    (text term : String) :
    occur.verdict (matching.accepts settings near text term) = op.holdsOf (compare term text) ∧
    occur.verdict (matching.swapped.accepts settings near text term) = op.holdsOf (compare text term) := by
  have hlt : ∀ a b : String, decide (a < b) = (compare a b == .lt) := by
    intro a b
    rw [Bool.eq_iff_iff, beq_iff_eq, compare_lt_iff_lt, decide_eq_true_iff]
  have hgt : ∀ a b : String, decide (a < b) = (compare b a == .gt) := by
    intro a b
    rw [Bool.eq_iff_iff, beq_iff_eq, compare_gt_iff_gt, decide_eq_true_iff]
  have hle : ∀ a b : String, decide (a ≤ b) = (compare a b != .gt) := by
    intro a b
    rw [bne, ← hgt, ← decide_not, decide_eq_decide, not_lt]
  have hge : ∀ a b : String, decide (a ≤ b) = (compare b a != .lt) := by
    intro a b
    rw [bne, ← hlt, ← decide_not, decide_eq_decide, not_lt]
  have heq : ∀ a b : String, (a == b) = (compare a b == .eq) := by
    intro a b
    rw [Bool.eq_iff_iff, beq_iff_eq, beq_iff_eq, compare_eq_iff_eq]
  have hcomm : (term == text) = (text == term) := Bool.beq_comm
  cases op <;> cases h
  case equal => exact ⟨heq term text, hcomm.trans (heq text term)⟩
  case notEqual => exact ⟨congrArg not (heq term text), congrArg not (hcomm.trans (heq text term))⟩
  case less => exact ⟨hlt term text, hlt text term⟩
  case lessOrEqual => exact ⟨hle term text, hle text term⟩
  case greater => exact ⟨hgt text term, hgt term text⟩
  case greaterOrEqual => exact ⟨hge text term, hge term text⟩

namespace Atom

variable {c : Compiler} {near : Nearness} {doc : Document}

theorem comparison_truth (hk : c.fields.IsKeyword) (style : Style) {op : BinaryOp}
    (hop : op.isComparison = true) (m : Member) (v : Operand) :
    c.predicateTruth (doc.matchesLeaf near) (comparison style op hop m v).test =
      op.holdsOf (style.order (doc m.name) v.text) := by
  have hswap : ∀ order : Ordering, (style.op op).holdsOf order =
      op.holdsOf (if style.zeroFirst then order.swap else order) := by
    intro order
    unfold Style.op
    split
    · exact op.swapped_holdsOf order
    · rfl
  obtain ⟨⟨matching, occur⟩, hc⟩ : ∃ x, comparison? (style.op op) = some x := by
    have h := style.op_isComparison hop
    generalize style.op op = op' at h
    cases op' with
    | equal | notEqual | less | lessOrEqual | greater | greaterOrEqual => exact ⟨_, rfl⟩
    | _ => cases h
  obtain ⟨hfield, hvalue⟩ := comparison_verdict hc c.settings near v.text (doc m.name)
  rw [Compiler.predicateTruth_plain hk (test_isPlain _) (v := v) rfl]
  have ht : (comparison style op hop m v).test =
      { Predicate.ofField m.path.ref (if style.valueFirst then matching.swapped else matching) v.expr with
        occur := occur } := by
    simp [test, comparisonPredicate, hc]
  rw [ht]
  change occur.verdict (Matching.accepts c.settings near v.text (doc m.name)
    (if style.valueFirst then matching.swapped else matching)) = _
  unfold Style.order
  cases style.valueFirst with
  | false => exact hfield.trans (hswap _)
  | true => exact hvalue.trans (hswap _)

/-- A plain test of a pattern holds if the term has the pattern. -/
theorem pattern_accepts (kind : PatternKind) (near : Nearness) (text term : String) :
    kind.matching.accepts .standard near text term = true ↔ kind.Holds near text term := by
  cases kind with
  | startsWith => exact List.isPrefixOf_iff_prefix
  | endsWith => exact Wildcard.accepts_ending text term
  | contains => exact Wildcard.accepts_holding text term
  | similarTo => exact Iff.rfl

instance (kind : PatternKind) (near : Nearness) (text term : String) : Decidable (kind.Holds near text term) :=
  decidable_of_iff _ (pattern_accepts kind near text term)

instance decidableHolds : (a : Atom) → Decidable (a.Holds near doc)
  | flag m _ => inferInstanceAs (Decidable (doc m.name = "true"))
  | comparison style op _ m v => inferInstanceAs (Decidable (op.holdsOf (style.order (doc m.name) v.text) = true))
  | pattern kind m v => inferInstanceAs (Decidable (kind.Holds near v.text (doc m.name)))

theorem flag_truth (hk : c.fields.IsKeyword) (m : Member) (value : Bool) :
    c.predicateTruth (doc.matchesLeaf near) (flagPredicate m value) =
      (doc m.name == Value.plain (.bool value)) :=
  Compiler.predicateTruth_plain hk (flagPredicate_isPlain m value)
    (v := .constant (.bool value) rfl) rfl

theorem test_truth (hk : c.fields.IsKeyword) (hs : c.settings = .standard) (a : Atom) :
    c.predicateTruth (doc.matchesLeaf near) a.test = true ↔ a.Holds near doc := by
  cases a with
  | flag m isBool =>
    rw [test, flag_truth hk, beq_iff_eq]
    exact Iff.rfl
  | comparison style op hop m v =>
    rw [comparison_truth hk]
    exact Iff.rfl
  | pattern kind m v =>
    rw [Compiler.predicateTruth_plain hk (test_isPlain _) (v := v) rfl, hs]
    exact pattern_accepts kind near v.text (doc m.name)

end Atom

namespace Formula

variable {c : Compiler} {near : Nearness} {doc : Document}

instance decidableHolds : (φ : Formula) → Decidable (φ.Holds near doc)
  | atom a => inferInstanceAs (Decidable (a.Holds near doc))
  | and l r => @instDecidableAnd _ _ (decidableHolds l) (decidableHolds r)
  | or l r => @instDecidableOr _ _ (decidableHolds l) (decidableHolds r)
  | not f => @instDecidableNot _ (decidableHolds f)

instance (φ : Formula) : Decidable (φ.Answers doc) :=
  inferInstanceAs (Decidable (∀ m ∈ φ.flags, doc m.name = "true" ∨ doc m.name = "false"))

theorem literals_truth (hk : c.fields.IsKeyword) (hs : c.settings = .standard) (φ : Formula)
    (ha : φ.Answers doc) : c.truth (doc.matchesLeaf near) φ.literals = true ↔ φ.Holds near doc := by
  fun_induction literals with
  | case1 a => exact a.test_truth hk hs
  | case2 l r ihl ihr =>
    have hl := ihl fun m hm => ha m (List.mem_append_left _ hm)
    have hr := ihr fun m hm => ha m (List.mem_append_right _ hm)
    rw [Compiler.truth, Bool.and_eq_true, hl, hr]
    exact Iff.rfl
  | case3 l r ihl ihr =>
    have hl := ihl fun m hm => ha m (List.mem_append_left _ hm)
    have hr := ihr fun m hm => ha m (List.mem_append_right _ hm)
    rw [Compiler.truth, Bool.or_eq_true, hl, hr]
    exact Iff.rfl
  | case4 f ih => exact (ih ha).trans not_not.symm
  | case5 m isBool =>
    rw [Compiler.truth, Atom.flag_truth hk, beq_iff_eq]
    change doc m.name = "false" ↔ ¬ doc m.name = "true"
    -- a flag with neither value would satisfy the formula and miss the test
    rcases ha m (List.mem_singleton_self m) with h | h <;> simp [h]
  | case6 f hnot hflag ih =>
    rw [Compiler.truth, Bool.not_eq_true', ← Bool.not_eq_true, ih ha]
    exact Iff.rfl

theorem lowered_truth (hk : c.fields.IsKeyword) (hs : c.settings = .standard) (φ : Formula)
    (ha : φ.Answers doc) :
    c.truth (doc.matchesLeaf near) (settled φ.literals) = true ↔ φ.Holds near doc := by
  have ht := φ.literals_testTree
  rw [settled, ht.polarity.bounds.polarity_truth, ht.polarity.bounds_truth hk, ht.polarity_truth]
  exact φ.literals_truth hk hs ha

end Formula

end IndexQuery
