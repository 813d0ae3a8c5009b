import IndexQuery.Proofs.Placement
import IndexQuery.Proofs.Retyping
import IndexQuery.Proofs.WellFormedTests

set_option autoImplicit false

/-!
A test that is negated or compared with a truth value is a test.

A condition and its negation are lowered in step: what differs between them are negations and the polarity of tests
(`Signed`). A comparison with a truth value goes along with its operand, and gives way when that has become a test
(`Asserts`). So all of these forms end in the test that the condition itself is lowered to, or in its opposite
(`lower_truthComparison`). They may need one round more, since the test may be the work of the last pass of a round.
-/

namespace IndexQuery

open Lowering (isNegation isSingleTest)

/-! ### Polarity -/

namespace Expr

/-- The expression without its negations; a test is required. -/
def unsigned : Expr → Expr
  | unary .not e => unsigned e
  | predicate p => predicate { p with occur := .must }
  | interval r => interval { r with occur := .must }
  | e => e

def isDenied : Expr → Bool
  | unary .not e => !isDenied e
  | predicate p => p.occur == .mustNot
  | interval r => r.occur == .mustNot
  | _ => false

/-- Expressions by the negations in front of them. -/
theorem negationInduction {P : Expr → Prop} (negation : ∀ e, P e → P (unary .not e))
    (test : ∀ e, isSingleTest e = true → P e)
    (other : ∀ e, isNegation e = false → e.unsigned = e → e.isDenied = false → P e) : (e : Expr) → P e
  | unary .not e => negation e (negationInduction negation test other e)
  | predicate _ | interval _ => test _ rfl
  | unary .negate _ | constant _ | captured _ | source _ | member _ _ _ | call _ _ _ | invoke _ _ | binary _ _ _
  | conditional _ _ _ | convert _ _ | field _ | relevance | anyField | boosted _ _ => other _ rfl rfl rfl

/-- What is left without negations has none, and is not denied. -/
theorem unsigned_plain (e : Expr) : e.unsigned.unsigned = e.unsigned ∧ e.unsigned.isDenied = false := by
  induction e using negationInduction with
  | negation e ih => exact ih
  | test e h =>
    cases e with
    | predicate | interval => exact ⟨rfl, rfl⟩
    | _ => cases h
  | other e _ hu hd => exact ⟨by rw [hu, hu], by rw [hu, hd]⟩

/-- A field behind negations stands for itself. -/
theorem fieldOperand?_unsigned {e : Expr} (h : e.unsigned.fieldOperand? = none) : e.fieldOperand? = none := by
  cases e with
  | field | anyField => cases h
  | _ => rfl

theorem placeless_unsigned (e : Expr) : e.unsigned.Placeless ↔ e.Placeless := by
  induction e using negationInduction with
  | negation e ih => exact ih.trans placeless_unary.symm
  | test e h =>
    cases e with
    | predicate | interval => exact Iff.rfl
    | _ => cases h
  | other e _ hu => rw [hu]

end Expr

open IndexQuery.Expr

namespace Lowering

/-- The two differ in negations and in the polarity of a test only; with `flip` they say the opposite. -/
structure Signed (flip : Bool) (a b : Expr) : Prop where
  unsigned : b.unsigned = a.unsigned
  denied : b.isDenied = (a.isDenied ^^ flip)

namespace Signed

variable {flip : Bool} {a b x a' b' : Expr}

theorem refl (e : Expr) : Signed false e e := ⟨rfl, (Bool.xor_false _).symm⟩

theorem not (h : Signed flip a b) : Signed (!flip) a (.unary .not b) := by
  refine ⟨h.unsigned, ?_⟩
  rw [Expr.isDenied, h.denied, Bool.xor_not]

theorem trans {flip' : Bool} (h : Signed flip x a) (h' : Signed flip' a b) : Signed (flip ^^ flip') x b := by
  refine ⟨h'.unsigned.trans h.unsigned, ?_⟩
  rw [h'.denied, h.denied, Bool.xor_assoc]

theorem cancel (h : Signed flip x a) (h' : Signed flip x b) : Signed false a b := by
  refine ⟨h'.unsigned.trans h.unsigned.symm, ?_⟩
  rw [h'.denied, h.denied, Bool.xor_false]

theorem between (h : Signed flip a b) (ha : Signed a.isDenied x a') (hb : Signed b.isDenied x b') :
    Signed flip a' b' := by
  refine ⟨hb.unsigned.trans ha.unsigned.symm, ?_⟩
  rw [hb.denied, ha.denied, h.denied, Bool.xor_assoc]

end Signed

theorem signed_unsigned (e : Expr) : Signed e.isDenied e.unsigned e := by
  refine ⟨e.unsigned_plain.1.symm, ?_⟩
  rw [e.unsigned_plain.2, Bool.false_xor]

/-! ### Conditions and their negations in step -/

structure LeavesTests (f : Expr → Except Error Expr) : Prop where
  negation : ∀ a, f (.unary .not a) = .ok (.unary .not a)
  predicate : ∀ p, f (.predicate p) = .ok (.predicate p)
  interval : ∀ r, f (.interval r) = .ok (.interval r)

theorem unsigned_isSingleTest {e : Expr} (h : isSingleTest e = true) : isSingleTest e.unsigned = true := by
  cases e with
  | predicate | interval => rfl
  | _ => cases h

section

variable {f : Expr → Except Error Expr} (hf : LeavesTests f)

include hf

theorem mapUpM_test {e : Expr} (h : isSingleTest e = true) : e.mapUpM f = .ok e := by
  cases e with
  | predicate p => exact hf.predicate p
  | interval r => exact hf.interval r
  | _ => cases h

theorem mapUpM_signed (e : Expr) : Lockstep (Signed e.isDenied) (e.unsigned.mapUpM f) (e.mapUpM f) := by
  induction e using negationInduction with
  | negation e ih => exact ih.followed fun h => ⟨_, hf.negation _, h.not⟩
  | test e h =>
    rw [mapUpM_test hf h, mapUpM_test hf (unsigned_isSingleTest h)]
    exact .ok (signed_unsigned e)
  | other e _ hu hd =>
    rw [hu, hd]
    exact .of_result fun a _ => .refl a

theorem Signed.mapUpM {flip : Bool} {a b : Expr} (h : Signed flip a b) :
    Lockstep (Signed flip) (a.mapUpM f) (b.mapUpM f) := by
  have hb := mapUpM_signed hf b
  rw [h.unsigned] at hb
  exact (mapUpM_signed hf a).span hb h.between

end

theorem isFlag_placeless {e : Expr} (he : e.Placeless) : isFlag e = false := by
  cases e with
  | field ref => exact beq_false_of_ne (placeless_field.1 he)
  | _ => rfl

theorem liftFlags_not_signed {truth : Bool} {operand : Expr} (hn : isNegation operand = false) (he : operand.Placeless)
    (ih : Signed operand.isDenied (liftFlags false operand.unsigned) (liftFlags truth operand)) :
    Signed (unary .not operand).isDenied (liftFlags false (unary .not operand).unsigned)
      (liftFlags truth (unary .not operand)) := by
  rw [liftFlags_not truth hn, isFlag_placeless he, Bool.and_false]
  exact ih.not

/-- The place is the second's alone: where double negations go, the number of negations stays odd or even. -/
theorem liftFlags_signed : (truth : Bool) → (e : Expr) → e.Placeless →
    Signed e.isDenied (liftFlags false e.unsigned) (liftFlags truth e)
  | truth, unary .not operand, he => by
    have ho := placeless_unary.1 he
    have ih := liftFlags_signed truth operand ho
    cases operand with
    | unary op inner =>
      cases op with
      | not =>
        have hi := placeless_unary.1 ho
        rw [liftFlags]
        split
        · rw [isDenied, isDenied, Bool.not_not]
          exact liftFlags_signed true inner hi
        · exact (liftFlags_signed false inner hi).not.not
      | negate => exact liftFlags_not_signed rfl ho ih
    | _ => exact liftFlags_not_signed rfl ho ih
  | truth, predicate _, _ | truth, interval _, _ => signed_unsigned _
  | truth, unary .negate _, he | truth, constant _, he | truth, captured _, he | truth, source _, he
  | truth, member _ _ _, he | truth, call _ _ _, he | truth, invoke _ _, he | truth, binary _ _ _, he
  | truth, conditional _ _ _, he | truth, convert _ _, he | truth, field _, he | truth, relevance, he
  | truth, anyField, he | truth, boosted _ _, he => by
    rw [liftFlags_placeless truth _ he rfl]
    exact .refl _

theorem Signed.liftFlags {flip : Bool} {a b : Expr} (h : Signed flip a b) (ha : a.Placeless) (truth truth' : Bool) :
    Signed flip (liftFlags truth a) (liftFlags truth' b) := by
  have hplace : b.Placeless := by rwa [← placeless_unsigned, h.unsigned, placeless_unsigned]
  have hb := liftFlags_signed truth' b hplace
  rw [h.unsigned] at hb
  exact h.between (liftFlags_signed truth a ha) hb

/-! ### Negations meet tests -/

theorem negated?_signed {e n : Expr} (h : negated? e = some n) : Signed true e n := by
  unfold negated? at h
  have hocc : ∀ occur : Occur, (occur.negate == .mustNot) = ((occur == .mustNot) ^^ true) := by
    intro occur
    cases occur <;> rfl
  split at h
  · rename_i p
    cases h
    exact ⟨rfl, hocc p.occur⟩
  · rename_i r
    cases h
    exact ⟨rfl, hocc r.occur⟩
  · cases h

theorem polarityNode_not_signed {flip : Bool} {a b : Expr} (h : Signed flip a b) :
    Signed (!flip) a (polarityNode (unary .not b)) := by
  rw [polarityNode]
  cases hn : negated? b with
  | none => exact h.not
  | some n =>
    rw [← Bool.xor_true]
    exact h.trans (negated?_signed hn)

theorem polarity_test {e : Expr} (h : isSingleTest e = true) : e.mapUp polarityNode = e := by
  cases e with
  | predicate | interval => rfl
  | _ => cases h

theorem polarity_signed (e : Expr) : Signed e.isDenied (e.unsigned.mapUp polarityNode) (e.mapUp polarityNode) := by
  induction e using negationInduction with
  | negation e ih => exact polarityNode_not_signed ih
  | test e h =>
    rw [polarity_test h, polarity_test (unsigned_isSingleTest h)]
    exact signed_unsigned e
  | other e _ hu hd =>
    rw [hu, hd]
    exact .refl _

theorem isSingleTest_polarityNode_not (e : Expr) : isSingleTest (polarityNode (unary .not e)) = isSingleTest e := by
  cases e <;> rfl

theorem isSingleTest_polarity_unsigned (e : Expr) :
    isSingleTest (e.unsigned.mapUp polarityNode) = isSingleTest (e.mapUp polarityNode) := by
  induction e using negationInduction with
  | negation e ih => exact ih.trans (isSingleTest_polarityNode_not _).symm
  | test e h => rw [polarity_test h, polarity_test (unsigned_isSingleTest h), h, unsigned_isSingleTest h]
  | other e _ hu => rw [hu]

section

variable {flip : Bool} {a b : Expr} (h : Signed flip a b)

include h

theorem Signed.polarity : Signed flip (a.mapUp polarityNode) (b.mapUp polarityNode) := by
  have hb := polarity_signed b
  rw [h.unsigned] at hb
  exact h.between (polarity_signed a) hb

theorem Signed.isSingleTest_polarity :
    isSingleTest (b.mapUp polarityNode) = isSingleTest (a.mapUp polarityNode) := by
  rw [← isSingleTest_polarity_unsigned b, h.unsigned, isSingleTest_polarity_unsigned a]

end

end Lowering

/-! ### Comparisons with a truth value -/

structure TruthComparison where
  negative : Bool
  value : Bool
  valueFirst : Bool

namespace TruthComparison

def op (c : TruthComparison) : BinaryOp := if c.negative then .notEqual else .equal

def of (c : TruthComparison) (e : Expr) : Expr :=
  if c.valueFirst then binary c.op (constant (.bool c.value)) e else binary c.op e (constant (.bool c.value))

/-- Does the comparison hold where its operand does not? -/
def denies (c : TruthComparison) : Bool := c.value == c.negative

theorem mapUpM_of {f : Expr → Except Error Expr} (hf : ∀ v, f (constant v) = .ok (constant v)) (c : TruthComparison)
    (e : Expr) : (c.of e).mapUpM f = e.mapUpM f >>= fun e => f (c.of e) := by
  obtain ⟨negative, value, valueFirst⟩ := c
  cases valueFirst with
  | false =>
    change (e.mapUpM f >>= fun e => f (constant _) >>= fun v => f (binary _ e v)) = _
    rw [hf]
    rfl
  | true =>
    change (f (constant _) >>= fun v => e.mapUpM f >>= fun e => f (binary _ v e)) = _
    rw [hf]
    rfl

end TruthComparison

namespace Lowering

/-- The second says what the first says, or the opposite with `flip`: up to negations it is the first, perhaps compared
with a truth value. -/
inductive Asserts (flip : Bool) (a : Expr) : Expr → Prop
  | signed {b : Expr} (h : Signed flip a b) : Asserts flip a b
  | compared (c : TruthComparison) {b : Expr} (h : Signed (flip ^^ c.denies) a b) : Asserts flip a (c.of b)

structure LeavesComparisons (f : Expr → Except Error Expr) : Prop extends LeavesTests f where
  constant : ∀ v, f (.constant v) = .ok (.constant v)
  comparison : ∀ (c : TruthComparison) e, f (c.of e) = .ok (c.of e)

theorem Asserts.mapUpM {flip : Bool} {a b : Expr} (h : Asserts flip a b) {f : Expr → Except Error Expr}
    (hf : LeavesComparisons f) : Lockstep (Asserts flip) (a.mapUpM f) (b.mapUpM f) := by
  cases h with
  | signed h =>
    rw [← bind_pure (Expr.mapUpM f b)]
    exact (h.mapUpM hf.toLeavesTests).followed fun h => ⟨_, rfl, .signed h⟩
  | compared c h =>
    rw [TruthComparison.mapUpM_of hf.constant]
    exact (h.mapUpM hf.toLeavesTests).followed fun h => ⟨_, hf.comparison c _, .compared c h⟩

/-! ### The passes, with a comparison in the way -/

theorem LeavesComparisons.of_equality {f : Expr → Except Error Expr} (hf : LeavesTests f)
    (hconstant : ∀ v, f (.constant v) = .ok (.constant v))
    (hequal : ∀ left right, f (binary .equal left right) = .ok (binary .equal left right))
    (hnotEqual : ∀ left right, f (binary .notEqual left right) = .ok (binary .notEqual left right)) :
    LeavesComparisons f := by
  refine ⟨hf, hconstant, fun c e => ?_⟩
  obtain ⟨negative, value, valueFirst⟩ := c
  cases negative with
  | false => cases valueFirst <;> exact hequal _ _
  | true => cases valueFirst <;> exact hnotEqual _ _

theorem memberNode_leaves : LeavesComparisons memberNode :=
  .of_equality ⟨fun _ => rfl, fun _ => rfl, fun _ => rfl⟩ (fun _ => rfl) (fun _ _ => rfl) fun _ _ => rfl

theorem markerNode_leaves : LeavesComparisons fun e => .ok (markerNode e) :=
  .of_equality ⟨fun _ => rfl, fun _ => rfl, fun _ => rfl⟩ (fun _ => rfl) (fun _ _ => rfl) fun _ _ => rfl

theorem redundantNode_leaves : LeavesComparisons fun e => .ok (redundantNode e) :=
  .of_equality ⟨fun _ => rfl, fun _ => rfl, fun _ => rfl⟩ (fun _ => rfl) (fun _ _ => rfl) fun _ _ => rfl

theorem nullGuardNode_leaves : LeavesComparisons fun e => .ok (nullGuardNode e) :=
  .of_equality ⟨fun _ => rfl, fun _ => rfl, fun _ => rfl⟩ (fun _ => rfl) (fun _ _ => rfl) fun _ _ => rfl

theorem fieldBoostNode_leaves : LeavesComparisons fieldBoostNode :=
  .of_equality ⟨fun _ => rfl, fun _ => rfl, fun _ => rfl⟩ (fun _ => rfl) (fun _ _ => rfl) fun _ _ => rfl

theorem patternNode_leaves : LeavesComparisons patternNode where
  negation _ := rfl
  predicate _ := rfl
  interval _ := rfl
  constant _ := rfl
  comparison c e := by
    obtain ⟨negative, value, valueFirst⟩ := c
    -- a truth value is neither zero nor a three-way comparison
    have hzero : ∀ op, againstZero op (constant (.bool value)) e = binary op (constant (.bool value)) e := by
      intro op
      rw [againstZero]
      split <;> rfl
    have hzero' : ∀ op, againstZero op e (constant (.bool value)) = binary op e (constant (.bool value)) := by
      intro op
      rw [againstZero, if_neg (by exact Bool.false_ne_true)]
      split <;> rfl
    cases negative <;> cases valueFirst <;>
      simp [TruthComparison.of, TruthComparison.op, patternNode, hzero, hzero']

theorem annotationNode_leaves : LeavesComparisons annotationNode :=
  .of_equality ⟨fun _ => rfl, fun _ => rfl, fun _ => rfl⟩ (fun _ => rfl) (fun _ _ => rfl) fun _ _ => rfl

theorem boundsNode_leaves : LeavesComparisons fun e => .ok (boundsNode e) :=
  .of_equality ⟨fun _ => rfl, fun _ => rfl, fun _ => rfl⟩ (fun _ => rfl) (fun _ _ => rfl) fun _ _ => rfl

theorem comparisonNode_leavesTests : LeavesTests comparisonNode := ⟨fun _ => rfl, fun _ => rfl, fun _ => rfl⟩

theorem comparisonNode_of (c : TruthComparison) {e : Expr} (h : e.fieldOperand? = none) :
    comparisonNode (c.of e) = .ok (c.of e) := by
  obtain ⟨negative, value, valueFirst⟩ := c
  have hconstant : (constant (.bool value)).fieldOperand? = none := rfl
  cases negative <;> cases valueFirst <;>
    simp [TruthComparison.of, TruthComparison.op, comparisonNode, comparison?, comparisonTest, h, hconstant]

theorem polarityNode_of_test (c : TruthComparison) {e : Expr} (h : isSingleTest e = true) :
    Signed c.denies e (polarityNode (c.of e)) ∧ isSingleTest (polarityNode (c.of e)) = true := by
  obtain ⟨negative, value, valueFirst⟩ := c
  cases e with
  | predicate | interval =>
    cases negative <;> cases value <;> cases valueFirst <;>
      exact ⟨by first | exact .refl _ | exact negated?_signed rfl, rfl⟩
  | _ => cases h

theorem polarityNode_of_other (c : TruthComparison) {e : Expr} (h : isSingleTest e = false) :
    polarityNode (c.of e) = c.of e := by
  obtain ⟨negative, value, valueFirst⟩ := c
  have hconstant : isSingleTest (constant (.bool value)) = false := rfl
  cases negative <;> cases valueFirst <;>
    simp [TruthComparison.of, TruthComparison.op, polarityNode, polarized, h, hconstant]

/-! ### Rounds -/

def Walks (R : Expr → Expr → Prop) : Prop :=
  ∀ {f : Expr → Except Error Expr}, LeavesComparisons f → ∀ {a b}, R a b → Lockstep R (a.mapUpM f) (b.mapUpM f)

section

variable {R : Expr → Expr → Prop} (hR : Walks R) {a b : Expr}

include hR

theorem Walks.mapUp {g : Expr → Expr} (hg : LeavesComparisons fun n => .ok (g n)) (h : R a b) :
    R (a.mapUp g) (b.mapUp g) := by
  have hm := hR hg h
  rw [mapUpM_ok, mapUpM_ok] at hm
  cases hm with
  | ok hm => exact hm

theorem Walks.prepare (h : R a b) : Lockstep R (prepare a) (prepare b) := by
  refine (hR memberNode_leaves h).bind fun h => ?_
  have hguards := hR.mapUp nullGuardNode_leaves (hR.mapUp redundantNode_leaves (hR.mapUp markerNode_leaves h))
  exact (hR fieldBoostNode_leaves hguards).bind (hR patternNode_leaves)

theorem Walks.finish (h : R (a.mapUp polarityNode) (b.mapUp polarityNode)) : Lockstep R (finish a) (finish b) :=
  (hR annotationNode_leaves h).bind fun h => .ok (hR.mapUp boundsNode_leaves h)

end

theorem signed_walks (flip : Bool) : Walks (Signed flip) := fun hf => (Signed.mapUpM hf.toLeavesTests ·)

theorem asserts_walks (flip : Bool) : Walks (Asserts flip) := fun hf => (Asserts.mapUpM · hf)

theorem round_condition (e : Expr) : round .condition e = (do
    let e ← prepare e
    let e ← (liftFlags true e).mapUpM comparisonNode
    finish e) := by
  simp only [round_parts, if_true]

theorem Signed.round {flip : Bool} {a b : Expr} (h : Signed flip a b) (ha : a.Placeless) :
    Lockstep (Signed flip) (round .condition a) (round .condition b) := by
  rw [round_condition, round_condition]
  have hprepared := (Walks.prepare (signed_walks flip) h).with_left fun a' ha' => keepsPlace_stepClosed.prepare ha' ha
  refine hprepared.bind fun h => ?_
  have hlifted := h.1.liftFlags h.2 true true
  exact (hlifted.mapUpM comparisonNode_leavesTests).bind fun h => Walks.finish (signed_walks flip) h.polarity

/-! ### Fields stay fields -/

theorem finish_field {e : Expr} (h : e.fieldOperand? ≠ none) : finish e = .ok e := by
  cases e with
  | field | anyField => rfl
  | _ => exact absurd rfl h

theorem round_field {e : Expr} (he : e.Placeless) (h : e.fieldOperand? ≠ none) : round .condition e = .ok e := by
  have hprepare : prepare e = .ok e := by
    cases e with
    | field | anyField => rfl
    | _ => exact absurd rfl h
  have hcomparisons : (liftFlags true e).mapUpM comparisonNode = .ok e := by
    cases e with
    | field ref =>
      rw [liftFlags_placeless true _ he rfl]
      rfl
    | anyField => rfl
    | _ => exact absurd rfl h
  rw [round_condition, hprepare, ok_bind, hcomparisons, ok_bind, finish_field h]

theorem finish_unsigned {e e' : Expr} (h : finish e = .ok e') (ho : e.unsigned.fieldOperand? ≠ none) :
    e'.unsigned = e.unsigned := by
  have hs := Walks.finish (signed_walks e.isDenied) (signed_unsigned e).polarity
  rw [finish_field ho, h] at hs
  cases hs with
  | ok hs => rw [hs.unsigned, e.unsigned_plain.1]

theorem round_unsigned {e e' : Expr} (he : e.Placeless) (h : round .condition e = .ok e')
    (ho : e.unsigned.fieldOperand? ≠ none) : e'.unsigned = e.unsigned := by
  have he' := (placeless_unsigned e).2 he
  have hs := (signed_unsigned e).round he'
  rw [round_field he' ho, h] at hs
  cases hs with
  | ok hs => rw [hs.unsigned, e.unsigned_plain.1]

theorem rounds_unsigned {k : Nat} {e r : Expr} (he : e.Placeless) (h : rounds .condition k e = .ok r)
    (ho : e.unsigned.fieldOperand? ≠ none) : r.unsigned = e.unsigned := by
  induction k generalizing e with
  | zero =>
    cases h
    rfl
  | succ k ih =>
    obtain ⟨e', he', hr⟩ := bind_eq_ok.1 h
    have hround := round_unsigned he he' ho
    rw [ih (keepsPlace_stepClosed.round he' he) hr (by rwa [hround]), hround]

/-! ### Comparisons in step with their operands -/

section

variable {flip : Bool} {a a' b : Expr} (h : Asserts flip a b)

include h

theorem Asserts.liftFlags (ha : a.Placeless) : Asserts flip (liftFlags true a) (liftFlags true b) := by
  cases h with
  | signed h => exact .signed (h.liftFlags ha true true)
  | @compared c b h =>
    have hof : Lowering.liftFlags true (c.of b) = c.of (Lowering.liftFlags false b) := by
      obtain ⟨negative, _, valueFirst⟩ := c
      cases negative <;> cases valueFirst <;> rfl
    rw [hof]
    exact .compared c (h.liftFlags ha true false)

/-- The operand must not be a field, for then the comparison is a test of that. -/
theorem Asserts.comparisons (ha : a.mapUpM comparisonNode = .ok a') (ho : a'.unsigned.fieldOperand? = none) :
    ∃ b', b.mapUpM comparisonNode = .ok b' ∧ Asserts flip a' b' := by
  cases h with
  | signed h =>
    have hm := h.mapUpM comparisonNode_leavesTests
    rw [ha] at hm
    obtain ⟨b', hb, h⟩ := hm.of_ok
    exact ⟨b', hb, .signed h⟩
  | compared c h =>
    have hm := h.mapUpM comparisonNode_leavesTests
    rw [ha] at hm
    obtain ⟨b', hb, h⟩ := hm.of_ok
    have hb' : b'.fieldOperand? = none := fieldOperand?_unsigned (by rwa [h.unsigned])
    refine ⟨c.of b', ?_, .compared c h⟩
    have hof := c.mapUpM_of (fun v => (rfl : comparisonNode (constant v) = .ok (constant v)))
    rw [hof, hb, ok_bind, comparisonNode_of c hb']

/-- A comparison with a test is a test. -/
theorem Asserts.polarity : Asserts flip (a.mapUp polarityNode) (b.mapUp polarityNode) ∧
    (isSingleTest (a.mapUp polarityNode) = true → isSingleTest (b.mapUp polarityNode) = true) := by
  cases h with
  | signed h => exact ⟨.signed h.polarity, fun ha => h.isSingleTest_polarity.trans ha⟩
  | @compared c b h =>
    have hof : (c.of b).mapUp polarityNode = polarityNode (c.of (b.mapUp polarityNode)) := by
      obtain ⟨_, _, valueFirst⟩ := c
      cases valueFirst <;> rfl
    rw [hof, ← h.isSingleTest_polarity]
    cases hb : isSingleTest (b.mapUp polarityNode) with
    | true =>
      obtain ⟨hsigned, htest⟩ := polarityNode_of_test c hb
      refine ⟨.signed ?_, fun _ => htest⟩
      have hboth := h.polarity.trans hsigned
      rwa [Bool.xor_assoc, Bool.xor_self, Bool.xor_false] at hboth
    | false =>
      rw [polarityNode_of_other c hb]
      exact ⟨.compared c h.polarity, fun h => Bool.noConfusion h⟩

end

section

variable {flip : Bool} {a a₁ a₂ b : Expr} (h : Asserts flip a b)

include h

/-- The first passes of a round. -/
theorem Asserts.advance (hplace : a.Placeless) (h₁ : prepare a = .ok a₁)
    (h₂ : (Lowering.liftFlags true a₁).mapUpM comparisonNode = .ok a₂) (ho : a₂.unsigned.fieldOperand? = none) :
    ∃ b₂, round .condition b = finish b₂ ∧ Asserts flip a₂ b₂ := by
  have hprepared := Walks.prepare (asserts_walks flip) h
  rw [h₁] at hprepared
  obtain ⟨b₁, hb₁, hs₁⟩ := hprepared.of_ok
  obtain ⟨b₂, hb₂, hs₂⟩ := (hs₁.liftFlags (keepsPlace_stepClosed.prepare h₁ hplace)).comparisons h₂ ho
  refine ⟨b₂, ?_, hs₂⟩
  rw [round_condition, hb₁, ok_bind, hb₂, ok_bind]

theorem Asserts.round {a' : Expr} (hplace : a.Placeless) (ha : Lowering.round .condition a = .ok a')
    (ho : a'.unsigned.fieldOperand? = none) : ∃ b', Lowering.round .condition b = .ok b' ∧ Asserts flip a' b' := by
  rw [round_condition] at ha
  obtain ⟨a₁, h₁, ha⟩ := bind_eq_ok.1 ha
  obtain ⟨a₂, h₂, h₃⟩ := bind_eq_ok.1 ha
  have ho₂ : a₂.unsigned.fieldOperand? = none := by
    by_contra hn
    exact hn (by rwa [finish_unsigned h₃ hn] at ho)
  obtain ⟨b₂, hb, hs⟩ := h.advance hplace h₁ h₂ ho₂
  have hfinished := Walks.finish (asserts_walks flip) hs.polarity.1
  rw [h₃] at hfinished
  obtain ⟨b', hb', hs'⟩ := hfinished.of_ok
  exact ⟨b', hb.trans hb', hs'⟩

end

theorem fieldOperand?_test {e : Expr} (h : isSingleTest e = true) : e.unsigned.fieldOperand? = none := by
  cases e with
  | predicate | interval => rfl
  | _ => cases h

theorem round_test {e : Expr} (h : isSingleTest e = true) : round .condition e = .ok e := by
  cases e with
  | predicate | interval => rfl
  | _ => cases h

/-- In the round after the first has become a test, the second does. -/
theorem Asserts.test {flip : Bool} {r b : Expr} (h : Asserts flip r b) (hr : isSingleTest r = true) :
    ∃ t, Lowering.round .condition b = .ok t ∧ isSingleTest t = true ∧ Signed flip r t := by
  have hfixed : r.Placeless ∧ prepare r = .ok r ∧ (Lowering.liftFlags true r).mapUpM comparisonNode = .ok r := by
    cases r with
    | predicate | interval => exact ⟨rfl, rfl, rfl⟩
    | _ => cases hr
  obtain ⟨hplace, h₁, h₂⟩ := hfixed
  obtain ⟨b₂, hb, hs⟩ := h.advance hplace h₁ h₂ (fieldOperand?_test hr)
  obtain ⟨hs, htest⟩ := hs.polarity
  rw [polarity_test hr] at hs htest
  have ht := htest hr
  generalize ht' : b₂.mapUp polarityNode = t at hs ht
  have hfinish : finish b₂ = .ok t := by
    rw [finish, ht']
    cases t with
    | predicate | interval => rfl
    | _ => cases ht
  refine ⟨t, hb.trans hfinish, ht, ?_⟩
  cases hs with
  | signed hs => exact hs
  | compared c =>
    obtain ⟨_, _, valueFirst⟩ := c
    cases valueFirst <;> cases ht

/-- One round more makes up for a test that the last pass of the last round has made. -/
theorem rounds_asserts {k : Nat} {flip : Bool} {p r b : Expr} (h : Asserts flip p b) (hplace : p.Placeless)
    (hp : rounds .condition k p = .ok r) (hr : isSingleTest r = true) :
    ∃ t, rounds .condition (k + 1) b = .ok t ∧ isSingleTest t = true ∧ Signed flip r t := by
  induction k generalizing p b with
  | zero =>
    cases hp
    obtain ⟨t, ht, htest⟩ := h.test hr
    refine ⟨t, ?_, htest⟩
    rw [rounds, ht]
    rfl
  | succ k ih =>
    obtain ⟨p', hp', hp⟩ := bind_eq_ok.1 hp
    have hplace' := keepsPlace_stepClosed.round hp' hplace
    have ho : p'.unsigned.fieldOperand? = none := by
      -- what is a field after a round is one in the end, and no test
      by_contra hn
      rw [← rounds_unsigned hplace' hp hn] at hn
      exact hn (fieldOperand?_test hr)
    obtain ⟨b', hb', h'⟩ := h.round hplace hp' ho
    obtain ⟨t, ht, htest⟩ := ih h' hplace' hp
    refine ⟨t, ?_, htest⟩
    rw [rounds, hb', ok_bind, ht]

/-! ### The lowered tests -/

inductive Opposes : Occur → Occur → Prop
  | denied : Opposes .must .mustNot
  | affirmed : Opposes .mustNot .must

inductive Opposite : Expr → Expr → Prop
  | predicate (p : Predicate Expr) {occur : Occur} (h : Opposes p.occur occur) :
    Opposite (predicate p) (predicate { p with occur := occur })
  | interval (r : Interval Expr) {occur : Occur} (h : Opposes r.occur occur) :
    Opposite (interval r) (interval { r with occur := occur })

def opposite (e : Expr) : Expr := (negated? e).getD e

theorem opposes_negate {occur : Occur} (h : occur = .must ∨ occur = .mustNot) : Opposes occur occur.negate := by
  rcases h with rfl | rfl
  · exact .denied
  · exact .affirmed

theorem opposite_opposite {e : Expr} (h : isSingleTest e = true) (he : e.WellTested) : Opposite e (opposite e) := by
  cases e with
  | predicate p => exact .predicate p (opposes_negate (wellTested_predicate.1 he).occur)
  | interval r => exact .interval r (opposes_negate (wellTested_interval.1 he).occur)
  | _ => cases h

theorem occur_eq_of_denied {o o' : Occur} (h : o = .must ∨ o = .mustNot) (h' : o' = .must ∨ o' = .mustNot)
    (hd : (o' == .mustNot) = (o == .mustNot)) : o' = o := by
  rcases h with rfl | rfl <;> rcases h' with rfl | rfl <;> first | rfl | cases hd

theorem Signed.eq_of_tests {a b : Expr} (h : Signed false a b) (ha : isSingleTest a = true)
    (hb : isSingleTest b = true) (hta : a.WellTested) (htb : b.WellTested) : b = a := by
  obtain ⟨hu, hd⟩ := h
  rw [Bool.xor_false] at hd
  cases a with
  | predicate p =>
    cases b with
    | predicate q =>
      have ho := occur_eq_of_denied (wellTested_predicate.1 hta).occur (wellTested_predicate.1 htb).occur hd
      cases p
      cases q
      simp only [Expr.unsigned, predicate.injEq, Predicate.mk.injEq] at hu ho ⊢
      exact ⟨hu.1, hu.2.1, ho, hu.2.2.2⟩
    | interval => cases hu
    | _ => cases hb
  | interval r =>
    cases b with
    | interval t =>
      have ho := occur_eq_of_denied (wellTested_interval.1 hta).occur (wellTested_interval.1 htb).occur hd
      cases r
      cases t
      simp only [Expr.unsigned, interval.injEq, Interval.mk.injEq] at hu ho ⊢
      exact ⟨hu.1, hu.2.1, hu.2.2.1, hu.2.2.2.1, hu.2.2.2.2.1, ho, hu.2.2.2.2.2.2⟩
    | predicate => cases hu
    | _ => cases hb
  | _ => cases ha

theorem opposite_signed {e : Expr} (h : isSingleTest e = true) : Signed true e (opposite e) := by
  cases e with
  | predicate | interval => exact negated?_signed rfl
  | _ => cases h

theorem opposite_isSingleTest {e : Expr} (h : isSingleTest e = true) : isSingleTest (opposite e) = true := by
  cases e with
  | predicate | interval => rfl
  | _ => cases h

theorem opposite_wellTested {e : Expr} (he : e.WellTested) : (opposite e).WellTested := by
  rw [opposite]
  cases hn : negated? e with
  | none => exact he
  | some n => exact negated?_wellTested hn he

theorem hasNaN_unsigned {e : Expr} (h : isSingleTest e = true) : e.unsigned.hasNaN = e.hasNaN := by
  cases e with
  | predicate => rw [unsigned, hasNaN_predicate, hasNaN_predicate]
  | interval => rw [unsigned, hasNaN_interval, hasNaN_interval]
  | _ => cases h

/-- Conditions that hold where another one does. -/
def affirmations (p : Expr) : List Expr :=
  [binary .equal p (constant (.bool true)), binary .notEqual p (constant (.bool false)),
    binary .equal (constant (.bool true)) p, binary .notEqual (constant (.bool false)) p]

/-- Conditions that hold where another one does not. -/
def denials (p : Expr) : List Expr :=
  [unary .not p, binary .equal p (constant (.bool false)), binary .notEqual p (constant (.bool true)),
    binary .equal (constant (.bool false)) p, binary .notEqual (constant (.bool true)) p]

theorem asserts_affirmation {p e : Expr} (he : e ∈ affirmations p) :
    Asserts false p e ∧ (p.WellTested → e.WellTested) := by
  simp only [affirmations, List.mem_cons, List.not_mem_nil, or_false] at he
  rcases he with rfl | rfl | rfl | rfl
  · exact ⟨.compared ⟨false, true, false⟩ (.refl p), by simp⟩
  · exact ⟨.compared ⟨true, false, false⟩ (.refl p), by simp⟩
  · exact ⟨.compared ⟨false, true, true⟩ (.refl p), by simp⟩
  · exact ⟨.compared ⟨true, false, true⟩ (.refl p), by simp⟩

theorem asserts_denial {p e : Expr} (he : e ∈ denials p) : Asserts true p e ∧ (p.WellTested → e.WellTested) := by
  simp only [denials, List.mem_cons, List.not_mem_nil, or_false] at he
  rcases he with rfl | rfl | rfl | rfl | rfl
  · exact ⟨.signed (Signed.refl p).not, by simp⟩
  · exact ⟨.compared ⟨false, false, false⟩ (.refl p), by simp⟩
  · exact ⟨.compared ⟨true, true, false⟩ (.refl p), by simp⟩
  · exact ⟨.compared ⟨false, false, true⟩ (.refl p), by simp⟩
  · exact ⟨.compared ⟨true, true, true⟩ (.refl p), by simp⟩

/-- What a condition that says the same is lowered to, or one that says the opposite, with a round more. -/
theorem lower_asserts {settings settings' : CompilerSettings} {flip : Bool} {p r e : Expr} (hplace : p.Placeless)
    (h : lower settings .condition p = .ok r) (hr : isSingleTest r = true)
    (hrounds : settings.maxRounds < settings'.maxRounds) (he : Asserts flip p e) :
    ∃ t, lower settings' .condition e = .ok t ∧ isSingleTest t = true ∧ Signed flip r t := by
  obtain ⟨o, ho, h⟩ := bind_eq_ok.1 h
  cases o with
  | none => cases h
  | some lowered =>
    cases h
    obtain ⟨k, hk, hp⟩ := settle?_rounds ho
    have hNaN := (settle?_some ho).2
    rw [same_self, Bool.not_eq_true'] at hNaN
    obtain ⟨t, ht, htest, hs⟩ := rounds_asserts he hplace hp hr
    refine ⟨t, ?_, htest, hs⟩
    rw [lower_settled (by omega) ht (round_test htest), ← hasNaN_unsigned htest, hs.unsigned, hasNaN_unsigned hr, hNaN]
    rfl

/-- If a condition is lowered to a single test, then it is so as well if compared with the truth value that it has where
it holds, and to the opposite test if negated or compared with the other one. -/
theorem lower_truthComparison {settings settings' : CompilerSettings} {p r : Expr} (hhost : p.any isIndexNode = false)
    (hplace : p.any dependsOnPlace = false) (h : lower settings .condition p = .ok r) (hr : isSingleTest r = true)
    (hrounds : settings.maxRounds < settings'.maxRounds) :
    (∀ e ∈ affirmations p, lower settings' .condition e = .ok r) ∧
      ∃ r', Opposite r r' ∧ ∀ e ∈ denials p, lower settings' .condition e = .ok r' := by
  have hp := wellTested_of_host hhost
  have hwell := keepsTests_stepClosed.lower h hp
  refine ⟨fun e he => ?_, opposite r, opposite_opposite hr hwell, fun e he => ?_⟩
  · obtain ⟨hasserts, hkeeps⟩ := asserts_affirmation he
    obtain ⟨t, ht, htest, hs⟩ := lower_asserts hplace h hr hrounds hasserts
    rw [ht, hs.eq_of_tests hr htest hwell (keepsTests_stepClosed.lower ht (hkeeps hp))]
  · obtain ⟨hasserts, hkeeps⟩ := asserts_denial he
    obtain ⟨t, ht, htest, hs⟩ := lower_asserts hplace h hr hrounds hasserts
    have hfalse := (opposite_signed hr).cancel hs
    rw [ht, hfalse.eq_of_tests (opposite_isSingleTest hr) htest (opposite_wellTested hwell)
      (keepsTests_stepClosed.lower ht (hkeeps hp))]

/-- Not between two years, the later one written first, with an operator that both operands are evaluated for. -/
def outsideYears : Expr :=
  let year := member (source "doc") "year" .int64
  unary .not (binary .bitAnd (binary .greater (constant (.int 2010)) year)
    (binary .greaterOrEqual year (constant (.int 2000))))

theorem lower_truthComparison_years :
    let settings : CompilerSettings := { CompilerSettings.standard with maxRounds := 9 }
    ∃ r r', lower .standard .condition outsideYears = .ok r ∧ Opposite r r' ∧
      lower settings .condition (binary .notEqual (constant (.bool false)) outsideYears) = .ok r ∧
      lower settings .condition (binary .equal outsideYears (constant (.bool false))) = .ok r' ∧
      lower settings .condition (unary .not outsideYears) = .ok r' := by
  intro settings
  have h : lower .standard .condition outsideYears = _ := lower_settled (k := 2) (by decide) rfl rfl
  rw [if_neg (by decide)] at h
  have hrounds : CompilerSettings.standard.maxRounds < settings.maxRounds := by decide
  obtain ⟨haffirmed, r', hr', hdenied⟩ := lower_truthComparison rfl rfl h rfl hrounds
  exact ⟨_, r', h, hr', haffirmed _ (by simp [affirmations]), hdenied _ (by simp [denials]),
    hdenied _ (by simp [denials])⟩

end Lowering

end IndexQuery
