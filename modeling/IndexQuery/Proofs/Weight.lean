import IndexQuery.Lowering.Pipeline
import IndexQuery.Proofs.Traversal
import Mathlib.Algebra.Ring.Nat

set_option autoImplicit false

/-!
A weight that every change of lowering lowers.

A node counts one, and two where lowering can still put a node of the same size in its place: the
document and its fields, and the bitwise operators. Every pass either leaves a tree as it is or makes it
lighter, except that boolean fields grow into comparisons, which the next pass undoes. A whole round
therefore changes a tree only by making it lighter (`round_reduces`).
-/

namespace IndexQuery.Expr

/-- The number of nodes, each counted as a part of another (`nodeCount_children`); the patterns of index tests
are not nodes. -/
def nodeCount (e : Expr) : Nat := e.postorder.length

def nodeWeight : Expr → Nat
  | source _ | field _ => 2
  | binary .bitAnd _ _ | binary .bitOr _ _ => 2
  | _ => 1

def weight (e : Expr) : Nat := (e.postorder.map nodeWeight).sum

def weightAll (es : List Expr) : Nat := ((postorderAll es).map nodeWeight).sum

theorem nodeCountAll (es : List Expr) : (postorderAll es).length = (es.map nodeCount).sum := by
  induction es with
  | nil => rfl
  | cons e es ih => simp [postorderAll, nodeCount, ih]

theorem nodeCount_children (e : Expr) : e.nodeCount = (e.children.map nodeCount).sum + 1 := by
  cases e <;> simp [nodeCount, postorder, children, nodeCountAll] <;> rfl

theorem nodeWeight_le (e : Expr) : e.nodeWeight ≤ 2 := by
  unfold nodeWeight
  split <;> omega

theorem weight_le (e : Expr) : e.weight ≤ 2 * e.nodeCount := by
  unfold weight nodeCount
  induction e.postorder with
  | nil => simp
  | cons n ns ih =>
    have hn := nodeWeight_le n
    simp only [List.map_cons, List.sum_cons, List.length_cons]
    omega

section Parts

variable (a b c : Expr) (es : List Expr)

@[simp] theorem weightAll_nil : weightAll [] = 0 := rfl

@[simp] theorem weightAll_cons : weightAll (a :: es) = a.weight + weightAll es := by
  simp [weightAll, weight, postorderAll]

@[simp] theorem weight_constant (v : Value) : (constant v).weight = 1 := rfl
@[simp] theorem weight_captured (v : Capture) : (captured v).weight = 1 := rfl
@[simp] theorem weight_source (name : String) : (source name).weight = 2 := rfl
@[simp] theorem weight_field (ref : FieldRef) : (field ref).weight = 2 := rfl
@[simp] theorem weight_predicate (p : Predicate Expr) : (predicate p).weight = 1 := rfl
@[simp] theorem weight_interval (r : Interval Expr) : (interval r).weight = 1 := rfl
@[simp] theorem weight_relevance : relevance.weight = 1 := rfl
@[simp] theorem weight_anyField : anyField.weight = 1 := rfl

@[simp] theorem weight_member (name : String) (kind : ScalarKind) :
    (member a name kind).weight = a.weight + 1 := by
  simp [weight, postorder, nodeWeight]

@[simp] theorem weight_call (method : Method) :
    (call a method es).weight = a.weight + weightAll es + 1 := by
  simp [weight, weightAll, postorder, nodeWeight]
  omega

@[simp] theorem weight_invoke (method : Method) : (invoke method es).weight = weightAll es + 1 := by
  simp [weight, weightAll, postorder, nodeWeight]

@[simp] theorem weight_unary (op : UnaryOp) : (unary op a).weight = a.weight + 1 := by
  simp [weight, postorder, nodeWeight]

def opWeight : BinaryOp → Nat
  | .bitAnd | .bitOr => 2
  | _ => 1

theorem opWeight_pos (op : BinaryOp) : 0 < opWeight op := by cases op <;> decide

@[simp] theorem weight_binary (op : BinaryOp) :
    (binary op a b).weight = a.weight + b.weight + opWeight op := by
  have h : (binary op a b).nodeWeight = opWeight op := by cases op <;> rfl
  simp [weight, postorder, h]
  omega

@[simp] theorem weight_conditional :
    (conditional a b c).weight = a.weight + b.weight + c.weight + 1 := by
  simp [weight, postorder, nodeWeight]
  omega

@[simp] theorem weight_convert (kind : ScalarKind) : (convert a kind).weight = a.weight + 1 := by
  simp [weight, postorder, nodeWeight]

@[simp] theorem weight_boosted (boost : Number.Binary32) : (boosted a boost).weight = a.weight + 1 := by
  simp [weight, postorder, nodeWeight]

theorem weight_pos : 0 < a.weight := by
  cases a with
  | binary op l r =>
    have h := opWeight_pos op
    rw [weight_binary]
    omega
  | _ => simp

end Parts

def Reduces (e e' : Expr) : Prop := e' = e ∨ e'.weight < e.weight

theorem Reduces.weight_le {a b : Expr} (h : Reduces a b) : b.weight ≤ a.weight := by
  rcases h with rfl | h <;> omega

theorem reducesAll {as bs : List Expr} (h : List.Forall₂ Reduces as bs) :
    bs = as ∨ weightAll bs < weightAll as := by
  induction h with
  | nil => exact .inl rfl
  | cons h _ ih =>
    simp only [weightAll_cons]
    rcases h with rfl | h <;> rcases ih with rfl | ih
    · exact .inl rfl
    · exact .inr (by omega)
    · exact .inr (by omega)
    · exact .inr (by omega)

theorem reduces_congruent : Congruent Reduces where
  refl _ := .inl rfl
  trans := by
    rintro a b c (rfl | hab) (rfl | hbc)
    · exact .inl rfl
    · exact .inr hbc
    · exact .inr hab
    · exact .inr (by omega)
  member name kind h := h.imp (by rintro rfl; rfl) (by simp)
  call method ht ha := by
    rcases ht with rfl | ht <;> rcases reducesAll ha with rfl | ha
    · exact .inl rfl
    all_goals exact .inr (by simp only [weight_call]; omega)
  invoke method ha := (reducesAll ha).imp (by rintro rfl; rfl) (by simp)
  unary op h := h.imp (by rintro rfl; rfl) (by simp)
  binary op ha hb := by
    rcases ha with rfl | ha <;> rcases hb with rfl | hb
    · exact .inl rfl
    all_goals exact .inr (by simp only [weight_binary]; omega)
  conditional ha hb hc := by
    rcases ha with rfl | ha <;> rcases hb with rfl | hb <;> rcases hc with rfl | hc
    · exact .inl rfl
    all_goals exact .inr (by simp only [weight_conditional]; omega)
  convert kind h := h.imp (by rintro rfl; rfl) (by simp)
  boosted boost h := h.imp (by rintro rfl; rfl) (by simp)

theorem weightAll_le {as bs : List Expr} (h : List.Forall₂ (fun a b => b.weight ≤ a.weight) as bs) :
    weightAll bs ≤ weightAll as := by
  induction h with
  | nil => exact Nat.le_refl _
  | cons h _ ih =>
    simp only [weightAll_cons]
    omega

theorem weight_congruent : Congruent fun a b => b.weight ≤ a.weight where
  refl _ := Nat.le_refl _
  trans h h' := Nat.le_trans h' h
  member name kind h := by simpa using h
  call method ht ha := by
    have ha := weightAll_le ha
    simp only [weight_call]
    omega
  invoke method ha := by simpa using weightAll_le ha
  unary op h := by simpa using h
  binary op ha hb := by
    simp only [weight_binary]
    omega
  conditional ha hb hc := by
    simp only [weight_conditional]
    omega
  convert kind h := by simpa using h
  boosted boost h := by simpa using h

end IndexQuery.Expr

namespace IndexQuery.Lowering

open IndexQuery.Expr

theorem namedField_text {args : List Expr} {e : Expr} (h : namedField args = .ok e) :
    ∃ name, e = field (.ofName name .text) := by
  unfold namedField at h
  split at h
  · obtain ⟨v, _, h⟩ := bind_eq_ok.1 h
    split at h
    · exact ⟨_, (pure_eq_ok.1 h).symm⟩
    · cases h
  · cases h

theorem namedField_field {args : List Expr} {e : Expr} (h : namedField args = .ok e) :
    ∃ ref, e = field ref := by
  obtain ⟨name, rfl⟩ := namedField_text h
  exact ⟨_, rfl⟩

theorem memberNode_reduces {e e' : Expr} (h : memberNode e = .ok e') : Reduces e e' := by
  unfold memberNode at h
  split at h
  · cases h
    exact .inr (by simp)
  · cases h
    exact .inr (by simp)
  · obtain ⟨ref, rfl⟩ := namedField_field h
    exact .inr (by simp only [weight_field, weight_call, weight_source]; omega)
  · cases h
    exact .inl rfl

theorem marker?_weight {method : Method} {e : Expr} (h : marker? method = some e) : e.weight = 1 := by
  unfold marker? at h
  split at h
  · cases h
    rfl
  · cases h
    rfl
  · cases h

theorem markerNode_reduces (e : Expr) : Reduces e (markerNode e) := by
  unfold markerNode
  split
  · rename_i name method
    cases hm : marker? method with
    | none => exact .inl rfl
    | some m => exact .inr (by simp [marker?_weight hm])
  · rename_i method name
    cases hm : marker? method with
    | none => exact .inl rfl
    | some m => exact .inr (by simp [marker?_weight hm])
  · exact .inl rfl

theorem collapse_reduces (op : BinaryOp) (left right : Expr) :
    Reduces (binary op left right) (collapse op left right) := by
  unfold collapse
  have hl := left.weight_pos
  have hr := right.weight_pos
  split
  · exact .inl rfl
  · split
    · exact .inr (by simp; omega)
    · split
      · exact .inr (by simp; omega)
      · exact .inl rfl

theorem redundantNode_reduces (e : Expr) : Reduces e (redundantNode e) := by
  unfold redundantNode
  split
  · split
    · exact .inr (by simp)
    · exact .inl rfl
  · split
    · exact .inr (by simp)
    · exact .inl rfl
  · exact .inr (by simp)
  · exact .inr (by simp)
  · exact collapse_reduces _ _ _
  · exact .inl rfl

theorem guarded?_branch {test ifTrue ifFalse e : Expr} (h : guarded? test ifTrue ifFalse = some e) :
    e = ifTrue ∨ e = ifFalse := by
  unfold guarded? guardedValue? at h
  split at h
  · simp only [Option.bind_eq_bind, Option.bind_eq_some_iff] at h
    obtain ⟨s, _, h⟩ := h
    split at h
    · exact .inl (Option.some.inj h).symm
    · cases h
  · simp only [Option.bind_eq_bind, Option.bind_eq_some_iff] at h
    obtain ⟨s, _, h⟩ := h
    split at h
    · exact .inr (Option.some.inj h).symm
    · cases h
  · cases h

theorem nullGuardNode_reduces (e : Expr) : Reduces e (nullGuardNode e) := by
  unfold nullGuardNode
  split
  · rename_i test ifTrue ifFalse
    cases hg : guarded? test ifTrue ifFalse with
    | none => exact .inl rfl
    | some v =>
      refine .inr ?_
      simp only [Option.getD_some, weight_conditional]
      rcases guarded?_branch hg with rfl | rfl <;> omega
  · exact .inl rfl

theorem boostAmount_args {args : List Expr} {x : Number.Binary32} (h : boostAmount args = .ok x) :
    ∃ amount, args = [amount] := by
  unfold boostAmount at h
  split at h
  · exact ⟨_, rfl⟩
  · cases h

theorem fieldBoostNode_reduces {e e' : Expr} (h : fieldBoostNode e = .ok e') : Reduces e e' := by
  unfold fieldBoostNode at h
  split at h
  · rename_i target args
    split at h
    · obtain ⟨x, hx, hp⟩ := bind_eq_ok.1 h
      obtain ⟨amount, rfl⟩ := boostAmount_args hx
      obtain rfl := pure_eq_ok.1 hp
      have ha := amount.weight_pos
      have ht := target.weight_pos
      exact .inr (by simp; omega)
    · cases h
      exact .inl rfl
  · cases h
    exact .inl rfl

theorem patternTest_predicate {ref : FieldRef} {method : Method} {matching : Matching} {args : List Expr}
    {e : Expr} (h : patternTest ref method matching args = .ok e) : ∃ test, e = predicate test := by
  obtain ⟨⟨pattern, similarity⟩, _, h⟩ := bind_eq_ok.1 h
  obtain ⟨_, _, h⟩ := bind_eq_ok.1 h
  exact ⟨_, (pure_eq_ok.1 h).symm⟩

theorem threeWay?_weight {e a b : Expr} (h : threeWay? e = some (a, b)) :
    a.weight + b.weight < e.weight := by
  unfold threeWay? at h
  split at h
  · cases h
    simp
  · cases h
    simp
  · cases h

theorem opWeight_swapped (op : BinaryOp) : opWeight op.swapped = opWeight op := by
  cases op <;> rfl

theorem againstZero_reduces (op : BinaryOp) (left right : Expr) :
    Reduces (binary op left right) (againstZero op left right) := by
  unfold againstZero
  split
  · cases hw : threeWay? left with
    | none => exact .inl rfl
    | some ab =>
      have h := threeWay?_weight hw
      exact .inr (by simp only [weight_binary]; omega)
  · split
    · cases hw : threeWay? right with
      | none => exact .inl rfl
      | some ab =>
        have h := threeWay?_weight hw
        exact .inr (by simp only [weight_binary, opWeight_swapped]; omega)
    · exact .inl rfl

theorem patternNode_reduces {e e' : Expr} (h : patternNode e = .ok e') : Reduces e e' := by
  unfold patternNode at h
  split at h
  · rename_i target method args
    split at h
    · obtain ⟨test, rfl⟩ := patternTest_predicate h
      have ht := target.weight_pos
      exact .inr (by simp; omega)
    · cases h
      exact .inl rfl
  · cases h
    split
    · exact againstZero_reduces _ _ _
    · exact .inl rfl
  · cases h
    exact .inl rfl

theorem comparisonTest_reduces (op : BinaryOp) (matching : Matching) (occur : Occur) (left right : Expr) :
    Reduces (binary op left right) (comparisonTest op matching occur left right) := by
  have hl := left.weight_pos
  have hr := right.weight_pos
  unfold comparisonTest
  split
  · exact .inr (by simp; omega)
  · exact .inr (by simp; omega)
  · exact .inl rfl

theorem otherOperator_reduces {op : BinaryOp} {left right e : Expr}
    (h : otherOperator op left right = .ok e) : Reduces (binary op left right) e := by
  simp only [otherOperator] at h
  split at h
  · cases h
    exact .inl rfl
  · cases h
    exact .inl rfl
  · cases h
    exact .inr (by simp [opWeight])
  · cases h
    exact .inr (by simp [opWeight])
  · split at h
    · cases h
    · cases h
      exact .inl rfl

theorem comparisonNode_reduces {e e' : Expr} (h : comparisonNode e = .ok e') : Reduces e e' := by
  unfold comparisonNode at h
  split at h
  · split at h
    · cases h
      exact comparisonTest_reduces _ _ _ _ _
    · exact otherOperator_reduces h
  · cases h
    exact .inl rfl

theorem negated?_weight {e n : Expr} (h : negated? e = some n) : n.weight = e.weight := by
  unfold negated? at h
  split at h
  · cases h
    rfl
  · cases h
    rfl
  · cases h

theorem polarize_weight (op : BinaryOp) (value : Bool) (test : Expr) :
    (polarize op value test).weight = test.weight := by
  unfold polarize
  split
  · rfl
  · cases hn : negated? test with
    | none => rfl
    | some n => exact negated?_weight hn

theorem polarized_reduces (op : BinaryOp) (left right : Expr) :
    Reduces (binary op left right) (polarized op left right) := by
  have hl := left.weight_pos
  have hr := right.weight_pos
  unfold polarized
  split
  · split
    · exact .inr (by simp only [polarize_weight, weight_binary]; omega)
    · exact .inl rfl
  · split
    · split
      · exact .inr (by simp only [polarize_weight, weight_binary]; omega)
      · exact .inl rfl
    · exact .inl rfl

theorem polarityNode_reduces (e : Expr) : Reduces e (polarityNode e) := by
  unfold polarityNode
  split
  · rename_i operand
    cases hn : negated? operand with
    | none => exact .inl rfl
    | some n => exact .inr (by simp [negated?_weight hn])
  · exact polarized_reduces _ _ _
  · exact polarized_reduces _ _ _
  · exact .inl rfl

theorem attachBoost_weight {target e : Expr} {amount : Number.Binary32}
    (h : attachBoost target amount = .ok e) : e.weight ≤ target.weight + 1 := by
  unfold attachBoost at h
  split at h
  · cases h
    simp
  · cases h
    simp
  · cases h
    simp
  · split at h
    · cases h
      simp
    · cases h

theorem allowSpecialNode_weight (e : Expr) : (allowSpecialNode e).weight ≤ e.weight := by
  unfold allowSpecialNode
  split <;> simp

theorem allowSpecialIn_weight {target e : Expr} (h : allowSpecialIn target = .ok e) :
    e.weight ≤ target.weight := by
  have hmap := weight_congruent.mapUp allowSpecialNode allowSpecialNode_weight
  unfold allowSpecialIn at h
  split at h
  · cases h
    simp
  · cases h
    exact hmap _
  · split at h
    · cases h
      exact hmap _
    · cases h

theorem annotationNode_reduces {e e' : Expr} (h : annotationNode e = .ok e') : Reduces e e' := by
  unfold annotationNode at h
  split at h
  · obtain ⟨x, hx, hb⟩ := bind_eq_ok.1 h
    obtain ⟨amount, rfl⟩ := boostAmount_args hx
    have hw := attachBoost_weight hb
    have ha := amount.weight_pos
    exact .inr (by simp only [weight_call, weightAll_cons, weightAll_nil]; omega)
  · have hw := allowSpecialIn_weight h
    exact .inr (by simp only [weight_call, weightAll_nil]; omega)
  · cases h
    exact .inl rfl

theorem boundsNode_reduces (e : Expr) : Reduces e (boundsNode e) := by
  unfold boundsNode
  split
  · split
    · exact .inr (by simp [opWeight])
    · exact .inl rfl
  · split
    · exact .inr (by simp [opWeight])
    · exact .inl rfl
  · exact .inl rfl

/-- A boolean field made explicit is a comparison, and comparisons of fields become tests. -/
theorem comparisonNode_flagEquals (ref : FieldRef) (value : Bool) :
    (flagEquals (field ref) value).mapUpM comparisonNode =
      .ok (predicate (Predicate.ofField ref .exact (constant (.bool value)))) := rfl

def isNegation : Expr → Bool
  | unary .not _ => true
  | _ => false

theorem liftFlags_not (truth : Bool) {operand : Expr} (h : isNegation operand = false) :
    liftFlags truth (unary .not operand) =
      if truth && isFlag operand then flagEquals operand false
      else unary .not (liftFlags truth operand) := by
  rw [liftFlags]
  rintro inner rfl
  cases h

theorem liftFlags_call (truth : Bool) (target : Expr) (method : Method) (args : List Expr) :
    liftFlags truth (call target method args) =
      if isAnnotation (call target method args) then call (liftFlags truth target) method args
      else call (liftFlags false target) method (liftAll args) := by
  cases method <;> rfl

theorem liftFlags_not_reduces {truth : Bool} {operand e' : Expr} (hn : isNegation operand = false)
    (ih : ∀ a, (liftFlags truth operand).mapUpM comparisonNode = .ok a → Reduces operand a)
    (h : (liftFlags truth (unary .not operand)).mapUpM comparisonNode = .ok e') :
    Reduces (unary .not operand) e' := by
  rw [liftFlags_not truth hn] at h
  split at h
  · rename_i hf
    cases operand with
    | field ref =>
      rw [comparisonNode_flagEquals] at h
      cases h
      exact .inr (by simp)
    | _ => simp [isFlag] at hf
  · obtain ⟨a, ha, hr⟩ := bind_eq_ok.1 h
    cases hr
    exact reduces_congruent.unary .not (ih a ha)

mutual

/-- The walk over flags and the walk over comparisons, taken together. -/
theorem liftFlags_comparisons_reduces : (truth : Bool) → (e e' : Expr) →
    (liftFlags truth e).mapUpM comparisonNode = .ok e' → Reduces e e'
  | truth, .field ref, e', h => by
    rw [liftFlags] at h
    split at h
    · rw [comparisonNode_flagEquals] at h
      cases h
      exact .inr (by simp)
    · cases h
      exact .inl rfl
  | truth, .unary .not operand, e', h => by
    have ih := liftFlags_comparisons_reduces truth operand
    cases operand with
    | unary op inner =>
      cases op with
      | not =>
        rw [liftFlags] at h
        split at h
        · have hi := (liftFlags_comparisons_reduces true inner e' h).weight_le
          exact .inr (by simp; omega)
        · obtain ⟨a, ha, hn⟩ := bind_eq_ok.1 h
          obtain ⟨b, hb, ha⟩ := bind_eq_ok.1 ha
          cases ha
          cases hn
          have hi := liftFlags_comparisons_reduces false inner b hb
          exact reduces_congruent.unary .not (reduces_congruent.unary .not hi)
      | negate => exact liftFlags_not_reduces rfl ih h
    | _ => exact liftFlags_not_reduces rfl ih h
  | truth, .unary .negate operand, e', h => by
    obtain ⟨a, ha, hn⟩ := bind_eq_ok.1 h
    cases hn
    exact reduces_congruent.unary .negate (liftFlags_comparisons_reduces false operand a ha)
  | truth, .binary op left right, e', h => by
    obtain ⟨l, hl, hr⟩ := bind_eq_ok.1 h
    obtain ⟨r, hr, hn⟩ := bind_eq_ok.1 hr
    exact reduces_congruent.trans
      (reduces_congruent.binary op (liftFlags_comparisons_reduces _ left l hl)
        (liftFlags_comparisons_reduces _ right r hr)) (comparisonNode_reduces hn)
  | truth, .conditional test ifTrue ifFalse, e', h => by
    obtain ⟨t, ht, hr⟩ := bind_eq_ok.1 h
    obtain ⟨a, ha, hr⟩ := bind_eq_ok.1 hr
    obtain ⟨b, hb, hn⟩ := bind_eq_ok.1 hr
    cases hn
    exact reduces_congruent.conditional (liftFlags_comparisons_reduces true test t ht)
      (liftFlags_comparisons_reduces truth ifTrue a ha) (liftFlags_comparisons_reduces truth ifFalse b hb)
  | truth, .call target method args, e', h => by
    have hargs := fun as => reduces_congruent.mapAllM (fun _ _ => comparisonNode_reduces) args as
    rw [liftFlags_call] at h
    split at h
    · obtain ⟨t, ht, hr⟩ := bind_eq_ok.1 h
      obtain ⟨as, ha, hn⟩ := bind_eq_ok.1 hr
      cases hn
      exact reduces_congruent.call method (liftFlags_comparisons_reduces truth target t ht) (hargs as ha)
    · obtain ⟨t, ht, hr⟩ := bind_eq_ok.1 h
      obtain ⟨as, ha, hn⟩ := bind_eq_ok.1 hr
      cases hn
      exact reduces_congruent.call method (liftFlags_comparisons_reduces false target t ht)
        (liftAll_comparisons_reduces args as ha)
  | truth, .invoke method args, e', h => by
    obtain ⟨as, ha, hn⟩ := bind_eq_ok.1 h
    cases hn
    exact reduces_congruent.invoke method (liftAll_comparisons_reduces args as ha)
  | truth, .member target name kind, e', h => by
    obtain ⟨t, ht, hn⟩ := bind_eq_ok.1 h
    cases hn
    exact reduces_congruent.member name kind (liftFlags_comparisons_reduces false target t ht)
  | truth, .convert operand kind, e', h => by
    obtain ⟨a, ha, hn⟩ := bind_eq_ok.1 h
    cases hn
    exact reduces_congruent.convert kind (liftFlags_comparisons_reduces false operand a ha)
  | truth, .boosted target boost, e', h => by
    obtain ⟨t, ht, hn⟩ := bind_eq_ok.1 h
    cases hn
    exact reduces_congruent.boosted boost (liftFlags_comparisons_reduces false target t ht)
  | _, .constant _, _, h | _, .captured _, _, h | _, .source _, _, h | _, .predicate _, _, h
  | _, .interval _, _, h | _, .relevance, _, h | _, .anyField, _, h => by
    cases h
    exact .inl rfl

theorem liftAll_comparisons_reduces : (es es' : List Expr) →
    mapAllM comparisonNode (liftAll es) = .ok es' → List.Forall₂ Reduces es es'
  | [], es', h => by
    obtain rfl := pure_eq_ok.1 h
    exact .nil
  | e :: es, es', h => by
    obtain ⟨a, ha, hr⟩ := bind_eq_ok.1 h
    obtain ⟨as, has, hr⟩ := bind_eq_ok.1 hr
    obtain rfl := pure_eq_ok.1 hr
    exact .cons (liftFlags_comparisons_reduces false e a ha) (liftAll_comparisons_reduces es as has)

end

theorem round_eq (role : Role) (e : Expr) : round role e = do
    let e ← e.mapUpM memberNode
    let e := ((e.mapUp markerNode).mapUp redundantNode).mapUp nullGuardNode
    let e ← e.mapUpM fieldBoostNode
    let e ← e.mapUpM patternNode
    let e ← (if role = .condition then liftFlags true e else e).mapUpM comparisonNode
    let e ← (e.mapUp polarityNode).mapUpM annotationNode
    return e.mapUp boundsNode := by
  simp only [round, Pass.pipeline, List.foldlM_cons, List.foldlM_nil, Pass.apply, annotate, ok_bind]

/-- A round resolves members first; what it does then makes the tree lighter or leaves it. -/
theorem round_members {role : Role} {e e' : Expr} (h : round role e = .ok e') :
    ∃ m, e.mapUpM memberNode = .ok m ∧ Reduces m e' := by
  have hc := reduces_congruent
  rw [round_eq] at h
  obtain ⟨e₁, h₁, h⟩ := bind_eq_ok.1 h
  obtain ⟨e₂, h₂, h⟩ := bind_eq_ok.1 h
  obtain ⟨e₃, h₃, h⟩ := bind_eq_ok.1 h
  obtain ⟨e₄, h₄, h⟩ := bind_eq_ok.1 h
  obtain ⟨e₅, h₅, h⟩ := bind_eq_ok.1 h
  obtain rfl := pure_eq_ok.1 h
  have r₂ := hc.mapUp markerNode markerNode_reduces e₁
  have r₃ := hc.mapUp redundantNode redundantNode_reduces (e₁.mapUp markerNode)
  have r₄ := hc.mapUp nullGuardNode nullGuardNode_reduces ((e₁.mapUp markerNode).mapUp redundantNode)
  have r₅ := hc.mapUpM (fun _ _ => fieldBoostNode_reduces) _ _ h₂
  have r₆ := hc.mapUpM (fun _ _ => patternNode_reduces) _ _ h₃
  have r₇ : Reduces e₃ e₄ := by
    split at h₄
    · exact liftFlags_comparisons_reduces true _ _ h₄
    · exact hc.mapUpM (fun _ _ => comparisonNode_reduces) _ _ h₄
  have r₈ := hc.mapUp polarityNode polarityNode_reduces e₄
  have r₉ := hc.mapUpM (fun _ _ => annotationNode_reduces) _ _ h₅
  have r₁₀ := hc.mapUp boundsNode boundsNode_reduces e₅
  exact ⟨e₁, h₁, hc.trans r₂ (hc.trans r₃ (hc.trans r₄ (hc.trans r₅ (hc.trans r₆ (hc.trans r₇
    (hc.trans r₈ (hc.trans r₉ r₁₀)))))))⟩

theorem round_reduces {role : Role} {e e' : Expr} (h : round role e = .ok e') : Reduces e e' := by
  obtain ⟨m, hm, hr⟩ := round_members h
  exact reduces_congruent.trans (reduces_congruent.mapUpM (fun _ _ => memberNode_reduces) _ _ hm) hr

/-- A settled tree has no members to resolve. -/
theorem members_settled {role : Role} {e : Expr} (h : round role e = .ok e) : e.mapUpM memberNode = .ok e := by
  obtain ⟨m, hm, hr⟩ := round_members h
  rcases reduces_congruent.mapUpM (fun _ _ => memberNode_reduces) _ _ hm with rfl | hlt
  · exact hm
  · have hle := hr.weight_le
    omega

end IndexQuery.Lowering
