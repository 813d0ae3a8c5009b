import IndexQuery.Proofs.RoundSteps

set_option autoImplicit false

/-!
Expressions whose lowering does not depend on where they stand.

In the place of a truth value lowering makes boolean fields explicit, and removes double negations. Conditionals and
annotations pass the place on to their parts. A tree without such nodes stays one without them
(`keepsPlace_stepClosed`), and then the place matters for negations only (`liftFlags_placeless`).
-/

namespace IndexQuery

namespace Expr

/-- A node that asks for its place, that lowering makes one that does, or that passes its place on to a part. -/
def dependsOnPlace : Expr → Bool
  | conditional _ _ _ => true
  | member _ _ kind => kind == .bool
  | convert _ kind => kind == .bool
  | field ref => ref.kind == .bool
  | e => e.isAnnotation

def Placeless (e : Expr) : Prop := e.any dependsOnPlace = false

theorem anyOf_eq_false {test : Expr → Bool} {es : List Expr} :
    anyOf test es = false ↔ ∀ e ∈ es, e.any test = false := by
  induction es with
  | nil => simp [anyOf]
  | cons e es ih => simp [anyOf, ih]

section Parts

variable {a b c : Expr} {es : List Expr}

@[simp] theorem placeless_field {ref : FieldRef} : (field ref).Placeless ↔ ref.kind ≠ .bool := by
  simp [Placeless, any, dependsOnPlace]

@[simp] theorem placeless_member {name : String} {kind : ScalarKind} :
    (member a name kind).Placeless ↔ kind ≠ .bool ∧ a.Placeless := by
  simp [Placeless, any, dependsOnPlace]

@[simp] theorem placeless_call {method : Method} : (call a method es).Placeless ↔
    isAnnotation (call a method es) = false ∧ a.Placeless ∧ ∀ e ∈ es, e.Placeless := by
  simp [Placeless, any, dependsOnPlace, anyOf_eq_false, and_assoc]

@[simp] theorem placeless_invoke {method : Method} : (invoke method es).Placeless ↔
    isAnnotation (invoke method es) = false ∧ ∀ e ∈ es, e.Placeless := by
  simp [Placeless, any, dependsOnPlace, anyOf_eq_false]

@[simp] theorem placeless_unary {op : UnaryOp} : (unary op a).Placeless ↔ a.Placeless := by
  simp [Placeless, any, dependsOnPlace, isAnnotation]

@[simp] theorem placeless_binary {op : BinaryOp} : (binary op a b).Placeless ↔ a.Placeless ∧ b.Placeless := by
  simp [Placeless, any, dependsOnPlace, isAnnotation]

@[simp] theorem not_placeless_conditional : ¬ (conditional a b c).Placeless := by
  simp [Placeless, any, dependsOnPlace]

@[simp] theorem placeless_convert {kind : ScalarKind} :
    (convert a kind).Placeless ↔ kind ≠ .bool ∧ a.Placeless := by
  simp [Placeless, any, dependsOnPlace]

@[simp] theorem placeless_boosted {boost : Number.Binary32} : (boosted a boost).Placeless ↔ a.Placeless := by
  simp [Placeless, any, dependsOnPlace, isAnnotation]

end Parts

def KeepsPlace (e e' : Expr) : Prop := e.Placeless → e'.Placeless

theorem keepsPlace_congruent : Congruent KeepsPlace where
  refl _ h := h
  trans hab hbc h := hbc (hab h)
  member _ _ h := by
    intro he
    rw [placeless_member] at he ⊢
    exact ⟨he.1, h he.2⟩
  call method ht ha := by
    intro he
    rw [placeless_call] at he ⊢
    refine ⟨?_, ht he.2.1, forall_mem_of_forall₂ ha he.2.2⟩
    have h := he.1
    cases method <;> first | rfl | (cases ha <;> first | rfl | cases h)
  invoke method ha := by
    intro he
    rw [placeless_invoke] at he ⊢
    refine ⟨?_, forall_mem_of_forall₂ ha he.2⟩
    have h := he.1
    cases method <;> first | rfl | cases h
  unary _ h := by simpa [KeepsPlace] using h
  binary _ ha hb := by
    intro he
    rw [placeless_binary] at he ⊢
    exact ⟨ha he.1, hb he.2⟩
  conditional _ _ _ he := (not_placeless_conditional he).elim
  convert _ h := by
    intro he
    rw [placeless_convert] at he ⊢
    exact ⟨he.1, h he.2⟩
  boosted _ h := by simpa [KeepsPlace] using h

end Expr

open IndexQuery.Expr

namespace Lowering

theorem memberNode_keepsPlace {e e' : Expr} (h : memberNode e = .ok e') : KeepsPlace e e' := by
  intro he
  unfold memberNode at h
  split at h
  · cases h
    exact placeless_field.2 (placeless_member.1 he).1
  · cases h
    exact placeless_field.2 (placeless_member.1 he).1
  · obtain ⟨name, rfl⟩ := namedField_text h
    exact placeless_field.2 ScalarKind.noConfusion
  · cases h
    exact he

theorem marker?_placeless {method : Method} {e : Expr} (h : marker? method = some e) : e.Placeless := by
  unfold marker? at h
  split at h <;> cases h <;> rfl

theorem markerNode_keepsPlace (e : Expr) : KeepsPlace e (markerNode e) := by
  intro he
  unfold markerNode
  split
  · rename_i name method
    cases hm : marker? method with
    | none => exact he
    | some m => exact marker?_placeless hm
  · rename_i method name
    cases hm : marker? method with
    | none => exact he
    | some m => exact marker?_placeless hm
  · exact he

theorem collapse_keepsPlace (op : BinaryOp) (left right : Expr) :
    KeepsPlace (binary op left right) (collapse op left right) := by
  intro he
  have hparts := placeless_binary.1 he
  unfold collapse
  split
  · exact he
  · split
    · exact hparts.2
    · split
      · exact hparts.1
      · exact he

/-- A conversion declares its own kind for a field. -/
theorem redundantNode_keepsPlace (e : Expr) : KeepsPlace e (redundantNode e) := by
  intro he
  unfold redundantNode
  split
  · split
    · exact (placeless_call.1 he).2.1
    · exact he
  · split
    · exact (placeless_call.1 he).2.1
    · exact he
  · obtain ⟨hkind, href⟩ := placeless_convert.1 he
    split
    · exact href
    · exact placeless_field.2 hkind
  · rfl
  · exact collapse_keepsPlace _ _ _ he
  · exact he

theorem nullGuardNode_keepsPlace (e : Expr) : KeepsPlace e (nullGuardNode e) := by
  intro he
  unfold nullGuardNode
  split
  · exact (not_placeless_conditional he).elim
  · exact he

theorem fieldBoostNode_keepsPlace {e e' : Expr} (h : fieldBoostNode e = .ok e') : KeepsPlace e e' := by
  intro he
  unfold fieldBoostNode at h
  split at h
  · cases (placeless_call.1 he).1
  · cases h
    exact he

theorem againstZero_keepsPlace (op : BinaryOp) (left right : Expr) :
    KeepsPlace (binary op left right) (againstZero op left right) := by
  have hw : ∀ {e a b : Expr}, threeWay? e = some (a, b) → e.Placeless → a.Placeless ∧ b.Placeless := by
    intro e a b h he
    unfold threeWay? at h
    split at h
    · cases h
      simpa using (placeless_call.1 he).2
    · cases h
      simpa using (placeless_invoke.1 he).2
    · cases h
  intro he
  have hparts := placeless_binary.1 he
  unfold againstZero
  split
  · cases hl : threeWay? left with
    | none => exact he
    | some ab => exact placeless_binary.2 (hw hl hparts.1)
  · split
    · cases hr : threeWay? right with
      | none => exact he
      | some ab => exact placeless_binary.2 (hw hr hparts.2)
    · exact he

theorem patternNode_keepsPlace {e e' : Expr} (h : patternNode e = .ok e') : KeepsPlace e e' := by
  intro he
  unfold patternNode at h
  split at h
  · split at h
    · obtain ⟨_, rfl⟩ := patternTest_predicate h
      rfl
    · cases h
      exact he
  · cases h
    split
    · exact againstZero_keepsPlace _ _ _ he
    · exact he
  · cases h
    exact he

theorem comparisonTest_keepsPlace (op : BinaryOp) (matching : Matching) (occur : Occur) (left right : Expr) :
    KeepsPlace (binary op left right) (comparisonTest op matching occur left right) := by
  intro he
  unfold comparisonTest
  split
  · rfl
  · rfl
  · exact he

theorem otherOperator_keepsPlace {op : BinaryOp} {left right e : Expr} (h : otherOperator op left right = .ok e) :
    KeepsPlace (binary op left right) e := by
  intro he
  have hparts := placeless_binary.1 he
  simp only [otherOperator] at h
  split at h
  · cases h
    exact he
  · cases h
    exact he
  · cases h
    exact placeless_binary.2 hparts
  · cases h
    exact placeless_binary.2 hparts
  · split at h
    · cases h
    · cases h
      exact he

theorem comparisonNode_keepsPlace {e e' : Expr} (h : comparisonNode e = .ok e') : KeepsPlace e e' := by
  unfold comparisonNode at h
  split at h
  · split at h
    · cases h
      exact comparisonTest_keepsPlace _ _ _ _ _
    · exact otherOperator_keepsPlace h
  · cases h
    exact keepsPlace_congruent.refl _

theorem negated?_placeless {e n : Expr} (h : negated? e = some n) : n.Placeless := by
  unfold negated? at h
  split at h <;> cases h <;> rfl

theorem polarize_keepsPlace (op : BinaryOp) (value : Bool) (test : Expr) :
    KeepsPlace test (polarize op value test) := by
  intro ht
  unfold polarize
  split
  · exact ht
  · cases hn : negated? test with
    | none => exact ht
    | some n => exact negated?_placeless hn

theorem polarized_keepsPlace (op : BinaryOp) (left right : Expr) :
    KeepsPlace (binary op left right) (polarized op left right) := by
  intro he
  have hparts := placeless_binary.1 he
  unfold polarized
  split
  · split
    · exact polarize_keepsPlace _ _ _ hparts.1
    · exact he
  · split
    · split
      · exact polarize_keepsPlace _ _ _ hparts.2
      · exact he
    · exact he

theorem polarityNode_keepsPlace (e : Expr) : KeepsPlace e (polarityNode e) := by
  intro he
  unfold polarityNode
  split
  · rename_i operand
    cases hn : negated? operand with
    | none => exact he
    | some n => exact negated?_placeless hn
  · exact polarized_keepsPlace _ _ _ he
  · exact polarized_keepsPlace _ _ _ he
  · exact he

theorem annotationNode_keepsPlace {e e' : Expr} (h : annotationNode e = .ok e') : KeepsPlace e e' := by
  intro he
  unfold annotationNode at h
  split at h
  · cases (placeless_call.1 he).1
  · cases (placeless_call.1 he).1
  · cases h
    exact he

theorem boundsNode_keepsPlace (e : Expr) : KeepsPlace e (boundsNode e) := by
  intro he
  unfold boundsNode
  split
  · split
    · rfl
    · exact he
  · split
    · rfl
    · exact he
  · exact he

theorem keepsPlace_stepClosed : StepClosed KeepsPlace where
  toCongruent := keepsPlace_congruent
  members := memberNode_keepsPlace
  markers := markerNode_keepsPlace
  redundancies := redundantNode_keepsPlace
  nullGuards := nullGuardNode_keepsPlace
  fieldBoosts := fieldBoostNode_keepsPlace
  patterns := patternNode_keepsPlace
  flag _ h := placeless_binary.2 ⟨h, rfl⟩
  negatedFlag _ h := placeless_binary.2 ⟨placeless_unary.1 h, rfl⟩
  doubleNegation _ h := placeless_unary.1 (placeless_unary.1 h)
  comparisons := comparisonNode_keepsPlace
  polarity := polarityNode_keepsPlace
  annotations := annotationNode_keepsPlace
  bounds := boundsNode_keepsPlace

theorem not_negation_of_not_logical {e : Expr} (h : isLogical e = false) : isNegation e = false := by
  cases e with
  | unary op operand =>
    cases op with
    | not => cases h
    | negate => rfl
  | _ => rfl

/-- Without flags, conditionals and annotations, the place matters for negations only. -/
theorem liftFlags_placeless (truth : Bool) :
    (e : Expr) → e.Placeless → isNegation e = false → liftFlags truth e = liftFlags false e
  | .field ref, he, _ => by
    have hkind : (ref.kind == .bool) = false := beq_false_of_ne (placeless_field.1 he)
    rw [liftFlags, liftFlags, hkind, Bool.and_false, Bool.and_false]
  | .binary op left right, he, _ => by
    obtain ⟨hleft, hright⟩ := placeless_binary.1 he
    rw [liftFlags, liftFlags]
    cases hlogical : isLogical left || isLogical right with
    | true => simp only [Bool.or_assoc, hlogical, Bool.or_true]
    | false =>
      -- no operand is a negation, so that their places do not matter either
      rw [Bool.or_eq_false_iff] at hlogical
      have hl := fun truth => liftFlags_placeless truth left hleft (not_negation_of_not_logical hlogical.1)
      have hr := fun truth => liftFlags_placeless truth right hright (not_negation_of_not_logical hlogical.2)
      exact congrArg₂ (binary op) ((hl _).trans (hl _).symm) ((hr _).trans (hr _).symm)
  | .call target method args, he, _ => by
    rw [liftFlags_call, liftFlags_call, (placeless_call.1 he).1]
    rfl
  | .unary .not _, _, h => Bool.noConfusion h
  | .unary .negate _, _, _ | .invoke _ _, _, _ | .member _ _ _, _, _ | .convert _ _, _, _ | .boosted _ _, _, _
  | .constant _, _, _ | .captured _, _, _ | .source _, _, _ | .predicate _, _, _ | .interval _, _, _
  | .relevance, _, _ | .anyField, _, _ => rfl
  | .conditional _ _ _, he, _ => (not_placeless_conditional he).elim

end Lowering

end IndexQuery
