import IndexQuery.Proofs.Mirroring
import IndexQuery.Proofs.Settling
import IndexQuery.Proofs.WellFormedTests

set_option autoImplicit false

/-!
Lowering mirrored trees.

Every pass carries mirrored trees into mirrored trees: what it does to a comparison with its operands one way round,
it does to the mirror image with the operator turned (`againstZero_swapped`, `comparisonTest_swapped`,
`polarized_swapped`), and hence so does a round (`round_mirrored`). A round changes both trees or neither, since they
weigh the same, so that lowering stops on both after the same number of rounds (`lower_mirrored`).
-/

namespace IndexQuery.Lowering

open IndexQuery.Expr

variable {a b c d e e' : Expr} {as bs : List Expr}

theorem rel_getD {α : Type} {R : α → α → Prop} {o o' : Option α} {x x' : α} (h : Option.Rel R o o') (hx : R x x') :
    R (o.getD x) (o'.getD x') := by
  cases h with
  | some h => exact h
  | none => exact hx

/-! ### Fields and what is redundant about them -/

theorem namedField_mirrored (hs : List.Forall₂ Mirrored as bs) :
    Follows Mirrored (namedField as) (namedField bs) := by
  cases hs with
  | nil => exact .error
  | cons h hs =>
    cases hs with
    | nil =>
      refine h.evaluate.bind ?_
      rintro v _ rfl
      exact .refl .refl _
    | cons _ _ => exact .error

theorem memberNode_mirrored (h : Mirrored e e') : Follows Mirrored (memberNode e) (memberNode e') := by
  have hm := h
  cases h with
  | refl e => exact .refl .refl _
  | member name kind h =>
    cases h with
    | refl target => exact .refl .refl _
    | _ => exact .ok hm
  | @call target _ _ _ method h hs =>
    cases h with
    | refl =>
      cases target with
      | source name =>
        cases method with
        | getField => exact namedField_mirrored hs
        | _ => exact .ok hm
      | _ => exact .ok hm
    | _ => exact .ok hm
  | _ => exact .ok hm

theorem markerNode_mirrored (h : Mirrored e e') : Mirrored (markerNode e) (markerNode e') := by
  have hm := h
  cases h with
  | @call target _ _ _ method h hs =>
    cases h with
    | refl =>
      cases target with
      | source name =>
        cases hs with
        | nil => exact .refl _
        | cons _ _ => exact hm
      | _ => exact hm
    | _ => exact hm
  | invoke method hs =>
    cases hs with
    | nil => exact hm
    | @cons arg _ _ _ h hs =>
      cases h with
      | refl =>
        cases arg with
        | source name =>
          cases hs with
          | nil => exact .refl _
          | cons _ _ => exact hm
        | _ => exact hm
      | _ => exact hm
  | refl e => exact .refl _
  | _ => exact hm

theorem collapse_mirrored (op : BinaryOp) (hl : Mirrored a c) (hr : Mirrored b d) :
    Mirrored (collapse op a b) (collapse op c d) := by
  unfold collapse
  rw [hl.asBoolConstant?_eq, hr.asBoolConstant?_eq]
  split
  · exact .binary op hl hr
  · split
    · exact hr
    · split
      · exact hl
      · exact .binary op hl hr

theorem collapse_comparison {op : BinaryOp} (hop : op.isComparison = true) (left right : Expr) :
    collapse op left right = binary op left right := by
  cases op with
  | and | or => cases hop
  | _ => rfl

theorem redundantNode_mirrored (h : Mirrored e e') : Mirrored (redundantNode e) (redundantNode e') := by
  have hm := h
  cases h with
  | refl e => exact .refl _
  | call method h hs =>
    cases hs with
    | nil =>
      cases method with
      | toLowercase | toUppercase =>
        simp only [redundantNode, h.fieldOperand?_eq]
        split
        · exact h
        · exact hm
      | _ => exact hm
    | cons _ _ => cases method <;> exact hm
  | convert kind h =>
    cases h with
    | refl operand => exact .refl _
    | _ => exact hm
  | binary op hl hr => exact collapse_mirrored op hl hr
  | @swapped _ _ _ _ op hop hl hr =>
    rw [redundantNode, redundantNode, collapse_comparison hop,
      collapse_comparison (by rw [op.swapped_isComparison, hop])]
    exact hm
  | _ => exact hm

theorem nullGuardNode_mirrored (h : Mirrored e e') : Mirrored (nullGuardNode e) (nullGuardNode e') := by
  have hm := h
  cases h with
  | refl e => exact .refl _
  | _ => exact hm

theorem boostAmount_mirrored (hs : List.Forall₂ Mirrored as bs) : Follows Eq (boostAmount as) (boostAmount bs) := by
  cases hs with
  | nil => exact .error
  | cons h hs =>
    cases hs with
    | nil => exact h.evaluate.bind_eq _
    | cons _ _ => exact .error

theorem fieldBoostNode_mirrored (h : Mirrored e e') : Follows Mirrored (fieldBoostNode e) (fieldBoostNode e') := by
  have hm := h
  cases h with
  | refl e => exact .refl .refl _
  | call method h hs =>
    cases method with
    | boost =>
      simp only [fieldBoostNode, h.fieldOperand?_eq]
      split
      · refine (boostAmount_mirrored hs).bind ?_
        rintro x _ rfl
        exact .ok (.refl _)
      · exact .ok hm
    | _ => exact .ok hm
  | _ => exact .ok hm

/-! ### Patterns, and three-way comparisons with zero -/

theorem patternArguments_mirrored (method : Method) (matching : Matching) (hs : List.Forall₂ Mirrored as bs) :
    Follows (fun p q => Mirrored p.1 q.1 ∧ p.2 = q.2) (patternArguments method matching as)
      (patternArguments method matching bs) := by
  cases hs with
  | nil => cases matching <;> exact .error
  | cons h hs =>
    cases hs with
    | nil => cases matching <;> exact .ok ⟨h, rfl⟩
    | cons hsim hs =>
      cases hs with
      | nil =>
        cases matching with
        | similar =>
          refine hsim.evaluate.bind ?_
          rintro v _ rfl
          exact (Follows.refl Eq.refl _).bind fun hx => .ok ⟨h, congrArg some hx⟩
        | _ => exact .error
      | cons _ _ => cases matching <;> exact .error

theorem checkPattern_mirrored (method : Method) (h : Mirrored e e') :
    Follows Eq (checkPattern method e) (checkPattern method e') := by
  intro _ hc
  refine ⟨(), ?_, rfl⟩
  rw [checkPattern, h.isEvaluable_eq, checkPattern_evaluable hc]
  rfl

theorem patternTest_mirrored (ref : FieldRef) (method : Method) (matching : Matching)
    (hs : List.Forall₂ Mirrored as bs) :
    Follows Mirrored (patternTest ref method matching as) (patternTest ref method matching bs) := by
  refine (patternArguments_mirrored method matching hs).bind ?_
  rintro ⟨p, similarity⟩ ⟨q, _⟩ ⟨h, rfl⟩
  exact (checkPattern_mirrored method h).bind fun _ => .ok (.predicate _ h)

theorem isZero_mirrored (h : Mirrored e e') : isZero e' = isZero e := by cases h <;> rfl

theorem threeWay?_mirrored (h : Mirrored e e') :
    Option.Rel (fun p q => Mirrored p.1 q.1 ∧ Mirrored p.2 q.2) (threeWay? e) (threeWay? e') := by
  cases h with
  | refl e =>
    cases threeWay? e with
    | none => exact .none
    | some p => exact .some ⟨.refl _, .refl _⟩
  | call method h hs =>
    cases method with
    | compareTo =>
      rcases hs with _ | ⟨hother, _ | _⟩
      · exact .none
      · exact .some ⟨h, hother⟩
      · exact .none
    | _ => exact .none
  | invoke method hs =>
    cases method with
    | compare =>
      rcases hs with _ | ⟨hleft, _ | ⟨hright, _ | _⟩⟩
      · exact .none
      · exact .none
      · exact .some ⟨hleft, hright⟩
      · exact .none
    | _ => exact .none
  | _ => exact .none

theorem threeWay?_of_isZero (h : isZero e = true) : threeWay? e = none := by
  cases e with
  | constant => rfl
  | _ => cases h

theorem againstZero_mirrored (op : BinaryOp) (hl : Mirrored a c) (hr : Mirrored b d) :
    Mirrored (againstZero op a b) (againstZero op c d) := by
  have hwl := threeWay?_mirrored hl
  have hwr := threeWay?_mirrored hr
  unfold againstZero
  rw [isZero_mirrored hl, isZero_mirrored hr]
  split
  · generalize threeWay? a = x, threeWay? c = y at hwl
    cases hwl with
    | none => exact .binary op hl hr
    | some h => exact .binary op h.1 h.2
  · split
    · generalize threeWay? b = x, threeWay? d = y at hwr
      cases hwr with
      | none => exact .binary op hl hr
      | some h => exact .binary op.swapped h.1 h.2
    · exact .binary op hl hr

theorem againstZero_swapped {op : BinaryOp} (hop : op.isComparison = true) (hl : Mirrored a c) (hr : Mirrored b d) :
    Mirrored (againstZero op a b) (againstZero op.swapped d c) := by
  have hwl := threeWay?_mirrored hl
  have hwr := threeWay?_mirrored hr
  have hzl := isZero_mirrored hl
  have hzr := isZero_mirrored hr
  unfold againstZero
  rw [op.swapped_swapped]
  -- the zero on the right is looked for first, which shows only if both operands are zero, and then neither is
  -- a three-way comparison
  cases hb : isZero b with
  | true =>
    cases ha : isZero a with
    | true =>
      rw [threeWay?_of_isZero ha, threeWay?_of_isZero (hzr.trans hb), hzl, ha]
      exact .swapped hop hl hr
    | false =>
      rw [hzl, ha, hzr, hb]
      generalize threeWay? a = x, threeWay? c = y at hwl
      cases hwl with
      | none => exact .swapped hop hl hr
      | some h => exact .binary op h.1 h.2
  | false =>
    cases ha : isZero a with
    | true =>
      rw [hzl, ha]
      generalize threeWay? b = x, threeWay? d = y at hwr
      cases hwr with
      | none => exact .swapped hop hl hr
      | some h => exact .binary op.swapped h.1 h.2
    | false =>
      rw [hzl, ha, hzr, hb]
      exact .swapped hop hl hr

theorem patternNode_mirrored (h : Mirrored e e') : Follows Mirrored (patternNode e) (patternNode e') := by
  have hm := h
  cases h with
  | refl e => exact .refl .refl _
  | call method h hs =>
    simp only [patternNode, h.fieldOperand?_eq]
    split
    · exact patternTest_mirrored _ method _ hs
    · exact .ok hm
  | binary op hl hr =>
    simp only [patternNode]
    split
    · exact .ok (againstZero_mirrored op hl hr)
    · exact .ok hm
  | @swapped _ _ _ _ op hop hl hr =>
    simp only [patternNode, op.swapped_isComparison, hop, if_true]
    exact .ok (againstZero_swapped hop hl hr)
  | _ => exact .ok hm

/-! ### Comparisons of a field -/

theorem isEvaluable_fieldOperand? {ref : FieldRef} (h : e.fieldOperand? = some ref) : e.isEvaluable = false := by
  cases e with
  | field | anyField => rfl
  | _ => cases h

theorem comparisonTest_mirrored (op : BinaryOp) (matching : Matching) (occur : Occur) (hl : Mirrored a c)
    (hr : Mirrored b d) :
    Mirrored (comparisonTest op matching occur a b) (comparisonTest op matching occur c d) := by
  unfold comparisonTest
  rw [hl.fieldOperand?_eq, hl.isEvaluable_eq, hr.fieldOperand?_eq, hr.isEvaluable_eq]
  split
  · exact .predicate _ hr
  · exact .predicate _ hl
  · exact .binary op hl hr

theorem comparisonTest_swapped {op : BinaryOp} (hop : op.isComparison = true) (matching : Matching) (occur : Occur)
    (hl : Mirrored a c) (hr : Mirrored b d) :
    Mirrored (comparisonTest op matching occur a b) (comparisonTest op.swapped matching.swapped occur d c) := by
  unfold comparisonTest
  rw [hl.fieldOperand?_eq, hl.isEvaluable_eq, hr.fieldOperand?_eq, hr.isEvaluable_eq, matching.swapped_swapped]
  -- a field has no value of its own, so that at most one of the two readings applies
  cases hfa : a.fieldOperand? with
  | some ref =>
    rw [isEvaluable_fieldOperand? hfa]
    cases hvb : b.isEvaluable with
    | true =>
      cases hfb : b.fieldOperand? with
      | some _ =>
        rw [isEvaluable_fieldOperand? hfb] at hvb
        cases hvb
      | none => exact .predicate _ hr
    | false =>
      cases b.fieldOperand? <;> exact .swapped hop hl hr
  | none =>
    cases hva : a.isEvaluable with
    | true =>
      cases hfb : b.fieldOperand? with
      | some ref => 
        rw [isEvaluable_fieldOperand? hfb]
        exact .predicate _ hl
      | none => exact .swapped hop hl hr
    | false =>
      cases b.fieldOperand? <;> exact .swapped hop hl hr

theorem comparison?_swapped {op : BinaryOp} (hop : op.isComparison = true) : ∃ matching occur,
    comparison? op = some (matching, occur) ∧ comparison? op.swapped = some (matching.swapped, occur) := by
  cases op with
  | equal | notEqual | less | lessOrEqual | greater | greaterOrEqual => exact ⟨_, _, rfl, rfl⟩
  | _ => cases hop

theorem touchesField_mirrored (h : Mirrored e e') : touchesField e' = touchesField e :=
  h.any_eq fun hn => by rw [hn.fieldOperand?_eq]

theorem otherOperator_mirrored (op : BinaryOp) (hl : Mirrored a c) (hr : Mirrored b d) :
    Follows Mirrored (otherOperator op a b) (otherOperator op c d) := by
  simp only [otherOperator, hl.isQueryNode_eq, hr.isQueryNode_eq, touchesField_mirrored hl,
    touchesField_mirrored hr]
  split
  · exact .ok (.binary .and hl hr)
  · exact .ok (.binary .or hl hr)
  · exact .ok (.binary .and hl hr)
  · exact .ok (.binary .or hl hr)
  · split
    · exact .error
    · exact .ok (.binary _ hl hr)

theorem comparisonNode_mirrored (h : Mirrored e e') : Follows Mirrored (comparisonNode e) (comparisonNode e') := by
  have hm := h
  cases h with
  | refl e => exact .refl .refl _
  | binary op hl hr =>
    simp only [comparisonNode]
    split
    · exact .ok (comparisonTest_mirrored op _ _ hl hr)
    · exact otherOperator_mirrored op hl hr
  | @swapped _ _ _ _ op hop hl hr =>
    obtain ⟨matching, occur, hc, hc'⟩ := comparison?_swapped hop
    simp only [comparisonNode, hc, hc']
    exact .ok (comparisonTest_swapped hop matching occur hl hr)
  | _ => exact .ok hm

/-! ### Truth values -/

theorem isFlag_mirrored (h : Mirrored e e') : isFlag e' = isFlag e := by cases h <;> rfl

theorem isLogical_mirrored (h : Mirrored e e') : isLogical e' = isLogical e := by
  cases h with
  | unary op _ => cases op <;> rfl
  | @swapped _ _ _ _ op _ _ _ => cases op <;> rfl
  | _ => rfl

theorem joinsTruths_comparison {op : BinaryOp} (hop : op.isComparison = true) : joinsTruths op = false := by
  cases op with
  | and | or | bitAnd | bitOr => cases hop
  | _ => rfl

theorem liftFlags_comparison {op : BinaryOp} (hop : op.isComparison = true) (truth : Bool) (left right : Expr) :
    liftFlags truth (binary op left right) = binary op (liftFlags false left) (liftFlags false right) := by
  rw [liftFlags, joinsTruths_comparison hop, Bool.false_and]

theorem liftFlags_not_mirrored (truth : Bool) (ha : isNegation a = false) (hb : isNegation b = false)
    (h : Mirrored a b) (ih : Mirrored (liftFlags truth a) (liftFlags truth b)) :
    Mirrored (liftFlags truth (unary .not a)) (liftFlags truth (unary .not b)) := by
  rw [liftFlags_not truth ha, liftFlags_not truth hb, isFlag_mirrored h]
  split
  · exact .binary .equal h (.refl _)
  · exact .unary .not ih

mutual

theorem liftFlags_mirrored : (truth : Bool) → {e e' : Expr} → Mirrored e e' →
    Mirrored (liftFlags truth e) (liftFlags truth e')
  | _, _, _, .refl _ => .refl _
  | truth, _, _, .member name kind h => .member name kind (liftFlags_mirrored false h)
  | truth, _, _, .call method h hs => by
    have hm := Mirrored.call method h hs
    rw [liftFlags_call, liftFlags_call, hm.isAnnotation_eq]
    split
    · exact .call method (liftFlags_mirrored truth h) hs
    · exact .call method (liftFlags_mirrored false h) (liftAll_mirrored hs)
  | _, _, _, .invoke method hs => .invoke method (liftAll_mirrored hs)
  | truth, _, _, .unary .negate h => .unary .negate (liftFlags_mirrored false h)
  | truth, _, _, .unary .not h => by
    have ih := liftFlags_mirrored truth h
    have hm := h
    -- a negation of a negation is lifted in one step, two nodes down
    cases h with
    | refl => exact .refl _
    | unary op h =>
      cases op with
      | not =>
        rw [liftFlags, liftFlags]
        split
        · exact liftFlags_mirrored true h
        · exact .unary .not (.unary .not (liftFlags_mirrored false h))
      | negate => exact liftFlags_not_mirrored truth rfl rfl hm ih
    | _ => exact liftFlags_not_mirrored truth rfl rfl hm ih
  | truth, _, _, .binary op hl hr => by
    rw [liftFlags, liftFlags, isLogical_mirrored hl, isLogical_mirrored hr]
    exact .binary op (liftFlags_mirrored _ hl) (liftFlags_mirrored _ hr)
  | truth, _, _, @Mirrored.swapped _ _ _ _ op hop hl hr => by
    rw [liftFlags_comparison hop, liftFlags_comparison (by rw [op.swapped_isComparison, hop])]
    exact .swapped hop (liftFlags_mirrored false hl) (liftFlags_mirrored false hr)
  | _, _, _, .convert kind h => .convert kind (liftFlags_mirrored false h)
  | _, _, _, .predicate p h => .predicate p h
  | _, _, _, .interval r hl hu => .interval r hl hu
  | _, _, _, .boosted boost h => .boosted boost (liftFlags_mirrored false h)

theorem liftAll_mirrored : {as bs : List Expr} → List.Forall₂ Mirrored as bs →
    List.Forall₂ Mirrored (liftAll as) (liftAll bs)
  | _, _, .nil => .nil
  | _, _, .cons h hs => .cons (liftFlags_mirrored false h) (liftAll_mirrored hs)

end

theorem negated?_mirrored (h : Mirrored e e') : Option.Rel Mirrored (negated? e) (negated? e') := by
  cases h with
  | refl e =>
    cases negated? e with
    | none => exact .none
    | some n => exact .some (.refl n)
  | predicate p h => exact .some (.predicate p.negated h)
  | interval r hl hu => exact .some (.interval r.negated hl hu)
  | _ => exact .none

theorem polarize_mirrored (op : BinaryOp) (value : Bool) (h : Mirrored e e') :
    Mirrored (polarize op value e) (polarize op value e') := by
  unfold polarize
  split
  · exact h
  · exact rel_getD (negated?_mirrored h) h

theorem isSingleTest_mirrored (h : Mirrored e e') : isSingleTest e' = isSingleTest e := by cases h <;> rfl

theorem asBoolConstant?_of_isSingleTest (h : isSingleTest e = true) : e.asBoolConstant? = none := by
  cases e with
  | predicate | interval => rfl
  | _ => cases h

theorem polarized_mirrored (op : BinaryOp) (hl : Mirrored a c) (hr : Mirrored b d) :
    Mirrored (polarized op a b) (polarized op c d) := by
  unfold polarized
  rw [isSingleTest_mirrored hl, isSingleTest_mirrored hr, hl.asBoolConstant?_eq, hr.asBoolConstant?_eq]
  split
  · split
    · exact polarize_mirrored op _ hl
    · exact .binary op hl hr
  · split
    · split
      · exact polarize_mirrored op _ hr
      · exact .binary op hl hr
    · exact .binary op hl hr

/-- `==` and `!=` are their own mirror images. -/
theorem polarized_swapped {op : BinaryOp} (hm : Mirrored (binary op a b) (binary op d c)) (hl : Mirrored a c)
    (hr : Mirrored b d) : Mirrored (polarized op a b) (polarized op d c) := by
  unfold polarized
  rw [isSingleTest_mirrored hl, isSingleTest_mirrored hr, hl.asBoolConstant?_eq, hr.asBoolConstant?_eq]
  cases ha : isSingleTest a with
  | true =>
    rw [asBoolConstant?_of_isSingleTest ha]
    cases hb : isSingleTest b with
    | true =>
      rw [asBoolConstant?_of_isSingleTest hb]
      exact hm
    | false =>
      cases b.asBoolConstant? with
      | some value => exact polarize_mirrored op value hl
      | none => exact hm
  | false =>
    cases hb : isSingleTest b with
    | true =>
      cases a.asBoolConstant? with
      | some value => exact polarize_mirrored op value hr
      | none => exact hm
    | false => exact hm

theorem polarityNode_mirrored (h : Mirrored e e') : Mirrored (polarityNode e) (polarityNode e') := by
  have hm := h
  cases h with
  | refl e => exact .refl _
  | unary op h =>
    cases op with
    | not => exact rel_getD (negated?_mirrored h) hm
    | negate => exact hm
  | binary op hl hr =>
    cases op with
    | equal | notEqual => exact polarized_mirrored _ hl hr
    | _ => exact hm
  | @swapped _ _ _ _ op hop hl hr =>
    cases op with
    | equal | notEqual => exact polarized_swapped hm hl hr
    | _ => exact hm
  | _ => exact hm

/-! ### Annotations -/

theorem isCompound_mirrored (h : Mirrored e e') : isCompound e' = isCompound e := by
  have hany := h.any_eq Mirrored.isQueryNode_eq
  cases h with
  | unary op _ =>
    cases op with
    | not => exact hany
    | negate => rfl
  | binary op _ _ =>
    cases op with
    | and | or => exact hany
    | _ => rfl
  | @swapped _ _ _ _ op hop _ _ =>
    cases op with
    | and | or => cases hop
    | _ => rfl
  | _ => rfl

theorem attachBoost_mirrored (amount : Number.Binary32) (h : Mirrored e e') :
    Follows Mirrored (attachBoost e amount) (attachBoost e' amount) := by
  have hm := h
  have hc := isCompound_mirrored h
  cases h with
  | refl e => exact .refl .refl _
  | predicate p h => exact .ok (.predicate { p with boost := amount } h)
  | interval r hl hu => exact .ok (.interval { r with boost := amount } hl hu)
  | boosted boost h => exact .ok (.boosted _ h)
  | _ =>
    simp only [attachBoost, hc]
    split
    · exact .ok (.boosted amount hm)
    · exact .error

theorem allowSpecialNode_mirrored (h : Mirrored e e') : Mirrored (allowSpecialNode e) (allowSpecialNode e') := by
  have hm := h
  cases h with
  | refl e => exact .refl _
  | predicate p h => exact .predicate { p with allowSpecial := true } h
  | _ => exact hm

theorem allowSpecialIn_mirrored (h : Mirrored e e') : Follows Mirrored (allowSpecialIn e) (allowSpecialIn e') := by
  have hmap := h.mapUp allowSpecialNode_mirrored
  have hc := isCompound_mirrored h
  cases h with
  | refl e => exact .refl .refl _
  | predicate p h => exact .ok (.predicate { p with allowSpecial := true } h)
  | boosted boost h => exact .ok hmap
  | _ =>
    simp only [allowSpecialIn, hc]
    split
    · exact .ok hmap
    · exact .error

theorem annotationNode_mirrored (h : Mirrored e e') : Follows Mirrored (annotationNode e) (annotationNode e') := by
  have hm := h
  cases h with
  | refl e => exact .refl .refl _
  | call method h hs =>
    cases method with
    | boost =>
      refine (boostAmount_mirrored hs).bind ?_
      rintro amount _ rfl
      exact attachBoost_mirrored amount h
    | allowSpecial =>
      cases hs with
      | nil => exact allowSpecialIn_mirrored h
      | cons _ _ => exact .ok hm
    | _ => exact .ok hm
  | _ => exact .ok hm

/-! ### Bounds -/

theorem predicate_or (h : Mirrored e e') :
    (∃ p q, e = predicate p ∧ e' = predicate { p with pattern := q } ∧ Mirrored p.pattern q) ∨
      (∀ p, e ≠ predicate p) ∧ ∀ p, e' ≠ predicate p := by
  cases h with
  | refl e =>
    cases e with
    | predicate p => exact .inl ⟨p, p.pattern, rfl, rfl, .refl _⟩
    | _ => exact .inr ⟨fun _ => by simp, fun _ => by simp⟩
  | predicate p h => exact .inl ⟨p, _, rfl, rfl, h⟩
  | _ => exact .inr ⟨fun _ => by simp, fun _ => by simp⟩

theorem boundsNode_other {left right : Expr} (op : BinaryOp)
    (h : (∀ p, left ≠ predicate p) ∨ ∀ p, right ≠ predicate p) :
    boundsNode (binary op left right) = binary op left right := by
  unfold boundsNode
  split
  · rename_i p q heq
    cases heq
    exact (h.elim (fun hl => hl p rfl) fun hr => hr q rfl).elim
  · rename_i p q heq
    cases heq
    exact (h.elim (fun hl => hl p rfl) fun hr => hr q rfl).elim
  · rfl

section

variable {p q : Predicate Expr} {x y : Expr} (hp : Mirrored p.pattern x) (hq : Mirrored q.pattern y)

include hp hq

theorem between_mirrored : Mirrored (interval (between p q))
    (interval (between { p with pattern := x } { q with pattern := y })) :=
  .interval (between p q) (.some hp) (.some hq)

theorem excluded_mirrored : Mirrored (interval (excluded p q))
    (interval (excluded { p with pattern := x } { q with pattern := y })) :=
  .interval (excluded p q) (.some hp) (.some hq)

theorem conjoined?_mirrored : Option.Rel (fun r r' => Mirrored (interval r) (interval r')) (conjoined? p q)
    (conjoined? { p with pattern := x } { q with pattern := y }) := by
  have hmerge : mergeable { p with pattern := x } { q with pattern := y } = mergeable p q := rfl
  rw [conjoined?, conjoined?, hmerge]
  cases mergeable p q with
  | false => exact .none
  | true =>
    dsimp only
    cases p.matching.isLowerBound && q.matching.isUpperBound with
    | true => exact .some (between_mirrored hp hq)
    | false =>
      cases q.matching.isLowerBound && p.matching.isUpperBound with
      | true => exact .some (between_mirrored hq hp)
      | false => exact .none

theorem gap?_mirrored : Option.Rel (fun r r' => Mirrored (interval r) (interval r')) (gap? p q)
    (gap? { p with pattern := x } { q with pattern := y }) := by
  have hmerge : mergeable { p with pattern := x } { q with pattern := y } = mergeable p q := rfl
  rw [gap?, gap?, hmerge]
  cases mergeable p q with
  | false => exact .none
  | true =>
    rw [if_neg (by decide), if_neg (by decide)]
    dsimp only
    split
    · exact .some (excluded_mirrored hp hq)
    · exact .some (excluded_mirrored hq hp)
    · exact .none

theorem boundsNode_predicates (op : BinaryOp) :
    Mirrored (boundsNode (binary op (predicate p) (predicate q)))
      (boundsNode (binary op (predicate { p with pattern := x }) (predicate { q with pattern := y }))) := by
  have hm := Mirrored.binary op (.predicate p hp) (.predicate q hq)
  cases op with
  | and =>
    have hr := conjoined?_mirrored hp hq
    rw [boundsNode, boundsNode]
    generalize conjoined? p q = o, conjoined? { p with pattern := x } { q with pattern := y } = o' at hr ⊢
    cases hr with
    | some h => exact h
    | none => exact hm
  | or =>
    have hr := gap?_mirrored hp hq
    rw [boundsNode, boundsNode]
    generalize gap? p q = o, gap? { p with pattern := x } { q with pattern := y } = o' at hr ⊢
    cases hr with
    | some h => exact h
    | none => exact hm
  | _ => exact hm

end

theorem boundsNode_mirrored (h : Mirrored e e') : Mirrored (boundsNode e) (boundsNode e') := by
  have hm := h
  cases h with
  | refl e => exact .refl _
  | binary op hl hr =>
    rcases predicate_or hl with ⟨p, x, rfl, rfl, hp⟩ | hnone
    · rcases predicate_or hr with ⟨q, y, rfl, rfl, hq⟩ | hnone
      · exact boundsNode_predicates hp hq op
      · rw [boundsNode_other op (.inr hnone.1), boundsNode_other op (.inr hnone.2)]
        exact hm
    · rw [boundsNode_other op (.inl hnone.1), boundsNode_other op (.inl hnone.2)]
      exact hm
  | @swapped _ _ _ _ op hop hl hr =>
    cases op with
    | and | or => cases hop
    | _ => exact hm
  | _ => exact hm

/-! ### Rounds -/

theorem flags_mirrored (role : Role) (h : Mirrored e e') :
    Mirrored (if role = .condition then liftFlags true e else e)
      (if role = .condition then liftFlags true e' else e') := by
  split
  · exact liftFlags_mirrored true h
  · exact h

theorem round_mirrored (role : Role) (h : Mirrored e e') : Follows Mirrored (round role e) (round role e') := by
  rw [round_eq, round_eq]
  refine (h.mapUpM memberNode_mirrored).bind fun h => ?_
  have h := ((h.mapUp markerNode_mirrored).mapUp redundantNode_mirrored).mapUp nullGuardNode_mirrored
  refine (h.mapUpM fieldBoostNode_mirrored).bind fun h => ?_
  refine (h.mapUpM patternNode_mirrored).bind fun h => ?_
  refine ((flags_mirrored role h).mapUpM comparisonNode_mirrored).bind fun h => ?_
  refine ((h.mapUp polarityNode_mirrored).mapUpM annotationNode_mirrored).bind fun h => ?_
  exact .ok (h.mapUp boundsNode_mirrored)

/-- A round that leaves a tree as it is leaves its mirror image as it is: it could change that only into something
lighter, but mirrored trees weigh the same. -/
theorem round_same_mirrored {role : Role} {next next' : Expr} (h : Mirrored e e') (hn : round role e = .ok next)
    (hn' : round role e' = .ok next') (hnext : Mirrored next next') (hs : next.same e = true) :
    next'.same e' = true := by
  obtain rfl := round_same hn hs
  have hw : next'.weight = e'.weight := by rw [hnext.weight_eq, h.weight_eq]
  have hfixed : next' = e' := by
    rcases round_reduces hn' with heq | hlt
    · exact heq
    · omega
  rw [hfixed, same_self, h.hasNaN_eq, ← same_self, hs]

theorem settle?_mirrored (role : Role) (n : Nat) (h : Mirrored e e') :
    Follows (Option.Rel Mirrored) (settle? role n e) (settle? role n e') := by
  induction n generalizing e e' with
  | zero => exact .ok .none
  | succ n ih =>
    intro o ho
    obtain ⟨next, hn, ho⟩ := bind_eq_ok.1 ho
    obtain ⟨next', hn', hnext⟩ := round_mirrored role h next hn
    have hs : next'.same e' = next.same e := by
      rw [Bool.eq_iff_iff]
      exact ⟨round_same_mirrored h.symm hn' hn hnext.symm, round_same_mirrored h hn hn' hnext⟩
    rw [settle?, hn', ok_bind, hs]
    split at ho
    · rename_i hstop
      obtain rfl := pure_eq_ok.1 ho
      rw [if_pos hstop]
      exact ⟨some next', rfl, .some hnext⟩
    · rename_i hgo
      rw [if_neg hgo]
      exact ih hnext o ho

theorem lower_mirrored (settings : CompilerSettings) (role : Role) (h : Mirrored e e') :
    Follows Mirrored (lower settings role e) (lower settings role e') := by
  refine (settle?_mirrored role settings.maxRounds h).bind ?_
  rintro _ _ (h | _)
  · exact .ok h
  · exact .error

end IndexQuery.Lowering
