import IndexQuery.Proofs.MirroredLowering
import IndexQuery.Proofs.Retyping

set_option autoImplicit false

/-!
Lowering retyped trees.

Every pass carries retyped trees into retyped trees or fails on both with one error; the kind of a field is copied from
place to place and read only where a flag is looked for. So does a round (`round_retyped`), and since retyped trees
weigh the same, lowering takes the same rounds on both (`lower_retyped`).
-/

namespace IndexQuery.Lowering

open IndexQuery.Expr

variable {a b c d e e' : Expr} {as bs : List Expr}

/-! ### Fields and what is redundant about them -/

theorem namedField_retyped (hs : List.Forall₂ Retyped as bs) : Lockstep Retyped (namedField as) (namedField bs) := by
  have heq : namedField bs = namedField as := by
    cases hs with
    | nil => rfl
    | cons h hs =>
      cases hs with
      | nil => simp only [namedField, h.evaluate_eq]
      | cons _ hs => simp only [namedField, List.length_cons, hs.length_eq]
  rw [heq]
  refine .of_result fun r hr => ?_
  obtain ⟨ref, rfl⟩ := namedField_field hr
  exact .field ref Iff.rfl

theorem memberNode_retyped (h : Retyped e e') : Lockstep Retyped (memberNode e) (memberNode e') := by
  have hm := h
  cases h with
  | member name hk h =>
    cases h with
    | source => exact .ok (.field (.ofName name _) hk)
    | field ref => exact .ok (.field (.ofName (ref.name ++ "." ++ name) _) hk)
    | _ => exact .ok hm
  | call method h hs =>
    cases h with
    | source =>
      cases method with
      | getField => exact namedField_retyped hs
      | _ => exact .ok hm
    | _ => exact .ok hm
  | _ => exact .ok hm

theorem marker?_retyped (method : Method) (h : Retyped e e') :
    Retyped ((marker? method).getD e) ((marker? method).getD e') := by
  cases method with
  | score => exact .relevance
  | anyField => exact .anyField
  | _ => exact h

theorem markerNode_retyped (h : Retyped e e') : Retyped (markerNode e) (markerNode e') := by
  have hm := h
  cases h with
  | call method h hs =>
    cases h with
    | source =>
      cases hs with
      | nil => exact marker?_retyped method hm
      | cons => exact hm
    | _ => exact hm
  | invoke method hs =>
    cases hs with
    | nil => exact hm
    | cons h hs =>
      cases h with
      | source =>
        cases hs with
        | nil => exact marker?_retyped method hm
        | cons => exact hm
      | _ => exact hm
  | _ => exact hm

theorem collapse_retyped (op : BinaryOp) (hl : Retyped a c) (hr : Retyped b d) :
    Retyped (collapse op a b) (collapse op c d) := by
  unfold collapse
  rw [hl.asBoolConstant?_eq, hr.asBoolConstant?_eq]
  split
  · exact .binary op hl hr
  · split
    · exact hr
    · split
      · exact hl
      · exact .binary op hl hr

theorem redundantNode_retyped (h : Retyped e e') : Retyped (redundantNode e) (redundantNode e') := by
  have hm := h
  cases h with
  | call method h hs =>
    cases hs with
    | nil =>
      cases method with
      | toLowercase | toUppercase =>
        simp only [redundantNode, h.isSome_fieldOperand?]
        split
        · exact h
        · exact hm
      | _ => exact hm
    | cons => cases method <;> exact hm
  | convert kind h =>
    cases h with
    | field ref hk =>
      simp only [redundantNode]
      split
      · exact .field ref hk
      · exact .field { ref with kind := kind } Iff.rfl
    | anyField => exact .anyField
    | _ => exact hm
  | binary op hl hr => exact collapse_retyped op hl hr
  | _ => exact hm

theorem nullGuardNode_retyped (h : Retyped e e') : Retyped (nullGuardNode e) (nullGuardNode e') := by
  have hm := h
  cases h <;> exact hm

theorem boostAmount_retyped (hs : List.Forall₂ Retyped as bs) : boostAmount bs = boostAmount as := by
  cases hs with
  | nil => rfl
  | cons h hs =>
    cases hs with
    | nil => simp only [boostAmount, h.evaluate_eq]
    | cons _ hs => simp only [boostAmount, List.length_cons, hs.length_eq]

theorem fieldBoostNode_retyped (h : Retyped e e') : Lockstep Retyped (fieldBoostNode e) (fieldBoostNode e') := by
  have hm := h
  cases h with
  | @call s t _ _ method h hs =>
    cases method with
    | boost =>
      have hr := h.fieldOperand?_rel
      simp only [fieldBoostNode, boostAmount_retyped hs]
      generalize s.fieldOperand? = x, t.fieldOperand? = y at hr
      cases hr with
      | none => exact .ok hm
      | @some ref _ h =>
        obtain ⟨k, hk, rfl⟩ := h
        exact .bind_same fun amount => .ok (.field { ref with boost := amount } hk)
    | _ => exact .ok hm
  | _ => exact .ok hm

/-! ### Annotations -/

theorem isCompound_retyped (h : Retyped e e') : isCompound e' = isCompound e := by
  have hany := h.any_eq Retyped.isQueryNode_eq
  cases h with
  | unary op _ =>
    cases op with
    | not => exact hany
    | negate => rfl
  | binary op _ _ =>
    cases op with
    | and | or => exact hany
    | _ => rfl
  | _ => rfl

theorem attachBoost_retyped (amount : Number.Binary32) (h : Retyped e e') :
    Lockstep Retyped (attachBoost e amount) (attachBoost e' amount) := by
  have hm := h
  have hc := isCompound_retyped h
  have hd := h.display_eq
  cases h with
  | predicate p hk h => exact .ok (.predicate { p with boost := amount } hk h)
  | interval r hk hl hu => exact .ok (.interval { r with boost := amount } hk hl hu)
  | boosted boost h => exact .ok (.boosted _ h)
  | _ =>
    simp only [attachBoost, hc, hd]
    split
    · exact .ok (.boosted amount hm)
    · exact .error _

theorem allowSpecialNode_retyped (h : Retyped e e') : Retyped (allowSpecialNode e) (allowSpecialNode e') := by
  have hm := h
  cases h with
  | predicate p hk h => exact .predicate { p with allowSpecial := true } hk h
  | _ => exact hm

theorem allowSpecialIn_retyped (h : Retyped e e') : Lockstep Retyped (allowSpecialIn e) (allowSpecialIn e') := by
  have hmap := h.mapUp allowSpecialNode_retyped
  have hc := isCompound_retyped h
  have hd := h.display_eq
  cases h with
  | predicate p hk h => exact .ok (.predicate { p with allowSpecial := true } hk h)
  | boosted boost h => exact .ok hmap
  | _ =>
    simp only [allowSpecialIn, hc, hd]
    split
    · exact .ok hmap
    · exact .error _

theorem annotationNode_retyped (h : Retyped e e') : Lockstep Retyped (annotationNode e) (annotationNode e') := by
  have hm := h
  cases h with
  | call method h hs =>
    cases method with
    | boost =>
      simp only [annotationNode, boostAmount_retyped hs]
      exact .bind_same fun amount => attachBoost_retyped amount h
    | allowSpecial =>
      cases hs with
      | nil => exact allowSpecialIn_retyped h
      | cons => exact .ok hm
    | _ => exact .ok hm
  | _ => exact .ok hm

/-! ### Patterns, and three-way comparisons with zero -/

theorem patternArguments_retyped (method : Method) (matching : Matching) (hs : List.Forall₂ Retyped as bs) :
    Lockstep (fun p q => Retyped p.1 q.1 ∧ p.2 = q.2) (patternArguments method matching as)
      (patternArguments method matching bs) := by
  have hlength := hs.length_eq
  cases hs with
  | nil => cases matching <;> exact .error _
  | cons h hs =>
    cases hs with
    | nil => cases matching <;> exact .ok ⟨h, rfl⟩
    | cons hsim hs =>
      cases hs with
      | nil =>
        cases matching with
        | similar =>
          simp only [patternArguments, hsim.evaluate_eq]
          exact .bind_same fun v => .bind_same fun x => .ok ⟨h, rfl⟩
        | _ => exact .error _
      | cons => cases matching <;> simp only [patternArguments, hlength] <;> exact .error _

/-- A pattern is refused in the same words, the faults of its annotations first. -/
theorem checkPattern_retyped (method : Method) (h : Retyped e e') : checkPattern method e' = checkPattern method e := by
  rw [checkPattern, checkPattern, h.isEvaluable_eq, h.referencesDocument_eq, h.display_eq]
  have ha := h.mapUpM annotationNode_retyped
  rw [← annotate, ← annotate] at ha
  generalize annotate e = x, annotate e' = y at ha
  cases ha <;> rfl

theorem patternTest_retyped (ref : FieldRef) {k : ScalarKind} (hk : ref.kind.Alike k) (method : Method)
    (matching : Matching) (hs : List.Forall₂ Retyped as bs) :
    Lockstep Retyped (patternTest ref method matching as) (patternTest { ref with kind := k } method matching bs) := by
  refine (patternArguments_retyped method matching hs).bind ?_
  rintro ⟨p, similarity⟩ ⟨q, _⟩ ⟨h, rfl⟩
  dsimp only at h ⊢
  rw [checkPattern_retyped method h]
  exact .bind_same fun _ => .ok (.predicate { Predicate.ofField ref matching p with similarity := similarity } hk h)

theorem isZero_retyped (h : Retyped e e') : isZero e' = isZero e := by cases h <;> rfl

theorem threeWay?_retyped (h : Retyped e e') :
    Option.Rel (fun p q => Retyped p.1 q.1 ∧ Retyped p.2 q.2) (threeWay? e) (threeWay? e') := by
  cases h with
  | call method h hs =>
    cases method with
    | compareTo =>
      rcases hs with _ | ⟨hother, _ | _⟩
      · exact .none
      · exact .some ⟨h, hother⟩
      · exact .none
    | _ => exact .none
  | invoke method hs =>
    cases method with
    | compare =>
      rcases hs with _ | ⟨hleft, _ | ⟨hright, _ | _⟩⟩
      · exact .none
      · exact .none
      · exact .some ⟨hleft, hright⟩
      · exact .none
    | _ => exact .none
  | _ => exact .none

theorem againstZero_retyped (op : BinaryOp) (hl : Retyped a c) (hr : Retyped b d) :
    Retyped (againstZero op a b) (againstZero op c d) := by
  have hwl := threeWay?_retyped hl
  have hwr := threeWay?_retyped hr
  unfold againstZero
  rw [isZero_retyped hl, isZero_retyped hr]
  split
  · generalize threeWay? a = x, threeWay? c = y at hwl
    cases hwl with
    | none => exact .binary op hl hr
    | some h => exact .binary op h.1 h.2
  · split
    · generalize threeWay? b = x, threeWay? d = y at hwr
      cases hwr with
      | none => exact .binary op hl hr
      | some h => exact .binary op.swapped h.1 h.2
    · exact .binary op hl hr

theorem patternNode_retyped (h : Retyped e e') : Lockstep Retyped (patternNode e) (patternNode e') := by
  have hm := h
  cases h with
  | @call s t _ _ method h hs =>
    have hr := h.fieldOperand?_rel
    simp only [patternNode]
    generalize s.fieldOperand? = x, t.fieldOperand? = y at hr
    cases patternMatching? method with
    | none => exact .ok hm
    | some matching =>
      cases hr with
      | none => exact .ok hm
      | @some ref _ h =>
        obtain ⟨k, hk, rfl⟩ := h
        exact patternTest_retyped ref hk method matching hs
  | binary op hl hr =>
    simp only [patternNode]
    split
    · exact .ok (againstZero_retyped op hl hr)
    · exact .ok hm
  | _ => exact .ok hm

/-! ### Comparisons of a field -/

theorem comparisonTest_retyped (op : BinaryOp) (matching : Matching) (occur : Occur) (hl : Retyped a c)
    (hr : Retyped b d) :
    Retyped (comparisonTest op matching occur a b) (comparisonTest op matching occur c d) := by
  have hfl := hl.fieldOperand?_rel
  have hfr := hr.fieldOperand?_rel
  unfold comparisonTest
  rw [hl.isEvaluable_eq, hr.isEvaluable_eq]
  generalize a.fieldOperand? = x, c.fieldOperand? = y at hfl
  generalize b.fieldOperand? = z, d.fieldOperand? = w at hfr
  have hbinary := Retyped.binary op hl hr
  cases hfl with
  | none =>
    cases hfr with
    | none => exact hbinary
    | @some ref _ h =>
      obtain ⟨k, hk, rfl⟩ := h
      cases a.isEvaluable with
      | true => exact .predicate { Predicate.ofField ref matching.swapped a with occur := occur } hk hl
      | false => exact hbinary
  | @some ref _ h =>
    obtain ⟨k, hk, rfl⟩ := h
    cases b.isEvaluable with
    | true => exact .predicate { Predicate.ofField ref matching b with occur := occur } hk hr
    | false =>
      cases hfr with
      | none => exact hbinary
      | @some ref _ h =>
        obtain ⟨k, hk, rfl⟩ := h
        cases a.isEvaluable with
        | true => exact .predicate { Predicate.ofField ref matching.swapped a with occur := occur } hk hl
        | false => exact hbinary

theorem touchesField_retyped (h : Retyped e e') : touchesField e' = touchesField e :=
  h.any_eq Retyped.isSome_fieldOperand?

theorem otherOperator_retyped (op : BinaryOp) (hl : Retyped a c) (hr : Retyped b d) :
    Lockstep Retyped (otherOperator op a b) (otherOperator op c d) := by
  simp only [otherOperator, hl.isQueryNode_eq, hr.isQueryNode_eq, touchesField_retyped hl, touchesField_retyped hr]
  split
  · exact .ok (.binary .and hl hr)
  · exact .ok (.binary .or hl hr)
  · exact .ok (.binary .and hl hr)
  · exact .ok (.binary .or hl hr)
  · split
    · exact .error _
    · exact .ok (.binary _ hl hr)

theorem comparisonNode_retyped (h : Retyped e e') : Lockstep Retyped (comparisonNode e) (comparisonNode e') := by
  have hm := h
  cases h with
  | binary op hl hr =>
    simp only [comparisonNode]
    split
    · exact .ok (comparisonTest_retyped op _ _ hl hr)
    · exact otherOperator_retyped op hl hr
  | _ => exact .ok hm

/-! ### Truth values -/

theorem isFlag_retyped (h : Retyped e e') : isFlag e' = isFlag e := by
  cases h with
  | field ref hk => exact hk.isFlag_eq
  | _ => rfl

theorem isLogical_retyped (h : Retyped e e') : isLogical e' = isLogical e := by
  cases h with
  | unary op _ => cases op <;> rfl
  | _ => rfl

theorem flagEquals_retyped (value : Bool) (h : Retyped e e') : Retyped (flagEquals e value) (flagEquals e' value) :=
  .binary .equal h (.constant _)

theorem liftFlags_not_retyped (truth : Bool) (ha : isNegation a = false) (hb : isNegation b = false)
    (h : Retyped a b) (ih : Retyped (liftFlags truth a) (liftFlags truth b)) :
    Retyped (liftFlags truth (unary .not a)) (liftFlags truth (unary .not b)) := by
  rw [liftFlags_not truth ha, liftFlags_not truth hb, isFlag_retyped h]
  split
  · exact flagEquals_retyped false h
  · exact .unary .not ih

mutual

theorem liftFlags_retyped : (truth : Bool) → {e e' : Expr} → Retyped e e' →
    Retyped (liftFlags truth e) (liftFlags truth e')
  | truth, _, _, .field ref hk => by
    have hflag := hk.isFlag_eq
    have hm := Retyped.field ref hk
    simp only [liftFlags, hflag]
    split
    · exact flagEquals_retyped true hm
    · exact hm
  | _, _, _, .member name hk h => .member name hk (liftFlags_retyped false h)
  | truth, _, _, .call method h hs => by
    have hm := Retyped.call method h hs
    rw [liftFlags_call, liftFlags_call, hm.isAnnotation_eq]
    split
    · exact .call method (liftFlags_retyped truth h) hs
    · exact .call method (liftFlags_retyped false h) (liftAll_retyped hs)
  | _, _, _, .invoke method hs => .invoke method (liftAll_retyped hs)
  | _, _, _, .unary .negate h => .unary .negate (liftFlags_retyped false h)
  | truth, _, _, .unary .not h => by
    have ih := liftFlags_retyped truth h
    have hm := h
    -- a negation of a negation is lifted in one step, two nodes down
    cases h with
    | unary op h =>
      cases op with
      | not =>
        rw [liftFlags, liftFlags]
        split
        · exact liftFlags_retyped true h
        · exact .unary .not (.unary .not (liftFlags_retyped false h))
      | negate => exact liftFlags_not_retyped truth rfl rfl hm ih
    | _ => exact liftFlags_not_retyped truth rfl rfl hm ih
  | truth, _, _, .binary op hl hr => by
    rw [liftFlags, liftFlags, isLogical_retyped hl, isLogical_retyped hr]
    exact .binary op (liftFlags_retyped _ hl) (liftFlags_retyped _ hr)
  | _, _, _, .convert kind h => .convert kind (liftFlags_retyped false h)
  | _, _, _, .boosted boost h => .boosted boost (liftFlags_retyped false h)
  | _, _, _, .predicate p hk h => .predicate p hk h
  | _, _, _, .interval r hk hl hu => .interval r hk hl hu
  | _, _, _, .constant v => .constant v
  | _, _, _, .captured c => .captured c
  | _, _, _, .source name => .source name
  | _, _, _, .relevance => .relevance
  | _, _, _, .anyField => .anyField

theorem liftAll_retyped : {as bs : List Expr} → List.Forall₂ Retyped as bs →
    List.Forall₂ Retyped (liftAll as) (liftAll bs)
  | _, _, .nil => .nil
  | _, _, .cons h hs => .cons (liftFlags_retyped false h) (liftAll_retyped hs)

end

theorem negated?_retyped (h : Retyped e e') : Option.Rel Retyped (negated? e) (negated? e') := by
  cases h with
  | predicate p hk h => exact .some (.predicate p.negated hk h)
  | interval r hk hl hu => exact .some (.interval r.negated hk hl hu)
  | _ => exact .none

theorem polarize_retyped (op : BinaryOp) (value : Bool) (h : Retyped e e') :
    Retyped (polarize op value e) (polarize op value e') := by
  unfold polarize
  split
  · exact h
  · exact rel_getD (negated?_retyped h) h

theorem isSingleTest_retyped (h : Retyped e e') : isSingleTest e' = isSingleTest e := by cases h <;> rfl

theorem polarized_retyped (op : BinaryOp) (hl : Retyped a c) (hr : Retyped b d) :
    Retyped (polarized op a b) (polarized op c d) := by
  unfold polarized
  rw [isSingleTest_retyped hl, isSingleTest_retyped hr, hl.asBoolConstant?_eq, hr.asBoolConstant?_eq]
  split
  · split
    · exact polarize_retyped op _ hl
    · exact .binary op hl hr
  · split
    · split
      · exact polarize_retyped op _ hr
      · exact .binary op hl hr
    · exact .binary op hl hr

theorem polarityNode_retyped (h : Retyped e e') : Retyped (polarityNode e) (polarityNode e') := by
  have hm := h
  cases h with
  | unary op h =>
    cases op with
    | not => exact rel_getD (negated?_retyped h) hm
    | negate => exact hm
  | binary op hl hr =>
    cases op with
    | equal | notEqual => exact polarized_retyped _ hl hr
    | _ => exact hm
  | _ => exact hm

/-! ### Bounds -/

section

variable {p q : Predicate Expr} {k l : ScalarKind} {x y : Expr} (hk : p.field.kind.Alike k)
  (hl : q.field.kind.Alike l) (hp : Retyped p.pattern x) (hq : Retyped q.pattern y)

include hk hl hp hq

theorem conjoined?_retyped : Option.Rel (fun r r' => Retyped (interval r) (interval r')) (conjoined? p q)
    (conjoined? { p with field := { p.field with kind := k }, pattern := x }
      { q with field := { q.field with kind := l }, pattern := y }) := by
  have hmerge : mergeable { p with field := { p.field with kind := k }, pattern := x }
    { q with field := { q.field with kind := l }, pattern := y } = mergeable p q := rfl
  rw [conjoined?, conjoined?, hmerge]
  cases mergeable p q with
  | false => exact .none
  | true =>
    dsimp only
    cases p.matching.isLowerBound && q.matching.isUpperBound with
    | true => exact .some (.interval (between p q) hk (.some hp) (.some hq))
    | false =>
      cases q.matching.isLowerBound && p.matching.isUpperBound with
      | true => exact .some (.interval (between q p) hl (.some hq) (.some hp))
      | false => exact .none

theorem gap?_retyped : Option.Rel (fun r r' => Retyped (interval r) (interval r')) (gap? p q)
    (gap? { p with field := { p.field with kind := k }, pattern := x }
      { q with field := { q.field with kind := l }, pattern := y }) := by
  have hmerge : mergeable { p with field := { p.field with kind := k }, pattern := x }
    { q with field := { q.field with kind := l }, pattern := y } = mergeable p q := rfl
  rw [gap?, gap?, hmerge]
  cases mergeable p q with
  | false => exact .none
  | true =>
    rw [if_neg (by decide), if_neg (by decide)]
    dsimp only
    split
    · exact .some (.interval (excluded p q) hk (.some hp) (.some hq))
    · exact .some (.interval (excluded q p) hl (.some hq) (.some hp))
    · exact .none

theorem boundsNode_tests (op : BinaryOp) :
    Retyped (boundsNode (binary op (predicate p) (predicate q)))
      (boundsNode (binary op (predicate { p with field := { p.field with kind := k }, pattern := x })
        (predicate { q with field := { q.field with kind := l }, pattern := y }))) := by
  have hm := Retyped.binary op (.predicate p hk hp) (.predicate q hl hq)
  cases op with
  | and =>
    have hr := conjoined?_retyped hk hl hp hq
    rw [boundsNode, boundsNode]
    generalize conjoined? p q = o, conjoined? { p with field := { p.field with kind := k }, pattern := x }
      { q with field := { q.field with kind := l }, pattern := y } = o' at hr ⊢
    cases hr with
    | some h => exact h
    | none => exact hm
  | or =>
    have hr := gap?_retyped hk hl hp hq
    rw [boundsNode, boundsNode]
    generalize gap? p q = o, gap? { p with field := { p.field with kind := k }, pattern := x }
      { q with field := { q.field with kind := l }, pattern := y } = o' at hr ⊢
    cases hr with
    | some h => exact h
    | none => exact hm
  | _ => exact hm

end

theorem boundsNode_retyped (h : Retyped e e') : Retyped (boundsNode e) (boundsNode e') := by
  have hm := h
  cases h with
  | binary op hl hr =>
    cases hl with
    | predicate p hk hp =>
      cases hr with
      | predicate q hl hq => exact boundsNode_tests hk hl hp hq op
      | _ => cases op <;> exact hm
    | _ => cases op <;> exact hm
  | _ => exact hm

/-! ### Rounds -/

theorem flags_retyped (role : Role) (h : Retyped e e') :
    Retyped (if role = .condition then liftFlags true e else e)
      (if role = .condition then liftFlags true e' else e') := by
  split
  · exact liftFlags_retyped true h
  · exact h

theorem round_retyped (role : Role) (h : Retyped e e') : Lockstep Retyped (round role e) (round role e') := by
  rw [round_eq, round_eq]
  refine (h.mapUpM memberNode_retyped).bind fun h => ?_
  have h := ((h.mapUp markerNode_retyped).mapUp redundantNode_retyped).mapUp nullGuardNode_retyped
  refine (h.mapUpM fieldBoostNode_retyped).bind fun h => ?_
  refine (h.mapUpM patternNode_retyped).bind fun h => ?_
  refine ((flags_retyped role h).mapUpM comparisonNode_retyped).bind fun h => ?_
  refine ((h.mapUp polarityNode_retyped).mapUpM annotationNode_retyped).bind fun h => ?_
  exact .ok (h.mapUp boundsNode_retyped)

/-- A round that leaves a tree as it is leaves a retyped tree as it is, since the two weigh the same. -/
theorem round_same_retyped {role : Role} {next next' : Expr} (h : Retyped e e') (hn : round role e = .ok next)
    (hn' : round role e' = .ok next') (hnext : Retyped next next') (hs : next.same e = true) :
    next'.same e' = true := by
  obtain rfl := round_same hn hs
  have hw : next'.weight = e'.weight := by rw [hnext.weight_eq, h.weight_eq]
  have hfixed : next' = e' := by
    rcases round_reduces hn' with heq | hlt
    · exact heq
    · omega
  rw [hfixed, same_self, h.hasNaN_eq, ← same_self, hs]

theorem settle?_retyped (role : Role) (n : Nat) (h : Retyped e e') :
    Lockstep (Option.Rel Retyped) (settle? role n e) (settle? role n e') := by
  induction n generalizing e e' with
  | zero => exact .ok .none
  | succ n ih =>
    rw [settle?, settle?]
    have hround := round_retyped role h
    generalize hn : round role e = x, hn' : round role e' = y at hround
    cases hround with
    | error fault => exact .error fault
    | @ok next next' hnext =>
      have hs : next'.same e' = next.same e := by
        rw [Bool.eq_iff_iff]
        exact ⟨round_same_retyped h.symm hn' hn hnext.symm, round_same_retyped h hn hn' hnext⟩
      rw [ok_bind, ok_bind, hs]
      split
      · exact .ok (.some hnext)
      · exact ih hnext

theorem lower_retyped (settings : CompilerSettings) (role : Role) (h : Retyped e e') :
    Lockstep Retyped (lower settings role e) (lower settings role e') := by
  refine (settle?_retyped role settings.maxRounds h).bind ?_
  rintro _ _ (h | _)
  · exact .ok h
  · exact .error _

end IndexQuery.Lowering
