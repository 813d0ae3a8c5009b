import IndexQuery.Proofs.Formula
import IndexQuery.Proofs.Settling

set_option autoImplicit false

/-!
Trees of tests: what the first round makes of a formula, and what further rounds do to it.

On such a tree a round only turns polarities and merges bounds (`TestTree.round_eq`). Once the polarities are
settled, merging can expose a negated interval, whose polarity the next round turns; after that nothing is left
to do (`TestTree.settles`).
-/

namespace IndexQuery

open IndexQuery.Expr IndexQuery.Lowering

/-- A node that the passes between members and patterns leave alone. -/
structure Inert (n : Expr) : Prop where
  marker : markerNode n = n
  redundant : redundantNode n = n
  nullGuard : nullGuardNode n = n
  fieldBoost : fieldBoostNode n = .ok n

/-- A node that only changes of polarity and merging of bounds may touch. -/
structure Quiet (n : Expr) : Prop extends Inert n where
  member : memberNode n = .ok n
  pattern : patternNode n = .ok n
  comparison : comparisonNode n = .ok n
  annotated : annotationNode n = .ok n

structure Predicate.IsPlain (p : Predicate Expr) : Prop where
  single : p.field.isAny = false
  unboosted : p.boost = Query.unboosted
  escaped : p.allowSpecial = false
  standard : p.similarity = none
  known : ∃ v : Operand, p.pattern = v.expr

structure Interval.IsPlain (r : Interval Expr) : Prop where
  single : r.field.isAny = false
  unboosted : r.boost = Query.unboosted
  lower : ∃ v : Operand, r.lower = some v.expr
  upper : ∃ v : Operand, r.upper = some v.expr

inductive TestTree : Expr → Prop where
  | predicate {p : Predicate Expr} (h : p.IsPlain) : TestTree (predicate p)
  | interval {r : Interval Expr} (h : r.IsPlain) : TestTree (interval r)
  | join {op : BinaryOp} {left right : Expr} (hop : op.isLogical = true) (hl : TestTree left)
      (hr : TestTree right) : TestTree (binary op left right)
  | not {operand : Expr} (h : TestTree operand) (hn : isNegation operand = false) :
      TestTree (unary .not operand)

theorem BinaryOp.logical_cases {op : BinaryOp} (h : op.isLogical = true) : op = .and ∨ op = .or := by
  cases op <;> simp [isLogical] at h ⊢

theorem polarityNode_join {op : BinaryOp} (hop : op.isLogical = true) (left right : Expr) :
    polarityNode (binary op left right) = binary op left right := by
  rcases BinaryOp.logical_cases hop with rfl | rfl <;> rfl

/-- Two bounds are merged, or the node stays. -/
theorem boundsNode_join {op : BinaryOp} (hop : op.isLogical = true) (left right : Expr) :
    boundsNode (binary op left right) = binary op left right ∨ ∃ a b test,
      left = predicate a ∧ right = predicate b ∧
      boundsNode (binary op left right) = interval test ∧
      (op = .and ∧ conjoined? a b = some test ∨ op = .or ∧ gap? a b = some test) := by
  by_cases hpair : ∃ a b, left = predicate a ∧ right = predicate b
  · obtain ⟨a, b, rfl, rfl⟩ := hpair
    rcases BinaryOp.logical_cases hop with rfl | rfl
    · rw [boundsNode]
      cases hm : conjoined? a b with
      | none => exact .inl rfl
      | some test => exact .inr ⟨a, b, test, rfl, rfl, rfl, .inl ⟨rfl, hm⟩⟩
    · rw [boundsNode]
      cases hm : gap? a b with
      | none => exact .inl rfl
      | some test => exact .inr ⟨a, b, test, rfl, rfl, rfl, .inr ⟨rfl, hm⟩⟩
  · refine .inl ?_
    rw [boundsNode]
    · intro a b h
      obtain ⟨_, hl, hr⟩ := binary.inj h
      exact hpair ⟨a, b, hl, hr⟩
    · intro a b h
      obtain ⟨_, hl, hr⟩ := binary.inj h
      exact hpair ⟨a, b, hl, hr⟩

theorem polarityNode_not (operand : Expr) : polarityNode (unary .not operand) = unary .not operand ∨
    ∃ test, negated? operand = some test ∧ polarityNode (unary .not operand) = test ∧
      isSingleTest test = true := by
  cases operand with
  | predicate p => exact .inr ⟨_, rfl, rfl, rfl⟩
  | interval r => exact .inr ⟨_, rfl, rfl, rfl⟩
  | _ => exact .inl rfl

theorem Predicate.IsPlain.negated {p : Predicate Expr} (h : p.IsPlain) : p.negated.IsPlain :=
  ⟨h.single, h.unboosted, h.escaped, h.standard, h.known⟩

theorem Interval.IsPlain.negated {r : Interval Expr} (h : r.IsPlain) : r.negated.IsPlain :=
  ⟨h.single, h.unboosted, h.lower, h.upper⟩

theorem unboosted_mul : Query.unboosted.mul Query.unboosted = Query.unboosted := by decide +kernel

theorem Predicate.IsPlain.merged {a b : Predicate Expr} (ha : a.IsPlain) (hb : b.IsPlain) {r : Interval Expr}
    (hfield : r.field = a.field) (hlower : r.lower = some a.pattern) (hupper : r.upper = some b.pattern)
    (hboost : r.boost = a.boost.mul b.boost) : r.IsPlain := by
  obtain ⟨v, hv⟩ := ha.known
  obtain ⟨w, hw⟩ := hb.known
  refine ⟨?_, ?_, ⟨v, by rw [hlower, hv]⟩, ⟨w, by rw [hupper, hw]⟩⟩
  · rw [hfield, ha.single]
  · rw [hboost, ha.unboosted, hb.unboosted, unboosted_mul]

/-- A conjunction is merged into the interval from its lower to its upper bound. -/
theorem conjoined?_cases {a b : Predicate Expr} {test : Interval Expr} (h : conjoined? a b = some test) :
    mergeable a b = true ∧
      (a.matching.isLowerBound = true ∧ b.matching.isUpperBound = true ∧ test = between a b ∨
        b.matching.isLowerBound = true ∧ a.matching.isUpperBound = true ∧ test = between b a) := by
  unfold conjoined? at h
  split at h
  · cases h
  rename_i hm
  refine ⟨by simpa using hm, ?_⟩
  split at h
  · rename_i hab
    rw [Bool.and_eq_true] at hab
    exact .inl ⟨hab.1, hab.2, (Option.some.inj h).symm⟩
  · split at h
    · rename_i hba
      rw [Bool.and_eq_true] at hba
      exact .inr ⟨hba.1, hba.2, (Option.some.inj h).symm⟩
    · cases h

/-- A disjunction is merged if it leaves out what lies between two strict bounds. -/
theorem gap?_cases {a b : Predicate Expr} {test : Interval Expr} (h : gap? a b = some test) :
    mergeable a b = true ∧
      (a.matching = .less ∧ b.matching = .greater ∧ test = excluded a b ∨
        a.matching = .greater ∧ b.matching = .less ∧ test = excluded b a) := by
  unfold gap? at h
  split at h
  · cases h
  rename_i hm
  refine ⟨by simpa using hm, ?_⟩
  split at h
  · rename_i ha hb
    exact .inl ⟨ha, hb, (Option.some.inj h).symm⟩
  · rename_i ha hb
    exact .inr ⟨ha, hb, (Option.some.inj h).symm⟩
  · cases h

namespace Lowering

variable {e : Expr} {r : Interval Expr}

def merged? : Expr → Option (Interval Expr)
  | binary .and (predicate a) (predicate b) => conjoined? a b
  | binary .or (predicate a) (predicate b) => gap? a b
  | _ => none

theorem boundsNode_of_merged (h : merged? e = some r) : boundsNode e = interval r := by
  unfold merged? at h
  split at h
  · rw [boundsNode, h]
  · rw [boundsNode, h]
  · cases h

theorem boundsNode_of_none (h : merged? e = none) : boundsNode e = e := by
  unfold merged? at h
  split at h
  · rw [boundsNode, h]
  · rw [boundsNode, h]
  · rename_i hand hor
    rw [boundsNode]
    · exact hand
    · exact hor

/-- Merging leaves no test where there was none. -/
theorem of_bounds_predicate {p : Predicate Expr} (h : e.mapUp boundsNode = predicate p) : e = predicate p := by
  rw [mapUp_eq] at h
  have hparts : e.mapParts boundsNode = predicate p := by
    cases hm : merged? (e.mapParts boundsNode) with
    | none => rwa [boundsNode_of_none hm] at h
    | some r =>
      rw [boundsNode_of_merged hm] at h
      cases h
  cases e with
  | predicate q => exact hparts
  | _ => cases hparts

end Lowering

def Lowering.settled (e : Expr) : Expr := ((e.mapUp polarityNode).mapUp boundsNode).mapUp polarityNode

namespace TestTree

variable {e left right : Expr}

theorem of_predicate {p : Predicate Expr} (h : TestTree (.predicate p)) : p.IsPlain := by
  cases h with
  | predicate h => exact h

theorem asBoolConstant?_eq (h : TestTree e) : e.asBoolConstant? = none := by cases h <;> rfl

theorem quiet (h : TestTree e) : ∀ n ∈ e.postorder, Quiet n := by
  induction h with
  | predicate h => simpa [postorder] using ⟨⟨rfl, rfl, rfl, rfl⟩, rfl, rfl, rfl, rfl⟩
  | interval h => simpa [postorder] using ⟨⟨rfl, rfl, rfl, rfl⟩, rfl, rfl, rfl, rfl⟩
  | @join op left right hop hl hr ihl ihr =>
    have hq : Quiet (binary op left right) := by
      have hr : redundantNode (binary op left right) = binary op left right := by
        simp [redundantNode, collapse, hl.asBoolConstant?_eq, hr.asBoolConstant?_eq]
        split <;> rfl
      rcases BinaryOp.logical_cases hop with rfl | rfl <;> exact ⟨⟨rfl, hr, rfl, rfl⟩, rfl, rfl, rfl, rfl⟩
    intro n hn
    simp only [postorder, List.mem_append, List.mem_singleton] at hn
    rcases hn with (hn | hn) | rfl
    · exact ihl n hn
    · exact ihr n hn
    · exact hq
  | not h hn ih =>
    intro n hm
    simp only [postorder, List.mem_append, List.mem_singleton] at hm
    rcases hm with hm | rfl
    · exact ih n hm
    · exact ⟨⟨rfl, rfl, rfl, rfl⟩, rfl, rfl, rfl, rfl⟩

theorem liftFlags_eq (h : TestTree e) : liftFlags true e = e := by
  induction h with
  | predicate | interval => rfl
  | join hop hl hr ihl ihr =>
    rcases BinaryOp.logical_cases hop with rfl | rfl <;> simp [liftFlags, joinsTruths, ihl, ihr]
  | not h hn ih =>
    rw [liftFlags_not true hn, ih, if_neg]
    cases h <;> simp [isFlag]

theorem polarity_join {op : BinaryOp} (hop : op.isLogical = true) (left right : Expr) :
    (binary op left right).mapUp polarityNode =
      binary op (left.mapUp polarityNode) (right.mapUp polarityNode) := by
  rw [mapUp_binary, polarityNode_join hop]

theorem polarity_isNegation (h : TestTree e) (hn : isNegation e = false) :
    isNegation (e.mapUp polarityNode) = false := by
  cases h with
  | predicate | interval => rfl
  | join hop =>
    rw [polarity_join hop]
    rfl
  | not => cases hn

theorem polarity (h : TestTree e) : TestTree (e.mapUp polarityNode) := by
  induction h with
  | predicate h => exact .predicate h
  | interval h => exact .interval h
  | join hop hl hr ihl ihr =>
    rw [polarity_join hop]
    exact .join hop ihl ihr
  | @not operand h hn ih =>
    have hn' := h.polarity_isNegation hn
    rw [mapUp_unary]
    cases ho : operand.mapUp polarityNode with
    | predicate p =>
      rw [ho] at ih
      exact .predicate ih.of_predicate.negated
    | interval r =>
      rw [ho] at ih
      cases ih with
      | interval hr => exact .interval hr.negated
    | _ =>
      rw [ho] at ih hn'
      exact .not ih hn'

theorem merge {op : BinaryOp} (hop : op.isLogical = true) (hl : TestTree left) (hr : TestTree right) :
    TestTree (boundsNode (binary op left right)) := by
  rcases boundsNode_join hop left right with hb | ⟨a, b, test, rfl, rfl, hb, hm⟩
  · rw [hb]
    exact .join hop hl hr
  · rw [hb]
    refine .interval ?_
    have hpa := hl.of_predicate
    have hpb := hr.of_predicate
    rcases hm with ⟨_, hm⟩ | ⟨_, hm⟩
    · obtain ⟨_, ⟨_, _, rfl⟩ | ⟨_, _, rfl⟩⟩ := conjoined?_cases hm
      · exact hpa.merged hpb rfl rfl rfl rfl
      · exact hpb.merged hpa rfl rfl rfl rfl
    · obtain ⟨_, ⟨_, _, rfl⟩ | ⟨_, _, rfl⟩⟩ := gap?_cases hm
      · exact hpa.merged hpb rfl rfl rfl rfl
      · exact hpb.merged hpa rfl rfl rfl rfl

theorem bounds_isNegation (h : TestTree e) (hn : isNegation e = false) :
    isNegation (e.mapUp boundsNode) = false := by
  cases h with
  | predicate | interval => rfl
  | @join op left right hop hl hr =>
    rw [mapUp_binary]
    rcases boundsNode_join hop (left.mapUp boundsNode) (right.mapUp boundsNode) with
      hb | ⟨_, _, _, _, _, hb, _⟩ <;> rw [hb] <;> rfl
  | not => cases hn

theorem bounds (h : TestTree e) : TestTree (e.mapUp boundsNode) := by
  induction h with
  | predicate h => exact .predicate h
  | interval h => exact .interval h
  | join hop hl hr ihl ihr => exact merge hop ihl ihr
  | not h hn ih => exact .not ih (h.bounds_isNegation hn)

theorem round_eq (h : TestTree e) :
    round .condition e = .ok ((e.mapUp polarityNode).mapUp boundsNode) := by
  have hq := h.quiet
  have hp := h.polarity.quiet
  rw [Lowering.round_eq, mapUpM_fixed e fun n hn => (hq n hn).member, ok_bind,
    mapUp_fixed _ fun n hn => (hq n hn).marker, mapUp_fixed _ fun n hn => (hq n hn).redundant,
    mapUp_fixed _ fun n hn => (hq n hn).nullGuard]
  simp only [mapUpM_fixed e fun n hn => (hq n hn).fieldBoost,
    mapUpM_fixed e fun n hn => (hq n hn).pattern, ok_bind, if_true, h.liftFlags_eq,
    mapUpM_fixed e fun n hn => (hq n hn).comparison,
    mapUpM_fixed _ fun n hn => (hp n hn).annotated]
  rfl

theorem polarity_polarity (h : TestTree e) :
    (e.mapUp polarityNode).mapUp polarityNode = e.mapUp polarityNode := by
  induction h with
  | predicate | interval => rfl
  | join hop hl hr ihl ihr => rw [polarity_join hop, polarity_join hop, ihl, ihr]
  | @not operand h hn ih =>
    rw [mapUp_unary]
    rcases polarityNode_not (operand.mapUp polarityNode) with hp | ⟨test, _, hp, hs⟩
    · rw [hp, mapUp_unary, ih, hp]
    · rw [hp]
      cases test with
      | predicate | interval => rfl
      | _ => cases hs

/-- Merging once is enough: where a polarity turns afterwards, it is that of a merged interval, and intervals
are not merged again. -/
theorem bounds_polarity_bounds (h : TestTree e) (hpol : e.mapUp polarityNode = e) :
    ((e.mapUp boundsNode).mapUp polarityNode).mapUp boundsNode = (e.mapUp boundsNode).mapUp polarityNode ∧
    ∀ p, (e.mapUp boundsNode).mapUp polarityNode = .predicate p → e.mapUp boundsNode = .predicate p := by
  induction h with
  | predicate => exact ⟨rfl, fun _ h => h⟩
  | interval => exact ⟨rfl, fun _ h => h⟩
  | @join op left right hop hl hr ihl ihr =>
    rw [polarity_join hop] at hpol
    obtain ⟨_, hpl, hpr⟩ := binary.inj hpol
    obtain ⟨ihl, hl'⟩ := ihl hpl
    obtain ⟨ihr, hr'⟩ := ihr hpr
    rw [mapUp_binary boundsNode]
    rcases boundsNode_join hop (left.mapUp boundsNode) (right.mapUp boundsNode) with
      hb | ⟨_, _, test, _, _, hb, _⟩
    · rw [hb, polarity_join hop]
      refine ⟨?_, fun p hp => by cases hp⟩
      rw [mapUp_binary, ihl, ihr]
      rcases boundsNode_join hop ((left.mapUp boundsNode).mapUp polarityNode)
        ((right.mapUp boundsNode).mapUp polarityNode) with hb' | ⟨a, b, test, hta, htb, hm, _⟩
      · exact hb'
      · -- both were bounds before their polarities turned, and were not merged then
        rw [hta, htb, ← hl' a hta, ← hr' b htb, hb] at hm
        cases hm
    · rw [hb]
      exact ⟨rfl, fun p hp => by cases hp⟩
  | @not operand h hn ih =>
    rw [mapUp_unary] at hpol
    rcases polarityNode_not (operand.mapUp polarityNode) with hp | ⟨test, _, hp, hs⟩
    · rw [hp] at hpol
      obtain ⟨_, hpo⟩ := unary.inj hpol
      obtain ⟨ih, ho⟩ := ih hpo
      have hm : (unary .not operand).mapUp boundsNode = unary .not (operand.mapUp boundsNode) := rfl
      rw [hm, mapUp_unary]
      cases ht : (operand.mapUp boundsNode).mapUp polarityNode with
      | predicate p =>
        rw [of_bounds_predicate (ho p ht)] at hp
        cases hp
      | interval r => exact ⟨rfl, fun p hp => by cases hp⟩
      | _ =>
        rw [ht] at ih
        exact ⟨congrArg (unary .not) ih, fun p hp => by cases hp⟩
    · rw [hp] at hpol
      rw [hpol] at hs
      cases hs

theorem settled (h : TestTree e) : TestTree (Lowering.settled e) := h.polarity.bounds.polarity

/-- The round after the first one reaches the settled tree, and no round leaves it. -/
theorem settles (h : TestTree e) :
    round .condition ((e.mapUp polarityNode).mapUp boundsNode) = .ok (Lowering.settled e) ∧
      round .condition (Lowering.settled e) = .ok (Lowering.settled e) := by
  have hm := h.polarity.bounds
  obtain ⟨hb, _⟩ := h.polarity.bounds_polarity_bounds h.polarity_polarity
  constructor
  · rw [hm.round_eq, hb, Lowering.settled]
  · rw [h.settled.round_eq, Lowering.settled, hm.polarity_polarity, hb]

theorem hasNaN_eq (h : TestTree e) : e.hasNaN = false := by
  have hone : Query.unboosted.isNaN = false := by decide +kernel
  have hvalue : ∀ v : Operand, v.expr.hasNaN = false := by
    intro v
    cases v with
    | constant value proper =>
      simp only [Value.isProper, Bool.and_eq_true, Bool.not_eq_true'] at proper
      rw [Operand.expr, hasNaN, proper.2]
    | captured capture proper => rw [Operand.expr, hasNaN] <;> simp
  induction h with
  | @predicate p h =>
    obtain ⟨v, hv⟩ := h.known
    obtain ⟨_, _, _, _, _, _, _⟩ := p
    have hu := h.unboosted
    have hs := h.standard
    simp_all [hasNaN, hasNaNTest]
  | @interval r h =>
    obtain ⟨v, hv⟩ := h.lower
    obtain ⟨w, hw⟩ := h.upper
    obtain ⟨_, _, _, _, _, _, _⟩ := r
    have hu := h.unboosted
    simp_all [hasNaN, hasNaNInterval, hasNaNBound]
  | join hop hl hr ihl ihr => rw [hasNaN, ihl, ihr, Bool.or_false]
  | not h hn ih => rw [hasNaN, ih]

end TestTree

end IndexQuery
