import IndexQuery.Proofs.Settling

set_option autoImplicit false

/-!
What each step of a round keeps, lowering keeps.

Ten of the passes walk over the tree, so that a relation between a node and what their step makes of it extends to whole
trees. The walk over flags is one of its own, since it depends on the place of a node (`StepClosed.liftFlags`). A round
is the passes that come before that walk, then comparisons, and those that come after (`round_parts`).
-/

namespace IndexQuery

open IndexQuery.Expr

namespace Lowering

def prepare (e : Expr) : Except Error Expr := do
  let e ← e.mapUpM memberNode
  let e := ((e.mapUp markerNode).mapUp redundantNode).mapUp nullGuardNode
  let e ← e.mapUpM fieldBoostNode
  e.mapUpM patternNode

def finish (e : Expr) : Except Error Expr := do
  let e ← (e.mapUp polarityNode).mapUpM annotationNode
  return e.mapUp boundsNode

theorem round_parts (role : Role) (e : Expr) : round role e = (do
    let e ← prepare e
    let e ← (if role = .condition then liftFlags true e else e).mapUpM comparisonNode
    finish e) := by
  simp only [round_eq, prepare, finish, bind_assoc]

/-- A relation between a node and what any step of a round makes of it. -/
structure StepClosed (R : Expr → Expr → Prop) : Prop extends Congruent R where
  members : ∀ {e e'}, memberNode e = .ok e' → R e e'
  markers : ∀ e, R e (markerNode e)
  redundancies : ∀ e, R e (redundantNode e)
  nullGuards : ∀ e, R e (nullGuardNode e)
  fieldBoosts : ∀ {e e'}, fieldBoostNode e = .ok e' → R e e'
  patterns : ∀ {e e'}, patternNode e = .ok e' → R e e'
  flag : ∀ ref, R (.field ref) (flagEquals (.field ref) true)
  negatedFlag : ∀ ref, R (.unary .not (.field ref)) (flagEquals (.field ref) false)
  doubleNegation : ∀ e, R (.unary .not (.unary .not e)) e
  comparisons : ∀ {e e'}, comparisonNode e = .ok e' → R e e'
  polarity : ∀ e, R e (polarityNode e)
  annotations : ∀ {e e'}, annotationNode e = .ok e' → R e e'
  bounds : ∀ e, R e (boundsNode e)

namespace StepClosed

variable {R : Expr → Expr → Prop}

theorem liftFlags_not (h : StepClosed R) {truth : Bool} {operand : Expr} (hn : isNegation operand = false)
    (ih : R operand (Lowering.liftFlags truth operand)) :
    R (.unary .not operand) (Lowering.liftFlags truth (.unary .not operand)) := by
  rw [Lowering.liftFlags_not truth hn]
  split
  · rename_i hf
    cases operand with
    | field ref => exact h.negatedFlag ref
    | _ => simp [isFlag] at hf
  · exact h.unary .not ih

mutual

theorem liftFlags (h : StepClosed R) : (truth : Bool) → (e : Expr) → R e (Lowering.liftFlags truth e)
  | truth, .field ref => by
    rw [Lowering.liftFlags]
    split
    · exact h.flag ref
    · exact h.refl _
  | truth, .unary .not operand => by
    have ih := liftFlags h truth operand
    -- a negation of a negation is lifted in one step, two nodes down
    cases operand with
    | unary op inner =>
      cases op with
      | not =>
        rw [Lowering.liftFlags]
        split
        · exact h.trans (h.doubleNegation inner) (liftFlags h true inner)
        · exact h.unary .not (h.unary .not (liftFlags h false inner))
      | negate => exact h.liftFlags_not rfl ih
    | _ => exact h.liftFlags_not rfl ih
  | truth, .unary .negate operand => h.unary .negate (liftFlags h false operand)
  | truth, .binary op left right => h.binary op (liftFlags h _ left) (liftFlags h _ right)
  | truth, .conditional test ifTrue ifFalse =>
    h.conditional (liftFlags h true test) (liftFlags h truth ifTrue) (liftFlags h truth ifFalse)
  | truth, .call target method args => by
    rw [liftFlags_call]
    split
    · exact h.call method (liftFlags h truth target) (List.forall₂_same.2 fun _ _ => h.refl _)
    · exact h.call method (liftFlags h false target) (liftAll h args)
  | truth, .invoke method args => h.invoke method (liftAll h args)
  | truth, .member target name kind => h.member name kind (liftFlags h false target)
  | truth, .convert operand kind => h.convert kind (liftFlags h false operand)
  | truth, .boosted target boost => h.boosted boost (liftFlags h false target)
  | _, .constant _ | _, .captured _ | _, .source _ | _, .predicate _ | _, .interval _ | _, .relevance
  | _, .anyField => h.refl _

theorem liftAll (h : StepClosed R) : (es : List Expr) → List.Forall₂ R es (Lowering.liftAll es)
  | [] => .nil
  | e :: es => .cons (liftFlags h false e) (liftAll h es)

end

variable {e e' : Expr} (h : StepClosed R)

include h

theorem prepare (he : Lowering.prepare e = .ok e') : R e e' := by
  obtain ⟨e₁, h₁, he⟩ := bind_eq_ok.1 he
  obtain ⟨e₂, h₂, h₃⟩ := bind_eq_ok.1 he
  have r₁ := h.mapUpM (fun _ _ => h.members) _ _ h₁
  have rmarkers := h.mapUp markerNode h.markers e₁
  have rredundant := h.mapUp redundantNode h.redundancies (e₁.mapUp markerNode)
  have rguards := h.mapUp nullGuardNode h.nullGuards ((e₁.mapUp markerNode).mapUp redundantNode)
  have r₂ := h.mapUpM (fun _ _ => h.fieldBoosts) _ _ h₂
  have r₃ := h.mapUpM (fun _ _ => h.patterns) _ _ h₃
  exact h.trans r₁ (h.trans rmarkers (h.trans rredundant (h.trans rguards (h.trans r₂ r₃))))

theorem finish (he : Lowering.finish e = .ok e') : R e e' := by
  obtain ⟨e₁, h₁, he⟩ := bind_eq_ok.1 he
  obtain rfl := pure_eq_ok.1 he
  have rpolarity := h.mapUp polarityNode h.polarity e
  have r₁ := h.mapUpM (fun _ _ => h.annotations) _ _ h₁
  exact h.trans rpolarity (h.trans r₁ (h.mapUp boundsNode h.bounds e₁))

theorem round {role : Role} (he : Lowering.round role e = .ok e') : R e e' := by
  rw [round_parts] at he
  obtain ⟨e₁, h₁, he⟩ := bind_eq_ok.1 he
  obtain ⟨e₂, h₂, h₃⟩ := bind_eq_ok.1 he
  have r₂ := h.mapUpM (fun _ _ => h.comparisons) _ _ h₂
  refine h.trans (h.prepare h₁) (h.trans ?_ (h.trans r₂ (h.finish h₃)))
  split
  · exact h.liftFlags true e₁
  · exact h.refl _

theorem settle? {role : Role} {n : Nat} (he : Lowering.settle? role n e = .ok (some e')) : R e e' := by
  induction n generalizing e with
  | zero => cases he
  | succ n ih =>
    obtain ⟨e₁, h₁, he⟩ := bind_eq_ok.1 he
    split at he
    · cases he
      exact h.round h₁
    · exact h.trans (h.round h₁) (ih he)

theorem lower {settings : CompilerSettings} {role : Role} (he : Lowering.lower settings role e = .ok e') : R e e' := by
  obtain ⟨o, ho, he⟩ := bind_eq_ok.1 he
  cases o with
  | none => cases he
  | some lowered =>
    cases he
    exact h.settle? ho

end StepClosed

end Lowering

end IndexQuery
