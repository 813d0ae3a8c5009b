import IndexQuery.Proofs.Weight

set_option autoImplicit false

/-!
Which errors a computation can end with.

Evaluation only ever reports an evaluation error (`evaluate_faults`), and a round of lowering never an
internal one (`round_notInternal`), so that the internal error of lowering always means that the rounds
ran out.
-/

namespace IndexQuery

def FailsOnlyAs {α : Type} (allowed : Error → Prop) (r : Except Error α) : Prop :=
  ∀ x, r = .error x → allowed x

namespace FailsOnlyAs

variable {α β : Type} {allowed wider : Error → Prop}

@[simp] theorem ok (a : α) : FailsOnlyAs allowed (.ok a) := by
  rintro x ⟨⟩

@[simp] theorem pure (a : α) : FailsOnlyAs allowed (pure a : Except Error α) := by
  rintro x ⟨⟩

@[simp] theorem error {x : Error} : FailsOnlyAs allowed (.error x : Except Error α) ↔ allowed x := by
  constructor
  · intro h
    exact h x rfl
  · rintro h _ ⟨⟩
    exact h

@[simp] theorem throw {x : Error} : FailsOnlyAs allowed (throw x : Except Error α) ↔ allowed x := error

theorem bind {r : Except Error α} {f : α → Except Error β} (hr : FailsOnlyAs allowed r)
    (hf : ∀ a, r = .ok a → FailsOnlyAs allowed (f a)) : FailsOnlyAs allowed (r >>= f) := by
  intro x hx
  rcases bind_eq_error.1 hx with h | ⟨a, ha, h⟩
  · exact hr x h
  · exact hf a ha x h

theorem map {r : Except Error α} {f : α → β} (hr : FailsOnlyAs allowed r) :
    FailsOnlyAs allowed (r.map f) := by
  cases r with
  | error x => exact error.2 (error.1 hr)
  | ok a => exact ok (f a)

theorem mono {r : Except Error α} (h : FailsOnlyAs allowed r) (hw : ∀ x, allowed x → wider x) :
    FailsOnlyAs wider r := fun x hx => hw x (h x hx)

theorem mapUpM {f : Expr → Except Error Expr} (hf : ∀ n, FailsOnlyAs allowed (f n)) (e : Expr) :
    FailsOnlyAs allowed (e.mapUpM f) := by
  intro x hx
  obtain ⟨n, hn⟩ := Expr.mapUpM_error e hx
  exact hf n x hn

end FailsOnlyAs

namespace Error

def IsEvaluation (x : Error) : Prop := ∃ reason, x = .evaluation reason

def NotInternal (x : Error) : Prop := ∀ reason, x ≠ .internal reason

theorem IsEvaluation.notInternal {x : Error} (h : x.IsEvaluation) : x.NotInternal := by
  obtain ⟨reason, rfl⟩ := h
  rintro _ ⟨⟩

end Error

namespace Value

open Error (IsEvaluation)

variable {α : Type}

@[simp] theorem fault_faults (reason : String) : FailsOnlyAs IsEvaluation (fault reason : Except Error α) :=
  FailsOnlyAs.error.2 ⟨reason, rfl⟩

@[simp] theorem failedConversion_faults (v : Value) (kind : ScalarKind) (reason : String) :
    FailsOnlyAs IsEvaluation (failedConversion v kind reason : Except Error α) := fault_faults _

@[simp] theorem mismatch_faults (op : BinaryOp) (a b : Value) :
    FailsOnlyAs IsEvaluation (mismatch op a b : Except Error α) := fault_faults _

@[simp] theorem expectBool_faults (v : Value) : FailsOnlyAs IsEvaluation v.expectBool := by
  cases v <;> simp [expectBool]

@[simp] theorem ofExact_faults (n : Int) : FailsOnlyAs IsEvaluation (ofExact n) := by
  unfold ofExact
  split <;> simp

@[simp] theorem order_faults (a b : Value) : FailsOnlyAs IsEvaluation (a.order b) := by
  unfold order
  split
  · simp
  · simp
  · simp
  · simp
  · split
    · simp
    · exact FailsOnlyAs.error.2 ⟨_, rfl⟩

theorem convert_faults (v : Value) (kind : ScalarKind) : FailsOnlyAs IsEvaluation (v.convert kind) := by
  unfold convert
  split
  · simp
  · simp
  · simp
  · split <;> simp
  · simp
  · split <;> simp
  · split <;> simp
  · simp

theorem applyUnary_faults (op : UnaryOp) (v : Value) : FailsOnlyAs IsEvaluation (v.applyUnary op) := by
  unfold applyUnary
  split <;> simp

theorem integerArithmetic_faults (op : BinaryOp) (a b : Int64) :
    FailsOnlyAs IsEvaluation (integerArithmetic op a b) := by
  unfold integerArithmetic
  split
  · simp
  · simp
  · simp
  · split <;> simp
  · split
    · simp
    · exact (ofExact_faults _).bind fun _ _ => ofExact_faults _
  · simp

theorem arithmetic_faults (op : BinaryOp) (a b : Value) : FailsOnlyAs IsEvaluation (arithmetic op a b) := by
  unfold arithmetic
  split
  · simp
  · simp
  · exact integerArithmetic_faults _ _ _
  · split
    · split <;> simp
    · simp

theorem bitwise_faults (op : BinaryOp) (a b : Value) : FailsOnlyAs IsEvaluation (bitwise op a b) := by
  unfold bitwise
  split <;> simp

theorem applyBinary_faults (op : BinaryOp) (a b : Value) :
    FailsOnlyAs IsEvaluation (a.applyBinary op b) := by
  unfold applyBinary
  split
  · simp
  · simp
  · exact (order_faults a b).map
  · exact (order_faults a b).map
  · exact (order_faults a b).map
  · exact (order_faults a b).map
  · exact bitwise_faults _ _ _
  · exact bitwise_faults _ _ _
  · split
    · simp
    · simp
    · exact arithmetic_faults _ _ _
  · exact arithmetic_faults _ _ _

theorem changeCase_faults (method : Method) (change : String → String) (v : Value) :
    FailsOnlyAs IsEvaluation (v.changeCase method change) := by
  cases v <;> simp [changeCase]

end Value

namespace Expr

open Error (IsEvaluation)

theorem evaluate_faults (e : Expr) : FailsOnlyAs IsEvaluation e.evaluate := by
  fun_induction evaluate e with
  | case1 => simp
  | case2 => simp
  | case3 operand kind ih => exact ih.bind fun v _ => v.convert_faults kind
  | case4 op operand ih => exact ih.bind fun v _ => v.applyUnary_faults op
  | case5 left right ihl ihr =>
    refine ihl.bind fun a _ => (Value.expectBool_faults a).bind fun x _ => ?_
    split
    · exact ihr.bind fun b _ => (Value.expectBool_faults b).bind fun y _ => .pure _
    · exact .pure _
  | case6 left right ihl ihr =>
    refine ihl.bind fun a _ => (Value.expectBool_faults a).bind fun x _ => ?_
    split
    · exact .pure _
    · exact ihr.bind fun b _ => (Value.expectBool_faults b).bind fun y _ => .pure _
  | case7 left right ihl ihr =>
    refine ihl.bind fun a _ => ?_
    split
    · exact ihr
    · exact .pure _
  | case8 op left right _ _ _ ihl ihr =>
    exact ihl.bind fun a _ => ihr.bind fun b _ => Value.applyBinary_faults op a b
  | case9 test ifTrue ifFalse iht iha ihb =>
    refine iht.bind fun a _ => (Value.expectBool_faults a).bind fun x _ => ?_
    split
    · exact iha
    · exact ihb
  | case10 target ih => exact ih.bind fun v _ => v.changeCase_faults _ _
  | case11 target ih => exact ih.bind fun v _ => v.changeCase_faults _ _
  | case12 => exact Value.fault_faults _

theorem evaluate_notInternal (e : Expr) : FailsOnlyAs Error.NotInternal e.evaluate :=
  e.evaluate_faults.mono fun _ => IsEvaluation.notInternal

end Expr

namespace Lowering

open IndexQuery.Expr
open Error (NotInternal)

theorem singleOf_notInternal (purpose : String) (value : Value) :
    FailsOnlyAs NotInternal (singleOf purpose value) := by
  unfold singleOf
  split <;> simp [NotInternal]

theorem boostAmount_notInternal (args : List Expr) : FailsOnlyAs NotInternal (boostAmount args) := by
  unfold boostAmount
  split
  · exact (evaluate_notInternal _).bind fun v _ => singleOf_notInternal _ v
  · simp [NotInternal]

theorem memberNode_notInternal (e : Expr) : FailsOnlyAs NotInternal (memberNode e) := by
  unfold memberNode
  split
  · simp
  · simp
  · unfold namedField
    split
    · refine (evaluate_notInternal _).bind fun v _ => ?_
      split <;> simp [NotInternal]
    · simp [NotInternal]
  · simp

theorem fieldBoostNode_notInternal (e : Expr) : FailsOnlyAs NotInternal (fieldBoostNode e) := by
  unfold fieldBoostNode
  split
  · split
    · exact (boostAmount_notInternal _).bind fun x _ => .pure _
    · simp
  · simp

theorem annotationNode_notInternal (e : Expr) : FailsOnlyAs NotInternal (annotationNode e) := by
  unfold annotationNode
  split
  · refine (boostAmount_notInternal _).bind fun x _ => ?_
    unfold attachBoost
    split
    · simp
    · simp
    · simp
    · split <;> simp [NotInternal]
  · unfold allowSpecialIn
    split
    · simp
    · simp
    · split <;> simp [NotInternal]
  · simp

theorem checkPattern_notInternal (method : Method) (pattern : Expr) :
    FailsOnlyAs NotInternal (checkPattern method pattern) := by
  unfold checkPattern
  have ha := FailsOnlyAs.mapUpM annotationNode_notInternal pattern
  split
  · simp
  · split
    · exact ha.bind fun _ _ => by simp [NotInternal]
    · simp [NotInternal]

theorem patternNode_notInternal (e : Expr) : FailsOnlyAs NotInternal (patternNode e) := by
  unfold patternNode
  split
  · split
    · refine FailsOnlyAs.bind ?_ fun ps _ => (checkPattern_notInternal _ _).bind fun _ _ => .pure _
      unfold patternArguments
      split
      · exact (evaluate_notInternal _).bind fun v _ => (singleOf_notInternal _ v).bind fun x _ => .pure _
      · simp
      · simp [NotInternal]
    · simp
  · simp
  · simp

theorem comparisonNode_notInternal (e : Expr) : FailsOnlyAs NotInternal (comparisonNode e) := by
  unfold comparisonNode
  split
  · split
    · simp
    · simp only [otherOperator]
      split
      · simp
      · simp
      · simp
      · simp
      · split <;> simp [NotInternal]
  · simp

theorem round_notInternal (role : Role) (e : Expr) : FailsOnlyAs NotInternal (round role e) := by
  rw [round_eq]
  refine (FailsOnlyAs.mapUpM memberNode_notInternal _).bind fun _ _ => ?_
  refine (FailsOnlyAs.mapUpM fieldBoostNode_notInternal _).bind fun _ _ => ?_
  refine (FailsOnlyAs.mapUpM patternNode_notInternal _).bind fun _ _ => ?_
  refine (FailsOnlyAs.mapUpM comparisonNode_notInternal _).bind fun _ _ => ?_
  exact (FailsOnlyAs.mapUpM annotationNode_notInternal _).bind fun _ _ => .pure _

end Lowering

end IndexQuery
