import IndexQuery.Lowering.NullGuard
import IndexQuery.Proofs.Mirroring

set_option autoImplicit false

/-!
Dropping null guards and the values of closed parts.

A guard has the value null where its subject is null, and else that of the branch it guards. Dropping it keeps this
value unless the subject is null and the branch is not (`Guard.keepsValue_iff`). That the branch reads the subject
somewhere is not enough: null disappears in a text that is put together, in a comparison, and before `??`. Where each
branch passes the null of its subject on, the walk over a whole expression keeps its value (`nullGuards_evaluate`).
-/

namespace IndexQuery

namespace Value

theorem equals_null (v : Value) : v.equals null = v.isNull := by cases v <;> rfl

/-- Is the result null if the other operand is? In a sum with text, null counts as no text. -/
def absorbs (op : BinaryOp) (other : Value) : Bool :=
  match op, other with
  | .add, text _ => false
  | .add, _ | .subtract, _ | .multiply, _ | .divide, _ | .modulo, _ => true
  | _, _ => false

theorem applyBinary_null {op : BinaryOp} {v : Value} (h : absorbs op v = true) :
    null.applyBinary op v = .ok null ∧ v.applyBinary op null = .ok null := by
  cases op with
  | add =>
    cases v with
    | text _ => cases h
    | _ => exact ⟨rfl, rfl⟩
  | subtract | multiply | divide | modulo => cases v <;> exact ⟨rfl, rfl⟩
  | _ => cases v <;> cases h

end Value

namespace Lowering

open IndexQuery.Expr

def AgainstNull (subject left right : Expr) : Prop :=
  (left = subject ∧ right = constant .null) ∨ (left = constant .null ∧ right = subject)

inductive Guard (subject value : Expr) : Expr → Prop where
  | present {left right : Expr} (h : AgainstNull subject left right) :
    Guard subject value (conditional (binary .notEqual left right) value (constant .null))
  | absent {left right : Expr} (h : AgainstNull subject left right) :
    Guard subject value (conditional (binary .equal left right) (constant .null) value)

variable {subject value e : Expr}

/-- The test comes out as the subject is null or not, on whichever side it stands. -/
theorem AgainstNull.equals_eq {left right : Expr} (h : AgainstNull subject left right) (outcome : Bool → Value) :
    (left.evaluate >>= fun a => right.evaluate >>= fun b => .ok (outcome (a.equals b))) =
      subject.evaluate >>= fun s => .ok (outcome s.isNull) := by
  rcases h with ⟨rfl, rfl⟩ | ⟨rfl, rfl⟩
  · simp only [← Value.equals_null]
    rfl
  · simp only [← Value.equals_null, Value.equals_comm _ .null]
    rfl

theorem isNullConstant_iff : e.isNullConstant = true ↔ e = constant .null := by
  constructor
  · intro h
    unfold isNullConstant at h
    split at h
    · rfl
    · cases h
  · rintro rfl
    rfl

theorem guardSubject?_some {left right : Expr} (h : guardSubject? left right = some subject) :
    AgainstNull subject left right := by
  unfold guardSubject? at h
  split at h
  · rename_i hright
    obtain rfl := Option.some.inj h
    exact .inl ⟨rfl, isNullConstant_iff.1 hright⟩
  · rename_i hleft _
    obtain rfl := Option.some.inj h
    exact .inr ⟨isNullConstant_iff.1 hleft, rfl⟩
  · cases h

theorem guardedValue?_some {branch nullBranch : Expr} (h : guardedValue? subject branch nullBranch = some value) :
    nullBranch = constant .null ∧ readsThrough branch subject = true ∧ value = branch := by
  unfold guardedValue? at h
  split at h
  · rename_i hguard
    simp only [Bool.and_eq_true] at hguard
    exact ⟨isNullConstant_iff.1 hguard.1.1, hguard.2, (Option.some.inj h).symm⟩
  · cases h

theorem guarded?_some {test ifTrue ifFalse : Expr} (h : guarded? test ifTrue ifFalse = some value) :
    ∃ subject, Guard subject value (conditional test ifTrue ifFalse) ∧ readsThrough value subject = true := by
  unfold guarded? at h
  split at h
  · obtain ⟨subject, hs, h⟩ := Option.bind_eq_some_iff.1 h
    obtain ⟨rfl, hreads, rfl⟩ := guardedValue?_some h
    exact ⟨subject, .present (guardSubject?_some hs), hreads⟩
  · obtain ⟨subject, hs, h⟩ := Option.bind_eq_some_iff.1 h
    obtain ⟨rfl, hreads, rfl⟩ := guardedValue?_some h
    exact ⟨subject, .absent (guardSubject?_some hs), hreads⟩
  · cases h

/-- The step leaves a node alone, or it drops a guard around a value that reads the subject. -/
theorem nullGuardNode_cases (e : Expr) : nullGuardNode e = e ∨
    ∃ subject, Guard subject (nullGuardNode e) e ∧ readsThrough (nullGuardNode e) subject = true := by
  cases e with
  | conditional test ifTrue ifFalse =>
    rw [nullGuardNode]
    cases hg : guarded? test ifTrue ifFalse with
    | none => exact .inl rfl
    | some value => exact .inr (guarded?_some hg)
  | _ => exact .inl rfl

namespace Guard

theorem evaluate (h : Guard subject value e) :
    e.evaluate = subject.evaluate >>= fun s => if s.isNull then .ok .null else value.evaluate := by
  cases h with
  | @present left right h =>
    have htest : (binary .notEqual left right).evaluate = _ := h.equals_eq fun same => .bool !same
    rw [Expr.evaluate, htest]
    cases subject.evaluate with
    | error fault => rfl
    | ok s => cases s <;> rfl
  | @absent left right h =>
    have htest : (binary .equal left right).evaluate = _ := h.equals_eq .bool
    rw [Expr.evaluate, htest]
    cases subject.evaluate with
    | error fault => rfl
    | ok s => cases s <;> rfl

theorem keepsValue_iff (h : Guard subject value e) :
    KeepsValue e value ↔ (subject.evaluate = .ok .null → value.evaluate = .ok .null) := by
  rw [KeepsValue, h.evaluate]
  constructor
  · intro hkeeps hs
    rw [hs] at hkeeps
    obtain ⟨_, hv, rfl⟩ := hkeeps .null rfl
    exact hv
  · intro hnull v hv
    obtain ⟨s, hs, hv⟩ := bind_eq_ok.1 hv
    cases s with
    | null =>
      obtain rfl := Except.ok.inj hv
      exact ⟨_, hnull hs, rfl⟩
    | _ => exact ⟨v, hv, rfl⟩

end Guard

/-- An expression that is null where the subject is, by what its operators do to null. The other operand of a sum or
the like must still have a value, as must the test of a conditional. -/
inductive PassesNull (subject : Expr) : Expr → Prop where
  | subject : PassesNull subject subject
  | null : PassesNull subject (constant .null)
  | convert {operand : Expr} (kind : ScalarKind) (h : PassesNull subject operand) :
    PassesNull subject (convert operand kind)
  | unary {operand : Expr} (op : UnaryOp) (h : PassesNull subject operand) : PassesNull subject (unary op operand)
  | lowercase {target : Expr} (h : PassesNull subject target) : PassesNull subject (call target .toLowercase [])
  | uppercase {target : Expr} (h : PassesNull subject target) : PassesNull subject (call target .toUppercase [])
  | left {op : BinaryOp} {operand other : Expr} {v : Value} (h : PassesNull subject operand)
    (hv : other.evaluate = .ok v) (ha : v.absorbs op = true) : PassesNull subject (binary op operand other)
  | right {op : BinaryOp} {operand other : Expr} {v : Value} (h : PassesNull subject operand)
    (hv : other.evaluate = .ok v) (ha : v.absorbs op = true) : PassesNull subject (binary op other operand)
  | coalesce {left right : Expr} (hl : PassesNull subject left) (hr : PassesNull subject right) :
    PassesNull subject (binary .coalesce left right)
  | conditional {test ifTrue ifFalse : Expr} {b : Bool} (ht : test.evaluate = .ok (.bool b))
    (ha : PassesNull subject ifTrue) (hb : PassesNull subject ifFalse) :
    PassesNull subject (conditional test ifTrue ifFalse)

theorem evaluate_absorbing {op : BinaryOp} {v : Value} (h : v.absorbs op = true) (left right : Expr) :
    (binary op left right).evaluate =
      left.evaluate >>= fun a => right.evaluate >>= fun b => a.applyBinary op b := by
  cases op with
  | and | or | coalesce => cases v <;> cases h
  | _ => rfl

theorem PassesNull.evaluate (h : PassesNull subject value) (hs : subject.evaluate = .ok .null) :
    value.evaluate = .ok .null := by
  induction h with
  | subject => exact hs
  | null => rfl
  | convert kind _ ih =>
    rw [Expr.evaluate, ih]
    cases kind <;> rfl
  | unary op _ ih =>
    rw [Expr.evaluate, ih]
    cases op <;> rfl
  | lowercase _ ih | uppercase _ ih =>
    rw [Expr.evaluate, ih]
    rfl
  | left _ hv ha ih =>
    rw [evaluate_absorbing ha, ih, hv]
    exact (Value.applyBinary_null ha).1
  | right _ hv ha ih =>
    rw [evaluate_absorbing ha, ih, hv]
    exact (Value.applyBinary_null ha).2
  | coalesce _ _ ihl ihr =>
    rw [Expr.evaluate, ihl, ihr]
    rfl
  | @conditional _ _ _ b ht _ _ iha ihb =>
    rw [Expr.evaluate, ht, iha, ihb]
    cases b <;> rfl

/-- If the node is a guard that the step drops, its subject is not null, or what it guards passes null on. -/
def DropsSafely (e : Expr) : Prop :=
  ∀ subject value, Guard subject value e → readsThrough value subject = true →
    subject.evaluate ≠ .ok .null ∨ PassesNull subject value

theorem DropsSafely.keepsValue (h : DropsSafely e) : KeepsValue e (nullGuardNode e) := by
  rcases nullGuardNode_cases e with hsame | ⟨subject, hguard, hreads⟩
  · rw [hsame]
    exact keepsValue_congruent.refl e
  · refine hguard.keepsValue_iff.2 fun hnull => ?_
    rcases h subject _ hguard hreads with hne | hpasses
    · exact absurd hnull hne
    · exact hpasses.evaluate hnull

/-- An expression with a value keeps it when its null guards are dropped, provided that each guard is safe to drop
where the walk meets it, with the guards inside it dropped already. -/
theorem nullGuards_evaluate {v : Value} (h : e.evaluate = .ok v)
    (hsafe : ∀ n ∈ e.postorder, DropsSafely (n.mapParts nullGuardNode)) :
    (e.mapUp nullGuardNode).evaluate = .ok v := by
  have hkeeps : KeepsValue e (e.mapUp nullGuardNode) :=
    keepsValue_congruent.mapUp_visited fun n hn => (hsafe n hn).keepsValue
  obtain ⟨_, hv, rfl⟩ := hkeeps v h
  exact hv

def absentCapture : Expr := captured ⟨"x", 0, .null⟩

def presentCapture : Expr := captured ⟨"y", 1, .int 1⟩

def guardPresent (value : Expr) : Expr :=
  conditional (binary .equal (constant .null) presentCapture) (constant .null) value

def guardAbsent (value : Expr) : Expr :=
  conditional (binary .notEqual absentCapture (constant .null)) value (constant .null)

def captureSum : Expr := binary .add presentCapture absentCapture

theorem guardPresent_sum : (guardPresent captureSum).mapUp nullGuardNode = captureSum := by cbv

/-- Two guards are dropped, one in the other. The outer subject is null, the inner one is not. -/
theorem nullGuards_evaluate_sum :
    ((binary .coalesce (guardAbsent (guardPresent captureSum)) presentCapture).mapUp nullGuardNode).evaluate =
      .ok (.int 1) := by
  refine nullGuards_evaluate rfl fun n hn subject value hguard _ => ?_
  simp only [guardAbsent, guardPresent, captureSum, absentCapture, presentCapture, postorder, List.cons_append,
    List.nil_append, List.mem_cons, List.not_mem_nil, or_false] at hn
  rcases hn with rfl | rfl | rfl | rfl | rfl | rfl | rfl | rfl | rfl | rfl | rfl | rfl | rfl | rfl | rfl
  -- Two of the nodes are guards, the inner one comes first.
  all_goals cases hguard
  · rename_i hagainst _
    rcases hagainst with ⟨_, hnull⟩ | ⟨_, rfl⟩
    · cases hnull
    · refine .inl fun hs => ?_
      cases hs
  · rename_i hagainst _
    rcases hagainst with ⟨rfl, _⟩ | ⟨hnull, _⟩
    · refine .inr ?_
      change PassesNull absentCapture ((guardPresent captureSum).mapUp nullGuardNode)
      rw [guardPresent_sum]
      exact .right .subject (v := .int 1) rfl rfl
    · cases hnull

/-- The guard makes a sum with text null. Without the guard it is the text. -/
theorem guarded_text_changed :
    (guardAbsent (binary .add absentCapture (constant (.text "a")))).referencesDocument = false ∧
    (guardAbsent (binary .add absentCapture (constant (.text "a")))).evaluate = .ok .null ∧
    ((guardAbsent (binary .add absentCapture (constant (.text "a")))).mapUp nullGuardNode).evaluate = .ok (.text "a") :=
  ⟨rfl, rfl, by cbv⟩

end Lowering

end IndexQuery
