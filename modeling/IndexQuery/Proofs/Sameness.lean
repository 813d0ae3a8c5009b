import IndexQuery.Proofs.Weight

set_option autoImplicit false

/-!
The equality that lowering stops on, against equality of trees.

It does not see kinds and boosts of fields, and it does see that a not-a-number differs from itself. Trees
that are the same have the same weight (`same_weight`), and a tree is the same as itself exactly if it
holds no not-a-number where boosts, similarities and constants are compared (`same_self`).
-/

namespace IndexQuery

namespace Number.Binary

variable {f : Format}

theorem same_self (x : Binary f) : x.same x = !x.isNaN := by
  cases h : x.isNaN <;> simp [same, h]

end Number.Binary

def Value.isNaN : Value → Bool
  | float x => x.isNaN
  | _ => false

theorem Value.same_self (v : Value) : v.same v = !v.isNaN := by
  cases v with
  | float x => exact Number.Binary.same_self x
  | _ => simp [same, isNaN]

namespace Expr

mutual

/-- Does a constant, or the boost or similarity of a test, fail to be a number? Patterns and bounds of
tests count, boosts of fields do not. -/
def hasNaN : Expr → Bool
  | constant value => value.isNaN
  | member target _ _ => hasNaN target
  | call target _ args => hasNaN target || hasNaNAmong args
  | invoke _ args => hasNaNAmong args
  | unary _ operand => hasNaN operand
  | binary _ left right => hasNaN left || hasNaN right
  | conditional test ifTrue ifFalse => hasNaN test || hasNaN ifTrue || hasNaN ifFalse
  | convert operand _ => hasNaN operand
  | predicate test => hasNaNTest test
  | interval test => hasNaNInterval test
  | boosted target boost => hasNaN target || boost.isNaN
  | _ => false

def hasNaNAmong : List Expr → Bool
  | [] => false
  | e :: es => hasNaN e || hasNaNAmong es

def hasNaNTest : Predicate Expr → Bool
  | ⟨_, pattern, _, _, boost, _, similarity⟩ =>
    hasNaN pattern || boost.isNaN || similarity.any (·.isNaN)

def hasNaNInterval : Interval Expr → Bool
  | ⟨_, lower, _, upper, _, _, boost⟩ => hasNaNBound lower || hasNaNBound upper || boost.isNaN

def hasNaNBound : Option Expr → Bool
  | some bound => hasNaN bound
  | none => false

end

theorem sameBoost_self (b : Option Number.Binary32) : sameBoost b b = !b.any (·.isNaN) := by
  cases b with
  | none => rfl
  | some x => exact Number.Binary.same_self x

mutual

theorem same_self : (e : Expr) → e.same e = !e.hasNaN
  | .constant v => by simp [same, hasNaN, Value.same_self v]
  | .captured c => by simp [same, Capture.same, hasNaN]
  | .source _ => by simp [same, hasNaN]
  | .member target _ _ => by simp [same, hasNaN, same_self target]
  | .call target _ args => by simp [same, hasNaN, same_self target, sameAll_self args]
  | .invoke _ args => by simp [same, hasNaN, sameAll_self args]
  | .unary _ operand => by simp [same, hasNaN, same_self operand]
  | .binary _ left right => by simp [same, hasNaN, same_self left, same_self right]
  | .conditional test ifTrue ifFalse => by
    simp [same, hasNaN, same_self test, same_self ifTrue, same_self ifFalse]
  | .convert operand _ => by simp [same, hasNaN, same_self operand]
  | .field ref => by simp [same, FieldRef.same, hasNaN]
  | .predicate test => by simp [same, hasNaN, samePredicate_self test]
  | .interval test => by simp [same, hasNaN, sameInterval_self test]
  | .relevance => by simp [same, hasNaN]
  | .anyField => by simp [same, hasNaN]
  | .boosted target boost => by simp [same, hasNaN, same_self target, Number.Binary.same_self boost]

theorem sameAll_self : (es : List Expr) → sameAll es es = !hasNaNAmong es
  | [] => by simp [sameAll, hasNaNAmong]
  | e :: es => by simp [sameAll, hasNaNAmong, same_self e, sameAll_self es]

theorem samePredicate_self : (test : Predicate Expr) → samePredicate test test = !hasNaNTest test
  | ⟨_, pattern, _, _, boost, _, similarity⟩ => by
    simp [samePredicate, hasNaNTest, FieldRef.same, same_self pattern, Number.Binary.same_self boost,
      sameBoost_self similarity]

theorem sameInterval_self : (test : Interval Expr) → sameInterval test test = !hasNaNInterval test
  | ⟨_, lower, _, upper, _, _, boost⟩ => by
    simp [sameInterval, hasNaNInterval, FieldRef.same, sameBound_self lower, sameBound_self upper,
      Number.Binary.same_self boost]

theorem sameBound_self : (bound : Option Expr) → sameBound bound bound = !hasNaNBound bound
  | some bound => by simp [sameBound, hasNaNBound, same_self bound]
  | none => by simp [sameBound, hasNaNBound]

end

mutual

theorem same_weight : (a b : Expr) → a.same b = true → a.weight = b.weight
  | .member s _ _, b, h => by
    cases b with
    | member t _ _ =>
      simp only [same, Bool.and_eq_true] at h
      simp only [weight_member, same_weight s t h.1.1]
    | _ => simp [same] at h
  | .call s _ as, b, h => by
    cases b with
    | call t _ bs =>
      simp only [same, Bool.and_eq_true] at h
      simp only [weight_call, same_weight s t h.1.1, sameAll_weight as bs h.2]
    | _ => simp [same] at h
  | .invoke _ as, b, h => by
    cases b with
    | invoke _ bs =>
      simp only [same, Bool.and_eq_true] at h
      simp only [weight_invoke, sameAll_weight as bs h.2]
    | _ => simp [same] at h
  | .unary _ x, b, h => by
    cases b with
    | unary _ y =>
      simp only [same, Bool.and_eq_true] at h
      simp only [weight_unary, same_weight x y h.2]
    | _ => simp [same] at h
  | .binary op x y, b, h => by
    cases b with
    | binary op' z w =>
      simp only [same, Bool.and_eq_true, beq_iff_eq] at h
      simp only [weight_binary, same_weight x z h.1.2, same_weight y w h.2, h.1.1]
    | _ => simp [same] at h
  | .conditional x y z, b, h => by
    cases b with
    | conditional u v w =>
      simp only [same, Bool.and_eq_true] at h
      simp only [weight_conditional, same_weight x u h.1.1, same_weight y v h.1.2, same_weight z w h.2]
    | _ => simp [same] at h
  | .convert x _, b, h => by
    cases b with
    | convert y _ =>
      simp only [same, Bool.and_eq_true] at h
      simp only [weight_convert, same_weight x y h.1]
    | _ => simp [same] at h
  | .boosted x _, b, h => by
    cases b with
    | boosted y _ =>
      simp only [same, Bool.and_eq_true] at h
      simp only [weight_boosted, same_weight x y h.1]
    | _ => simp [same] at h
  | .constant _, b, h | .captured _, b, h | .source _, b, h | .field _, b, h | .predicate _, b, h
  | .interval _, b, h | .relevance, b, h | .anyField, b, h => by
    cases b <;> first | rfl | simp [same] at h

theorem sameAll_weight : (as bs : List Expr) → sameAll as bs = true → weightAll as = weightAll bs
  | [], [], _ => rfl
  | [], _ :: _, h | _ :: _, [], h => by simp [sameAll] at h
  | a :: as, b :: bs, h => by
    simp only [sameAll, Bool.and_eq_true] at h
    simp only [weightAll_cons, same_weight a b h.1, sameAll_weight as bs h.2]

end

end Expr

end IndexQuery
