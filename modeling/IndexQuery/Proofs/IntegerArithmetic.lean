import IndexQuery.Expr.Evaluation
import Mathlib.Algebra.Order.Ring.Int

set_option autoImplicit false

/-!
Arithmetic on whole numbers, against arithmetic without bounds.

An operation on words has its exact result, or a fault that the exact operands show (`applyBinary_int`). So a term has
its exact value if it is computed without a fault, and otherwise fails as the first operation with a fault does
(`evaluate_arithmetic`).
-/

namespace IndexQuery

open Number (leastInt64 greatestInt64 toInt64?)
open IndexQuery.Expr

def Fits (n : Int) : Prop := leastInt64 ≤ n ∧ n ≤ greatestInt64

instance (n : Int) : Decidable (Fits n) := inferInstanceAs (Decidable (_ ∧ _))

theorem fits_iff {n : Int} : Fits n ↔ -2 ^ 63 ≤ n ∧ n < 2 ^ 63 := by
  have hleast : leastInt64 = -2 ^ 63 := rfl
  have hgreatest : greatestInt64 = 2 ^ 63 - 1 := rfl
  rw [Fits, hleast, hgreatest]
  omega

theorem fits_toInt (i : Int64) : Fits i.toInt := fits_iff.2 ⟨i.le_toInt, i.toInt_lt⟩

theorem toInt_ofInt {n : Int} (h : Fits n) : (Int64.ofInt n).toInt = n := by
  obtain ⟨hleast, hgreatest⟩ := fits_iff.1 h
  exact Int64.toInt_ofInt_of_le hleast hgreatest

inductive ArithmeticFault where
  | overflow
  | zeroDivisor
deriving DecidableEq

def ArithmeticFault.reason : ArithmeticFault → String
  | overflow => "integer overflow"
  | zeroDivisor => "division by zero"

inductive IntegerOp where
  | add
  | subtract
  | multiply
  | divide
  | modulo
deriving DecidableEq

namespace IntegerOp

def operator : IntegerOp → BinaryOp
  | add => .add
  | subtract => .subtract
  | multiply => .multiply
  | divide => .divide
  | modulo => .modulo

/-- The result without bounds: a quotient is rounded toward zero, a remainder has the sign of the dividend. -/
def exact : IntegerOp → Int → Int → Int
  | add, a, b => a + b
  | subtract, a, b => a - b
  | multiply, a, b => a * b
  | divide, a, b => a.tdiv b
  | modulo, a, b => a.tmod b

def divides : IntegerOp → Bool
  | divide | modulo => true
  | _ => false

/-- The remainder of the least number by `-1` counts as an overflow, too, though it is zero. -/
def fault? (op : IntegerOp) (a b : Int) : Option ArithmeticFault :=
  if op.divides ∧ b = 0 then some .zeroDivisor
  else if ¬ Fits (op.exact a b) ∨ (op = modulo ∧ a = leastInt64 ∧ b = -1) then some .overflow
  else none

end IntegerOp

/-- Arithmetic on whole numbers that are constants or captured. -/
inductive IntegerTerm where
  | constant (value : Int64)
  | captured (name : String) (identity : Nat) (value : Int64)
  | negate (operand : IntegerTerm)
  | apply (op : IntegerOp) (left right : IntegerTerm)

namespace IntegerTerm

def expr : IntegerTerm → Expr
  | constant value => .constant (.int value)
  | captured name identity value => .captured ⟨name, identity, .int value⟩
  | negate operand => .unary .negate operand.expr
  | apply op left right => .binary op.operator left.expr right.expr

def value : IntegerTerm → Int
  | constant value | captured _ _ value => value.toInt
  | negate operand => -operand.value
  | apply op left right => op.exact left.value right.value

/-- The faults met on the way to the value, in the order of evaluation. -/
def faults : IntegerTerm → List ArithmeticFault
  | constant _ | captured _ _ _ => []
  | negate operand => operand.faults ++ if Fits (-operand.value) then [] else [.overflow]
  | apply op left right => left.faults ++ right.faults ++ (op.fault? left.value right.value).toList

end IntegerTerm

/-! ### Operations -/

def exactUnless (faults : List ArithmeticFault) (n : Int) : Except Error Value :=
  match faults with
  | [] => .ok (.int (Int64.ofInt n))
  | fault :: _ => .error (.evaluation fault.reason)

theorem ofExact_eq (n : Int) : Value.ofExact n = exactUnless (if Fits n then [] else [.overflow]) n := by
  by_cases h : Fits n
  · have hword : toInt64? n = some (Int64.ofInt n) := if_pos h
    rw [Value.ofExact, hword, if_pos h]
    rfl
  · have hword : toInt64? n = none := if_neg h
    rw [Value.ofExact, hword, if_neg h]
    rfl

/-- Only the quotient of the least number by `-1` does not fit. -/
theorem fits_tdiv {a b : Int} (ha : Fits a) (hb : b ≠ 0) : Fits (a.tdiv b) ↔ ¬ (a = leastInt64 ∧ b = -1) := by
  have hleast : leastInt64 = -2 ^ 63 := rfl
  rw [fits_iff] at ha
  rw [fits_iff, hleast]
  by_cases hone : b.natAbs = 1
  · rcases Int.natAbs_eq_iff.1 hone with rfl | rfl
    · rw [Int.natCast_one, Int.tdiv_one]
      omega
    · rw [Int.natCast_one, Int.tdiv_neg, Int.tdiv_one]
      omega
  · -- any other divisor halves the number at least
    have hhalf : (a.tdiv b).natAbs ≤ 2 ^ 62 := by
      have htwo : 2 ≤ b.natAbs := by omega
      rw [Int.natAbs_tdiv]
      calc a.natAbs / b.natAbs
        _ ≤ a.natAbs / 2 := Nat.div_le_div_left htwo Nat.two_pos
        _ ≤ 2 ^ 62 := by omega
    omega

theorem fits_tmod {a b : Int} (ha : Fits a) : Fits (a.tmod b) := by
  have hsize : (a.tmod b).natAbs ≤ a.natAbs := by
    rw [Int.natAbs_tmod]
    exact Nat.mod_le _ _
  have hpositive : 0 ≤ a → 0 ≤ a.tmod b := Int.tmod_nonneg b
  have hnegative : 0 ≤ -a → 0 ≤ -a.tmod b := by
    rw [← Int.neg_tmod]
    exact Int.tmod_nonneg b
  rw [fits_iff] at ha ⊢
  omega

namespace IntegerOp

theorem fault?_unbroken {op : IntegerOp} (h : op.divides = false) (a b : Int) :
    (op.fault? a b).toList = if Fits (op.exact a b) then [] else [.overflow] := by
  have hmodulo : op ≠ modulo := by
    rintro rfl
    cases h
  by_cases hfits : Fits (op.exact a b) <;> simp [fault?, h, hmodulo, hfits]

theorem fault?_zero {op : IntegerOp} (h : op.divides = true) (a : Int) : op.fault? a 0 = some .zeroDivisor := by
  simp [fault?, h]

theorem fault?_divide {a b : Int} (hb : b ≠ 0) :
    (divide.fault? a b).toList = if Fits (a.tdiv b) then [] else [.overflow] := by
  by_cases hfits : Fits (a.tdiv b) <;> simp [fault?, exact, hb, hfits]

theorem fault?_modulo {a b : Int} (ha : Fits a) (hb : b ≠ 0) :
    (modulo.fault? a b).toList = if Fits (a.tdiv b) then [] else [.overflow] := by
  simp only [fault?, exact, fits_tmod ha, hb, and_false, if_false, not_true, false_or, true_and]
  by_cases hfits : Fits (a.tdiv b)
  · rw [if_pos hfits, if_neg ((fits_tdiv ha hb).1 hfits)]
    rfl
  · rw [if_neg hfits, if_pos (Decidable.of_not_not fun h => hfits ((fits_tdiv ha hb).2 h))]
    rfl

end IntegerOp

theorem applyBinary_int (op : IntegerOp) (a b : Int64) : (Value.int a).applyBinary op.operator (.int b) =
    exactUnless (op.fault? a.toInt b.toInt).toList (op.exact a.toInt b.toInt) := by
  have hzero : b.toInt = 0 ↔ b = 0 := Int64.toInt_inj (y := 0)
  cases op with
  | add | subtract | multiply =>
    rw [IntegerOp.fault?_unbroken rfl]
    exact ofExact_eq _
  | divide =>
    change (if b = 0 then Value.fault _ else Value.ofExact (a.toInt.tdiv b.toInt)) = _
    split
    · rename_i hb
      rw [hzero.2 hb, IntegerOp.fault?_zero rfl]
      rfl
    · rename_i hb
      rw [IntegerOp.fault?_divide (mt hzero.1 hb)]
      exact ofExact_eq _
  | modulo =>
    change (if b = 0 then Value.fault _ else do
      let _ ← Value.ofExact (a.toInt.tdiv b.toInt)
      Value.ofExact (a.toInt.tmod b.toInt)) = _
    split
    · rename_i hb
      rw [hzero.2 hb, IntegerOp.fault?_zero rfl]
      rfl
    · rename_i hb
      rw [IntegerOp.fault?_modulo (fits_toInt a) (mt hzero.1 hb), ofExact_eq, ofExact_eq,
        if_pos (fits_tmod (fits_toInt a))]
      split <;> rfl

/-! ### Terms -/

namespace IntegerTerm

theorem evaluate_apply (op : IntegerOp) (left right : Expr) : evaluate (.binary op.operator left right) = (do
    let a ← evaluate left
    let b ← evaluate right
    a.applyBinary op.operator b) := by
  cases op <;> rfl

theorem faults_append_eq_nil {p : Prop} [Decidable p] {faults : List ArithmeticFault} {fault : ArithmeticFault}
    (h : faults ++ (if p then [] else [fault]) = []) : faults = [] ∧ p := by
  obtain ⟨hfaults, hp⟩ := List.append_eq_nil_iff.1 h
  exact ⟨hfaults, by simpa using hp⟩

theorem exact_fits {op : IntegerOp} {a b : Int} (h : op.fault? a b = none) : Fits (op.exact a b) := by
  simp only [IntegerOp.fault?] at h
  split at h
  · cases h
  · split at h
    · cases h
    · rename_i hfits
      exact Decidable.of_not_not fun hn => hfits (.inl hn)

theorem value_fits {t : IntegerTerm} (h : t.faults = []) : Fits t.value := by
  cases t with
  | constant value | captured name identity value => exact fits_toInt value
  | negate operand => exact (faults_append_eq_nil h).2
  | apply op left right =>
    exact exact_fits (Option.toList_eq_nil_iff.1 (List.append_eq_nil_iff.1 h).2)

theorem evaluate_expr (t : IntegerTerm) : t.expr.evaluate = exactUnless t.faults t.value := by
  induction t with
  | constant value | captured name identity value =>
    change Except.ok (Value.int value) = Except.ok (Value.int (Int64.ofInt value.toInt))
    rw [Int64.ofInt_toInt]
  | negate operand ih =>
    change (operand.expr.evaluate >>= fun v => v.applyUnary .negate) = _
    rw [ih, faults]
    cases hf : operand.faults with
    | nil =>
      change Value.ofExact (-(Int64.ofInt operand.value).toInt) = _
      rw [toInt_ofInt (value_fits hf), ofExact_eq]
      rfl
    | cons fault rest => rfl
  | apply op left right ihl ihr =>
    rw [expr, evaluate_apply, ihl, ihr, faults]
    cases hl : left.faults with
    | nil =>
      cases hr : right.faults with
      | nil =>
        change (Value.int _).applyBinary op.operator (.int _) = _
        rw [applyBinary_int, toInt_ofInt (value_fits hl), toInt_ofInt (value_fits hr)]
        rfl
      | cons fault rest => rfl
    | cons fault rest => rfl

/-- A term has its exact value if no operation in it has a fault, and otherwise fails as the first that has. -/
theorem evaluate_arithmetic (t : IntegerTerm) :
    (∀ z : Int64, t.expr.evaluate = .ok (.int z) ↔ t.faults = [] ∧ z.toInt = t.value) ∧
    match t.faults with
    | [] => ∃ z : Int64, t.expr.evaluate = .ok (.int z)
    | fault :: _ => t.expr.evaluate = .error (.evaluation fault.reason) := by
  rw [evaluate_expr]
  cases hf : t.faults with
  | nil =>
    have hvalue := toInt_ofInt (value_fits hf)
    refine ⟨fun z => ?_, _, rfl⟩
    change Except.ok (Value.int (Int64.ofInt t.value)) = _ ↔ _
    rw [Except.ok.injEq, Value.int.injEq, ← Int64.toInt_inj, hvalue, eq_comm, eq_self_iff_true, true_and]
  | cons fault rest =>
    refine ⟨fun z => ⟨?_, ?_⟩, rfl⟩
    · intro h
      cases h
    · rintro ⟨h, _⟩
      cases h

/-- The remainder of the least number by `-1` fails before the division by zero can. -/
example : (apply .add (apply .modulo (constant (-9223372036854775808)) (negate (constant 1)))
    (apply .divide (constant 1) (constant 0))).expr.evaluate = .error (.evaluation "integer overflow") := by rfl

end IntegerTerm

end IndexQuery
