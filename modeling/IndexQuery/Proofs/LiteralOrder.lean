import IndexQuery.Expr.Evaluation
import IndexQuery.Proofs.NearestDouble
import Mathlib.Data.String.Basic

set_option autoImplicit false

/-!
Comparisons of literals.

Whole numbers are ordered exactly, but two of them are equal if they are widened to one datum
(`evaluate_integerComparisons`), so that distinct numbers of more than 53 bits can be both equal and in order
(`neighbours_equal`). Literals of one kind are in a total order. With numbers of both kinds the order is transitive
except around a datum that stands for several whole numbers (`Value.order_swap_chain`).
-/

namespace IndexQuery

open Number (Binary Binary64 Format)
open Number.Binary
open Std (OrientedCmp TransCmp)
open IndexQuery.Expr

/-! ### Comparisons of whole numbers -/

namespace Value

theorem equals_int (a b : Int64) : equals (int a) (int b) = true ↔
    ofInt .double a.toInt = ofInt .double b.toInt :=
  same_ofInt a.toInt b.toInt

/-- Two whole numbers pass for equal if they are, or if they are beyond 53 bits and have one nearest datum. -/
theorem equals_int_iff (a b : Int64) : equals (int a) (int b) = true ↔ a.toInt = b.toInt ∨
    2 ^ 53 ≤ a.toInt.natAbs ∧ 2 ^ 53 ≤ b.toInt.natAbs ∧ ofInt .double a.toInt = ofInt .double b.toInt := by
  rw [equals_int]
  constructor
  · intro h
    by_cases hbits : a.toInt.natAbs < 2 ^ 53 ∨ b.toInt.natAbs < 2 ^ 53
    · exact .inl (ofInt_inj hbits h)
    · exact .inr ⟨by omega, by omega, h⟩
  · rintro (h | ⟨_, _, h⟩)
    · rw [h]
    · exact h

end Value

/-- Orders of whole numbers are those of mathematics; equality is that of the nearest data in double width. -/
theorem evaluate_integerComparisons (a b : Int64) :
    let compared (op : BinaryOp) := evaluate (binary op (constant (.int a)) (constant (.int b)))
    compared .less = .ok (.bool (decide (a.toInt < b.toInt))) ∧
    compared .greater = .ok (.bool (decide (b.toInt < a.toInt))) ∧
    compared .lessOrEqual = .ok (.bool (decide (a.toInt ≤ b.toInt))) ∧
    compared .greaterOrEqual = .ok (.bool (decide (b.toInt ≤ a.toInt))) ∧
    ∃ equal, compared .equal = .ok (.bool equal) ∧ compared .notEqual = .ok (.bool !equal) ∧
      (equal = true ↔ a.toInt = b.toInt ∨ 2 ^ 53 ≤ a.toInt.natAbs ∧ 2 ^ 53 ≤ b.toInt.natAbs ∧
        ofInt .double a.toInt = ofInt .double b.toInt) := by
  intro compared
  have hless : (compare a.toInt b.toInt == .lt) = decide (a.toInt < b.toInt) := by
    rw [Bool.eq_iff_iff, beq_iff_eq, compare_lt_iff_lt, decide_eq_true_iff]
  have hgreater : (compare a.toInt b.toInt == .gt) = decide (b.toInt < a.toInt) := by
    rw [Bool.eq_iff_iff, beq_iff_eq, compare_gt_iff_gt, decide_eq_true_iff]
  have hle : (compare a.toInt b.toInt != .gt) = decide (a.toInt ≤ b.toInt) := by
    rw [bne, hgreater, ← decide_not, decide_eq_decide, Int.not_lt]
  have hge : (compare a.toInt b.toInt != .lt) = decide (b.toInt ≤ a.toInt) := by
    rw [bne, hless, ← decide_not, decide_eq_decide, Int.not_lt]
  refine ⟨?_, ?_, ?_, ?_, _, rfl, rfl, Value.equals_int_iff a b⟩
  · exact congrArg (fun b => Except.ok (Value.bool b)) hless
  · exact congrArg (fun b => Except.ok (Value.bool b)) hgreater
  · exact congrArg (fun b => Except.ok (Value.bool b)) hle
  · exact congrArg (fun b => Except.ok (Value.bool b)) hge

/-- The least positive number beyond 53 bits passes for equal to the next one, and for less. -/
theorem neighbours_equal :
    evaluate (binary .equal (constant (.int 9007199254740992)) (constant (.int 9007199254740993))) =
      .ok (.bool true) ∧
    evaluate (binary .notEqual (constant (.int 9007199254740992)) (constant (.int 9007199254740993))) =
      .ok (.bool false) ∧
    evaluate (binary .less (constant (.int 9007199254740992)) (constant (.int 9007199254740993))) =
      .ok (.bool true) := by
  decide +kernel

/-! ### The order of literals -/

instance : TransCmp Time.Instant.order :=
  inferInstanceAs (TransCmp (compareLex (compareOn Time.Instant.seconds) (compareOn Time.Instant.nanos)))

instance : TransCmp (totalCompare (f := .double)) :=
  inferInstanceAs (TransCmp (compareOn (rank (f := .double))))

instance transCmp_toNat : TransCmp fun x y : Bool => compare x.toNat y.toNat :=
  inferInstanceAs (TransCmp (compareOn Bool.toNat))

namespace Value

variable {a b c : Value} {o : Ordering}

def NotAfter (a b : Value) : Prop := ∃ o, a.order b = .ok o ∧ o ≠ .gt

/-- Two whole numbers around the datum to which both are widened, the larger one first. -/
def Straddle (a b c : Value) : Prop :=
  ∃ i j x, a = int i ∧ b = float x ∧ c = int j ∧ j.toInt < i.toInt ∧
    ofInt .double i.toInt = x ∧ ofInt .double j.toInt = x

/-- Literals of one kind, in the order of what they hold. -/
structure OrderedKind {α : Type} (literal : α → Value) (cmp : α → α → Ordering) : Prop where
  order : ∀ x y, (literal x).order (literal y) = .ok (cmp x y)
  closed : ∀ {x b o}, (literal x).order b = .ok o → ∃ y, b = literal y

theorem bool_ordered : OrderedKind bool fun x y => compare x.toNat y.toNat where
  order _ _ := rfl
  closed {x b o} h := by
    cases b with
    | bool y => exact ⟨y, rfl⟩
    | _ => cases h

theorem text_ordered : OrderedKind text compare where
  order _ _ := rfl
  closed {x b o} h := by
    cases b with
    | text y => exact ⟨y, rfl⟩
    | _ => cases h

theorem instant_ordered : OrderedKind instant Time.Instant.order where
  order _ _ := rfl
  closed {x b o} h := by
    cases b with
    | instant y => exact ⟨y, rfl⟩
    | _ => cases h

namespace OrderedKind

variable {α : Type} {literal : α → Value} {cmp : α → α → Ordering} {x : α}

theorem swap [OrientedCmp cmp] (h : OrderedKind literal cmp) (ho : (literal x).order b = .ok o) :
    b.order (literal x) = .ok o.swap := by
  obtain ⟨y, rfl⟩ := h.closed ho
  rw [h.order] at ho ⊢
  obtain rfl := Except.ok.inj ho
  exact congrArg Except.ok OrientedCmp.eq_swap

theorem trans [TransCmp cmp] (h : OrderedKind literal cmp) (hab : (literal x).NotAfter b) (hbc : b.NotAfter c) :
    (literal x).NotAfter c := by
  obtain ⟨o, ho, hle⟩ := hab
  obtain ⟨y, rfl⟩ := h.closed ho
  obtain ⟨o', ho', hle'⟩ := hbc
  obtain ⟨z, rfl⟩ := h.closed ho'
  rw [h.order] at ho ho'
  obtain rfl := Except.ok.inj ho
  obtain rfl := Except.ok.inj ho'
  refine ⟨_, h.order x z, ?_⟩
  exact Ordering.isLE_iff_ne_gt.1 (TransCmp.isLE_trans (Ordering.isLE_iff_ne_gt.2 hle) (Ordering.isLE_iff_ne_gt.2 hle'))

end OrderedKind

/-! ### Numbers -/

theorem order_numbers {x y : Binary64} (ha : a.asFloat? = some x) (hb : b.asFloat? = some y)
    (hf : a.asInt? = none ∨ b.asInt? = none) : a.order b = .ok (x.totalCompare y) := by
  cases a <;> cases ha <;> cases b <;> cases hb <;> first | rfl | simp [asInt?] at hf

/-- What can be compared with a number is a number, and two whole numbers are compared as such. -/
theorem order_number_cases {x : Binary64} (ha : a.asFloat? = some x) (h : a.order b = .ok o) :
    (∃ i j, a = int i ∧ b = int j ∧ o = compare i.toInt j.toInt) ∨
      ∃ y, b.asFloat? = some y ∧ (a.asInt? = none ∨ b.asInt? = none) ∧ o = x.totalCompare y := by
  cases a with
  | int i =>
    cases ha
    cases b with
    | int j =>
      cases h
      exact .inl ⟨i, j, rfl, rfl, rfl⟩
    | float y =>
      cases h
      exact .inr ⟨y, rfl, .inr rfl, rfl⟩
    | _ => cases h
  | float x =>
    cases ha
    cases b with
    | int j | float y =>
      cases h
      exact .inr ⟨_, rfl, .inl rfl, rfl⟩
    | _ => cases h
  | _ => cases ha

theorem swap_numbers {x : Binary64} (ha : a.asFloat? = some x) (h : a.order b = .ok o) :
    b.order a = .ok o.swap := by
  rcases order_number_cases ha h with ⟨i, j, rfl, rfl, rfl⟩ | ⟨y, hb, hf, rfl⟩
  · exact congrArg Except.ok OrientedCmp.eq_swap
  · rw [order_numbers hb ha hf.symm]
    exact congrArg Except.ok OrientedCmp.eq_swap

theorem int_notAfter {i j : Int64} : (int i).NotAfter (int j) ↔ i.toInt ≤ j.toInt := by
  rw [← compare_le_iff_le]
  constructor
  · rintro ⟨o, ho, hle⟩
    cases ho
    exact hle
  · exact fun hle => ⟨_, rfl, hle⟩

/-- Numbers that are not both whole are compared by the ranks of their data. -/
theorem numbers_notAfter {x y : Binary64} (ha : a.asFloat? = some x) (hb : b.asFloat? = some y)
    (hf : a.asInt? = none ∨ b.asInt? = none) (h : x.rank ≤ y.rank) : a.NotAfter b :=
  ⟨_, order_numbers ha hb hf, compare_le_iff_le.2 h⟩

/-- Along the order, the ranks of the data do not fall. -/
theorem NotAfter.rank {x : Binary64} (ha : a.asFloat? = some x) (h : a.NotAfter b) :
    ∃ y, b.asFloat? = some y ∧ x.rank ≤ y.rank := by
  obtain ⟨o, ho, hle⟩ := h
  rcases order_number_cases ha ho with ⟨i, j, rfl, rfl, rfl⟩ | ⟨y, hb, _, rfl⟩
  · cases ha
    exact ⟨_, rfl, rank_ofInt_mono (compare_le_iff_le.1 hle)⟩
  · exact ⟨y, hb, compare_le_iff_le.1 hle⟩

theorem asInt?_cases (a : Value) : a.asInt? = none ∨ ∃ i, a = int i := by
  cases a with
  | int i => exact .inr ⟨i, rfl⟩
  | _ => exact .inl rfl

theorem trans_numbers {x : Binary64} (ha : a.asFloat? = some x) (hab : a.NotAfter b) (hbc : b.NotAfter c) :
    a.NotAfter c ↔ ¬ Straddle a b c := by
  obtain ⟨y, hb, hxy⟩ := hab.rank ha
  obtain ⟨z, hc, hyz⟩ := hbc.rank hb
  constructor
  · rintro hac ⟨i, j, _, rfl, _, rfl, hlt, _⟩
    have hle := int_notAfter.1 hac
    omega
  intro hno
  rcases asInt?_cases a with hf | ⟨i, rfl⟩
  · exact numbers_notAfter ha hc (.inl hf) (hxy.trans hyz)
  rcases asInt?_cases c with hf | ⟨j, rfl⟩
  · exact numbers_notAfter ha hc (.inr hf) (hxy.trans hyz)
  rw [int_notAfter]
  by_contra hlt
  cases ha
  cases hc
  cases b with
  | int k =>
    have hik := int_notAfter.1 hab
    have hkj := int_notAfter.1 hbc
    omega
  | float y =>
    -- all three ranks are one, since widening keeps the order of the whole numbers
    cases hb
    have hji := rank_ofInt_mono (show j.toInt ≤ i.toInt by omega)
    exact hno ⟨i, j, y, rfl, rfl, rfl, by omega, rank_injective (by omega), rank_injective (by omega)⟩
  | _ => cases hb

theorem order_swap (h : a.order b = .ok o) : b.order a = .ok o.swap := by
  cases a with
  | null => cases h
  | bool x => exact bool_ordered.swap h
  | text x => exact text_ordered.swap h
  | instant x => exact instant_ordered.swap h
  | int | float => exact swap_numbers rfl h

/-- Turning a comparison around reverses its outcome, and what comes in order stays in order along a chain, unless two
whole numbers straddle a datum to which both are widened. -/
theorem order_swap_chain (a b c : Value) : (∀ o, a.order b = .ok o → b.order a = .ok o.swap) ∧
    (a.NotAfter b → b.NotAfter c → (a.NotAfter c ↔ ¬ Straddle a b c)) := by
  refine ⟨fun o => order_swap, fun hab hbc => ?_⟩
  cases a with
  | null =>
    obtain ⟨o, ho, _⟩ := hab
    cases ho
  | bool x => exact iff_of_true (bool_ordered.trans hab hbc) (by rintro ⟨_, _, _, ⟨⟩, _⟩)
  | text x => exact iff_of_true (text_ordered.trans hab hbc) (by rintro ⟨_, _, _, ⟨⟩, _⟩)
  | instant x => exact iff_of_true (instant_ordered.trans hab hbc) (by rintro ⟨_, _, _, ⟨⟩, _⟩)
  | int | float => exact trans_numbers rfl hab hbc

/-- Two neighbours beyond 53 bits and the datum between them, in order. -/
theorem order_swap_chain_neighbours :
    let low := int 9007199254740992
    let datum := float (ofInt .double 9007199254740992)
    let high := int 9007199254740993
    datum.order low = .ok .eq ∧ low.NotAfter datum ∧ datum.NotAfter high ∧ low.NotAfter high := by
  intro low datum high
  have hlow : low.order datum = .ok .eq := by decide +kernel
  have hhigh : datum.order high = .ok .eq := by decide +kernel
  obtain ⟨hswap, hchain⟩ := order_swap_chain low datum high
  have hld : low.NotAfter datum := ⟨_, hlow, by decide⟩
  have hdh : datum.NotAfter high := ⟨_, hhigh, by decide⟩
  refine ⟨hswap _ hlow, hld, hdh, (hchain hld hdh).2 ?_⟩
  rintro ⟨i, j, x, hi, _, hj, hlt, _⟩
  rw [← Value.int.inj hi, ← Value.int.inj hj] at hlt
  revert hlt
  decide

/-- The same numbers from the larger one to the smaller one: neither step goes down, but the whole way does. -/
theorem neighbours_straddle :
    let high := int 9007199254740993
    let datum := float (ofInt .double 9007199254740992)
    let low := int 9007199254740992
    high.NotAfter datum ∧ datum.NotAfter low ∧ high.order low = .ok .gt := by
  intro high datum low
  have hhigh : high.order datum = .ok .eq := by decide +kernel
  have hlow : datum.order low = .ok .eq := by decide +kernel
  exact ⟨⟨_, hhigh, by decide⟩, ⟨_, hlow, by decide⟩, by decide +kernel⟩

end Value

end IndexQuery
