import IndexQuery.Number.Binary
import Mathlib.Algebra.Ring.Nat
import Mathlib.Data.Nat.Log
import Mathlib.Order.Compare

set_option autoImplicit false

/-!
Whole numbers in double width.

Rounding a quotient to the nearest whole number keeps order, and so does rounding a whole number to double width
(`rank_ofInt_mono`): the codes of the nearest data run through the powers of two, and within one of them through the
rounded significands. Distinct numbers may meet in one datum, but not if one of them has at most 53 bits
(`rank_ofInt_lt`).
-/

namespace IndexQuery.Number

/-! ### Rounded quotients -/

theorem divideNearest_bounds (num den : Nat) :
    num / den ≤ divideNearest num den ∧ divideNearest num den ≤ num / den + 1 := by
  dsimp only [divideNearest]
  split_ifs <;> omega

theorem divideNearest_mono {num num' : Nat} (den : Nat) (h : num ≤ num') :
    divideNearest num den ≤ divideNearest num' den := by
  rcases Nat.lt_or_eq_of_le (Nat.div_le_div_right (c := den) h) with hq | hq
  · have hlow := (divideNearest_bounds num den).2
    have hhigh := (divideNearest_bounds num' den).1
    omega
  · -- one quotient, so that the remainders decide
    have hr := Nat.div_add_mod num den
    have hr' := Nat.div_add_mod num' den
    rw [hq] at hr
    have hmod : num % den ≤ num' % den := by omega
    dsimp only [divideNearest]
    rw [hq]
    split_ifs <;> omega

theorem divideNearest_mul (q : Nat) {den : Nat} (hden : 0 < den) : divideNearest (q * den) den = q := by
  simp [divideNearest, Nat.mul_div_cancel q hden, hden]

namespace Binary

variable {m n : Nat}

/-! ### Codes of whole numbers -/

theorem binaryExponent_whole (hn : n ≠ 0) : binaryExponent n 1 = n.log2 := by
  have h : ¬ n < 2 ^ n.log2 := Nat.not_lt.2 (Nat.log2_self_le hn)
  have hone : Nat.log2 1 = 0 := by decide
  simp [binaryExponent, hone, h]

/-- Significand of the nearest datum; rounding up may carry it to the next power of two. -/
def wholeDigits (n : Nat) : Nat := divideNearest (n * 2 ^ (52 - n.log2)) (2 ^ (n.log2 - 52))

theorem code_round (negative : Bool) (hn : n ≠ 0) : (round .double negative n 1).code.val =
    min ((n.log2 + 1022) * 2 ^ 52 + wholeDigits n) Format.double.infinityCode := by
  have hleast : Format.double.leastExponent = -1074 := by decide
  have hhidden : Format.double.hidden = 2 ^ 52 := by decide
  have hplace : max Format.double.leastExponent (binaryExponent n 1 - (Format.double.precision - 1 : Nat)) =
      (n.log2 : Int) - 52 := by
    rw [binaryExponent_whole hn, hleast]
    change max (-1074) ((n.log2 : Int) - 52) = _
    omega
  have hdown : (-((n.log2 : Int) - 52)).toNat = 52 - n.log2 := by omega
  have hup : ((n.log2 : Int) - 52).toNat = n.log2 - 52 := by omega
  have hrow : ((n.log2 : Int) - 52 - -1074).toNat = n.log2 + 1022 := by omega
  rw [round, if_neg hn]
  simp only [hplace, hdown, hup]
  simp only [hleast, hrow, hhidden, ofCode, wholeDigits, Nat.one_mul, Nat.pow_eq]

theorem wholeDigits_bounds (hn : n ≠ 0) : 2 ^ 52 ≤ wholeDigits n ∧ wholeDigits n ≤ 2 * 2 ^ 52 := by
  have hden : 0 < 2 ^ (n.log2 - 52) := Nat.two_pow_pos _
  -- both sides are the larger of the two powers
  have hpow : 2 ^ n.log2 * 2 ^ (52 - n.log2) = 2 ^ 52 * 2 ^ (n.log2 - 52) := by
    rw [← Nat.pow_add, ← Nat.pow_add]
    congr 1
    omega
  have hlow : 2 ^ 52 * 2 ^ (n.log2 - 52) ≤ n * 2 ^ (52 - n.log2) := by
    rw [← hpow]
    exact Nat.mul_le_mul_right _ (Nat.log2_self_le hn)
  have hhigh : n * 2 ^ (52 - n.log2) ≤ 2 * 2 ^ 52 * 2 ^ (n.log2 - 52) := by
    rw [Nat.mul_assoc, ← hpow, ← Nat.mul_assoc, ← Nat.pow_succ']
    exact Nat.mul_le_mul_right _ (Nat.lt_log2_self).le
  constructor
  · rw [← divideNearest_mul (2 ^ 52) hden]
    exact divideNearest_mono _ hlow
  · rw [← divideNearest_mul (2 * 2 ^ 52) hden]
    exact divideNearest_mono _ hhigh

/-- A number of at most 53 bits is not rounded. -/
theorem wholeDigits_exact (h : n.log2 ≤ 52) : wholeDigits n = n * 2 ^ (52 - n.log2) := by
  have hshift : n.log2 - 52 = 0 := by omega
  rw [wholeDigits, hshift]
  simpa using divideNearest_mul (n * 2 ^ (52 - n.log2)) Nat.one_pos

theorem log2_mono (hm : m ≠ 0) (h : m ≤ n) : m.log2 ≤ n.log2 := by
  have hn : n ≠ 0 := by omega
  rw [Nat.le_log2 hn]
  exact (Nat.log2_self_le hm).trans h

def wholeCode (n : Nat) : Nat := (round .double false n 1).code.val

theorem round_code (negative : Bool) (n : Nat) : (round .double negative n 1).code.val = wholeCode n := by
  rcases Nat.eq_zero_or_pos n with rfl | hn
  · rfl
  · rw [wholeCode, code_round negative hn.ne', code_round false hn.ne']

theorem wholeCode_mono (h : m ≤ n) : wholeCode m ≤ wholeCode n := by
  rcases Nat.eq_zero_or_pos m with rfl | hm
  · exact Nat.zero_le _
  have hn : n ≠ 0 := by omega
  rw [wholeCode, wholeCode, code_round _ hm.ne', code_round _ hn]
  have hm' := wholeDigits_bounds hm.ne'
  have hn' := wholeDigits_bounds hn
  refine Nat.le_min.2 ⟨(Nat.min_le_left _ _).trans ?_, Nat.min_le_right _ _⟩
  rcases Nat.lt_or_eq_of_le (log2_mono hm.ne' h) with hlog | hlog
  · omega
  · -- one power of two, so that the digits decide
    have hdigits : wholeDigits m ≤ wholeDigits n := by
      rw [wholeDigits, wholeDigits, hlog]
      exact divideNearest_mono _ (Nat.mul_le_mul_right _ h)
    rw [hlog]
    omega

/-- A number of at most 53 bits has a code of its own. -/
theorem wholeCode_lt (h : m < n) (hm : m < 2 ^ 53) : wholeCode m < wholeCode n := by
  have hn : n ≠ 0 := by omega
  have hinfinity : Format.double.infinityCode = 2047 * 2 ^ 52 := by decide
  have hn' := wholeDigits_bounds hn
  rcases Nat.eq_zero_or_pos m with rfl | hpos
  · have hzero : wholeCode 0 = 0 := by decide
    rw [hzero, wholeCode, code_round _ hn]
    omega
  have hlog : m.log2 ≤ 52 := Nat.lt_succ_iff.1 ((Nat.log2_lt hpos.ne').2 hm)
  have hm' : wholeDigits m < 2 * 2 ^ 52 := by
    rw [wholeDigits_exact hlog]
    calc m * 2 ^ (52 - m.log2) < 2 ^ (m.log2 + 1) * 2 ^ (52 - m.log2) :=
          Nat.mul_lt_mul_of_pos_right Nat.lt_log2_self (Nat.two_pow_pos _)
      _ = 2 * 2 ^ 52 := by
          rw [← Nat.pow_add, ← Nat.pow_succ']
          congr 1
          omega
  have hcode : (m.log2 + 1022) * 2 ^ 52 + wholeDigits m < (n.log2 + 1022) * 2 ^ 52 + wholeDigits n := by
    rcases Nat.lt_or_eq_of_le (log2_mono hpos.ne' h.le) with hlt | heq
    · omega
    · have hdigits : wholeDigits m < wholeDigits n := by
        rw [wholeDigits_exact hlog, wholeDigits_exact (heq ▸ hlog), heq]
        exact Nat.mul_lt_mul_of_pos_right h (Nat.two_pow_pos _)
      rw [heq]
      omega
  rw [wholeCode, wholeCode, code_round _ hpos.ne', code_round _ hn]
  omega

/-! ### Positions of whole numbers -/

theorem negative_ofInt (z : Int) : (ofInt .double z).negative = decide (z < 0) := by
  unfold ofInt round
  split <;> rfl

theorem rank_ofInt (z : Int) :
    (ofInt .double z).rank = if z < 0 then -(wholeCode z.natAbs : Int) - 1 else wholeCode z.natAbs := by
  rw [rank, negative_ofInt, ofInt, round_code]
  simp only [decide_eq_true_eq]

theorem position_ofInt (z : Int) :
    (ofInt .double z).position = if z < 0 then -(wholeCode z.natAbs : Int) else wholeCode z.natAbs := by
  rw [position, negative_ofInt, ofInt, round_code]
  simp only [decide_eq_true_eq]

/-- Widening keeps the order of whole numbers. -/
theorem rank_ofInt_mono {y z : Int} (h : y ≤ z) : (ofInt .double y).rank ≤ (ofInt .double z).rank := by
  rw [rank_ofInt, rank_ofInt]
  split_ifs with hy hz hz
  · have := wholeCode_mono (show z.natAbs ≤ y.natAbs by omega)
    omega
  · omega
  · omega
  · have := wholeCode_mono (show y.natAbs ≤ z.natAbs by omega)
    omega

/-- Of two numbers one of which has at most 53 bits, the smaller one stays smaller. -/
theorem rank_ofInt_lt {y z : Int} (h : y < z) (hbits : y.natAbs < 2 ^ 53 ∨ z.natAbs < 2 ^ 53) :
    (ofInt .double y).rank < (ofInt .double z).rank := by
  rw [rank_ofInt, rank_ofInt]
  split_ifs with hy hz hz
  · have := wholeCode_lt (show z.natAbs < y.natAbs by omega) (by omega)
    omega
  · omega
  · omega
  · have := wholeCode_lt (show y.natAbs < z.natAbs by omega) (by omega)
    omega

/-- Distinct numbers one of which has at most 53 bits have distinct nearest data. -/
theorem ofInt_inj {y z : Int} (hbits : y.natAbs < 2 ^ 53 ∨ z.natAbs < 2 ^ 53)
    (h : ofInt .double y = ofInt .double z) : y = z := by
  by_contra hne
  rcases Int.lt_or_gt_of_ne hne with hlt | hgt
  · exact (rank_ofInt_lt hlt hbits).ne (congrArg rank h)
  · exact (rank_ofInt_lt hgt hbits.symm).ne (congrArg rank h.symm)

theorem rank_injective {f : Format} {x y : Binary f} (h : x.rank = y.rank) : x = y := by
  obtain ⟨sx, cx⟩ := x
  obtain ⟨sy, cy⟩ := y
  have hx : 0 ≤ (cx.val : Int) := Int.natCast_nonneg _
  have hy : 0 ≤ (cy.val : Int) := Int.natCast_nonneg _
  unfold rank at h
  cases sx <;> cases sy <;> simp only [Bool.false_eq_true, if_true, if_false] at h
  · simp [Fin.ext_iff]
    omega
  · omega
  · omega
  · simp [Fin.ext_iff]
    omega

theorem isNaN_ofInt (z : Int) : (ofInt .double z).isNaN = false := by
  have h : (ofInt .double z).code.val ≤ Format.double.infinityCode := by
    unfold ofInt round
    split
    · exact Nat.min_le_right _ _
    · exact Nat.min_le_right _ _
  simp only [isNaN, beq_eq_false_iff_ne, ne_eq]
  omega

/-- Whole numbers are widened to data that are numerically equal only if they are one datum. -/
theorem same_ofInt (y z : Int) : (ofInt .double y).same (ofInt .double z) = true ↔
    ofInt .double y = ofInt .double z := by
  constructor
  · intro h
    simp only [same, Bool.and_eq_true, beq_iff_eq] at h
    have hpos : ∀ x : Int, x < 0 → 0 < wholeCode x.natAbs := by
      intro x hx
      exact (Nat.zero_le _).trans_lt (wholeCode_lt (show 0 < x.natAbs by omega) (Nat.two_pow_pos _))
    rw [position_ofInt, position_ofInt] at h
    refine rank_injective ?_
    rw [rank_ofInt, rank_ofInt]
    have hy := hpos y
    have hz := hpos z
    split_ifs at h ⊢ <;> omega
  · intro h
    rw [h, same, isNaN_ofInt]
    simp

end Binary

end IndexQuery.Number
