import IndexQuery.Number.Arithmetic
import IndexQuery.Proofs.NearestDouble

set_option autoImplicit false

/-!
Powers of two as binary data.

A finite datum of value `2 ^ i` has the code that its exponent gives (`IsPower.eq_ofCode`), and what a quotient of two
powers of two is rounded to has that code, too (`round_powers`). So exponents add in a product (`IsPower.mul`), and a
power of two in one width is one in another that has it (`IsPower.convert`).
-/

namespace IndexQuery.Number

namespace Format

structure HasPower (f : Format) (i : Int) : Prop where
  precise : 0 < f.precision
  wide : 1 < f.exponentBits
  low : f.leastExponent ≤ i
  high : i < (2 ^ (f.exponentBits - 1) : Nat)

def lastPlace (f : Format) (i : Int) : Int := max f.leastExponent (i - (f.precision - 1 : Nat))

def powerCode (f : Format) (i : Int) : Nat :=
  (f.lastPlace i - f.leastExponent).toNat * f.hidden + 2 ^ (i - f.lastPlace i).toNat

variable {f : Format} {i : Int}

theorem lastPlace_bounds (h : f.leastExponent ≤ i) : f.leastExponent ≤ f.lastPlace i ∧ f.lastPlace i ≤ i := by
  unfold lastPlace
  omega

/-- The significand of a power of two is less than the least with the leading bit set, or just that. -/
theorem lastPlace_cases (f : Format) (i : Int) :
    f.lastPlace i = f.leastExponent ∧ (i - f.lastPlace i).toNat < f.precision - 1 ∨
      (i - f.lastPlace i).toNat = f.precision - 1 := by
  unfold lastPlace
  omega

theorem hidden_eq (f : Format) : f.hidden = 2 ^ (f.precision - 1) := rfl

theorem powerCode_lt (h : f.HasPower i) : f.powerCode i < f.infinityCode := by
  obtain ⟨hprecise, hwide, hlow, hhigh⟩ := h
  have hplace := lastPlace_bounds hlow
  have hdigits : 2 ^ (i - f.lastPlace i).toNat ≤ f.hidden := by
    rw [hidden_eq]
    refine Nat.pow_le_pow_right (by decide) ?_
    rcases lastPlace_cases f i with ⟨-, hlt⟩ | heq <;> omega
  have hpow : 2 ^ f.exponentBits = 2 * 2 ^ (f.exponentBits - 1) := by
    rw [← Nat.pow_succ']
    congr 1
    omega
  have htwo : 2 ≤ 2 ^ (f.exponentBits - 1) := Nat.le_self_pow (by omega) 2
  have hrow : (f.lastPlace i - f.leastExponent).toNat + 1 < 2 ^ f.exponentBits - 1 := by
    have hleast : f.leastExponent = 3 - (2 ^ (f.exponentBits - 1) : Nat) - f.precision := rfl
    unfold lastPlace
    omega
  calc f.powerCode i ≤ ((f.lastPlace i - f.leastExponent).toNat + 1) * f.hidden := by
        rw [powerCode, Nat.add_mul, Nat.one_mul]
        exact Nat.add_le_add_left hdigits _
    _ < f.infinityCode := Nat.mul_lt_mul_of_pos_right hrow (Nat.two_pow_pos _)

end Format

namespace Binary

variable {f g : Format} {i j : Int}

/-! ### Rounding -/

theorem binaryExponent_powers (a b : Nat) : binaryExponent (2 ^ a) (2 ^ b) = (a : Int) - b := by
  have hpow : 2 ^ a * 2 ^ (-((a : Int) - b)).toNat = 2 ^ b * 2 ^ ((a : Int) - b).toNat := by
    rw [← Nat.pow_add, ← Nat.pow_add]
    congr 1
    omega
  simp only [binaryExponent, Nat.log2_two_pow, Nat.pow_eq, hpow, Nat.lt_irrefl, if_false]

theorem divideNearest_powers {a b : Nat} (h : b ≤ a) : divideNearest (2 ^ a) (2 ^ b) = 2 ^ (a - b) := by
  have hsplit : 2 ^ a = 2 ^ (a - b) * 2 ^ b := by
    rw [← Nat.pow_add]
    congr 1
    omega
  rw [hsplit, divideNearest_mul _ (Nat.two_pow_pos b)]

theorem round_powers {a b : Nat} (negative : Bool) (h : (a : Int) - b = i) (hi : f.leastExponent ≤ i) :
    round f negative (2 ^ a) (2 ^ b) = ofCode f negative (f.powerCode i) := by
  have hplace := Format.lastPlace_bounds hi
  have hdigits : divideNearest (2 ^ a * 2 ^ (-f.lastPlace i).toNat) (2 ^ b * 2 ^ (f.lastPlace i).toNat) =
      2 ^ (i - f.lastPlace i).toNat := by
    rw [← Nat.pow_add, ← Nat.pow_add, divideNearest_powers (by omega)]
    congr 1
    omega
  rw [round, if_neg (Nat.two_pow_pos a).ne', binaryExponent_powers, h]
  change ofCode f negative ((f.lastPlace i - f.leastExponent).toNat * f.hidden +
    divideNearest (2 ^ a * 2 ^ (-f.lastPlace i).toNat) (2 ^ b * 2 ^ (f.lastPlace i).toNat)) = _
  rw [hdigits]
  rfl

theorem ofDyadic_power {s : Nat} {place : Int} (negative : Bool) (h : s + place = i) (hi : f.leastExponent ≤ i) :
    ofDyadic f negative (2 ^ s) place = ofCode f negative (f.powerCode i) := by
  rw [ofDyadic, Nat.pow_eq, Nat.pow_eq, ← Nat.pow_add]
  exact round_powers negative (by omega) hi

/-! ### Powers of two -/

/-- A finite datum of value `2 ^ i`. -/
structure IsPower (x : Binary f) (i : Int) : Prop where
  positive : x.negative = false
  finite : x.code.val < f.infinityCode
  value : ∃ s : Nat, x.significand = 2 ^ s ∧ s + x.exponent = i

theorem isPower_ofCode (h : f.HasPower i) : (ofCode f false (f.powerCode i)).IsPower i := by
  have hplace := Format.lastPlace_bounds h.low
  have hpos : 0 < f.hidden := Nat.two_pow_pos _
  have hcode : (ofCode f false (f.powerCode i)).code.val = f.powerCode i := Nat.min_eq_left (Format.powerCode_lt h).le
  refine ⟨rfl, hcode.trans_lt (Format.powerCode_lt h), (i - f.lastPlace i).toNat, ?_⟩
  rw [significand, exponent, hcode, Format.powerCode]
  rcases f.lastPlace_cases i with ⟨hleast, hlt⟩ | heq
  · have hdigits : 2 ^ (i - f.lastPlace i).toNat < f.hidden := Nat.pow_lt_pow_right (by decide) hlt
    rw [hleast] at hdigits ⊢
    simp only [Int.sub_self, Int.toNat_zero, Nat.zero_mul, Nat.zero_add, if_pos hdigits, Nat.div_eq_of_lt hdigits]
    exact ⟨trivial, by omega⟩
  · rw [heq, ← f.hidden_eq]
    have hrow : (f.lastPlace i - f.leastExponent).toNat * f.hidden + f.hidden =
        ((f.lastPlace i - f.leastExponent).toNat + 1) * f.hidden := (Nat.succ_mul _ _).symm
    have hge : ¬ ((f.lastPlace i - f.leastExponent).toNat + 1) * f.hidden < f.hidden :=
      Nat.not_lt.2 (Nat.le_mul_of_pos_left _ (Nat.succ_pos _))
    rw [hrow, if_neg hge, Nat.mul_mod_left, Nat.mul_div_cancel _ hpos]
    exact ⟨rfl, by omega⟩

namespace IsPower

variable {x y z : Binary f}

theorem least (h : x.IsPower i) : f.leastExponent ≤ i := by
  obtain ⟨s, -, hs⟩ := h.value
  rw [exponent] at hs
  omega

/-- Between one power of two and the next there is no other. -/
theorem code_eq (h : x.IsPower i) : x.code.val = f.powerCode i := by
  have hpos : 0 < f.hidden := Nat.two_pow_pos _
  have htwo : 1 < 2 := by decide
  obtain ⟨s, hs, hi⟩ := h.value
  rw [significand] at hs
  rw [exponent] at hi
  split at hs
  · rename_i hlt
    have hexp : s < f.precision - 1 := (Nat.pow_lt_pow_iff_right htwo).1 (hs ▸ hlt)
    rw [Nat.div_eq_of_lt hlt] at hi
    have hplace : f.lastPlace i = f.leastExponent := by
      unfold Format.lastPlace
      omega
    have hdigits : (i - f.leastExponent).toNat = s := by omega
    rw [Format.powerCode, hplace, hdigits, hs, Int.sub_self, Int.toNat_zero, Nat.zero_mul, Nat.zero_add]
  · rename_i hge
    have hmod := Nat.mod_lt x.code.val hpos
    have hlow : f.precision - 1 ≤ s := by
      rw [← Nat.pow_le_pow_iff_right htwo, ← hs, f.hidden_eq]
      omega
    have hhigh : s < f.precision - 1 + 1 := by
      rw [← Nat.pow_lt_pow_iff_right htwo, ← hs, Nat.pow_succ, ← f.hidden_eq]
      omega
    obtain rfl : s = f.precision - 1 := by omega
    rw [← f.hidden_eq] at hs
    have hrow : 1 ≤ x.code.val / f.hidden := (Nat.one_le_div_iff hpos).2 (Nat.not_lt.1 hge)
    have hplace : f.lastPlace i = f.leastExponent + (x.code.val / f.hidden - 1 : Nat) := by
      unfold Format.lastPlace
      omega
    have hdigits : (i - f.lastPlace i).toNat = f.precision - 1 := by omega
    have hrows : (f.lastPlace i - f.leastExponent).toNat + 1 = x.code.val / f.hidden := by omega
    have hsplit := Nat.div_add_mod x.code.val f.hidden
    rw [Format.powerCode, hdigits, ← f.hidden_eq, ← Nat.add_one_mul, hrows, Nat.mul_comm]
    omega

theorem eq_ofCode (h : x.IsPower i) : x = ofCode f false (f.powerCode i) := by
  have hcode := h.code_eq
  have hfinite := h.finite
  obtain ⟨negative, code⟩ := x
  obtain rfl : negative = false := h.positive
  rw [ofCode, ← hcode]
  congr
  exact Fin.ext (Nat.min_eq_left hfinite.le).symm

theorem notNaN (h : x.IsPower i) : x.isNaN = false := by
  have := h.finite
  simp only [isNaN, beq_eq_false_iff_ne]
  omega

theorem notInfinite (h : x.IsPower i) : x.isInfinite = false := by
  have := h.finite
  simp only [isInfinite, beq_eq_false_iff_ne]
  omega

theorem mul (hx : x.IsPower i) (hy : y.IsPower j) (hz : z.IsPower (i + j)) : x.mul y = z := by
  obtain ⟨s, hs, hi⟩ := hx.value
  obtain ⟨t, ht, hj⟩ := hy.value
  rw [Binary.mul, hx.notNaN, hy.notNaN, hx.notInfinite, hy.notInfinite, hx.positive, hy.positive, hs, ht,
    ← Nat.pow_add, hz.eq_ofCode]
  exact ofDyadic_power false (by omega) hz.least

theorem convert (hx : x.IsPower i) (h : g.HasPower i) : (x.convert g).IsPower i := by
  obtain ⟨s, hs, hi⟩ := hx.value
  have heq : x.convert g = ofCode g false (g.powerCode i) := by
    rw [Binary.convert, hx.notNaN, hx.notInfinite, hx.positive, hs]
    exact ofDyadic_power false hi h.low
  rw [heq]
  exact isPower_ofCode h

end IsPower

end Binary

end IndexQuery.Number
