import PhotoPublish.Number.Binary64

/-!
# Whole numbers as doubles

Whole numbers of at most 53 bits are doubles, so that nothing is lost when one is made of them or when zero is
added: `Binary64.ofInt_eq` and `Binary64.ofInt_add_zero`. Rounding a ratio depends on its value alone, so that a
whole number may be given as a number of parts (`Binary64.ofRatio_mul_left`).
-/

set_option autoImplicit false

namespace PhotoPublish

theorem roundDiv_mul {den : Nat} (hden : 0 < den) (n : Nat) : roundDiv (n * den) den = n := by
  unfold roundDiv
  rw [Nat.mul_div_cancel n hden, Nat.mul_mod_left]
  exact if_pos (by omega)

theorem roundDiv_mul_left {k : Nat} (hk : 0 < k) (num den : Nat) :
    roundDiv (k * num) (k * den) = roundDiv num den := by
  have hless : 2 * (k * (num % den)) < k * den ↔ 2 * (num % den) < den := by
    rw [Nat.mul_left_comm, Nat.mul_lt_mul_left hk]
  have hmore : k * den < 2 * (k * (num % den)) ↔ den < 2 * (num % den) := by
    rw [Nat.mul_left_comm 2 k, Nat.mul_lt_mul_left hk]
  unfold roundDiv
  simp only [Nat.mul_div_mul_left num den hk, Nat.mul_mod_mul_left, hless, hmore]

namespace Binary64

/-- A magnitude without excess bits is not rounded. -/
theorem roundMagnitude_of_dvd {magnitude : Nat} (h : Nat.pow 2 (excess magnitude) ∣ magnitude) :
    roundMagnitude magnitude 1 = magnitude := by
  have hden : 0 < Nat.pow 2 (excess magnitude) := Nat.two_pow_pos _
  unfold roundMagnitude
  dsimp only
  rw [Nat.div_one, Nat.one_mul]
  obtain ⟨n, hn⟩ := h
  calc roundDiv magnitude (Nat.pow 2 (excess magnitude)) * Nat.pow 2 (excess magnitude)
      = roundDiv (n * Nat.pow 2 (excess magnitude)) (Nat.pow 2 (excess magnitude)) *
          Nat.pow 2 (excess magnitude) := by rw [← Nat.mul_comm _ n, ← hn]
    _ = n * Nat.pow 2 (excess magnitude) := by rw [roundDiv_mul hden]
    _ = magnitude := by rw [Nat.mul_comm, ← hn]

/-- 53 bits, shifted. -/
theorem mul_pow_lt {n shift bits : Nat} (h : n < Nat.pow 2 53) (hbits : 53 + shift ≤ bits) :
    n * Nat.pow 2 shift < Nat.pow 2 bits :=
  calc n * Nat.pow 2 shift
      < Nat.pow 2 53 * Nat.pow 2 shift := Nat.mul_lt_mul_of_pos_right h (Nat.two_pow_pos shift)
    _ = Nat.pow 2 (53 + shift) := (Nat.pow_add 2 53 shift).symm
    _ ≤ Nat.pow 2 bits := Nat.pow_le_pow_right (by decide) hbits

theorem roundMagnitude_mul_pow {n shift : Nat} (h : n < Nat.pow 2 53) :
    roundMagnitude (n * Nat.pow 2 shift) 1 = n * Nat.pow 2 shift := by
  have hexcess : excess (n * Nat.pow 2 shift) ≤ shift := by
    unfold excess
    by_cases hzero : n * Nat.pow 2 shift = 0
    · rw [hzero]
      exact Nat.zero_le _
    · have hlog := (Nat.log2_lt hzero).2 (mul_pow_lt h (Nat.le_refl (53 + shift)))
      omega
  refine roundMagnitude_of_dvd (Nat.dvd_trans ?_ (Nat.dvd_mul_left (Nat.pow 2 shift) n))
  exact Nat.pow_dvd_pow 2 hexcess

theorem bits_pos (bits : Nat) : 0 < Nat.pow 2 bits :=
  Nat.two_pow_pos bits

theorem one_pos : 0 < one := by
  -- The exponent is kept out of sight, so that nobody evaluates the power.
  unfold one
  generalize 1074 = bits
  exact bits_pos bits

theorem limit_pos : 0 < limit := by
  unfold limit
  generalize 2098 = bits
  exact bits_pos bits

theorem ofUnitRatio_eq {n : Int} (h : n.natAbs < Nat.pow 2 53) :
    ofUnitRatio (n * one) 1 = finite (n * one) := by
  have hone := one_pos
  have habs : (n * one).natAbs = n.natAbs * one := by
    rw [Int.natAbs_mul, Int.natAbs_natCast]
  have hmagnitude : roundMagnitude (n.natAbs * one) 1 = n.natAbs * one := by
    unfold one
    generalize 1074 = bits
    exact roundMagnitude_mul_pow h
  have hlimit : n.natAbs * one < limit := by
    have hbits : 53 + 1074 ≤ 2098 := by decide
    unfold one limit
    generalize 1074 = shift at *
    generalize 2098 = bits at *
    exact mul_pow_lt h hbits
  unfold ofUnitRatio
  dsimp only
  rw [habs, hmagnitude, if_neg (Nat.not_le.2 hlimit), ← habs]
  by_cases hnegative : n < 0
  · have hproduct : n * one < 0 := Int.mul_neg_of_neg_of_pos hnegative (by omega)
    rw [if_pos hproduct, if_neg (by omega)]
    congr 1
    omega
  · have hproduct : 0 ≤ n * one := Int.mul_nonneg (by omega) (by omega)
    rw [if_neg (by omega)]
    congr 1
    omega

/-- **A whole number of at most 53 bits is a double.** -/
theorem ofInt_eq {n : Int} (h : n.natAbs < Nat.pow 2 53) : ofInt n = finite (n * one) := by
  unfold ofInt ofRatio
  exact ofUnitRatio_eq h

theorem roundMagnitude_mul_left {k : Nat} (hk : 0 < k) (magnitude : Nat) :
    roundMagnitude (k * magnitude) k = roundMagnitude magnitude 1 := by
  unfold roundMagnitude
  dsimp only
  rw [Nat.mul_div_cancel_left magnitude hk, Nat.div_one, roundDiv_mul_left hk, Nat.one_mul]

/-- A whole number of parts makes the same double as the whole number. -/
theorem ofRatio_mul_left {k : Nat} (hk : 0 < k) (n : Int) : ofRatio (k * n) k = ofInt n := by
  have habs : (k * n * one).natAbs = k * (n * one).natAbs := by
    rw [Int.mul_assoc, Int.natAbs_mul, Int.natAbs_natCast]
  have hsign : k * n * one < 0 ↔ n * one < 0 := by
    rw [Int.mul_assoc]
    generalize n * (one : Int) = units
    constructor
    · intro h
      refine Int.not_le.1 fun hunits => ?_
      have hproduct := Int.mul_nonneg (Int.natCast_nonneg k) hunits
      omega
    · intro h
      exact Int.mul_neg_of_pos_of_neg (by omega) h
  unfold ofInt ofRatio ofUnitRatio
  simp only [habs, roundMagnitude_mul_left hk, hsign]

theorem ofRatio_zero (den : Nat) : ofRatio 0 den = finite 0 := by
  have hzero : roundMagnitude 0 den = 0 := by
    unfold roundMagnitude roundDiv
    simp
  unfold ofRatio ofUnitRatio
  dsimp only
  rw [Int.zero_mul, Int.natAbs_zero, hzero, if_neg (Nat.not_le.2 limit_pos)]
  rfl

/-- Adding zero loses nothing. -/
theorem ofInt_add_zero {n : Int} (h : n.natAbs < Nat.pow 2 53) (den : Nat) :
    (ofInt n).add (ofRatio 0 den) = ofInt n := by
  rw [ofInt_eq h, ofRatio_zero den]
  unfold add
  dsimp only
  rw [Int.add_zero]
  exact ofUnitRatio_eq h

theorem floor?_ofInt {n : Int} (h : n.natAbs < Nat.pow 2 53) : (ofInt n).floor? = some n := by
  have hone := one_pos
  rw [ofInt_eq h]
  exact congrArg some (Int.mul_ediv_cancel n (by omega))

end Binary64

end PhotoPublish
