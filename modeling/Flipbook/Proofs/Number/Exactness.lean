import Flipbook.Proofs.Number.Rounding

/-! Whole numbers of at most 24 significant bits are numbers themselves, so nothing is lost when
they are converted and converted back. -/
namespace Flipbook.Single

theorem roundQuotient_mul {den : Nat} (positive : 0 < den) (whole : Nat) :
    roundQuotient (den * whole) den = whole := by
  unfold roundQuotient
  rw [Nat.mul_mod_right, Nat.mul_div_cancel_left _ positive]
  simp [positive]

/-- A rank counts the binades below it and then its place among 2²³ neighbours. -/
theorem units_of_significand {places magnitude : Nat} (low : binade ≤ magnitude)
    (high : magnitude < 2 * binade) :
    units (places * binade + magnitude) = magnitude <<< places := by
  have binade_pos : 0 < binade := by decide
  have quotient : (places * binade + magnitude) / binade = places + 1 := by
    rw [Nat.div_eq_iff binade_pos, Nat.succ_mul]
    omega
  have rest : (places * binade + magnitude) % binade = magnitude - binade := by
    have whole := Nat.div_add_mod' (places * binade + magnitude) binade
    rw [quotient, Nat.succ_mul] at whole
    omega
  have above : ¬places * binade + magnitude < binade := by omega
  rw [units, exponent, quotient, Nat.add_sub_cancel, significand, if_neg above, rest,
    Nat.add_sub_cancel' low]

section
variable {number : Nat} (positive : 0 < number)
include positive

/-- Moved up by the places of a significand, a number of few bits is a significand moved up by the
places of its own leading bit. -/
theorem exists_significand (few : 2 ^ (number.log2 - 23) ∣ number) :
    ∃ magnitude, binade ≤ magnitude ∧ magnitude < 2 * binade ∧
      number * binade = 2 ^ number.log2 * magnitude := by
  have low : 2 ^ number.log2 ≤ number := Nat.log2_self_le (Nat.ne_of_gt positive)
  have high : number < 2 ^ (number.log2 + 1) := Nat.lt_log2_self
  have whole : 2 ^ number.log2 ∣ number * binade :=
    calc 2 ^ number.log2 ∣ 2 ^ (number.log2 - 23 + 23) := Nat.pow_dvd_pow 2 (by omega)
      _ = 2 ^ (number.log2 - 23) * binade := Nat.pow_add ..
      _ ∣ number * binade := Nat.mul_dvd_mul_right few binade
  obtain ⟨magnitude, scaled⟩ := whole
  refine ⟨magnitude, ?_, ?_, scaled⟩
  · apply Nat.le_of_mul_le_mul_left _ (Nat.two_pow_pos number.log2)
    rw [← scaled]
    exact Nat.mul_le_mul_right binade low
  · apply Nat.lt_of_mul_lt_mul_left
    calc 2 ^ number.log2 * magnitude = number * binade := scaled.symm
      _ < 2 ^ (number.log2 + 1) * binade := Nat.mul_lt_mul_of_pos_right high (by decide)
      _ = 2 ^ number.log2 * (2 * binade) := by ring

/-- Nothing is rounded: the number is shifted up, or down over bits that are not set. -/
theorem nearestRank_eq {magnitude : Nat}
    (scaled : number * binade = 2 ^ number.log2 * magnitude) :
    nearestRank number 1 onePlace = (number.log2 + 126) * binade + magnitude := by
  have nonzero : number ≠ 0 := Nat.ne_of_gt positive
  have spacing_eq : number.log2 + 149 - 23 = number.log2 + 126 := by omega
  simp only [nearestRank, if_neg nonzero, Nat.div_one, onePlace, spacing_eq]
  generalize number.log2 = place at scaled ⊢
  congr 1
  -- Which way it is shifted depends on where its leading bit stands; both ways divide evenly.
  by_cases wide : 23 ≤ place
  · obtain ⟨shift, rfl⟩ := Nat.exists_eq_add_of_le wide
    have places_eq : 23 + shift + 126 - 149 = shift := by omega
    have unshifted : number = 2 ^ shift * magnitude := by
      apply Nat.eq_of_mul_eq_mul_right (m := binade) (by decide)
      rw [scaled, Nat.pow_add]
      simp only [binade]
      ring
    rw [places_eq, if_pos (by omega), Nat.one_shiftLeft, unshifted,
      roundQuotient_mul (Nat.two_pow_pos shift)]
  · obtain ⟨shift, shift_eq⟩ : ∃ shift, 23 = place + shift := ⟨23 - place, by omega⟩
    have places_eq : 149 - (place + 126) = shift := by omega
    have shifted : number <<< shift = magnitude := by
      apply Nat.eq_of_mul_eq_mul_left (Nat.two_pow_pos place)
      rw [← scaled, Nat.shiftLeft_eq, Nat.mul_left_comm, ← Nat.pow_add, ← shift_eq]
      rfl
    have rounded : roundQuotient magnitude 1 = magnitude := by
      simpa only [Nat.one_mul] using roundQuotient_mul Nat.one_pos magnitude
    rw [places_eq, if_neg (by omega), shifted, rounded]

variable (few : 2 ^ (number.log2 - 23) ∣ number)
include few

theorem units_nearestRank : units (nearestRank number 1 onePlace) = number <<< onePlace := by
  obtain ⟨magnitude, low, high, scaled⟩ := exists_significand positive few
  rw [nearestRank_eq positive scaled, units_of_significand low high, Nat.shiftLeft_eq,
    Nat.shiftLeft_eq]
  calc magnitude * 2 ^ (number.log2 + 126) = 2 ^ number.log2 * magnitude * 2 ^ 126 := by ring
    _ = number * binade * 2 ^ 126 := by rw [scaled]
    _ = number * 2 ^ onePlace := Nat.mul_assoc ..

theorem nearestRank_lt (small : number < 2 ^ 128) :
    nearestRank number 1 onePlace < rankCount := by
  obtain ⟨magnitude, -, high, scaled⟩ := exists_significand positive few
  have place_lt : number.log2 < 128 := (Nat.log2_lt (Nat.ne_of_gt positive)).mpr small
  rw [nearestRank_eq positive scaled, rankCount]
  unfold binade at high ⊢
  omega

end

/-- A whole number of at most 24 significant bits that is not beyond the last rank is kept as it
is. -/
theorem toRat?_ofNat {number : Nat} (few : 2 ^ (number.log2 - 23) ∣ number)
    (small : number < 2 ^ 128) : (ofNat number).toRat? = some (number : ℚ) := by
  have one_ne : (one : ℚ) ≠ 0 := by
    have nonzero : one ≠ 0 := by decide
    exact_mod_cast nonzero
  rcases Nat.eq_zero_or_pos number with rfl | positive
  · have none : ofNat 0 = zero false := by decide
    simp [none, zero, toRat?, units, significand, binade]
  · have finite := nearestRank_lt positive few small
    rw [ofNat, nearest, dif_pos finite, toRat?, units_nearestRank positive few]
    have units_eq : number <<< onePlace = number * one := by
      rw [Nat.shiftLeft_eq, one, Nat.one_shiftLeft]
    rw [units_eq, Nat.cast_mul, mul_div_cancel_right₀ _ one_ne]
    rfl

theorem roundAway_natCast (number : Nat) : roundAway (number : ℚ) = number := by
  have nonneg : ¬(number : ℚ) < 0 := not_lt.mpr (Nat.cast_nonneg number)
  have half : ⌊(1 / 2 : ℚ)⌋ = 0 := by norm_num
  rw [roundAway, if_neg nonneg, Int.floor_natCast_add, half, Int.add_zero]

/-- Every number up to 2²⁴ has few enough bits. -/
theorem pow_dvd_of_le {number : Nat} (bounded : number ≤ 2 ^ 24) :
    2 ^ (number.log2 - 23) ∣ number := by
  rcases Nat.lt_or_eq_of_le bounded with below | rfl
  · have unset : number.log2 - 23 = 0 := by
      rcases Nat.eq_zero_or_pos number with rfl | positive
      · rfl
      · have place_lt := (Nat.log2_lt (Nat.ne_of_gt positive)).mpr below
        omega
    rw [unset]
    exact Nat.one_dvd number
  · decide

/-- A size of at most 2²⁴ comes back from the number that it is converted to. -/
theorem toUInt32_ofNat {word : UInt32} (bounded : word.toNat ≤ 2 ^ 24) :
    (ofNat word.toNat).toUInt32 = word := by
  have small : word.toNat < 2 ^ 128 := by omega
  have kept := toNat_toUInt32 (toRat?_ofNat (pow_dvd_of_le bounded) small)
  rw [roundAway_natCast] at kept
  rw [← UInt32.toNat_inj]
  omega

end Flipbook.Single
