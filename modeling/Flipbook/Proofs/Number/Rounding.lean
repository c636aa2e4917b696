import Flipbook.Number.Single
import Flipbook.Proofs.Raster.Coverage
import Mathlib.Data.Rat.Floor

/-! Finite numbers as rationals, and that the words they are rounded to are the nearest whole numbers,
moved into the range of the words. -/
namespace Flipbook.Single

/-- The value of a finite number. -/
def toRat? : Single → Option ℚ
  | finite negative rank =>
    some (if negative then -((units rank : ℚ) / one) else (units rank : ℚ) / one)
  | _ => none

/-- The whole number nearest to a value, a half going away from zero. -/
def roundAway (value : ℚ) : ℤ :=
  if value < 0 then -⌊-value + 1 / 2⌋ else ⌊value + 1 / 2⌋

private theorem half_one : ((one / 2 : ℕ) : ℚ) / (one : ℕ) = 1 / 2 := by
  have even : one / 2 * 2 = 1 * one := by decide
  have positive : (one : ℚ) ≠ 0 := by
    have one_ne : one ≠ 0 := by decide
    exact_mod_cast one_ne
  rw [div_eq_div_iff positive two_ne_zero]
  exact_mod_cast even

theorem floor_units (rank : Nat) :
    ⌊(units rank : ℚ) / one + 1 / 2⌋ = (nearestWhole rank : ℤ) := by
  rw [← half_one, ← add_div, ← Nat.cast_add, Rat.floor_natCast_div_natCast]
  rfl

/-- Rounding counts whole units; on finite numbers it is rounding of their value. -/
theorem signed_nearestWhole {negative : Bool} {rank : Fin rankCount} {value : ℚ}
    (finite : (finite negative rank).toRat? = some value) :
    signed negative (nearestWhole rank) = roundAway value := by
  obtain rfl := Option.some.inj finite
  have nonneg : (0 : ℚ) ≤ (units rank : ℚ) / one := by positivity
  cases negative with
  | false =>
    simp only [signed, roundAway, Bool.false_eq_true, if_false, if_neg (not_lt.mpr nonneg)]
    exact (floor_units rank).symm
  | true =>
    simp only [signed, roundAway, if_true]
    split
    next below => rw [neg_neg, floor_units]
    next above =>
      have none : (units rank : ℚ) / one = 0 := by linarith
      have floor := floor_units rank
      rw [none] at floor ⊢
      norm_num at floor ⊢
      omega

theorem toInt_toInt64 {number : Single} {value : ℚ} (finite : number.toRat? = some value) :
    number.toInt64.toInt = max (-2 ^ 63) (min (roundAway value) (2 ^ 63 - 1)) := by
  cases number with
  | nan => contradiction
  | infinite negative => contradiction
  | finite negative rank =>
    rw [toInt64, Stretch.toInt_ofIntClamp, signed_nearestWhole finite]

theorem toNat_toUInt32 {number : Single} {value : ℚ} (finite : number.toRat? = some value) :
    (number.toUInt32.toNat : ℤ) = min (max (roundAway value) 0) (2 ^ 32 - 1) := by
  cases number with
  | nan => contradiction
  | infinite negative => contradiction
  | finite negative rank =>
    rw [← signed_nearestWhole finite]
    cases negative with
    | true =>
      change (0 : ℤ) = _
      simp only [signed, if_true]
      omega
    | false =>
      have size_eq : UInt32.size = 2 ^ 32 := rfl
      have small : min (nearestWhole rank) (UInt32.size - 1) < UInt32.size := by omega
      simp only [signed, toUInt32, Bool.false_eq_true, if_false,
        UInt32.toNat_ofNat_of_lt' small]
      omega

end Flipbook.Single
