import Flipbook.Raster.Stretch
import Mathlib.Algebra.Group.Int.Defs
import Mathlib.Algebra.Group.Nat.Defs
import Mathlib.Data.List.Nodup
import Mathlib.Data.List.Range

/-! What a stretch covers, in unbounded arithmetic, and that its words compute exactly that. -/
namespace Flipbook.Stretch

/-- A place lies on the stretched picture. A picture without pixels covers nothing. -/
def Covers (stretch : Stretch) (place : Int) : Prop :=
  0 < stretch.source.toNat ∧ stretch.origin.toInt ≤ place ∧
    place < stretch.origin.toInt + stretch.length.toNat

instance (stretch : Stretch) (place : Int) : Decidable (stretch.Covers place) :=
  inferInstanceAs (Decidable (_ ∧ _ ∧ _))

def offset (stretch : Stretch) (place : Int) : Nat := (place - stretch.origin.toInt).toNat

/-- The source pixel nearest before a covered place. -/
def sampled (stretch : Stretch) (place : Int) : Nat :=
  stretch.offset place * stretch.source.toNat / stretch.length.toNat

/-! ## The ends of the loop -/

theorem toInt_ofWord (word : UInt32) : (ofWord word).toInt = word.toNat := by
  have bound := word.toNat_lt
  exact Int64.toInt_ofNat_of_lt (by omega)

theorem toInt_max (a b : Int64) : (max a b).toInt = max a.toInt b.toInt := by
  change (if a ≤ b then b else a).toInt = _
  rw [apply_ite Int64.toInt]
  simp only [Int64.le_iff_toInt_le]
  split <;> omega

theorem toInt_min (a b : Int64) : (min a b).toInt = min a.toInt b.toInt := by
  change (if a ≤ b then a else b).toInt = _
  rw [apply_ite Int64.toInt]
  simp only [Int64.le_iff_toInt_le]
  split <;> omega

theorem toInt_ofIntClamp (value : Int) :
    (Int64.ofIntClamp value).toInt = max (-2 ^ 63) (min value (2 ^ 63 - 1)) := by
  unfold Int64.ofIntClamp
  simp only [Int64.toInt_minValue, Int64.toInt_maxValue]
  split
  · split
    · rw [Int64.toInt_ofIntLE]
      omega
    · rw [Int64.toInt_maxValue]
      omega
  · rw [Int64.toInt_minValue]
    omega

theorem toInt_first (stretch : Stretch) : stretch.first.toInt = max stretch.origin.toInt 0 := by
  rw [first, toInt_max, Int64.toInt_zero]

theorem toInt_stop (stretch : Stretch) (limit : UInt32) :
    (stretch.stop limit).toInt =
      min (stretch.origin.toInt + stretch.length.toNat) limit.toNat := by
  have bound := limit.toNat_lt
  have low := stretch.origin.le_toInt
  rw [stop, toInt_min, toInt_ofIntClamp, toInt_ofWord]
  -- An end that was moved back into the range of words is still beyond the limit.
  omega

theorem toInt_sub_of_le (a b : Int64) (ordered : b.toInt ≤ a.toInt)
    (near : a.toInt - b.toInt < 2 ^ 63) : (a - b).toInt = a.toInt - b.toInt := by
  rw [Int64.toInt_sub]
  apply Int.bmod_eq_of_le <;> omega

theorem toInt_add_ofNat (start : Int64) (steps : Nat) (inside : start.toInt + steps < 2 ^ 63)
    (small : steps < 2 ^ 63) : (start + Int64.ofNat steps).toInt = start.toInt + steps := by
  have low := start.le_toInt
  rw [Int64.toInt_add, Int64.toInt_ofNat_of_lt small]
  apply Int.bmod_eq_of_le <;> omega

/-! ## The places that are visited -/

/-- The number of covered places on a surface of `limit` pixels. -/
def extent (stretch : Stretch) (limit : UInt32) : Nat :=
  if stretch.source = 0 then 0
  else (min (stretch.origin.toInt + stretch.length.toNat) limit.toNat -
    max stretch.origin.toInt 0).toNat

theorem extent_le (stretch : Stretch) (limit : UInt32) : stretch.extent limit ≤ limit.toNat := by
  unfold extent
  split <;> omega

theorem toInt_places (stretch : Stretch) (limit : UInt32) :
    (stretch.places limit).map Int64.toInt =
      (List.range (stretch.extent limit)).map fun steps : Nat =>
        max stretch.origin.toInt 0 + steps := by
  unfold places
  split
  next empty =>
    have none_covered : stretch.extent limit = 0 := by
      unfold extent
      rcases empty with source | length
      · rw [if_pos source]
      · rw [length, UInt32.toNat_zero]
        split <;> omega
    rw [none_covered]
    rfl
  next proper =>
    have extent_eq : ((stretch.stop limit).toInt - stretch.first.toInt).toNat =
        stretch.extent limit := by
      rw [toInt_stop, toInt_first, extent, if_neg (fun source => proper (Or.inl source))]
    rw [extent_eq, List.map_map]
    apply List.map_congr_left
    intro steps counted
    have inside := List.mem_range.mp counted
    have bound := stretch.extent_le limit
    have small := limit.toNat_lt
    -- Each step stays below the end and so below the limit, where no sum wraps.
    have high : stretch.first.toInt + steps < 2 ^ 63 := by
      rw [← extent_eq, toInt_stop] at inside
      omega
    change (stretch.first + Int64.ofNat steps).toInt = _
    rw [toInt_add_ofNat _ _ high (by omega), toInt_first]

theorem length_places (stretch : Stretch) (limit : UInt32) :
    (stretch.places limit).length = stretch.extent limit := by
  have same := congrArg List.length (stretch.toInt_places limit)
  simpa using same

theorem nodup_places (stretch : Stretch) (limit : UInt32) : (stretch.places limit).Nodup := by
  apply List.Nodup.of_map Int64.toInt
  rw [toInt_places]
  apply List.nodup_range.map
  intro a b same
  have := Int.add_left_cancel same
  omega

/-- The loop visits a place iff the picture covers it and it is on the surface. -/
theorem mem_places (stretch : Stretch) (limit : UInt32) (place : Int64) :
    place ∈ stretch.places limit ↔
      stretch.Covers place.toInt ∧ 0 ≤ place.toInt ∧ place.toInt < limit.toNat := by
  have listed : place ∈ stretch.places limit ↔
      place.toInt ∈ (stretch.places limit).map Int64.toInt := by
    simp [Int64.toInt_inj]
  -- Words and integers correspond one to one, so membership can be told on the integers.
  rw [listed, toInt_places, Covers]
  simp only [List.mem_map, List.mem_range, extent]
  have source : stretch.source = 0 ↔ ¬0 < stretch.source.toNat := by
    rw [← UInt32.toNat_inj, UInt32.toNat_zero]
    omega
  split
  next empty => simp [source.mp empty]
  next proper =>
    have positive : 0 < stretch.source.toNat := by
      by_contra absent
      exact proper (source.mpr absent)
    constructor
    · rintro ⟨steps, inside, equal⟩
      omega
    · rintro ⟨⟨_, low, high⟩, nonneg, below⟩
      exact ⟨(place.toInt - max stretch.origin.toInt 0).toNat, by omega, by omega⟩

/-! ## The words of a visited place -/

theorem toNat_toUInt64 (value : Int64) (nonneg : 0 ≤ value.toInt) :
    value.toUInt64.toNat = value.toInt.toNat := by
  have ordered : (0 : Int64) ≤ value := by
    rwa [Int64.le_iff_toInt_le, Int64.toInt_zero]
  rw [← Int64.toNat_toBitVec, Int64.toNat_toBitVec_of_le ordered]
  rfl

theorem offset_lt (stretch : Stretch) {place : Int} (covered : stretch.Covers place) :
    stretch.offset place < stretch.length.toNat := by
  obtain ⟨_, low, high⟩ := covered
  unfold offset
  omega

theorem sampled_lt (stretch : Stretch) {place : Int} (covered : stretch.Covers place) :
    stretch.sampled place < stretch.source.toNat :=
  Nat.div_lt_of_lt_mul (Nat.mul_lt_mul_of_pos_right (stretch.offset_lt covered) covered.1)

theorem mul_source_lt (stretch : Stretch) {offset : Nat} (inside : offset < stretch.length.toNat) :
    offset * stretch.source.toNat < UInt64.size := by
  have below : offset < 2 ^ 32 := inside.trans stretch.length.toNat_lt
  calc offset * stretch.source.toNat
      ≤ 2 ^ 32 * stretch.source.toNat := Nat.mul_le_mul_right _ below.le
    _ < 2 ^ 32 * 2 ^ 32 := Nat.mul_lt_mul_of_pos_left stretch.source.toNat_lt (by decide)
    _ = UInt64.size := by decide

/-- The words of a place compute the quotient from its distance to the origin. -/
theorem toNat_sample_of_offset (stretch : Stretch) {place : Int64} {offset : Nat}
    (distance : (place - stretch.origin).toUInt64.toNat = offset)
    (inside : offset < stretch.length.toNat) :
    (stretch.sample place).toNat = offset * stretch.source.toNat / stretch.length.toNat := by
  have small : offset * stretch.source.toNat / stretch.length.toNat < 2 ^ 32 :=
    Nat.lt_of_le_of_lt (Nat.div_le_of_le_mul (Nat.mul_le_mul_right _ inside.le))
      stretch.source.toNat_lt
  simp only [sample, UInt64.toNat_toUInt32, UInt64.toNat_div, UInt64.toNat_mul,
    UInt32.toNat_toUInt64, distance]
  rw [Nat.mod_eq_of_lt (stretch.mul_source_lt inside)]
  exact Nat.mod_eq_of_lt small

theorem toNat_sample (stretch : Stretch) {place : Int64} (covered : stretch.Covers place.toInt)
    (near : place.toInt - stretch.origin.toInt < 2 ^ 63) :
    (stretch.sample place).toNat = stretch.sampled place.toInt := by
  have difference := toInt_sub_of_le place stretch.origin covered.2.1 near
  have offset_eq : (place - stretch.origin).toUInt64.toNat = stretch.offset place.toInt := by
    have low := covered.2.1
    rw [toNat_toUInt64 _ (by omega), difference, offset]
  exact stretch.toNat_sample_of_offset offset_eq (stretch.offset_lt covered)

/-- Every word computed at a place is the number that it stands for, and leads into the picture and
onto a surface of `limit` pixels. -/
structure Exact (stretch : Stretch) (limit : UInt32) (place : Int64) : Prop where
  difference_nonneg : 0 ≤ place.toInt - stretch.origin.toInt
  difference_lt : place.toInt - stretch.origin.toInt < 2 ^ 63
  difference : (place - stretch.origin).toInt = place.toInt - stretch.origin.toInt
  product_lt : stretch.offset place.toInt * stretch.source.toNat < UInt64.size
  divisor : stretch.length ≠ 0
  quotient_lt : stretch.sampled place.toInt < UInt32.size
  sample : (stretch.sample place).toNat = stretch.sampled place.toInt
  sample_lt : stretch.sampled place.toInt < stretch.source.toNat
  place_nonneg : 0 ≤ place.toInt
  place_lt : place.toInt < limit.toNat
  word : (place.toUInt64.toUInt32.toNat : Int) = place.toInt

theorem exact_of_mem_places (stretch : Stretch) (limit : UInt32) {place : Int64}
    (visited : place ∈ stretch.places limit) : stretch.Exact limit place := by
  obtain ⟨covered, nonneg, below⟩ := (stretch.mem_places limit place).mp visited
  have limit_lt := limit.toNat_lt
  have length_lt := stretch.length.toNat_lt
  obtain ⟨source, low, high⟩ := covered
  -- The origin may be as low as words go, but a covered place is at most a length away from it.
  have near : place.toInt - stretch.origin.toInt < 2 ^ 63 := by omega
  have sample_lt := stretch.sampled_lt ⟨source, low, high⟩
  exact {
    difference_nonneg := by omega
    difference_lt := near
    difference := toInt_sub_of_le place stretch.origin low near
    product_lt := stretch.mul_source_lt (stretch.offset_lt ⟨source, low, high⟩)
    divisor := by
      intro absent
      rw [absent, UInt32.toNat_zero] at high
      omega
    quotient_lt := sample_lt.trans stretch.source.toNat_lt
    sample := stretch.toNat_sample ⟨source, low, high⟩ near
    sample_lt := sample_lt
    place_nonneg := nonneg
    place_lt := below
    word := by
      rw [UInt64.toNat_toUInt32, toNat_toUInt64 place nonneg]
      omega }

end Flipbook.Stretch
