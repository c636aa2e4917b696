import Flipbook.Proofs.Raster.Coverage
import Mathlib.Algebra.Order.Floor.Div

/-! How a stretch shares out its places among the source pixels: in order, and as evenly as whole
numbers allow. -/
namespace Flipbook

/-! ## Quotients rounded up -/

section
variable {source : Nat} (source_pos : 0 < source) (start length : Nat)
include source_pos

private theorem le_mul_ceilDiv (value : Nat) : value ≤ source * (value ⌈/⌉ source) :=
  (ceilDiv_le_iff_le_mul source_pos).mp le_rfl

private theorem ceilDiv_add_le :
    (start + length) ⌈/⌉ source ≤ start ⌈/⌉ source + length ⌈/⌉ source := by
  rw [ceilDiv_le_iff_le_mul source_pos, Nat.mul_add]
  exact Nat.add_le_add (le_mul_ceilDiv source_pos start) (le_mul_ceilDiv source_pos length)

private theorem ceilDiv_add_div_le :
    start ⌈/⌉ source + length / source ≤ (start + length) ⌈/⌉ source := by
  have reached := le_mul_ceilDiv source_pos (start + length)
  have whole_le : source * (length / source) ≤ length := Nat.mul_div_le length source
  have quotient_le : length / source ≤ (start + length) ⌈/⌉ source := by
    apply Nat.le_of_mul_le_mul_left _ source_pos
    omega
  rw [← Nat.le_sub_iff_add_le quotient_le, ceilDiv_le_iff_le_mul source_pos, Nat.mul_sub]
  omega

/-- A step of `length` takes the quotient rounded up as much further as it is itself when rounded
down or up, wherever it starts. -/
private theorem ceilDiv_add_sub :
    (start + length) ⌈/⌉ source - start ⌈/⌉ source = length / source ∨
      (start + length) ⌈/⌉ source - start ⌈/⌉ source = length ⌈/⌉ source := by
  have upper := ceilDiv_add_le source_pos start length
  have lower := ceilDiv_add_div_le source_pos start length
  have near : length ⌈/⌉ source ≤ length / source + 1 := by
    rw [ceilDiv_le_iff_le_mul source_pos]
    exact (Nat.lt_mul_div_succ length source_pos).le
  omega

end

private theorem countP_range_between (low high limit : Nat) :
    (List.range limit).countP (fun offset => low ≤ offset ∧ offset < high) =
      min high limit - min low limit := by
  induction limit with
  | zero => simp
  | succ limit ih =>
    rw [List.range_succ, List.countP_append, ih, List.countP_singleton]
    simp only [decide_eq_true_eq]
    split <;> omega

namespace Stretch

variable (stretch : Stretch)

/-- The source pixel that the words give `offset` places behind the origin, on a surface or not. -/
def sampleAt (offset : Nat) : UInt32 := stretch.sample (stretch.origin + Int64.ofNat offset)

/-- The number of places that show a source pixel. -/
def share (index : UInt32) : Nat :=
  (List.range stretch.length.toNat).countP fun offset => stretch.sampleAt offset = index

/-- The offset at which a source pixel is shown first. -/
def firstAt (index : Nat) : Nat := (index * stretch.length.toNat) ⌈/⌉ stretch.source.toNat

/-- The distance to the origin comes back from the words also where the place itself has none. -/
theorem toNat_sampleAt {offset : Nat} (inside : offset < stretch.length.toNat) :
    (stretch.sampleAt offset).toNat = offset * stretch.source.toNat / stretch.length.toNat := by
  have small : offset < 2 ^ 63 := by
    have length_lt := stretch.length.toNat_lt
    omega
  have offset_eq := Int64.toInt_ofNat_of_lt small
  apply stretch.toNat_sample_of_offset _ inside
  -- The sum may wrap, but the difference then wraps back.
  rw [Int64.add_comm, Int64.add_sub_cancel, toNat_toUInt64 _ (by omega), offset_eq]
  rfl

/-- Every place that is visited on a surface lies some places behind the origin. -/
theorem exists_offset_of_mem_places {limit : UInt32} {place : Int64}
    (visited : place ∈ stretch.places limit) :
    ∃ offset < stretch.length.toNat,
      place.toInt = stretch.origin.toInt + offset ∧
        stretch.sample place = stretch.sampleAt offset := by
  obtain ⟨covered, -, -⟩ := (stretch.mem_places limit place).mp visited
  have exact_words := stretch.exact_of_mem_places limit visited
  have inside := stretch.offset_lt covered
  refine ⟨stretch.offset place.toInt, inside, ?_, ?_⟩
  · have low := covered.2.1
    unfold offset
    omega
  · rw [← UInt32.toNat_inj, exact_words.sample, stretch.toNat_sampleAt inside]
    rfl

/-- A place behind the origin that is on a surface is visited there. -/
theorem mem_places_of_offset (source_pos : 0 < stretch.source.toNat) {limit : UInt32} {offset : Nat}
    (inside : offset < stretch.length.toNat) (nonneg : 0 ≤ stretch.origin.toInt + offset)
    (below : stretch.origin.toInt + offset < limit.toNat) :
    stretch.origin + Int64.ofNat offset ∈ stretch.places limit := by
  have limit_lt := limit.toNat_lt
  have length_lt := stretch.length.toNat_lt
  have place_eq := toInt_add_ofNat stretch.origin offset (by omega) (by omega)
  rw [mem_places, place_eq]
  exact ⟨⟨source_pos, by omega, by omega⟩, nonneg, below⟩

theorem sampleAt_mono {near far : Nat} (ordered : near ≤ far)
    (inside : far < stretch.length.toNat) : stretch.sampleAt near ≤ stretch.sampleAt far := by
  rw [UInt32.le_iff_toNat_le, stretch.toNat_sampleAt inside,
    stretch.toNat_sampleAt (Nat.lt_of_le_of_lt ordered inside)]
  exact Nat.div_le_div_right (Nat.mul_le_mul_right _ ordered)

section
variable {stretch} (source_pos : 0 < stretch.source.toNat) (length_pos : 0 < stretch.length.toNat)
include source_pos

theorem sampleAt_lt {offset : Nat} (inside : offset < stretch.length.toNat) :
    (stretch.sampleAt offset).toNat < stretch.source.toNat := by
  rw [stretch.toNat_sampleAt inside]
  exact Nat.div_lt_of_lt_mul (Nat.mul_lt_mul_of_pos_right inside source_pos)

/-- No source pixel starts behind the end, not even the one after the last. -/
theorem firstAt_le {index : Nat} (bounded : index ≤ stretch.source.toNat) :
    stretch.firstAt index ≤ stretch.length.toNat := by
  rw [firstAt, ceilDiv_le_iff_le_mul source_pos]
  exact Nat.mul_le_mul_right _ bounded

include length_pos

/-- The places that show one source pixel follow on one another, up to where the next one starts. -/
theorem toNat_sampleAt_eq_iff {offset : Nat} (inside : offset < stretch.length.toNat)
    (index : Nat) : (stretch.sampleAt offset).toNat = index ↔
      stretch.firstAt index ≤ offset ∧ offset < stretch.firstAt (index + 1) := by
  rw [stretch.toNat_sampleAt inside, ← Nat.not_le (b := offset), firstAt, firstAt,
    ceilDiv_le_iff_le_mul source_pos, ceilDiv_le_iff_le_mul source_pos,
    Nat.div_eq_iff length_pos, Nat.succ_mul, Nat.mul_comm stretch.source.toNat]
  omega

theorem share_eq {index : UInt32} (shown : index.toNat < stretch.source.toNat) :
    stretch.share index = stretch.firstAt (index.toNat + 1) - stretch.firstAt index.toNat := by
  have counted := countP_range_between (stretch.firstAt index.toNat)
    (stretch.firstAt (index.toNat + 1)) stretch.length.toNat
  -- Both ends lie within the stretch, so none of the places between them is cut off.
  rw [min_eq_left (firstAt_le source_pos shown), min_eq_left (firstAt_le source_pos shown.le)]
    at counted
  rw [share, ← counted]
  apply List.countP_congr
  intro offset listed
  have inside := List.mem_range.mp listed
  simp only [decide_eq_true_eq, ← UInt32.toNat_inj]
  exact toNat_sampleAt_eq_iff source_pos length_pos inside index.toNat

theorem share_eq_or {index : UInt32} (shown : index.toNat < stretch.source.toNat) :
    stretch.share index = stretch.length.toNat / stretch.source.toNat ∨
      stretch.share index = stretch.length.toNat ⌈/⌉ stretch.source.toNat := by
  rw [share_eq source_pos length_pos shown, firstAt, Nat.succ_mul]
  exact ceilDiv_add_sub source_pos _ _

/-- A picture that is not made smaller shows each of its pixels. -/
theorem exists_sampleAt_eq (enlarged : stretch.source.toNat ≤ stretch.length.toNat) {index : UInt32}
    (shown : index.toNat < stretch.source.toNat) :
    ∃ offset < stretch.length.toNat, stretch.sampleAt offset = index := by
  have one_le : 1 ≤ stretch.length.toNat / stretch.source.toNat :=
    Nat.div_pos enlarged source_pos
  have rounded_le : stretch.length.toNat / stretch.source.toNat ≤
      stretch.length.toNat ⌈/⌉ stretch.source.toNat := by
    rw [← Nat.floorDiv_eq_div]
    exact floorDiv_le_ceilDiv
  have share_pos : 0 < stretch.share index := by
    rcases share_eq_or source_pos length_pos shown with floor | ceil <;> omega
  obtain ⟨offset, listed, same⟩ := List.countP_pos_iff.mp share_pos
  exact ⟨offset, List.mem_range.mp listed, of_decide_eq_true same⟩

end

/-- A picture that is not made larger shows none of its pixels twice. -/
theorem sampleAt_lt_sampleAt (reduced : stretch.length.toNat ≤ stretch.source.toNat)
    {near far : Nat} (ordered : near < far) (inside : far < stretch.length.toNat) :
    stretch.sampleAt near < stretch.sampleAt far := by
  have length_pos : 0 < stretch.length.toNat := Nat.zero_lt_of_lt inside
  rw [UInt32.lt_iff_toNat_lt, stretch.toNat_sampleAt inside,
    stretch.toNat_sampleAt (ordered.trans inside), Nat.lt_iff_add_one_le,
    ← Nat.add_div_right _ length_pos]
  -- One place further adds a whole source extent, which is no less than the divisor.
  apply Nat.div_le_div_right
  calc near * stretch.source.toNat + stretch.length.toNat
      ≤ near * stretch.source.toNat + stretch.source.toNat := Nat.add_le_add_left reduced _
    _ = (near + 1) * stretch.source.toNat := (Nat.succ_mul ..).symm
    _ ≤ far * stretch.source.toNat := Nat.mul_le_mul_right _ ordered

/-! ## Main result -/

/-- The places of a stretch are shared out among the source pixels in proportion: the words give the
quotient rounded down, the pixels come in order from the first one on, and their shares differ by
one place at most. Of these places a surface shows those that are on it. -/
structure SharedOut (stretch : Stretch) : Prop where
  quotient : ∀ offset < stretch.length.toNat, (stretch.sampleAt offset).toNat =
    offset * stretch.source.toNat / stretch.length.toNat
  lt_source : ∀ offset < stretch.length.toNat, stretch.sampleAt offset < stretch.source
  first_eq : stretch.sampleAt 0 = 0
  ordered : ∀ near far, near ≤ far → far < stretch.length.toNat →
    stretch.sampleAt near ≤ stretch.sampleAt far
  share_eq : ∀ index < stretch.source,
    stretch.share index = stretch.length.toNat / stretch.source.toNat ∨
      stretch.share index = stretch.length.toNat ⌈/⌉ stretch.source.toNat
  none_dropped : stretch.source ≤ stretch.length → ∀ index < stretch.source,
    ∃ offset < stretch.length.toNat, stretch.sampleAt offset = index
  none_repeated : stretch.length ≤ stretch.source → ∀ near far, near < far →
    far < stretch.length.toNat → stretch.sampleAt near < stretch.sampleAt far
  unscaled : stretch.length = stretch.source → ∀ offset < stretch.length.toNat,
    (stretch.sampleAt offset).toNat = offset
  visited : ∀ limit, ∀ place ∈ stretch.places limit, ∃ offset < stretch.length.toNat,
    place.toInt = stretch.origin.toInt + offset ∧ stretch.sample place = stretch.sampleAt offset
  visits : ∀ limit : UInt32, ∀ offset < stretch.length.toNat,
    0 ≤ stretch.origin.toInt + offset → stretch.origin.toInt + offset < limit.toNat →
      stretch.origin + Int64.ofNat offset ∈ stretch.places limit

/-- However much a picture is stretched or reduced along an axis and wherever it lies, its pixels
are shown in order and as evenly as whole numbers allow. -/
theorem sampling_sharedOut (stretch : Stretch) (proper : 0 < stretch.source)
    (visible : 0 < stretch.length) : stretch.SharedOut := by
  have source_pos : 0 < stretch.source.toNat := UInt32.lt_iff_toNat_lt.mp proper
  have length_pos : 0 < stretch.length.toNat := UInt32.lt_iff_toNat_lt.mp visible
  exact {
    quotient := fun _ inside => stretch.toNat_sampleAt inside
    lt_source := fun _ inside => UInt32.lt_iff_toNat_lt.mpr (sampleAt_lt source_pos inside)
    first_eq := by
      rw [← UInt32.toNat_inj, stretch.toNat_sampleAt length_pos, Nat.zero_mul, Nat.zero_div]
      rfl
    ordered := fun _ _ ordered inside => stretch.sampleAt_mono ordered inside
    share_eq := fun _ shown =>
      share_eq_or source_pos length_pos (UInt32.lt_iff_toNat_lt.mp shown)
    none_dropped := fun enlarged _ shown =>
      exists_sampleAt_eq source_pos length_pos (UInt32.le_iff_toNat_le.mp enlarged)
        (UInt32.lt_iff_toNat_lt.mp shown)
    none_repeated := fun reduced _ _ ordered inside =>
      stretch.sampleAt_lt_sampleAt (UInt32.le_iff_toNat_le.mp reduced) ordered inside
    unscaled := by
      intro same offset inside
      rw [stretch.toNat_sampleAt inside, ← same, Nat.mul_div_cancel _ length_pos]
    visited := fun _ _ listed => stretch.exists_offset_of_mem_places listed
    visits := fun _ _ inside nonneg below =>
      stretch.mem_places_of_offset source_pos inside nonneg below }

/-- Three pixels over seven places, the first of which lies off the surface. -/
theorem sampling_sharedOut_uneven :
    let stretch : Stretch := ⟨-1, 7, 3⟩
    0 < stretch.source ∧ 0 < stretch.length ∧ stretch.SharedOut ∧
      stretch.share 0 = 3 ∧ stretch.share 1 = 2 ∧ stretch.share 2 = 2 ∧
      stretch.origin + Int64.ofNat 5 ∈ stretch.places 5 ∧ stretch.sampleAt 5 = 2 := by
  intro stretch
  have proper : 0 < stretch.source := by decide
  have visible : 0 < stretch.length := by decide
  have shared := sampling_sharedOut stretch proper visible
  exact ⟨proper, visible, shared, by decide, by decide, by decide,
    shared.visits 5 5 (by decide) (by decide) (by decide), by decide⟩

end Stretch
end Flipbook
