import Flipbook.Host.Easel
import Flipbook.Proofs.Number.Rounding
import Flipbook.Proofs.Raster.Compositing

/-! Where an image lies on an easel, told from the values of its placement. -/
namespace Flipbook

/-! ## A stretch whose origin was moved into the range of words -/

namespace Stretch

variable {stretch : Stretch} {origin : Int}

theorem covers_iff_of_clamp (proper : 0 < stretch.source.toNat)
    (clamped : stretch.origin.toInt = max (-2 ^ 63) (min origin (2 ^ 63 - 1))) {place : Nat}
    (small : place < 2 ^ 32) :
    stretch.Covers place ↔ origin ≤ place ∧ place < origin + stretch.length.toNat := by
  have length_lt := stretch.length.toNat_lt
  -- A moved origin is too far away for any length that a word can hold.
  unfold Covers
  omega

theorem sampled_of_clamp
    (clamped : stretch.origin.toInt = max (-2 ^ 63) (min origin (2 ^ 63 - 1))) {place : Nat}
    (small : place < 2 ^ 32) (covered : stretch.Covers place) :
    (stretch.sampled place : Int) =
      (place - origin) * stretch.source.toNat / stretch.length.toNat := by
  have length_lt := stretch.length.toNat_lt
  obtain ⟨_, low, high⟩ := covered
  -- What is covered lies near the surface, so the origin of a covering stretch was not moved.
  have offset_eq : (stretch.offset place : Int) = place - origin := by
    unfold offset
    omega
  rw [sampled, Int.natCast_ediv, Int.natCast_mul, offset_eq]

end Stretch

theorem Bitmap.lt_of_pixel? (bitmap : Bitmap) {column row : Nat} {pixel : Rgba}
    (found : bitmap.pixel? column row = some pixel) : column < 2 ^ 32 ∧ row < 2 ^ 32 := by
  have inside := (bitmap.pixel?_isSome column row).mp (by rw [found]; rfl)
  exact ⟨inside.1.trans (UInt32.toNat_lt _), inside.2.trans (UInt32.toNat_lt _)⟩

/-! ## Main results -/

/-- `surface` is `before` with the image stretched over the rectangle of that corner and size, both
of them unbounded: a pixel inside has the nearest image pixel put over it, and every other one is
as before. -/
structure Overlaid (mix : Rgba → Rgba → Rgba) (before : Bitmap) (image : Bitmap)
    (x y width height : Int) (surface : Bitmap) : Prop where
  size_eq : surface.size = before.size
  inside : ∀ (column row : Nat) (below : Rgba), before.pixel? column row = some below →
    (x ≤ column ∧ column < x + width) ∧ y ≤ row ∧ row < y + height → ∃ above,
      image.pixel? ((column - x) * image.size.width.toNat / width).toNat
        ((row - y) * image.size.height.toNat / height).toNat = some above ∧
      surface.pixel? column row = some (Rgba.cover mix below above)
  outside : ∀ (column row : Nat) (below : Rgba), before.pixel? column row = some below →
    ¬((x ≤ column ∧ column < x + width) ∧ y ≤ row ∧ row < y + height) →
      surface.pixel? column row = some below

theorem Stamp.overlaid (mix : Rgba → Rgba → Rgba) (surface : Bitmap) (stamp : Stamp)
    (wide : 0 < stamp.image.size.width.toNat) (high : 0 < stamp.image.size.height.toNat)
    {x y : Int} (x_clamped : stamp.x.toInt = max (-2 ^ 63) (min x (2 ^ 63 - 1)))
    (y_clamped : stamp.y.toInt = max (-2 ^ 63) (min y (2 ^ 63 - 1))) :
    Overlaid mix surface stamp.image x y stamp.size.width.toNat stamp.size.height.toNat
      (surface.stamp mix stamp) := by
  have covers_iff {column row : Nat} (column_lt : column < 2 ^ 32) (row_lt : row < 2 ^ 32) :
      stamp.Covers column row ↔
        (x ≤ column ∧ column < x + stamp.size.width.toNat) ∧
          y ≤ row ∧ row < y + stamp.size.height.toNat :=
    and_congr (stamp.across.covers_iff_of_clamp wide x_clamped column_lt)
      (stamp.down.covers_iff_of_clamp high y_clamped row_lt)
  refine ⟨size_stamp mix surface stamp, ?_, ?_⟩
  · intro column row below found within
    obtain ⟨column_lt, row_lt⟩ := surface.lt_of_pixel? found
    have covered := (covers_iff column_lt row_lt).mpr within
    obtain ⟨above, nearest⟩ := stamp.exists_shown covered
    refine ⟨above, ?_, ?_⟩
    · have column_eq := stamp.across.sampled_of_clamp x_clamped column_lt covered.1
      have row_eq := stamp.down.sampled_of_clamp y_clamped row_lt covered.2
      simp only [across, down] at column_eq row_eq
      rw [← column_eq, ← row_eq, Int.toNat_natCast, Int.toNat_natCast]
      exact nearest
    · rw [pixel?_stamp, found, Option.map_some, onto, shown?, if_pos covered, nearest]
      rfl
  · intro column row below found beside
    obtain ⟨column_lt, row_lt⟩ := surface.lt_of_pixel? found
    have uncovered := mt (covers_iff column_lt row_lt).mp beside
    rw [pixel?_stamp, found, Option.map_some, onto, shown?, if_neg uncovered]
    rfl

namespace Easel

/-- An image lies where its rounded placement says, however far off, and is as large as that says up
to the largest 32-bit word. -/
theorem draw_overlaid (easel : Easel) (image : Bitmap)
    (wide : 0 < image.size.width.toNat) (high : 0 < image.size.height.toNat)
    {x y width height : Single} {x' y' width' height' : ℚ}
    (x_eq : x.toRat? = some x') (y_eq : y.toRat? = some y')
    (width_eq : width.toRat? = some width') (height_eq : height.toRat? = some height') :
    Overlaid Rgba.blend easel.surface image (Single.roundAway x') (Single.roundAway y')
      (min (max (Single.roundAway width') 0) (2 ^ 32 - 1))
      (min (max (Single.roundAway height') 0) (2 ^ 32 - 1))
      (easel.draw image ⟨x, y, some (width, height)⟩).surface := by
  have overlaid := Stamp.overlaid Rgba.blend easel.surface
    (stampOf image ⟨x, y, some (width, height)⟩) wide high
    (Single.toInt_toInt64 x_eq) (Single.toInt_toInt64 y_eq)
  rw [← Single.toNat_toUInt32 width_eq, ← Single.toNat_toUInt32 height_eq]
  exact overlaid

/-- Ten billion pixels across, of which a word keeps fewer than half, starting four billion left
of the surface; in the other direction both values end in a half. -/
theorem draw_overlaid_widest :
    let easel : Easel := ⟨.filled ⟨1, 1⟩ .transparent, none, ⟨[], []⟩⟩
    let image := Bitmap.ofFn ⟨2, 1⟩ fun column _ => ⟨column.toUInt8, 0, 0, 255⟩
    let x := Single.ofBits 0xcf6e6b28
    let y := Single.ofBits 0xbf000000
    let width := Single.ofBits 0x501502f9
    let height := Single.ofBits 0x40200000
    x.toRat? = some (-4000000000) ∧ y.toRat? = some (-1 / 2) ∧
      width.toRat? = some 10000000000 ∧ height.toRat? = some (5 / 2) ∧
      (easel.draw image ⟨x, y, some (width, height)⟩).surface.pixel? 0 0 =
        some ⟨1, 0, 0, 255⟩ := by
  intro easel image x y width height
  have x_eq : x.toRat? = some (-4000000000) := by decide +kernel
  have y_eq : y.toRat? = some (-1 / 2) := by decide +kernel
  have width_eq : width.toRat? = some 10000000000 := by decide +kernel
  have height_eq : height.toRat? = some (5 / 2) := by decide +kernel
  have corner : Single.roundAway (-4000000000) = -4000000000 ∧ Single.roundAway (-1 / 2) = -1 := by
    decide +kernel
  have extent : min (max (Single.roundAway 10000000000) 0) (2 ^ 32 - 1) = 4294967295 ∧
      min (max (Single.roundAway (5 / 2)) 0) (2 ^ 32 - 1) = 3 := by
    decide +kernel
  have overlaid := easel.draw_overlaid image (by decide) (by decide) x_eq y_eq width_eq height_eq
  rw [corner.1, corner.2, extent.1, extent.2] at overlaid
  have found : easel.surface.pixel? 0 0 = some .transparent := by decide +kernel
  obtain ⟨above, nearest, shown⟩ := overlaid.inside 0 0 _ found (by decide)
  obtain rfl : ⟨1, 0, 0, 255⟩ = above := by
    apply Option.some.inj
    rw [← nearest]
    decide +kernel
  exact ⟨x_eq, y_eq, width_eq, height_eq, shown⟩

/-- A size beyond the words is not kept: an image that should lie over all of a surface, half of it
left of the surface and half of it right, ends left of it. -/
theorem not_overlaid_beyond_word :
    ¬∀ (easel : Easel) (image : Bitmap) (x y width height : Single) (x' y' width' height' : ℚ),
      0 < image.size.width.toNat → 0 < image.size.height.toNat →
      x.toRat? = some x' → y.toRat? = some y' →
      width.toRat? = some width' → height.toRat? = some height' →
      Overlaid Rgba.blend easel.surface image (Single.roundAway x') (Single.roundAway y')
        (max (Single.roundAway width') 0) (max (Single.roundAway height') 0)
        (easel.draw image ⟨x, y, some (width, height)⟩).surface := by
  intro law
  have overlaid := law ⟨.filled ⟨1, 1⟩ .transparent, none, ⟨[], []⟩⟩ (.filled ⟨1, 1⟩ ⟨1, 2, 3, 255⟩)
    (.ofBits 0xcf9502f9) 0 (.ofBits 0x501502f9) 1 (-5000000000) 0 10000000000 1 (by decide)
    (by decide) (by decide +kernel) (by decide +kernel) (by decide +kernel) (by decide +kernel)
  have corner : Single.roundAway (-5000000000) = -5000000000 ∧ Single.roundAway 0 = 0 := by
    decide +kernel
  have extent : Single.roundAway 10000000000 = 10000000000 ∧ Single.roundAway 1 = 1 := by
    decide +kernel
  rw [corner.1, corner.2, extent.1, extent.2] at overlaid
  obtain ⟨above, nearest, shown⟩ := overlaid.inside 0 0 .transparent (by decide +kernel)
    (by decide)
  obtain rfl : ⟨1, 2, 3, 255⟩ = above := Option.some.inj nearest
  revert shown
  decide +kernel

end Easel
end Flipbook
