import Flipbook.Proofs.Host.Placing
import Flipbook.Proofs.Number.Exactness

/-! An image drawn at its own size, whether that size is given or left out, is copied pixel by
pixel. -/
namespace Flipbook

/-! ## The size of an image as numbers -/

namespace Bitmap

/-- Width and height as the numbers by which a placement would scale to them. -/
def ownSize (image : Bitmap) : Single × Single :=
  (.ofNat image.size.width.toNat, .ofNat image.size.height.toNat)

/-- Neither extent needs more bits than single precision keeps. -/
def Measurable (image : Bitmap) : Prop :=
  image.size.width.toNat ≤ 2 ^ 24 ∧ image.size.height.toNat ≤ 2 ^ 24

instance (image : Bitmap) : Decidable image.Measurable := inferInstanceAs (Decidable (_ ∧ _))

end Bitmap

/-- The placement with a size in any case: where none is given, that of the image. -/
def Placement.sized (placement : Placement) (image : Bitmap) : Placement :=
  { placement with scaled := some (placement.scaled.getD image.ownSize) }

namespace Easel

theorem stampOf_sized {image : Bitmap} (measurable : image.Measurable) (placement : Placement) :
    stampOf image (placement.sized image) = stampOf image placement := by
  obtain ⟨x, y, scaled⟩ := placement
  cases scaled with
  | some size => rfl
  | none =>
    simp only [stampOf, Placement.sized, Option.getD_none, Bitmap.ownSize,
      Single.toUInt32_ofNat measurable.1, Single.toUInt32_ofNat measurable.2]

theorem draw_sized (easel : Easel) {image : Bitmap} (measurable : image.Measurable)
    (placement : Placement) :
    easel.draw image (placement.sized image) = easel.draw image placement := by
  rw [draw, stampOf_sized measurable, draw]

end Easel

/-! ## Pixel by pixel -/

/-- `surface` is `before` with the image laid on it, its first pixel at `(x, y)` and the others
beside it one by one. -/
structure Copied (mix : Rgba → Rgba → Rgba) (before image : Bitmap) (x y : Int)
    (surface : Bitmap) : Prop where
  size_eq : surface.size = before.size
  onto : ∀ (i j : Nat) (above : Rgba), image.pixel? i j = some above →
    ∀ (column row : Nat) (below : Rgba), before.pixel? column row = some below →
      (column : Int) = x + i → (row : Int) = y + j →
        surface.pixel? column row = some (Rgba.cover mix below above)
  beside : ∀ (column row : Nat) (below : Rgba), before.pixel? column row = some below →
    (∀ i j : Nat, (column : Int) = x + i → (row : Int) = y + j → image.pixel? i j = none) →
      surface.pixel? column row = some below

theorem Overlaid.copied {mix : Rgba → Rgba → Rgba} {before image surface : Bitmap} {x y : Int}
    (wide : 0 < image.size.width.toNat) (high : 0 < image.size.height.toNat)
    (overlaid : Overlaid mix before image x y image.size.width.toNat image.size.height.toNat
      surface) : Copied mix before image x y surface where
  size_eq := overlaid.size_eq
  onto := by
    intro i j above shown column row below found column_eq row_eq
    obtain ⟨i_lt, j_lt⟩ := (image.pixel?_isSome i j).mp (by rw [shown]; rfl)
    obtain ⟨nearest, sampled, painted⟩ :=
      overlaid.inside column row below found (by omega)
    -- The target is as wide and high as the image, so scaling gives the offsets back.
    have i_eq : (column - x) * image.size.width.toNat / image.size.width.toNat = i := by
      rw [Int.mul_ediv_cancel _ (by omega)]
      omega
    have j_eq : (row - y) * image.size.height.toNat / image.size.height.toNat = j := by
      rw [Int.mul_ediv_cancel _ (by omega)]
      omega
    rw [i_eq, j_eq, Int.toNat_natCast, Int.toNat_natCast, shown] at sampled
    rw [painted, Option.some.inj sampled]
  beside := by
    intro column row below found absent
    apply overlaid.outside column row below found
    intro within
    have missing := absent (column - x).toNat (row - y).toNat (by omega) (by omega)
    have inside := (image.pixel?_isSome (column - x).toNat (row - y).toNat).mpr (by omega)
    rw [missing] at inside
    contradiction

namespace Stamp

theorem copied (mix : Rgba → Rgba → Rgba) (surface : Bitmap) (stamp : Stamp)
    (own : stamp.size = stamp.image.size) {x y : Int}
    (x_clamped : stamp.x.toInt = max (-2 ^ 63) (min x (2 ^ 63 - 1)))
    (y_clamped : stamp.y.toInt = max (-2 ^ 63) (min y (2 ^ 63 - 1))) :
    Copied mix surface stamp.image x y (surface.stamp mix stamp) := by
  by_cases proper : 0 < stamp.image.size.width.toNat ∧ 0 < stamp.image.size.height.toNat
  · have overlaid := stamp.overlaid mix surface proper.1 proper.2 x_clamped y_clamped
    rw [own] at overlaid
    exact overlaid.copied proper.1 proper.2
  -- An image without pixels is drawn nowhere.
  · refine ⟨size_stamp mix surface stamp, ?_, ?_⟩
    · intro i j above shown
      have inside := (stamp.image.pixel?_isSome i j).mp (by rw [shown]; rfl)
      omega
    · intro column row below found _
      have uncovered : ¬stamp.Covers column row := fun covered =>
        proper ⟨covered.1.1, covered.2.1⟩
      rw [pixel?_stamp, found, Option.map_some, onto, shown?, if_neg uncovered]
      rfl

end Stamp

namespace Easel

/-- An image drawn at its own size is copied to the nearest whole place, however far off that is. -/
theorem draw_copied (easel : Easel) (image : Bitmap) {x y : Single} {x' y' : Int}
    (x_clamped : x.toInt64.toInt = max (-2 ^ 63) (min x' (2 ^ 63 - 1)))
    (y_clamped : y.toInt64.toInt = max (-2 ^ 63) (min y' (2 ^ 63 - 1))) :
    Copied Rgba.blend easel.surface image x' y' (easel.draw image ⟨x, y, none⟩).surface :=
  (stampOf image ⟨x, y, none⟩).copied Rgba.blend easel.surface rfl x_clamped y_clamped

/-- The two ways to draw an image at its own size come to the same, and what they do is to copy it.
A number that is not finite has a place as well, the one that its word says. -/
structure Interchangeable (easel : Easel) (image : Bitmap) (x y : Single) : Prop where
  draw_eq : easel.draw image ⟨x, y, some image.ownSize⟩ = easel.draw image ⟨x, y, none⟩
  copied : Copied Rgba.blend easel.surface image x.toInt64.toInt y.toInt64.toInt
    (easel.draw image ⟨x, y, none⟩).surface
  copied_of_finite : ∀ x' y' : ℚ, x.toRat? = some x' → y.toRat? = some y' →
    Copied Rgba.blend easel.surface image (Single.roundAway x') (Single.roundAway y')
      (easel.draw image ⟨x, y, none⟩).surface

private theorem toInt_clamped (word : Int64) :
    word.toInt = max (-2 ^ 63) (min word.toInt (2 ^ 63 - 1)) := by
  have low := word.le_toInt
  have high := word.toInt_lt
  omega

theorem interchangeable (easel : Easel) {image : Bitmap} (measurable : image.Measurable)
    (x y : Single) : easel.Interchangeable image x y where
  draw_eq := easel.draw_sized measurable ⟨x, y, none⟩
  copied := easel.draw_copied image (toInt_clamped _) (toInt_clamped _)
  copied_of_finite := fun _ _ x_eq y_eq =>
    easel.draw_copied image (Single.toInt_toInt64 x_eq) (Single.toInt_toInt64 y_eq)

end Easel
end Flipbook
