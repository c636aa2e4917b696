import Flipbook.Proofs.Raster.Compositing

/-! Drawing seen through a window on the surface: cutting the window out afterwards is drawing on
what was cut out before. -/
namespace Flipbook

def Rect.Within (rect : Rect) (area : Size) : Prop :=
  rect.x.toNat + rect.width.toNat ≤ area.width.toNat ∧
    rect.y.toNat + rect.height.toNat ≤ area.height.toNat

instance (rect : Rect) (area : Size) : Decidable (rect.Within area) :=
  inferInstanceAs (Decidable (_ ∧ _))

/-! ## A stretch on a surface that starts later -/

namespace Stretch

/-- The same stretch when places are counted from `start`. -/
def seenFrom (start : UInt32) (stretch : Stretch) : Stretch :=
  { stretch with origin := stretch.origin - ofWord start }

/-- The origin does not leave its word when places are counted from `start`. -/
def StaysNear (start : UInt32) (stretch : Stretch) : Prop :=
  Int64.minValue.toInt ≤ stretch.origin.toInt - start.toNat

instance (start : UInt32) (stretch : Stretch) : Decidable (stretch.StaysNear start) :=
  inferInstanceAs (Decidable (_ ≤ _))

variable {start : UInt32} {stretch : Stretch}

theorem toInt_origin_seenFrom (near : stretch.StaysNear start) :
    (stretch.seenFrom start).origin.toInt = stretch.origin.toInt - start.toNat := by
  have high := stretch.origin.toInt_lt
  -- The difference is no larger than the origin, so only its lower end had to be asked for.
  rw [StaysNear, Int64.toInt_minValue] at near
  rw [seenFrom, Int64.toInt_sub, toInt_ofWord]
  apply Int.bmod_eq_of_le <;> omega

theorem seenFrom_covers_iff (near : stretch.StaysNear start) (place : Nat) :
    (stretch.seenFrom start).Covers place ↔ stretch.Covers (start.toNat + place : Nat) := by
  have source_eq : (stretch.seenFrom start).source = stretch.source := rfl
  have length_eq : (stretch.seenFrom start).length = stretch.length := rfl
  rw [Covers, toInt_origin_seenFrom near, source_eq, length_eq, Covers]
  omega

/-- The pixel shown depends on the distance from the true origin alone, wherever the surface
starts. -/
theorem sampled_seenFrom (near : stretch.StaysNear start) (place : Nat) :
    (stretch.seenFrom start).sampled place = stretch.sampled (start.toNat + place : Nat) := by
  have offset_eq : (stretch.seenFrom start).offset place =
      stretch.offset (start.toNat + place : Nat) := by
    rw [offset, toInt_origin_seenFrom near, offset]
    omega
  rw [sampled, offset_eq]
  rfl

end Stretch

/-! ## A stamp seen through a window -/

namespace Stamp

/-- The same stamp on what is cut out of the surface at `rect`. -/
def seenIn (rect : Rect) (stamp : Stamp) : Stamp where
  image := stamp.image
  x := stamp.x - Stretch.ofWord rect.x
  y := stamp.y - Stretch.ofWord rect.y
  size := stamp.size

variable {rect : Rect} {stamp : Stamp}

section
variable (across : stamp.across.StaysNear rect.x) (down : stamp.down.StaysNear rect.y)
include across down

theorem seenIn_covers_iff (column row : Nat) :
    (stamp.seenIn rect).Covers column row ↔
      stamp.Covers (rect.x.toNat + column) (rect.y.toNat + row) :=
  and_congr (Stretch.seenFrom_covers_iff across column) (Stretch.seenFrom_covers_iff down row)

theorem shown?_seenIn (column row : Nat) :
    (stamp.seenIn rect).shown? column row =
      stamp.shown? (rect.x.toNat + column) (rect.y.toNat + row) := by
  have column_eq : (stamp.seenIn rect).across.sampled column =
      stamp.across.sampled (rect.x.toNat + column : Nat) :=
    Stretch.sampled_seenFrom across column
  have row_eq : (stamp.seenIn rect).down.sampled row =
      stamp.down.sampled (rect.y.toNat + row : Nat) :=
    Stretch.sampled_seenFrom down row
  have covers_iff := seenIn_covers_iff across down column row
  unfold shown?
  by_cases covered : (stamp.seenIn rect).Covers column row
  · rw [if_pos covered, if_pos (covers_iff.mp covered), column_eq, row_eq]
    rfl
  · rw [if_neg covered, if_neg (mt covers_iff.mpr covered)]

theorem onto_seenIn (mix : Rgba → Rgba → Rgba) (column row : Nat) :
    (stamp.seenIn rect).onto mix column row =
      stamp.onto mix (rect.x.toNat + column) (rect.y.toNat + row) := by
  funext below
  rw [onto, shown?_seenIn across down, onto]

end

/-- Drawing commutes with cutting out. What a window on the surface shows after drawing is what
drawing on the window gives, the image lying there as it lies on the surface. -/
theorem cut_stamp (mix : Rgba → Rgba → Rgba) (surface : Bitmap) (rect : Rect) (stamp : Stamp)
    (inside : rect.Within surface.size) (across : stamp.across.StaysNear rect.x)
    (down : stamp.down.StaysNear rect.y) :
    (surface.stamp mix stamp).cut rect = (surface.cut rect).stamp mix (stamp.seenIn rect) := by
  apply Bitmap.ext_pixel?
  · rw [size_stamp]
    rfl
  intro column row
  rw [pixel?_stamp, Bitmap.pixel?_cut, Bitmap.pixel?_cut, pixel?_stamp, onto_seenIn across down]
  split
  next within =>
    -- A pixel of the window is a pixel of the surface, so nothing is filled up in either order.
    obtain ⟨below, found⟩ : ∃ below,
        surface.pixel? (rect.x.toNat + column) (rect.y.toNat + row) = some below := by
      apply Option.isSome_iff_exists.mp
      rw [Bitmap.pixel?_isSome]
      unfold Rect.Within at inside
      omega
    rw [found]
    rfl
  next => rfl

/-- Three pixels stretched to seven, the first of which lies to the left of the window. -/
theorem cut_stamp_clipped :
    let surface := Bitmap.filled ⟨5, 3⟩ ⟨9, 9, 9, 255⟩
    let stamp : Stamp := ⟨.ofFn ⟨3, 1⟩ fun column _ => ⟨column.toUInt8, 0, 0, 255⟩, -1, -1, ⟨7, 3⟩⟩
    let rect : Rect := ⟨2, 1, 3, 2⟩
    rect.Within surface.size ∧ stamp.across.StaysNear rect.x ∧ stamp.down.StaysNear rect.y ∧
      (surface.stamp Rgba.blend stamp).cut rect =
        (surface.cut rect).stamp Rgba.blend (stamp.seenIn rect) ∧
      ((surface.stamp Rgba.blend stamp).cut rect).pixel? 0 0 = some ⟨1, 0, 0, 255⟩ ∧
      ((surface.stamp Rgba.blend stamp).cut rect).pixel? 0 1 = some ⟨9, 9, 9, 255⟩ := by
  intro surface stamp rect
  have inside : rect.Within surface.size := by decide
  have across : stamp.across.StaysNear rect.x := by decide
  have down : stamp.down.StaysNear rect.y := by decide
  exact ⟨inside, across, down, cut_stamp Rgba.blend surface rect stamp inside across down,
    by decide +kernel, by decide +kernel⟩

end Stamp
end Flipbook
