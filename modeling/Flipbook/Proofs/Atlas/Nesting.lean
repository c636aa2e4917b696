import Flipbook.Proofs.Atlas.Partition
import Flipbook.Proofs.Raster.Cropping

/-! Frames that are cut into cells once more: where the inner cells lie on the picture, and when they
are cells of the picture itself. -/
namespace Flipbook

/-! ## Parts of parts -/

namespace Rect

variable {outer inner : Rect} {area : Size}

@[simp] theorem width_part : (outer.part inner).width = inner.width := rfl

@[simp] theorem height_part : (outer.part inner).height = inner.height := rfl

section
variable (within : outer.Within area) (inside : inner.Within outer.size)
include within inside

/-- The corners of a part are corners inside the area, so no sum of words wraps. -/
theorem toNat_part :
    (outer.part inner).x.toNat = outer.x.toNat + inner.x.toNat ∧
      (outer.part inner).y.toNat = outer.y.toNat + inner.y.toNat := by
  have width_lt := area.width.toNat_lt
  have height_lt := area.height.toNat_lt
  simp only [Within, size] at within inside
  simp only [part, UInt32.toNat_add]
  constructor <;> apply Nat.mod_eq_of_lt <;> omega

theorem part_within : (outer.part inner).Within area := by
  obtain ⟨x_eq, y_eq⟩ := toNat_part within inside
  simp only [Within, size, x_eq, y_eq, width_part, height_part] at within inside ⊢
  omega

end
end Rect

/-- A size that has room as a rectangle in an area is a size that cells may have there. -/
theorem Size.FitsIn.of_within {cell area area' : Size} (fits : cell.FitsIn area') {rect : Rect}
    (size_eq : rect.size = cell) (within : rect.Within area) : cell.FitsIn area := by
  subst size_eq
  simp only [FitsIn, Rect.Within, Rect.size, UInt32.lt_iff_toNat_lt, UInt32.le_iff_toNat_le]
    at fits within ⊢
  omega

/-- A copy has the size that was asked for, and a copy out of a copy is one out of the picture
itself. Both are said of rectangles that lie inside alone. -/
class LawfulPicture (π : Type) [Picture π] : Prop where
  size_cut : ∀ (picture : π) (rect : Rect), rect.Within (Picture.size picture) →
    Picture.size (Picture.cut picture rect) = rect.size
  cut_cut : ∀ (picture : π) (outer inner : Rect), outer.Within (Picture.size picture) →
    inner.Within outer.size →
      Picture.cut (Picture.cut picture outer) inner = Picture.cut picture (outer.part inner)

instance : LawfulPicture Rect where
  size_cut := fun _ _ _ => rfl
  cut_cut := by
    intro picture outer inner _ _
    simp only [Picture.cut, Rect.part, UInt32.add_assoc]

theorem Bitmap.cut_cut (bitmap : Bitmap) {outer inner : Rect} (within : outer.Within bitmap.size)
    (inside : inner.Within outer.size) :
    (bitmap.cut outer).cut inner = bitmap.cut (outer.part inner) := by
  obtain ⟨x_eq, y_eq⟩ := Rect.toNat_part within inside
  apply ext_pixel?
  · rfl
  intro column row
  simp only [pixel?_cut, x_eq, y_eq, Rect.width_part, Rect.height_part]
  split
  next here =>
    -- A place of the inner copy is a place of the outer one, where nothing was filled up.
    have there : inner.x.toNat + column < outer.width.toNat ∧
        inner.y.toNat + row < outer.height.toNat := by
      simp only [Rect.Within, Rect.size] at inside
      omega
    rw [if_pos there, Option.getD_some, Nat.add_assoc, Nat.add_assoc]
  next => rfl

instance : LawfulPicture Bitmap where
  size_cut := fun _ _ _ => rfl
  cut_cut := fun bitmap _ _ within inside => bitmap.cut_cut within inside

/-! ## Rectangles that start where cells start -/

def Rect.AlignedTo (cell : Size) (rect : Rect) : Prop :=
  cell.width.toNat ∣ rect.x.toNat ∧ cell.height.toNat ∣ rect.y.toNat

namespace Rect.AlignedTo

variable {cell cell' area : Size} {outer inner : Rect}

/-- Smaller cells that fill a larger one have an edge wherever the larger one has. -/
theorem of_dvd (aligned : outer.AlignedTo cell) (width : cell'.width.toNat ∣ cell.width.toNat)
    (height : cell'.height.toNat ∣ cell.height.toNat) : outer.AlignedTo cell' :=
  ⟨Nat.dvd_trans width aligned.1, Nat.dvd_trans height aligned.2⟩

theorem part (aligned : outer.AlignedTo cell) (aligned' : inner.AlignedTo cell)
    (within : outer.Within area) (inside : inner.Within outer.size) :
    (outer.part inner).AlignedTo cell := by
  obtain ⟨x_eq, y_eq⟩ := toNat_part within inside
  rw [AlignedTo, x_eq, y_eq]
  exact ⟨Nat.dvd_add aligned.1 aligned'.1, Nat.dvd_add aligned.2 aligned'.2⟩

end Rect.AlignedTo

/-- A place on an edge is the near edge of the cell that it lies in. -/
private theorem edge_eq {step index place : Nat} (aligned : step ∣ place)
    (low : index * step ≤ place) (high : place < (index + 1) * step) : index * step = place := by
  have quotient : place / step = index := Nat.div_eq_of_lt_le low high
  rw [← quotient, Nat.div_mul_cancel aligned]

/-- A cell that starts on an edge and fits starts before what is left over at the end. -/
private theorem lt_whole {step place limit : Nat} (positive : 0 < step) (aligned : step ∣ place)
    (fits : place + step ≤ limit) : place < limit / step * step := by
  have counted : place / step < limit / step := by
    rw [Nat.lt_iff_add_one_le, ← Nat.add_div_right _ positive]
    exact Nat.div_le_div_right fits
  calc place
      = place / step * step := (Nat.div_mul_cancel aligned).symm
    _ < limit / step * step := Nat.mul_lt_mul_of_pos_right counted positive

namespace Grid

variable (grid : Grid)

theorem cellAt_within {frame : UInt32} (inside : frame.toNat < grid.count.toNat) :
    (grid.cellAt frame).Within grid.area :=
  ⟨(grid.cellAt_right_le frame).trans grid.columns_mul_le,
    (grid.cellAt_bottom_le inside).trans grid.rows_mul_le⟩

theorem cellAt_alignedTo {frame : UInt32} (inside : frame.toNat < grid.count.toNat) :
    (grid.cellAt frame).AlignedTo grid.cell := by
  rw [Rect.AlignedTo, toNat_cellAt_x, toNat_cellAt_y grid inside]
  exact ⟨Nat.dvd_mul_left .., Nat.dvd_mul_left ..⟩

section
variable {rect : Rect} (size_eq : rect.size = grid.cell) (within : rect.Within grid.area)
  (aligned : rect.AlignedTo grid.cell)
include size_eq within aligned

theorem inWhole_of_alignedTo : grid.InWhole rect.x.toNat rect.y.toNat := by
  have width_eq : rect.width = grid.cell.width := congrArg Size.width size_eq
  have height_eq : rect.height = grid.cell.height := congrArg Size.height size_eq
  rw [Rect.Within, width_eq, height_eq] at within
  rw [InWhole, toNat_columns, toNat_rows]
  exact ⟨lt_whole grid.width_pos aligned.1 within.1, lt_whole grid.height_pos aligned.2 within.2⟩

/-- A rectangle that is as large as a cell and starts where a cell starts is the cell of its
corner. -/
theorem cellAt_eq_of_alignedTo {number : UInt32}
    (named : number.toNat = grid.numberAt rect.x.toNat rect.y.toNat) :
    number.toNat < grid.count.toNat ∧ grid.cellAt number = rect := by
  -- The cell that holds the corner starts there, since the corner is on its edges.
  have whole := grid.inWhole_of_alignedTo size_eq within aligned
  obtain ⟨counted, ⟨left, right⟩, top, bottom⟩ := (grid.inCell_iff _ _ _).mpr ⟨whole, named⟩
  have inside : number.toNat < grid.count.toNat := by rwa [toNat_count]
  have x_eq : (grid.cellAt number).x = rect.x := by
    rw [← UInt32.toNat_inj, toNat_cellAt_x]
    exact edge_eq aligned.1 left right
  have y_eq : (grid.cellAt number).y = rect.y := by
    rw [← UInt32.toNat_inj, toNat_cellAt_y grid inside]
    exact edge_eq aligned.2 top bottom
  refine ⟨inside, ?_⟩
  obtain ⟨x, y, width, height⟩ := rect
  simp only [cellAt, ← size_eq] at x_eq y_eq ⊢
  rw [x_eq, y_eq]
  rfl

end
end Grid

namespace Atlas

variable {π : Type} [Picture π]

/-- A rectangle that lies like a cell is a frame, under the number of its corner. -/
theorem frame_of_alignedTo (atlas : Atlas π) {rect : Rect} (size_eq : rect.size = atlas.grid.cell)
    (within : rect.Within (Picture.size atlas.picture)) (aligned : rect.AlignedTo atlas.grid.cell)
    {number : UInt32} (named : number.toNat = atlas.grid.numberAt rect.x.toNat rect.y.toNat) :
    atlas.locate number = .ok rect ∧
      atlas.frame number = .ok (Picture.cut atlas.picture rect) := by
  rw [← atlas.covers] at within
  obtain ⟨inside, cell_eq⟩ := atlas.grid.cellAt_eq_of_alignedTo size_eq within aligned named
  rw [atlas.locate_of_lt inside, atlas.frame_of_lt inside, cell_eq]
  exact ⟨rfl, rfl⟩

/-! ## Main result -/

/-- A frame of an atlas whose own picture was copied out of a larger one at `outer`: it is what the
larger picture shows where its rectangle lies within `outer`. Cells that fill those of the larger
picture are cells of the larger picture too, and the frame is the one whose number the cell there
has, however much either size of cell leaves over. -/
structure Nested (cell : Size) (picture : π) (outer : Rect) (inner : Atlas π) (number : UInt32)
    (rect : Rect) : Prop where
  x_eq : (outer.part rect).x.toNat = outer.x.toNat + rect.x.toNat
  y_eq : (outer.part rect).y.toNat = outer.y.toNat + rect.y.toNat
  size_eq : (outer.part rect).size = inner.grid.cell
  within : (outer.part rect).Within (Picture.size picture)
  frame_eq : inner.frame number = .ok (Picture.cut picture (outer.part rect))
  filled : inner.grid.cell.width.toNat ∣ cell.width.toNat →
    inner.grid.cell.height.toNat ∣ cell.height.toNat →
      ∃ fine, (slice inner.grid.cell picture).value = .ok fine ∧
        ∀ named : UInt32, named.toNat =
            fine.grid.numberAt (outer.x.toNat + rect.x.toNat) (outer.y.toNat + rect.y.toNat) →
          fine.locate named = .ok (outer.part rect) ∧ fine.frame named = inner.frame number

theorem nested [LawfulPicture π] {cell : Size} {picture : π} {outer : Rect} {inner : Atlas π}
    (within : outer.Within (Picture.size picture)) (aligned : outer.AlignedTo cell)
    (copied : inner.picture = Picture.cut picture outer) {number : UInt32}
    (inside : number.toNat < inner.grid.count.toNat) :
    Nested cell picture outer inner number (inner.grid.cellAt number) := by
  have area_eq : inner.grid.area = outer.size := by
    rw [inner.covers, copied, LawfulPicture.size_cut picture outer within]
  have inside_outer : (inner.grid.cellAt number).Within outer.size :=
    area_eq ▸ inner.grid.cellAt_within inside
  have within_picture := Rect.part_within within inside_outer
  have frame_eq : inner.frame number =
      .ok (Picture.cut picture (outer.part (inner.grid.cellAt number))) := by
    rw [inner.frame_of_lt inside, copied, LawfulPicture.cut_cut picture _ _ within inside_outer]
  have size_eq : (outer.part (inner.grid.cellAt number)).size = inner.grid.cell := rfl
  obtain ⟨x_eq, y_eq⟩ := Rect.toNat_part within inside_outer
  refine ⟨x_eq, y_eq, size_eq, within_picture, frame_eq, ?_⟩
  intro width height
  -- The inner cells have room on the picture because one of them has room in a frame of it.
  have fits := inner.grid.fits.of_within size_eq within_picture
  obtain ⟨fine, made⟩ := (exists_slice_iff inner.grid.cell picture).mpr fits
  refine ⟨fine, made, ?_⟩
  obtain ⟨cell_eq, rfl⟩ := slice_eq_ok_iff.mp made
  intro named named_eq
  rw [← x_eq, ← y_eq] at named_eq
  -- Both corners lie on edges of the inner cells, and so does their sum.
  have aligned' := (aligned.of_dvd width height).part (inner.grid.cellAt_alignedTo inside) within
    inside_outer
  rw [← cell_eq] at size_eq aligned'
  obtain ⟨located, found⟩ := fine.frame_of_alignedTo size_eq within_picture aligned' named_eq
  exact ⟨located, found.trans frame_eq.symm⟩

/-- Cutting a frame into cells once more is cutting the picture: every frame of the inner atlas is
what the picture shows at the sum of the two corners, and a frame of the picture's own atlas if the
inner cells fill the outer ones. -/
theorem slice_nested [LawfulPicture π] (cell : Size) (picture : π) (coarse : Atlas π)
    (made : (slice cell picture).value = .ok coarse) (number : UInt32) (outer : Rect)
    (located : coarse.locate number = .ok outer) :
    ∃ part, coarse.frame number = .ok part ∧
      ∀ (cell' : Size) (inner : Atlas π), (slice cell' part).value = .ok inner →
        inner.grid.cell = cell' ∧
          ∀ (number' : UInt32) (rect : Rect), inner.locate number' = .ok rect →
            Nested cell picture outer inner number' rect := by
  obtain ⟨rfl, rfl⟩ := slice_eq_ok_iff.mp made
  obtain ⟨inside, rfl⟩ := locate_eq_ok_iff.mp located
  refine ⟨_, coarse.frame_of_lt inside, ?_⟩
  intro cell' inner made'
  obtain ⟨cell_eq, copied⟩ := slice_eq_ok_iff.mp made'
  refine ⟨cell_eq, ?_⟩
  intro number' rect located'
  obtain ⟨inside', rfl⟩ := locate_eq_ok_iff.mp located'
  have within := coarse.covers ▸ coarse.grid.cellAt_within inside
  exact nested within (coarse.grid.cellAt_alignedTo inside) copied inside'

/-- Two columns of cells with three pixels left over, and five columns of cells half as wide, one of
them in what the wide ones leave: frame 3 of frame 3 is frame 18, and its second pixel is the one in
column 7 of row 3. -/
theorem slice_nested_leftover :
    let picture := Bitmap.ofFn ⟨11, 4⟩ fun column row => ⟨column.toUInt8, row.toUInt8, 0, 255⟩
    let coarse : Atlas Bitmap := ⟨⟨⟨4, 2⟩, ⟨11, 4⟩, by decide⟩, picture, rfl⟩
    let part := picture.cut ⟨4, 2, 4, 2⟩
    let inner : Atlas Bitmap := ⟨⟨⟨2, 1⟩, ⟨4, 2⟩, by decide⟩, part, rfl⟩
    let fine : Atlas Bitmap := ⟨⟨⟨2, 1⟩, ⟨11, 4⟩, by decide⟩, picture, rfl⟩
    (slice ⟨4, 2⟩ picture).value = .ok coarse ∧ coarse.locate 3 = .ok ⟨4, 2, 4, 2⟩ ∧
      coarse.frame 3 = .ok part ∧ (slice ⟨2, 1⟩ part).value = .ok inner ∧
      inner.locate 3 = .ok ⟨2, 1, 2, 1⟩ ∧ inner.frame 3 = .ok (picture.cut ⟨6, 3, 2, 1⟩) ∧
      (picture.cut ⟨6, 3, 2, 1⟩).pixel? 1 0 = some ⟨7, 3, 0, 255⟩ ∧
      (slice ⟨2, 1⟩ picture).value = .ok fine ∧ fine.frame 18 = inner.frame 3 := by
  intro picture coarse part inner fine
  have made : (slice ⟨4, 2⟩ picture).value = .ok coarse := slice_eq_ok_iff.mpr ⟨rfl, rfl⟩
  have made' : (slice ⟨2, 1⟩ part).value = .ok inner := slice_eq_ok_iff.mpr ⟨rfl, rfl⟩
  have made'' : (slice ⟨2, 1⟩ picture).value = .ok fine := slice_eq_ok_iff.mpr ⟨rfl, rfl⟩
  have located : coarse.locate 3 = .ok ⟨4, 2, 4, 2⟩ := by decide
  have located' : inner.locate 3 = .ok ⟨2, 1, 2, 1⟩ := by decide
  obtain ⟨part', found', again⟩ := slice_nested ⟨4, 2⟩ picture coarse made 3 _ located
  obtain ⟨inside, cell_eq⟩ := locate_eq_ok_iff.mp located
  have found : coarse.frame 3 = .ok part := by
    rw [coarse.frame_of_lt inside, cell_eq]
    rfl
  obtain rfl : part' = part := Except.ok.inj (found'.symm.trans found)
  obtain ⟨-, nested⟩ := again ⟨2, 1⟩ inner made'
  have facts := nested 3 _ located'
  obtain ⟨fine', sliced, named⟩ := facts.filled (by decide) (by decide)
  obtain rfl : fine' = fine := Except.ok.inj (sliced.symm.trans made'')
  exact ⟨made, located, found, made', located', facts.frame_eq, by decide +kernel, made'',
    (named 18 (by decide)).2⟩

end Atlas
end Flipbook
