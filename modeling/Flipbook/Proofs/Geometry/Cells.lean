import Flipbook.Geometry.Grid
import Mathlib.Data.List.Nodup
import Mathlib.Data.List.Range

/-! Where the cells of a grid lie, in unbounded arithmetic, and how they are numbered. -/
namespace Flipbook.Grid

/-- The rectangle of a frame number, without a look at the number of rows. -/
def cellAt (grid : Grid) (frame : UInt32) : Rect :=
  ⟨frame % grid.columns * grid.cell.width, frame / grid.columns * grid.cell.height,
    grid.cell.width, grid.cell.height⟩

/-- The rectangle of all whole cells together. -/
def whole (grid : Grid) : Rect :=
  ⟨0, 0, grid.columns * grid.cell.width, grid.rows * grid.cell.height⟩

theorem width_pos (grid : Grid) : 0 < grid.cell.width.toNat :=
  UInt32.lt_iff_toNat_lt.mp grid.fits.1.1

theorem height_pos (grid : Grid) : 0 < grid.cell.height.toNat :=
  UInt32.lt_iff_toNat_lt.mp grid.fits.2.1

private theorem ne_zero_of_pos {word : UInt32} (positive : 0 < word.toNat) : word ≠ 0 := by
  rintro rfl
  exact Nat.lt_irrefl 0 positive

theorem columns_ne_zero (grid : Grid) : grid.columns ≠ 0 := ne_zero_of_pos grid.columns_pos

/-- A grid is made exactly of the cell size and the area that it is asked for. -/
theorem fit_eq_ok_iff {cell area : Size} {grid : Grid} :
    fit cell area = .ok grid ↔ grid.cell = cell ∧ grid.area = area := by
  constructor
  · intro fitted
    refine ⟨?_, area_of_fit fitted⟩
    unfold fit at fitted
    split at fitted
    · contradiction
    · split at fitted
      · contradiction
      · rw [← Except.ok.inj fitted]
  · rintro ⟨rfl, rfl⟩
    have proper : ¬(grid.cell.width = 0 ∨ grid.cell.height = 0) :=
      not_or.mpr ⟨ne_zero_of_pos grid.width_pos, ne_zero_of_pos grid.height_pos⟩
    have whole : ¬(grid.area.width / grid.cell.width = 0 ∨
        grid.area.height / grid.cell.height = 0) :=
      not_or.mpr ⟨grid.columns_ne_zero, ne_zero_of_pos grid.rows_pos⟩
    unfold fit
    rw [if_neg proper, dif_neg whole]

-- A product that lies inside the area does not wrap.
private theorem toNat_mul_of_le {index size limit : UInt32}
    (fits : index.toNat * size.toNat ≤ limit.toNat) :
    (index * size).toNat = index.toNat * size.toNat := by
  rw [UInt32.toNat_mul]
  exact Nat.mod_eq_of_lt (Nat.lt_of_le_of_lt fits limit.toNat_lt)

theorem toNat_columns (grid : Grid) :
    grid.columns.toNat = grid.area.width.toNat / grid.cell.width.toNat :=
  UInt32.toNat_div ..

theorem toNat_rows (grid : Grid) :
    grid.rows.toNat = grid.area.height.toNat / grid.cell.height.toNat :=
  UInt32.toNat_div ..

theorem columns_mul_le (grid : Grid) :
    grid.columns.toNat * grid.cell.width.toNat ≤ grid.area.width.toNat := by
  rw [toNat_columns]
  exact Nat.div_mul_le_self ..

theorem rows_mul_le (grid : Grid) :
    grid.rows.toNat * grid.cell.height.toNat ≤ grid.area.height.toNat := by
  rw [toNat_rows]
  exact Nat.div_mul_le_self ..

theorem toNat_whole_width (grid : Grid) :
    grid.whole.width.toNat = grid.columns.toNat * grid.cell.width.toNat :=
  toNat_mul_of_le grid.columns_mul_le

theorem toNat_whole_height (grid : Grid) :
    grid.whole.height.toNat = grid.rows.toNat * grid.cell.height.toNat :=
  toNat_mul_of_le grid.rows_mul_le

theorem column_lt (grid : Grid) (frame : UInt32) :
    frame.toNat % grid.columns.toNat < grid.columns.toNat :=
  Nat.mod_lt _ grid.columns_pos

theorem row_lt_iff (grid : Grid) (frame : UInt32) :
    frame.toNat / grid.columns.toNat < grid.rows.toNat ↔ frame.toNat < grid.count.toNat := by
  rw [Nat.div_lt_iff_lt_mul grid.columns_pos, toNat_count, Nat.mul_comm]

/-- The number of rows says the same as the height of the area: a frame is on the grid iff its cell
ends inside the area. -/
theorem lt_count_iff_bottom_le (grid : Grid) (frame : UInt32) :
    frame.toNat < grid.count.toNat ↔
      (frame.toNat / grid.columns.toNat + 1) * grid.cell.height.toNat ≤ grid.area.height.toNat := by
  rw [← row_lt_iff, toNat_rows, ← Nat.le_div_iff_mul_le grid.height_pos, Nat.lt_iff_add_one_le]

theorem toNat_cellAt_x (grid : Grid) (frame : UInt32) :
    (grid.cellAt frame).x.toNat =
      frame.toNat % grid.columns.toNat * grid.cell.width.toNat := by
  have fits : (frame % grid.columns).toNat * grid.cell.width.toNat ≤ grid.area.width.toNat := by
    rw [UInt32.toNat_mod]
    exact (Nat.mul_le_mul_right _ (grid.column_lt frame).le).trans grid.columns_mul_le
  rw [cellAt, toNat_mul_of_le fits, UInt32.toNat_mod]

theorem toNat_cellAt_y (grid : Grid) {frame : UInt32} (inside : frame.toNat < grid.count.toNat) :
    (grid.cellAt frame).y.toNat =
      frame.toNat / grid.columns.toNat * grid.cell.height.toNat := by
  have fits : (frame / grid.columns).toNat * grid.cell.height.toNat ≤ grid.area.height.toNat := by
    rw [UInt32.toNat_div]
    have row_lt := (grid.row_lt_iff frame).mpr inside
    exact (Nat.mul_le_mul_right _ row_lt.le).trans grid.rows_mul_le
  rw [cellAt, toNat_mul_of_le fits, UInt32.toNat_div]

theorem locate_of_lt (grid : Grid) {frame : UInt32} (inside : frame.toNat < grid.count.toNat) :
    grid.locate frame = .ok (grid.cellAt frame) := by
  have above : ¬frame / grid.columns ≥ grid.rows := by
    rw [ge_iff_le, UInt32.le_iff_toNat_le, UInt32.toNat_div, Nat.not_le]
    exact (grid.row_lt_iff frame).mpr inside
  unfold locate
  rw [if_neg above]
  rfl

theorem locate_of_not_lt (grid : Grid) {frame : UInt32}
    (beyond : ¬frame.toNat < grid.count.toNat) :
    grid.locate frame = .error (.belowLastRow frame (frame / grid.columns) grid.rows) := by
  have below : frame / grid.columns ≥ grid.rows := by
    rw [ge_iff_le, UInt32.le_iff_toNat_le, UInt32.toNat_div, ← Nat.not_lt]
    exact mt (grid.row_lt_iff frame).mp beyond
  unfold locate
  rw [if_pos below]

theorem cellAt_right_le (grid : Grid) (frame : UInt32) :
    (grid.cellAt frame).x.toNat + grid.cell.width.toNat ≤
      grid.columns.toNat * grid.cell.width.toNat := by
  rw [toNat_cellAt_x, ← Nat.succ_mul]
  exact Nat.mul_le_mul_right _ (grid.column_lt frame)

theorem cellAt_bottom_le (grid : Grid) {frame : UInt32}
    (inside : frame.toNat < grid.count.toNat) :
    (grid.cellAt frame).y.toNat + grid.cell.height.toNat ≤
      grid.rows.toNat * grid.cell.height.toNat := by
  rw [toNat_cellAt_y grid inside, ← Nat.succ_mul]
  exact Nat.mul_le_mul_right _ ((grid.row_lt_iff frame).mpr inside)

/-- The corner of a cell gives its number back. -/
theorem number_of_cellAt (grid : Grid) {frame : UInt32}
    (inside : frame.toNat < grid.count.toNat) :
    frame.toNat =
      (grid.cellAt frame).y.toNat / grid.cell.height.toNat * grid.columns.toNat +
        (grid.cellAt frame).x.toNat / grid.cell.width.toNat := by
  rw [toNat_cellAt_y grid inside, toNat_cellAt_x, Nat.mul_div_cancel _ grid.height_pos,
    Nat.mul_div_cancel _ grid.width_pos]
  exact (Nat.div_add_mod' ..).symm

/-! ## Numbers of frames -/

/-- The numbers of all frames of a grid. -/
def frames (grid : Grid) : List UInt32 := (List.range grid.count.toNat).map UInt32.ofNat

section
variable {grid : Grid} (addressable : grid.count.toNat ≤ UInt32.size)
include addressable

theorem mem_frames (frame : UInt32) : frame ∈ grid.frames ↔ frame.toNat < grid.count.toNat := by
  unfold frames
  rw [List.mem_map]
  constructor
  · rintro ⟨number, counted, rfl⟩
    have inside := List.mem_range.mp counted
    rwa [UInt32.toNat_ofNat_of_lt' (Nat.lt_of_lt_of_le inside addressable)]
  · intro inside
    exact ⟨frame.toNat, List.mem_range.mpr inside, UInt32.ofNat_toNat⟩

theorem nodup_frames : grid.frames.Nodup := by
  apply List.Nodup.map_on _ List.nodup_range
  intro a counted b counted' equal
  have small := Nat.lt_of_lt_of_le (List.mem_range.mp counted) addressable
  have small' := Nat.lt_of_lt_of_le (List.mem_range.mp counted') addressable
  rw [← UInt32.toNat_ofNat_of_lt' small, equal, UInt32.toNat_ofNat_of_lt' small']

theorem lt_count_of_perm {order : List UInt32} (complete : order.Perm grid.frames) :
    ∀ frame ∈ order, frame.toNat < grid.count.toNat := by
  intro frame listed
  exact (mem_frames addressable frame).mp (complete.mem_iff.mp listed)

end

end Flipbook.Grid
