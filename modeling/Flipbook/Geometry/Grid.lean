import Flipbook.Fault

/-!
# A grid of equal cells

Cells of one size are laid over an area from its top left corner, row by row; what is left at the
right and at the bottom holds no whole cell and belongs to none. A grid exists only where at
least one cell fits, so its numbers of columns and rows are positive and every cell lies inside
the area.
-/
namespace Flipbook

/-- At least one cell, and not an empty one, fits into the area. -/
def Size.FitsIn (cell area : Size) : Prop :=
  (0 < cell.width ∧ cell.width ≤ area.width) ∧ 0 < cell.height ∧ cell.height ≤ area.height

instance (cell area : Size) : Decidable (cell.FitsIn area) :=
  inferInstanceAs (Decidable ((_ ∧ _) ∧ _ ∧ _))

structure Grid where
  cell : Size
  area : Size
  fits : cell.FitsIn area

namespace Grid

def columns (grid : Grid) : UInt32 := grid.area.width / grid.cell.width

def rows (grid : Grid) : UInt32 := grid.area.height / grid.cell.height

def shape (grid : Grid) : Size := ⟨grid.columns, grid.rows⟩

/-- The number of cells. It can be larger than any frame number. -/
def count (grid : Grid) : UInt64 := grid.columns.toUInt64 * grid.rows.toUInt64

/-- Some pixels of the area belong to no cell. -/
def hasPartialCells (grid : Grid) : Bool :=
  grid.area.width % grid.cell.width ≠ 0 || grid.area.height % grid.cell.height ≠ 0

private theorem fits_of_quotients {cell area : Size}
    (whole : ¬(area.width / cell.width = 0 ∨ area.height / cell.height = 0)) :
    cell.FitsIn area := by
  simp only [not_or, ← UInt32.toNat_inj, UInt32.toNat_div, UInt32.toNat_zero,
    Nat.div_eq_zero_iff, Nat.not_lt] at whole
  simp only [Size.FitsIn, UInt32.lt_iff_toNat_lt, UInt32.le_iff_toNat_le, UInt32.toNat_zero]
  omega

/-- Lay cells over an area. An empty cell is refused before the area is looked at. -/
def fit (cell area : Size) : Except GeometryFault Grid :=
  if cell.width = 0 ∨ cell.height = 0 then
    .error (.emptyCell cell)
  else if whole : area.width / cell.width = 0 ∨ area.height / cell.height = 0 then
    .error (.noWholeCell area cell)
  else
    .ok ⟨cell, area, fits_of_quotients whole⟩

theorem area_of_fit {cell area : Size} {grid : Grid} (fitted : fit cell area = .ok grid) :
    grid.area = area := by
  unfold fit at fitted
  split at fitted
  · contradiction
  · split at fitted
    · contradiction
    · rw [← Except.ok.inj fitted]

theorem columns_pos (grid : Grid) : 0 < grid.columns.toNat := by
  have fits := grid.fits.1
  simp only [UInt32.lt_iff_toNat_lt, UInt32.le_iff_toNat_le, UInt32.toNat_zero] at fits
  exact UInt32.toNat_div .. ▸ Nat.div_pos fits.2 fits.1

theorem rows_pos (grid : Grid) : 0 < grid.rows.toNat := by
  have fits := grid.fits.2
  simp only [UInt32.lt_iff_toNat_lt, UInt32.le_iff_toNat_le, UInt32.toNat_zero] at fits
  exact UInt32.toNat_div .. ▸ Nat.div_pos fits.2 fits.1

theorem toNat_count (grid : Grid) :
    grid.count.toNat = grid.columns.toNat * grid.rows.toNat := by
  -- The product of two 32-bit words fits 64 bits.
  have fits : grid.columns.toNat * grid.rows.toNat < UInt64.size :=
    Nat.lt_of_le_of_lt
      (Nat.mul_le_mul (Nat.le_of_lt_succ grid.columns.toNat_lt)
        (Nat.le_of_lt_succ grid.rows.toNat_lt))
      (by decide)
  rw [count, UInt64.toNat_mul, UInt32.toNat_toUInt64, UInt32.toNat_toUInt64]
  exact Nat.mod_eq_of_lt fits

/-- The rectangle of a cell, the cells being numbered row by row from the top left corner. -/
def locate (grid : Grid) (frame : UInt32) : Except RangeFault Rect :=
  let column := frame % grid.columns
  let row := frame / grid.columns
  if row ≥ grid.rows then
    .error (.belowLastRow frame row grid.rows)
  else
    .ok ⟨column * grid.cell.width, row * grid.cell.height, grid.cell.width, grid.cell.height⟩

end Grid
end Flipbook
