import Flipbook.Atlas.Basic
import Flipbook.Proofs.Geometry.Cells

/-! Which pictures can be cut into cells, and that every frame number leads into its own cell or is
refused. -/
namespace Flipbook.Atlas

variable {π : Type} [Picture π]

theorem slice_eq_ok_iff {cell : Size} {picture : π} {atlas : Atlas π} :
    (slice cell picture).value = .ok atlas ↔ atlas.grid.cell = cell ∧ atlas.picture = picture := by
  unfold slice
  split
  -- A grid with these cells over this picture exists, so fitting it does not fail.
  next cause fitted =>
    constructor
    · intro made
      contradiction
    · rintro ⟨rfl, rfl⟩
      rw [Grid.fit_eq_ok_iff.mpr ⟨rfl, atlas.covers⟩] at fitted
      contradiction
  next grid fitted =>
    constructor
    · intro made
      cases Except.ok.inj made
      exact ⟨(Grid.fit_eq_ok_iff.mp fitted).1, rfl⟩
    · rintro ⟨rfl, rfl⟩
      rw [Grid.fit_eq_ok_iff.mpr ⟨rfl, atlas.covers⟩] at fitted
      cases Except.ok.inj fitted
      rfl

theorem exists_slice_iff (cell : Size) (picture : π) :
    (∃ atlas, (slice cell picture).value = .ok atlas) ↔ cell.FitsIn (Picture.size picture) := by
  constructor
  · rintro ⟨atlas, made⟩
    obtain ⟨rfl, rfl⟩ := slice_eq_ok_iff.mp made
    exact atlas.covers ▸ atlas.grid.fits
  · intro fits
    exact ⟨⟨⟨cell, Picture.size picture, fits⟩, picture, rfl⟩, slice_eq_ok_iff.mpr ⟨rfl, rfl⟩⟩

theorem locate_of_lt (atlas : Atlas π) {frame : UInt32}
    (inside : frame.toNat < atlas.grid.count.toNat) :
    atlas.locate frame = .ok (atlas.grid.cellAt frame) := by
  rw [locate, atlas.grid.locate_of_lt inside]
  rfl

theorem locate_of_not_lt (atlas : Atlas π) {frame : UInt32}
    (beyond : ¬frame.toNat < atlas.grid.count.toNat) :
    atlas.locate frame =
      .error (.range (.belowLastRow frame (frame / atlas.grid.columns) atlas.grid.rows)) := by
  rw [locate, atlas.grid.locate_of_not_lt beyond]
  rfl

theorem frame_of_lt (atlas : Atlas π) {frame : UInt32}
    (inside : frame.toNat < atlas.grid.count.toNat) :
    atlas.frame frame = .ok (Picture.cut atlas.picture (atlas.grid.cellAt frame)) := by
  rw [Atlas.frame, atlas.locate_of_lt inside]
  rfl

theorem frame_of_not_lt (atlas : Atlas π) {frame : UInt32}
    (beyond : ¬frame.toNat < atlas.grid.count.toNat) :
    atlas.frame frame =
      .error (.range (.belowLastRow frame (frame / atlas.grid.columns) atlas.grid.rows)) := by
  rw [Atlas.frame, atlas.locate_of_not_lt beyond]
  rfl

theorem locate_eq_ok_iff {atlas : Atlas π} {frame : UInt32} {rect : Rect} :
    atlas.locate frame = .ok rect ↔
      frame.toNat < atlas.grid.count.toNat ∧ atlas.grid.cellAt frame = rect := by
  by_cases inside : frame.toNat < atlas.grid.count.toNat
  · simp [atlas.locate_of_lt inside, inside]
  · simp [atlas.locate_of_not_lt inside, inside]

theorem frame_eq_ok_iff {atlas : Atlas π} {frame : UInt32} {picture : π} :
    atlas.frame frame = .ok picture ↔
      frame.toNat < atlas.grid.count.toNat ∧
        Picture.cut atlas.picture (atlas.grid.cellAt frame) = picture := by
  by_cases inside : frame.toNat < atlas.grid.count.toNat
  · simp [atlas.frame_of_lt inside, inside]
  · simp [atlas.frame_of_not_lt inside, inside]

/-! ## Main result -/

/-- The rectangle of a frame: the cell at the remainder and the quotient of the frame number, inside
the whole cells and with them inside the picture. No product of words wraps, the corner gives the
number back, and the frame is what is cut out of the picture there. -/
structure Finds (atlas : Atlas π) (frame : UInt32) (rect : Rect) : Prop where
  size_eq : rect.size = atlas.grid.cell
  x_eq : rect.x.toNat =
    frame.toNat % atlas.grid.columns.toNat * atlas.grid.cell.width.toNat
  y_eq : rect.y.toNat =
    frame.toNat / atlas.grid.columns.toNat * atlas.grid.cell.height.toNat
  right_le : rect.x.toNat + rect.width.toNat ≤
    atlas.grid.columns.toNat * atlas.grid.cell.width.toNat
  bottom_le : rect.y.toNat + rect.height.toNat ≤
    atlas.grid.rows.toNat * atlas.grid.cell.height.toNat
  columns_le : atlas.grid.columns.toNat * atlas.grid.cell.width.toNat ≤
    (Picture.size atlas.picture).width.toNat
  rows_le : atlas.grid.rows.toNat * atlas.grid.cell.height.toNat ≤
    (Picture.size atlas.picture).height.toNat
  number_eq : frame.toNat =
    rect.y.toNat / atlas.grid.cell.height.toNat * atlas.grid.columns.toNat +
      rect.x.toNat / atlas.grid.cell.width.toNat
  cut_eq : atlas.frame frame = .ok (Picture.cut atlas.picture rect)

/-- Every frame number below the count finds its cell. -/
theorem finds_cellAt (atlas : Atlas π) {frame : UInt32}
    (inside : frame.toNat < atlas.grid.count.toNat) :
    atlas.Finds frame (atlas.grid.cellAt frame) where
  size_eq := rfl
  x_eq := atlas.grid.toNat_cellAt_x frame
  y_eq := atlas.grid.toNat_cellAt_y inside
  right_le := atlas.grid.cellAt_right_le frame
  bottom_le := atlas.grid.cellAt_bottom_le inside
  columns_le := atlas.covers ▸ atlas.grid.columns_mul_le
  rows_le := atlas.covers ▸ atlas.grid.rows_mul_le
  number_eq := atlas.grid.number_of_cellAt inside
  cut_eq := atlas.frame_of_lt inside

/-- What cutting a picture into cells leads to: the picture and the cells that were asked for, a
number of frames that no word cut down, and an answer for every frame number. -/
structure Indexes (cell : Size) (picture : π) (atlas : Atlas π) : Prop where
  cell_eq : atlas.grid.cell = cell
  picture_eq : atlas.picture = picture
  columns_eq : atlas.grid.columns.toNat =
    (Picture.size picture).width.toNat / cell.width.toNat
  rows_eq : atlas.grid.rows.toNat = (Picture.size picture).height.toNat / cell.height.toNat
  columns_ne : atlas.grid.columns ≠ 0
  count_lt : atlas.grid.columns.toNat * atlas.grid.rows.toNat < UInt64.size
  count_eq : atlas.grid.count.toNat = atlas.grid.columns.toNat * atlas.grid.rows.toNat
  located_iff : ∀ frame, (∃ rect, atlas.locate frame = .ok rect) ↔
    frame.toNat < atlas.grid.count.toNat
  bottom_le_iff : ∀ frame : UInt32, frame.toNat < atlas.grid.count.toNat ↔
    (frame.toNat / atlas.grid.columns.toNat + 1) * cell.height.toNat ≤
      (Picture.size picture).height.toNat
  refused : ∀ frame, ¬frame.toNat < atlas.grid.count.toNat →
    atlas.locate frame =
        .error (.range (.belowLastRow frame (frame / atlas.grid.columns) atlas.grid.rows)) ∧
      atlas.frame frame =
        .error (.range (.belowLastRow frame (frame / atlas.grid.columns) atlas.grid.rows))
  finds : ∀ frame rect, atlas.locate frame = .ok rect → atlas.Finds frame rect

theorem indexes (atlas : Atlas π) : Indexes atlas.grid.cell atlas.picture atlas where
  cell_eq := rfl
  picture_eq := rfl
  columns_eq := atlas.covers ▸ atlas.grid.toNat_columns
  rows_eq := atlas.covers ▸ atlas.grid.toNat_rows
  columns_ne := atlas.grid.columns_ne_zero
  count_lt := atlas.grid.toNat_count ▸ atlas.grid.count.toNat_lt
  count_eq := atlas.grid.toNat_count
  located_iff := by
    intro frame
    simp [locate_eq_ok_iff]
  bottom_le_iff := fun frame => atlas.covers ▸ atlas.grid.lt_count_iff_bottom_le frame
  refused := fun _ beyond => ⟨atlas.locate_of_not_lt beyond, atlas.frame_of_not_lt beyond⟩
  finds := by
    intro frame rect located
    obtain ⟨inside, rfl⟩ := locate_eq_ok_iff.mp located
    exact atlas.finds_cellAt inside

/-- Cutting succeeds exactly where one whole cell fits, and the frame numbers of the result lead
exactly to its cells. -/
theorem slice_indexes (cell : Size) (picture : π) :
    ((∃ atlas, (slice cell picture).value = .ok atlas) ↔
      (1 ≤ cell.width.toNat ∧ cell.width.toNat ≤ (Picture.size picture).width.toNat) ∧
        1 ≤ cell.height.toNat ∧ cell.height.toNat ≤ (Picture.size picture).height.toNat) ∧
    ∀ atlas, (slice cell picture).value = .ok atlas → Indexes cell picture atlas := by
  constructor
  · rw [exists_slice_iff, Size.FitsIn]
    simp only [UInt32.lt_iff_toNat_lt, UInt32.le_iff_toNat_le, UInt32.toNat_zero]
    rfl
  · intro atlas made
    obtain ⟨rfl, rfl⟩ := slice_eq_ok_iff.mp made
    exact atlas.indexes

/-- More than 2^32 cells: the last frame that a number can name is in the last row. -/
theorem slice_indexes_last_number :
    let picture : Rect := ⟨0, 0, 0xffffffff, 3⟩
    let atlas : Atlas Rect := ⟨⟨⟨2, 1⟩, ⟨0xffffffff, 3⟩, by decide⟩, picture, rfl⟩
    (slice ⟨2, 1⟩ picture).value = .ok atlas ∧
      atlas.locate 0xffffffff = .ok ⟨2, 2, 2, 1⟩ ∧ atlas.Finds 0xffffffff ⟨2, 2, 2, 1⟩ := by
  intro picture atlas
  have made : (slice ⟨2, 1⟩ picture).value = .ok atlas := slice_eq_ok_iff.mpr ⟨rfl, rfl⟩
  have located : atlas.locate 0xffffffff = .ok ⟨2, 2, 2, 1⟩ := by decide
  exact ⟨made, located, ((slice_indexes ⟨2, 1⟩ picture).2 atlas made).finds _ _ located⟩

end Flipbook.Atlas
