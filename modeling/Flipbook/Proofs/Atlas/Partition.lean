import Flipbook.Proofs.Atlas.Walking
import Flipbook.Raster.Bitmap

/-! The frames of an atlas part the whole cells of its picture among them, and nothing else of the
picture is ever looked at. -/
namespace Flipbook

def Rect.Contains (rect : Rect) (column row : Nat) : Prop :=
  (rect.x.toNat ≤ column ∧ column < rect.x.toNat + rect.width.toNat) ∧
    rect.y.toNat ≤ row ∧ row < rect.y.toNat + rect.height.toNat

instance (rect : Rect) (column row : Nat) : Decidable (rect.Contains column row) :=
  inferInstanceAs (Decidable ((_ ∧ _) ∧ _ ∧ _))

/-! ## The cell of a pixel -/

namespace Grid

def InWhole (grid : Grid) (column row : Nat) : Prop :=
  column < grid.columns.toNat * grid.cell.width.toNat ∧
    row < grid.rows.toNat * grid.cell.height.toNat

instance (grid : Grid) (column row : Nat) : Decidable (grid.InWhole column row) :=
  inferInstanceAs (Decidable (_ ∧ _))

/-- A pixel lies in the cell of a number, also of one that is too large for a frame number. -/
def InCell (grid : Grid) (number column row : Nat) : Prop :=
  number < grid.columns.toNat * grid.rows.toNat ∧
    (number % grid.columns.toNat * grid.cell.width.toNat ≤ column ∧
      column < (number % grid.columns.toNat + 1) * grid.cell.width.toNat) ∧
    number / grid.columns.toNat * grid.cell.height.toNat ≤ row ∧
      row < (number / grid.columns.toNat + 1) * grid.cell.height.toNat

/-- The number of the cell that a pixel lies in. -/
def numberAt (grid : Grid) (column row : Nat) : Nat :=
  row / grid.cell.height.toNat * grid.columns.toNat + column / grid.cell.width.toNat

theorem inCell_iff (grid : Grid) (number column row : Nat) :
    grid.InCell number column row ↔
      grid.InWhole column row ∧ number = grid.numberAt column row := by
  have width_pos := grid.width_pos
  have height_pos := grid.height_pos
  -- A pixel between the edges of a column has the number of that column as its quotient.
  have column_iff (index : Nat) : index * grid.cell.width.toNat ≤ column ∧
      column < (index + 1) * grid.cell.width.toNat ↔ column / grid.cell.width.toNat = index := by
    rw [Nat.div_eq_iff width_pos, Nat.succ_mul]
    omega
  have row_iff (index : Nat) : index * grid.cell.height.toNat ≤ row ∧
      row < (index + 1) * grid.cell.height.toNat ↔ row / grid.cell.height.toNat = index := by
    rw [Nat.div_eq_iff height_pos, Nat.succ_mul]
    omega
  rw [InCell, column_iff, row_iff, InWhole, ← Nat.div_lt_iff_lt_mul width_pos,
    ← Nat.div_lt_iff_lt_mul height_pos, numberAt]
  constructor
  · rintro ⟨counted, column_eq, row_eq⟩
    rw [column_eq, row_eq]
    refine ⟨⟨Nat.mod_lt _ grid.columns_pos, ?_⟩, (Nat.div_add_mod' ..).symm⟩
    exact Nat.div_lt_of_lt_mul counted
  · rintro ⟨⟨column_lt, row_lt⟩, rfl⟩
    rw [Nat.add_comm, Nat.mul_comm _ grid.columns.toNat]
    obtain ⟨row_eq, column_eq⟩ := (Nat.div_mod_unique grid.columns_pos).mpr ⟨rfl, column_lt⟩
    exact ⟨Nat.add_mul_lt_mul_of_lt_of_lt column_lt row_lt, column_eq.symm, row_eq.symm⟩

theorem cellAt_contains_iff (grid : Grid) {frame : UInt32}
    (inside : frame.toNat < grid.count.toNat) (column row : Nat) :
    (grid.cellAt frame).Contains column row ↔ grid.InCell frame.toNat column row := by
  have width_eq : (grid.cellAt frame).width = grid.cell.width := rfl
  have height_eq : (grid.cellAt frame).height = grid.cell.height := rfl
  rw [toNat_count] at inside
  rw [Rect.Contains, width_eq, height_eq, toNat_cellAt_x, toNat_cellAt_y grid
    (by rwa [toNat_count]), ← Nat.succ_mul, ← Nat.succ_mul, InCell, and_iff_right inside]

theorem eq_of_cell_of_area {left right : Grid} (cell : left.cell = right.cell)
    (area : left.area = right.area) : left = right := by
  obtain ⟨leftCell, leftArea, _⟩ := left
  obtain ⟨rightCell, rightArea, _⟩ := right
  obtain rfl : leftCell = rightCell := cell
  obtain rfl : leftArea = rightArea := area
  rfl

end Grid

/-! ## What a copy depends on -/

/-- A copy depends on the pixels in its rectangle alone. -/
theorem Bitmap.cut_congr {left right : Bitmap} {rect : Rect}
    (agree : ∀ column row, rect.Contains column row →
      left.pixel? column row = right.pixel? column row) : left.cut rect = right.cut rect := by
  apply ext_pixel?
  · rfl
  intro column row
  rw [pixel?_cut, pixel?_cut]
  split
  next inside =>
    have contained : rect.Contains (rect.x.toNat + column) (rect.y.toNat + row) := by
      unfold Rect.Contains
      omega
    rw [agree _ _ contained]
  next => rfl

namespace Atlas

section
variable {π : Type} [Picture π]

/-- Frames, walks and reels do not tell the two atlases apart. -/
structure Alike (left right : Atlas π) : Prop where
  frame_eq : ∀ frame, left.frame frame = right.frame frame
  remaining_eq : ∀ skip, (left.walk.drop skip).remaining = (right.walk.drop skip).remaining
  take_eq : ∀ skip n, (left.walk.drop skip).take n #[] = (right.walk.drop skip).take n #[]
  reel_eq : ∀ first count rate, left.reel first count rate = right.reel first count rate

/-- Walks and reels look at a picture only through its frames. -/
theorem alike_of_frame_eq {left right : Atlas π} (grid_eq : left.grid = right.grid)
    (frame_eq : ∀ frame, left.frame frame = right.frame frame) : Alike left right where
  frame_eq := frame_eq
  remaining_eq := by
    intro skip
    rw [((Walk.standsAt_walk left).drop skip).remaining_eq,
      ((Walk.standsAt_walk right).drop skip).remaining_eq, grid_eq]
  take_eq := by
    intro skip n
    -- Both walks give the answers of their atlas in order, and these agree number by number.
    rw [← Array.toList_inj, Walk.toList_take_drop, Walk.toList_take_drop]
    apply List.map_congr_left
    intro asked _
    unfold handed
    rw [← grid_eq]
    split
    next named =>
      have same := frame_eq (UInt32.ofNat asked)
      rw [left.frame_of_lt_reach named, right.frame_of_lt_reach (grid_eq ▸ named)] at same
      rw [Except.ok.inj same]
    next => rfl
  reel_eq := by
    intro first count rate
    -- The check asks the grid alone, and the frames are copied one by one.
    have check_eq : left.checkRun first count = right.checkRun first count := by
      unfold checkRun locate
      rw [grid_eq]
    have run_eq : left.run first count = right.run first count := by
      unfold run
      simp only [frame_eq]
    rw [reel, check_eq, run_eq, reel]

end

theorem frame_eq_of_agree {left right : Atlas Bitmap} (grid_eq : left.grid = right.grid)
    (agree : ∀ column row, left.grid.InWhole column row →
      left.picture.pixel? column row = right.picture.pixel? column row) (frame : UInt32) :
    left.frame frame = right.frame frame := by
  by_cases inside : frame.toNat < left.grid.count.toNat
  · rw [left.frame_of_lt inside, right.frame_of_lt (grid_eq ▸ inside), ← grid_eq]
    congr 1
    apply Bitmap.cut_congr
    intro column row contained
    have celled := (left.grid.cellAt_contains_iff inside column row).mp contained
    exact agree column row ((left.grid.inCell_iff ..).mp celled).1
  · rw [left.frame_of_not_lt inside, right.frame_of_not_lt (grid_eq ▸ inside), grid_eq]

/-- The rectangle of a frame holds the pixels of the whole cells whose number the frame has. -/
theorem located_contains_iff {π : Type} [Picture π] {atlas : Atlas π} {frame : UInt32} {rect : Rect}
    (located : atlas.locate frame = .ok rect) (column row : Nat) :
    rect.Contains column row ↔
      atlas.grid.InWhole column row ∧ frame.toNat = atlas.grid.numberAt column row := by
  obtain ⟨inside, rfl⟩ := locate_eq_ok_iff.mp located
  rw [atlas.grid.cellAt_contains_iff inside, Grid.inCell_iff]

theorem exists_located (atlas : Atlas Bitmap) {column row : Nat}
    (whole : atlas.grid.InWhole column row)
    (small : atlas.grid.numberAt column row < UInt32.size) :
    ∃ rect, atlas.locate (UInt32.ofNat (atlas.grid.numberAt column row)) = .ok rect ∧
      rect.Contains column row := by
  have number_eq := UInt32.toNat_ofNat_of_lt' small
  have celled := (atlas.grid.inCell_iff _ column row).mpr ⟨whole, rfl⟩
  have inside : (UInt32.ofNat (atlas.grid.numberAt column row)).toNat < atlas.grid.count.toNat := by
    rw [number_eq, Grid.toNat_count]
    exact celled.1
  have located := atlas.locate_of_lt inside
  exact ⟨_, located, (located_contains_iff located column row).mpr ⟨whole, number_eq⟩⟩

/-- The rectangle of a frame lies inside the picture, so every place of it has a pixel there. -/
theorem exists_pixel_in_cell (atlas : Atlas Bitmap) {frame : UInt32}
    (inside : frame.toNat < atlas.grid.count.toNat) {column row : Nat}
    (column_lt : column < atlas.grid.cell.width.toNat)
    (row_lt : row < atlas.grid.cell.height.toNat) :
    ∃ pixel, atlas.picture.pixel? ((atlas.grid.cellAt frame).x.toNat + column)
      ((atlas.grid.cellAt frame).y.toNat + row) = some pixel := by
  have covers : atlas.grid.area = atlas.picture.size := atlas.covers
  have right_le := (atlas.grid.cellAt_right_le frame).trans atlas.grid.columns_mul_le
  have bottom_le := (atlas.grid.cellAt_bottom_le inside).trans atlas.grid.rows_mul_le
  rw [covers] at right_le bottom_le
  apply Option.isSome_iff_exists.mp
  rw [Bitmap.pixel?_isSome]
  exact ⟨by omega, by omega⟩

/-! ## Main result -/

/-- The image is a copy, of the size of a cell, of what the picture shows at the rectangle. -/
def CopiedFrom (atlas : Atlas Bitmap) (rect : Rect) (image : Bitmap) : Prop :=
  image.size = atlas.grid.cell ∧
    ∀ column < atlas.grid.cell.width.toNat, ∀ row < atlas.grid.cell.height.toNat,
      ∃ pixel, image.pixel? column row = some pixel ∧
        atlas.picture.pixel? (rect.x.toNat + column) (rect.y.toNat + row) = some pixel

theorem exists_copied (atlas : Atlas Bitmap) {frame : UInt32} {image : Bitmap}
    (found : atlas.frame frame = .ok image) :
    ∃ rect, atlas.locate frame = .ok rect ∧ atlas.CopiedFrom rect image := by
  obtain ⟨inside, rfl⟩ := frame_eq_ok_iff.mp found
  refine ⟨_, atlas.locate_of_lt inside, rfl, ?_⟩
  intro column column_lt row row_lt
  obtain ⟨pixel, shown⟩ := atlas.exists_pixel_in_cell inside column_lt row_lt
  have here : column < (atlas.grid.cellAt frame).width.toNat ∧
      row < (atlas.grid.cellAt frame).height.toNat := ⟨column_lt, row_lt⟩
  refine ⟨pixel, ?_, shown⟩
  exact (Bitmap.pixel?_cut ..).trans (by rw [if_pos here, shown, Option.getD_some])

/-- The cells of an atlas share out the pixels of its whole cells: each pixel lies in one cell, and
in the rectangle of one frame if that cell has a frame number. No rectangle goes beyond. -/
structure Partitions (atlas : Atlas Bitmap) : Prop where
  framed : ∀ frame : UInt32, frame.toNat < atlas.grid.count.toNat ↔
    ∃ image, atlas.frame frame = .ok image
  copied : ∀ frame image, atlas.frame frame = .ok image →
    ∃ rect, atlas.locate frame = .ok rect ∧ atlas.CopiedFrom rect image
  inCell_iff : ∀ column row, atlas.grid.InWhole column row → ∀ number,
    atlas.grid.InCell number column row ↔ number = atlas.grid.numberAt column row
  located : ∀ column row, atlas.grid.InWhole column row →
    atlas.grid.numberAt column row < UInt32.size →
      ∃ rect, atlas.locate (UInt32.ofNat (atlas.grid.numberAt column row)) = .ok rect ∧
        rect.Contains column row
  alone : ∀ column row frame rect, atlas.locate frame = .ok rect → rect.Contains column row →
    frame.toNat = atlas.grid.numberAt column row
  outside : ∀ column row, ¬atlas.grid.InWhole column row →
    ∀ frame rect, atlas.locate frame = .ok rect → ¬rect.Contains column row
  disjoint : ∀ frame frame' rect rect', frame ≠ frame' → atlas.locate frame = .ok rect →
    atlas.locate frame' = .ok rect' →
      ∀ column row, ¬(rect.Contains column row ∧ rect'.Contains column row)

theorem partitions (atlas : Atlas Bitmap) : atlas.Partitions where
  framed := by
    intro frame
    simp only [frame_eq_ok_iff, exists_and_left, exists_eq', and_true]
  copied := fun _ _ found => atlas.exists_copied found
  inCell_iff := by
    intro column row whole number
    rw [Grid.inCell_iff, and_iff_right whole]
  located := fun _ _ whole small => atlas.exists_located whole small
  alone := fun column row _ _ located contained =>
    ((located_contains_iff located column row).mp contained).2
  outside := fun column row beyond _ _ located contained =>
    beyond ((located_contains_iff located column row).mp contained).1
  disjoint := by
    intro frame frame' rect rect' differ located located' column row
    rintro ⟨contained, contained'⟩
    have number := ((located_contains_iff located column row).mp contained).2
    have number' := ((located_contains_iff located' column row).mp contained').2
    exact differ (UInt32.toNat_inj.mp (number.trans number'.symm))

/-- Cutting a picture into cells neither loses nor doubles a pixel of the whole cells, and what lies
beside them has no influence: a picture of the same size with the same whole cells gives the same
frames, walks and reels. -/
theorem slice_partitions (cell : Size) (picture : Bitmap) (atlas : Atlas Bitmap)
    (made : (slice cell picture).value = .ok atlas) :
    atlas.grid.cell = cell ∧ atlas.picture = picture ∧ atlas.Partitions ∧
    ∀ (other : Bitmap) (atlas' : Atlas Bitmap), (slice cell other).value = .ok atlas' →
      other.size = picture.size →
      (∀ column row, atlas.grid.InWhole column row →
        other.pixel? column row = picture.pixel? column row) →
      Alike atlas' atlas := by
  obtain ⟨cell_eq, rfl⟩ := slice_eq_ok_iff.mp made
  refine ⟨cell_eq, rfl, atlas.partitions, ?_⟩
  intro other atlas' made' size_eq agree
  obtain ⟨cell_eq', rfl⟩ := slice_eq_ok_iff.mp made'
  have grid_eq : atlas'.grid = atlas.grid := by
    apply Grid.eq_of_cell_of_area
    · rw [cell_eq, cell_eq']
    · exact atlas'.covers.trans (size_eq.trans atlas.covers.symm)
  exact alike_of_frame_eq grid_eq (frame_eq_of_agree grid_eq (grid_eq ▸ agree))

/-- Four cells over a picture with a column left over at the right, and a second picture that
differs from it there alone. -/
theorem slice_partitions_leftover :
    let picture := Bitmap.ofFn ⟨5, 4⟩ fun column row => ⟨column.toUInt8, row.toUInt8, 0, 255⟩
    let other := Bitmap.ofFn ⟨5, 4⟩ fun column row =>
      ⟨if column < 4 then column.toUInt8 else 99, row.toUInt8, 0, 255⟩
    let atlas : Atlas Bitmap := ⟨⟨⟨2, 2⟩, ⟨5, 4⟩, by decide⟩, picture, rfl⟩
    let atlas' : Atlas Bitmap := ⟨⟨⟨2, 2⟩, ⟨5, 4⟩, by decide⟩, other, rfl⟩
    (slice ⟨2, 2⟩ picture).value = .ok atlas ∧ (slice ⟨2, 2⟩ other).value = .ok atlas' ∧
      atlas.grid.InWhole 3 2 ∧ atlas.grid.numberAt 3 2 = 3 ∧
      (∃ rect, atlas.locate 3 = .ok rect ∧ rect.Contains 3 2) ∧
      (∃ image, atlas.frame 3 = .ok image ∧ image.pixel? 1 0 = some ⟨3, 2, 0, 255⟩) ∧
      ¬atlas.grid.InWhole 4 2 ∧ atlas.picture.pixel? 4 2 ≠ atlas'.picture.pixel? 4 2 ∧
      (∀ frame rect, atlas.locate frame = .ok rect → ¬rect.Contains 4 2) ∧
      Alike atlas' atlas := by
  intro picture other atlas atlas'
  have made : (slice ⟨2, 2⟩ picture).value = .ok atlas := slice_eq_ok_iff.mpr ⟨rfl, rfl⟩
  have made' : (slice ⟨2, 2⟩ other).value = .ok atlas' := slice_eq_ok_iff.mpr ⟨rfl, rfl⟩
  have whole : atlas.grid.InWhole 3 2 := by decide
  have beside : ¬atlas.grid.InWhole 4 2 := by decide
  have number : atlas.grid.numberAt 3 2 = 3 := by decide
  have edge : atlas.grid.columns.toNat * atlas.grid.cell.width.toNat = 4 := by decide
  have agree : ∀ column row, atlas.grid.InWhole column row →
      other.pixel? column row = picture.pixel? column row := by
    rintro column row ⟨column_lt, -⟩
    rw [edge] at column_lt
    rw [Bitmap.pixel?_ofFn, Bitmap.pixel?_ofFn]
    simp only [column_lt, if_true]
  obtain ⟨-, -, parts, alike⟩ := slice_partitions ⟨2, 2⟩ picture atlas made
  have located := parts.located 3 2 whole (by decide)
  rw [number] at located
  obtain ⟨image, framed⟩ := (parts.framed 3).mp (by decide)
  obtain ⟨rect, cornered, -, shows⟩ := parts.copied 3 image framed
  have rect_eq : atlas.locate 3 = .ok ⟨2, 2, 2, 2⟩ := by decide
  obtain rfl : rect = ⟨2, 2, 2, 2⟩ := Except.ok.inj (cornered.symm.trans rect_eq)
  obtain ⟨pixel, copied, shown⟩ := shows 1 (by decide) 0 (by decide)
  have pixel_eq : atlas.picture.pixel? 3 2 = some ⟨3, 2, 0, 255⟩ := by decide +kernel
  obtain rfl : pixel = ⟨3, 2, 0, 255⟩ := Option.some.inj (shown.symm.trans pixel_eq)
  exact ⟨made, made', whole, number, located, ⟨image, framed, copied⟩, beside, by decide +kernel,
    parts.outside 4 2 beside, alike other atlas' made' rfl agree⟩

end Atlas
end Flipbook
