import Flipbook.Proofs.Atlas.Indexing
import Flipbook.Proofs.Raster.Compositing

/-! An atlas drawn frame by frame, in whatever order, is its sheet drawn in one go. -/
namespace Flipbook

/-! ## The pieces of a stretch -/

namespace Stretch

/-- `part` is one of the equal pieces that `whole` falls into, both stretched by the same whole
factor. -/
structure PieceOf (part whole : Stretch) (factor index : Nat) : Prop where
  factor_pos : 0 < factor
  source_pos : 0 < part.source.toNat
  inside : (index + 1) * part.source.toNat ≤ whole.source.toNat
  part_length : part.length.toNat = factor * part.source.toNat
  whole_length : whole.length.toNat = factor * whole.source.toNat
  origin : part.origin.toInt = whole.origin.toInt + (factor * (index * part.source.toNat) : Nat)

theorem sampled_of_factor (stretch : Stretch) {factor : Nat}
    (length : stretch.length.toNat = factor * stretch.source.toNat)
    (source_pos : 0 < stretch.source.toNat) (place : Int) :
    stretch.sampled place = stretch.offset place / factor := by
  rw [sampled, length]
  exact Nat.mul_div_mul_right _ _ source_pos

theorem Covers.sampled_div_lt {stretch : Stretch} {place : Int} (covered : stretch.Covers place)
    {size number : Nat} (size_pos : 0 < size) (parts : stretch.source.toNat = number * size) :
    stretch.sampled place / size < number := by
  rw [Nat.div_lt_iff_lt_mul size_pos, ← parts]
  exact stretch.sampled_lt covered

namespace PieceOf

variable {part whole : Stretch} {factor index : Nat}

theorem whole_source_pos (piece : PieceOf part whole factor index) : 0 < whole.source.toNat := by
  have room : 1 * part.source.toNat ≤ (index + 1) * part.source.toNat :=
    Nat.mul_le_mul_right _ (Nat.le_add_left 1 index)
  have := piece.source_pos
  have := piece.inside
  omega

theorem sampled_whole (piece : PieceOf part whole factor index) {place : Int}
    (covered : part.Covers place) :
    whole.sampled place = index * part.source.toNat + part.sampled place := by
  have offset_eq : whole.offset place =
      factor * (index * part.source.toNat) + part.offset place := by
    have origin := piece.origin
    obtain ⟨_, low, _⟩ := covered
    unfold offset
    omega
  -- Both divide by the factor alone, and the pixels before the piece are a whole multiple of it.
  rw [whole.sampled_of_factor piece.whole_length piece.whole_source_pos,
    part.sampled_of_factor piece.part_length piece.source_pos, offset_eq,
    Nat.mul_add_div piece.factor_pos]

/-- A place belongs to the piece that its pixel of the whole lies in. -/
theorem covers_iff (piece : PieceOf part whole factor index) (place : Int) :
    part.Covers place ↔ whole.Covers place ∧ whole.sampled place / part.source.toNat = index := by
  have origin := piece.origin
  have stretched : factor * ((index + 1) * part.source.toNat) =
      factor * (index * part.source.toNat) + factor * part.source.toNat := by
    rw [Nat.succ_mul, Nat.mul_add]
  constructor
  · intro covered
    have sampled_eq := piece.sampled_whole covered
    have sampled_lt := part.sampled_lt covered
    have end_le : factor * ((index + 1) * part.source.toNat) ≤ whole.length.toNat := by
      rw [piece.whole_length]
      exact Nat.mul_le_mul_left factor piece.inside
    obtain ⟨_, low, high⟩ := covered
    rw [piece.part_length] at high
    refine ⟨⟨piece.whole_source_pos, by omega, by omega⟩, ?_⟩
    rw [sampled_eq, Nat.mul_comm index, Nat.mul_add_div piece.source_pos,
      Nat.div_eq_of_lt sampled_lt, Nat.add_zero]
  · rintro ⟨⟨_, low, _⟩, here⟩
    have positive := Nat.mul_pos piece.factor_pos piece.source_pos
    -- Two divisions in a row are one, by the length of a piece, which bounds the offset both ways.
    rw [whole.sampled_of_factor piece.whole_length piece.whole_source_pos,
      Nat.div_div_eq_div_mul, Nat.div_eq_iff positive] at here
    obtain ⟨above, below⟩ := here
    rw [Nat.mul_left_comm] at above below
    unfold offset at above below
    refine ⟨piece.source_pos, by omega, ?_⟩
    rw [piece.part_length]
    omega

end PieceOf

/-- The stretch of a run of pixels of a sheet whose first pixel lies at `corner`. -/
def laid (corner : Int) (factor : Nat) (start length : UInt32) : Stretch :=
  ⟨Int64.ofInt (corner + factor * start.toNat), UInt32.ofNat (factor * length.toNat), length⟩

theorem toInt_origin_laid {corner : Int} {factor : Nat} {start length : UInt32}
    (near : corner.natAbs ≤ 2 ^ 62) (short : factor * start.toNat < UInt32.size) :
    (laid corner factor start length).origin.toInt = corner + (factor * start.toNat : Nat) := by
  have size_lt : UInt32.size < 2 ^ 33 := by decide
  rw [laid, ← Int.natCast_mul]
  exact Int64.toInt_ofInt_of_le (by omega) (by omega)

theorem pieceOf_laid {corner : Int} {factor index number : Nat} {start size extent : UInt32}
    (near : corner.natAbs ≤ 2 ^ 62) (factor_pos : 0 < factor) (size_pos : 0 < size.toNat)
    (start_eq : start.toNat = index * size.toNat) (extent_eq : extent.toNat = number * size.toNat)
    (index_lt : index < number) (short : factor * extent.toNat < UInt32.size) :
    PieceOf (laid corner factor start size) (laid corner factor 0 extent) factor index := by
  have inside : (index + 1) * size.toNat ≤ extent.toNat := by
    rw [extent_eq]
    exact Nat.mul_le_mul_right _ index_lt
  have start_le : factor * start.toNat ≤ factor * extent.toNat := by
    rw [start_eq]
    exact Nat.mul_le_mul_left _ (Nat.le_trans (Nat.mul_le_mul_right _ (Nat.le_succ _)) inside)
  have size_le : factor * size.toNat ≤ factor * extent.toNat :=
    Nat.mul_le_mul_left _ (Nat.le_trans (Nat.le_mul_of_pos_left _ (Nat.succ_pos _)) inside)
  exact {
    factor_pos := factor_pos
    source_pos := size_pos
    inside := inside
    part_length := UInt32.toNat_ofNat_of_lt' (Nat.lt_of_le_of_lt size_le short)
    whole_length := UInt32.toNat_ofNat_of_lt' short
    origin := by
      rw [toInt_origin_laid near (Nat.lt_of_le_of_lt start_le short), toInt_origin_laid near
        (by simp), start_eq]
      simp [laid] }

end Stretch

/-! ## Frames on a surface -/

/-- Where the corner of a sheet lies on a surface, and how many pixels of the surface a pixel of
the sheet fills each way. -/
structure Layout where
  x : Int
  y : Int
  across : Nat
  down : Nat

namespace Layout

/-- The stamp of what was cut out of the sheet at `rect`. -/
def stamp (layout : Layout) (image : Bitmap) (rect : Rect) : Stamp where
  image := image
  x := Int64.ofInt (layout.x + layout.across * rect.x.toNat)
  y := Int64.ofInt (layout.y + layout.down * rect.y.toNat)
  size :=
    ⟨UInt32.ofNat (layout.across * rect.width.toNat),
      UInt32.ofNat (layout.down * rect.height.toNat)⟩

/-- Draw one frame of an atlas in its place. -/
def drawFrame (mix : Rgba → Rgba → Rgba) (layout : Layout) (atlas : Atlas Bitmap)
    (surface : Bitmap) (frame : UInt32) : Except Fault Bitmap := do
  let rect ← atlas.locate frame
  let image ← atlas.frame frame
  return surface.stamp mix (layout.stamp image rect)

def sheet (layout : Layout) (atlas : Atlas Bitmap) : Stamp :=
  layout.stamp (atlas.picture.cut atlas.grid.whole) atlas.grid.whole

/-- The corner is at most 2^62 away from the origin, and the stretched cells fit a word each way. -/
structure Fits (layout : Layout) (grid : Grid) : Prop where
  x_le : layout.x.natAbs ≤ 2 ^ 62
  y_le : layout.y.natAbs ≤ 2 ^ 62
  across_pos : 0 < layout.across
  down_pos : 0 < layout.down
  across_lt : layout.across * (grid.columns.toNat * grid.cell.width.toNat) < UInt32.size
  down_lt : layout.down * (grid.rows.toNat * grid.cell.height.toNat) < UInt32.size

def tile (layout : Layout) (atlas : Atlas Bitmap) (frame : UInt32) : Stamp :=
  layout.stamp (atlas.picture.cut (atlas.grid.cellAt frame)) (atlas.grid.cellAt frame)

variable {layout : Layout} {atlas : Atlas Bitmap} {frame : UInt32}

theorem drawFrame_of_lt (mix : Rgba → Rgba → Rgba) (surface : Bitmap)
    (inside : frame.toNat < atlas.grid.count.toNat) :
    layout.drawFrame mix atlas surface frame =
      .ok (surface.stamp mix (layout.tile atlas frame)) := by
  rw [drawFrame, atlas.locate_of_lt inside, atlas.frame_of_lt inside]
  rfl

theorem tile_across (fits : layout.Fits atlas.grid) (frame : UInt32) :
    Stretch.PieceOf (layout.tile atlas frame).across (layout.sheet atlas).across layout.across
      (frame.toNat % atlas.grid.columns.toNat) := by
  apply Stretch.pieceOf_laid fits.x_le fits.across_pos atlas.grid.width_pos
    (atlas.grid.toNat_cellAt_x frame) atlas.grid.toNat_whole_width (atlas.grid.column_lt frame)
  rw [Grid.toNat_whole_width]
  exact fits.across_lt

theorem tile_down (fits : layout.Fits atlas.grid) (inside : frame.toNat < atlas.grid.count.toNat) :
    Stretch.PieceOf (layout.tile atlas frame).down (layout.sheet atlas).down layout.down
      (frame.toNat / atlas.grid.columns.toNat) := by
  apply Stretch.pieceOf_laid fits.y_le fits.down_pos atlas.grid.height_pos
    (atlas.grid.toNat_cellAt_y inside) atlas.grid.toNat_whole_height
    ((atlas.grid.row_lt_iff frame).mpr inside)
  rw [Grid.toNat_whole_height]
  exact fits.down_lt

/-- The number of the frame that the sheet shows at a place. -/
def frameAt (layout : Layout) (atlas : Atlas Bitmap) (column row : Nat) : Nat :=
  (layout.sheet atlas).across.sampled column / atlas.grid.cell.width.toNat +
    atlas.grid.columns.toNat *
      ((layout.sheet atlas).down.sampled row / atlas.grid.cell.height.toNat)

theorem frameAt_lt {column row : Nat} (covered : (layout.sheet atlas).Covers column row) :
    layout.frameAt atlas column row < atlas.grid.count.toNat := by
  rw [Grid.toNat_count, frameAt]
  have column_lt := covered.1.sampled_div_lt atlas.grid.width_pos atlas.grid.toNat_whole_width
  have row_lt := covered.2.sampled_div_lt atlas.grid.height_pos atlas.grid.toNat_whole_height
  exact Nat.add_mul_lt_mul_of_lt_of_lt column_lt row_lt

/-- A frame covers a place iff it is the one that the sheet shows there. -/
theorem tile_covers_iff (fits : layout.Fits atlas.grid)
    (inside : frame.toNat < atlas.grid.count.toNat) (column row : Nat) :
    (layout.tile atlas frame).Covers column row ↔
      (layout.sheet atlas).Covers column row ∧ layout.frameAt atlas column row = frame.toNat := by
  have across := (tile_across fits frame).covers_iff column
  have down := (tile_down fits inside).covers_iff row
  -- The column and the row of a frame are the remainder and the quotient of its number, so fixing
  -- both is fixing the number.
  constructor
  · rintro ⟨covered_across, covered_down⟩
    obtain ⟨wide, column_eq⟩ := across.mp covered_across
    obtain ⟨high, row_eq⟩ := down.mp covered_down
    refine ⟨⟨wide, high⟩, ?_⟩
    exact ((Nat.div_mod_unique atlas.grid.columns_pos).mp ⟨row_eq.symm, column_eq.symm⟩).1
  · rintro ⟨⟨wide, high⟩, number⟩
    have column_lt := wide.sampled_div_lt atlas.grid.width_pos atlas.grid.toNat_whole_width
    obtain ⟨row_eq, column_eq⟩ :=
      (Nat.div_mod_unique atlas.grid.columns_pos).mpr ⟨number, column_lt⟩
    exact ⟨across.mpr ⟨wide, column_eq.symm⟩, down.mpr ⟨high, row_eq.symm⟩⟩

theorem shown?_stamp_cut {picture : Bitmap} {rect : Rect} {column row : Nat}
    (covered : (layout.stamp (picture.cut rect) rect).Covers column row) :
    (layout.stamp (picture.cut rect) rect).shown? column row =
      some ((picture.pixel?
        (rect.x.toNat + (layout.stamp (picture.cut rect) rect).across.sampled column)
        (rect.y.toNat + (layout.stamp (picture.cut rect) rect).down.sampled row)).getD
          .transparent) := by
  have within := And.intro (Stretch.sampled_lt _ covered.1) (Stretch.sampled_lt _ covered.2)
  rw [Stamp.shown?, if_pos covered]
  exact (Bitmap.pixel?_cut ..).trans (if_pos within)

theorem shown?_tile (fits : layout.Fits atlas.grid)
    (inside : frame.toNat < atlas.grid.count.toNat) {column row : Nat}
    (covered : (layout.tile atlas frame).Covers column row) :
    (layout.tile atlas frame).shown? column row = (layout.sheet atlas).shown? column row := by
  have covered_sheet := ((tile_covers_iff fits inside column row).mp covered).1
  have column_eq : (layout.sheet atlas).across.sampled column =
      (atlas.grid.cellAt frame).x.toNat + (layout.tile atlas frame).across.sampled column := by
    rw [Grid.toNat_cellAt_x]
    exact (tile_across fits frame).sampled_whole covered.1
  have row_eq : (layout.sheet atlas).down.sampled row =
      (atlas.grid.cellAt frame).y.toNat + (layout.tile atlas frame).down.sampled row := by
    rw [Grid.toNat_cellAt_y atlas.grid inside]
    exact (tile_down fits inside).sampled_whole covered.2
  calc (layout.tile atlas frame).shown? column row
      = some ((atlas.picture.pixel?
          ((atlas.grid.cellAt frame).x.toNat + (layout.tile atlas frame).across.sampled column)
          ((atlas.grid.cellAt frame).y.toNat + (layout.tile atlas frame).down.sampled row)).getD
            .transparent) := shown?_stamp_cut covered
    _ = some ((atlas.picture.pixel? (0 + (layout.sheet atlas).across.sampled column)
          (0 + (layout.sheet atlas).down.sampled row)).getD .transparent) := by
      rw [column_eq, row_eq, Nat.zero_add, Nat.zero_add]
    _ = (layout.sheet atlas).shown? column row := (shown?_stamp_cut covered_sheet).symm

end Layout

/-! ## Drawing in any order -/

private theorem filterMap_eq_singleton {α β : Type} {choose : α → Option β} {list : List α}
    {chosen : α} {value : β} (distinct : list.Nodup) (member : chosen ∈ list)
    (found : choose chosen = some value)
    (others : ∀ other ∈ list, other ≠ chosen → choose other = none) :
    list.filterMap choose = [value] := by
  obtain ⟨before, after, rfl⟩ := List.append_of_mem member
  obtain ⟨fresh, _⟩ := List.nodup_middle.mp distinct |> List.nodup_cons.mp
  have unchosen : ∀ other ∈ before ++ after, choose other = none := by
    intro other listed
    apply others other
    · simp only [List.mem_append, List.mem_cons] at listed ⊢
      tauto
    · rintro rfl
      exact fresh listed
  have empty : (before ++ after).filterMap choose = [] :=
    List.filterMap_eq_nil_iff.mpr unchosen
  rw [List.filterMap_append, List.append_eq_nil_iff] at empty
  rw [List.filterMap_append, List.filterMap_cons, found, empty.1, empty.2]
  rfl

namespace Layout

variable {layout : Layout} {atlas : Atlas Bitmap}

theorem foldlM_drawFrame (mix : Rgba → Rgba → Rgba) (order : List UInt32)
    (inside : ∀ frame ∈ order, frame.toNat < atlas.grid.count.toNat) (surface : Bitmap) :
    order.foldlM (layout.drawFrame mix atlas) surface =
      .ok ((order.map (layout.tile atlas)).foldl (Bitmap.stamp mix) surface) := by
  induction order generalizing surface with
  | nil => rfl
  | cons frame rest ih =>
    rw [List.foldlM_cons, drawFrame_of_lt mix surface (inside frame List.mem_cons_self)]
    exact ih (fun other member => inside other (List.mem_cons_of_mem _ member)) _

/-- All frames together show at a place what the sheet shows there: one pixel or none. -/
theorem filterMap_shown? (fits : layout.Fits atlas.grid)
    (addressable : atlas.grid.count.toNat ≤ UInt32.size) {order : List UInt32}
    (complete : order.Perm atlas.grid.frames) (column row : Nat) :
    (order.map (layout.tile atlas)).filterMap (·.shown? column row) =
      ((layout.sheet atlas).shown? column row).toList := by
  have inside := Grid.lt_count_of_perm addressable complete
  rw [List.filterMap_map]
  by_cases covered : (layout.sheet atlas).Covers column row
  -- Under the sheet only the frame of the number there shows anything.
  · obtain ⟨above, shown⟩ := (layout.sheet atlas).exists_shown covered
    have number := frameAt_lt covered
    have shown_sheet : (layout.sheet atlas).shown? column row = some above := by
      rw [Stamp.shown?, if_pos covered, shown]
    have here : (UInt32.ofNat (layout.frameAt atlas column row)).toNat =
        layout.frameAt atlas column row :=
      UInt32.toNat_ofNat_of_lt' (Nat.lt_of_lt_of_le number addressable)
    have member : UInt32.ofNat (layout.frameAt atlas column row) ∈ order := by
      rw [complete.mem_iff, Grid.mem_frames addressable, here]
      exact number
    rw [shown_sheet]
    apply filterMap_eq_singleton _ member
    · have covered_tile := (tile_covers_iff fits (inside _ member) column row).mpr
        ⟨covered, here.symm⟩
      exact (shown?_tile fits (inside _ member) covered_tile).trans shown_sheet
    · intro other listed different
      apply if_neg
      intro covered_other
      have equal := ((tile_covers_iff fits (inside _ listed) column row).mp covered_other).2
      exact different (UInt32.toNat_inj.mp (equal.symm.trans here.symm))
    · exact complete.nodup_iff.mpr (Grid.nodup_frames addressable)
  -- Beside the sheet no frame does.
  · have hidden : (layout.sheet atlas).shown? column row = none := if_neg covered
    rw [hidden]
    apply List.filterMap_eq_nil_iff.mpr
    intro frame listed
    apply if_neg
    intro covered_tile
    exact covered ((tile_covers_iff fits (inside _ listed) column row).mp covered_tile).1

/-- Drawing every frame of an atlas once, in any order, is drawing its whole cells as one picture,
whatever the colours, the mixing and the borders of the surface. -/
theorem foldlM_drawFrame_eq_sheet (mix : Rgba → Rgba → Rgba) (atlas : Atlas Bitmap)
    (layout : Layout) (fits : layout.Fits atlas.grid)
    (addressable : atlas.grid.count.toNat ≤ UInt32.size) (order : List UInt32)
    (complete : order.Perm atlas.grid.frames) (surface : Bitmap) :
    order.foldlM (layout.drawFrame mix atlas) surface =
      .ok (surface.stamp mix (layout.sheet atlas)) := by
  have inside := Grid.lt_count_of_perm addressable complete
  rw [foldlM_drawFrame mix order inside]
  congr 1
  apply Bitmap.ext_pixel?
  · rw [Stamp.size_foldl_stamp, Stamp.size_stamp]
  · intro column row
    rw [Stamp.pixel?_foldl_stamp, Stamp.pixel?_stamp, filterMap_shown? fits addressable complete]
    simp only [Stamp.foldl_shown?]

/-- Four half transparent frames, the partial cells at the right left out, drawn in another order
over the left border, and a pixel that they leave. -/
theorem foldlM_drawFrame_eq_sheet_shuffled :
    let picture := Bitmap.ofFn ⟨5, 4⟩ fun column row => ⟨column.toUInt8, row.toUInt8, 0, 128⟩
    let atlas : Atlas Bitmap := ⟨⟨⟨2, 2⟩, ⟨5, 4⟩, by decide⟩, picture, rfl⟩
    let layout : Layout := ⟨-3, 1, 2, 1⟩
    let surface := Bitmap.filled ⟨4, 4⟩ ⟨9, 9, 9, 255⟩
    layout.Fits atlas.grid ∧ atlas.grid.count.toNat ≤ UInt32.size ∧
      List.Perm [3, 0, 2, 1] atlas.grid.frames ∧
      [3, 0, 2, 1].foldlM (layout.drawFrame Rgba.blend atlas) surface =
        .ok (surface.stamp Rgba.blend (layout.sheet atlas)) ∧
      (surface.stamp Rgba.blend (layout.sheet atlas)).pixel? 3 2 = some ⟨5, 4, 4, 254⟩ := by
  intro picture atlas layout surface
  have fits : layout.Fits atlas.grid := ⟨by decide, by decide, by decide, by decide, by decide,
    by decide⟩
  have addressable : atlas.grid.count.toNat ≤ UInt32.size := by decide
  have complete : List.Perm [3, 0, 2, 1] atlas.grid.frames := by decide
  have drawn := foldlM_drawFrame_eq_sheet Rgba.blend atlas layout fits addressable [3, 0, 2, 1]
    complete surface
  exact ⟨fits, addressable, complete, drawn, by decide +kernel⟩

end Layout
end Flipbook
