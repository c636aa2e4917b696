import Flipbook.Host.Recorder
import Flipbook.Proofs.Atlas.Partition

/-! What cutting and loading an atlas remark on, and how a load ends for each answer of the host. -/
namespace Flipbook

/-! ## Pixels beside the cells -/

namespace Grid

/-- The whole cells end before the area does, on the right or at the bottom. -/
def EndsShort (grid : Grid) : Prop :=
  grid.columns.toNat * grid.cell.width.toNat < grid.area.width.toNat ∨
    grid.rows.toNat * grid.cell.height.toNat < grid.area.height.toNat

instance (grid : Grid) : Decidable grid.EndsShort := inferInstanceAs (Decidable (_ ∨ _))

theorem exists_uncovered_iff (grid : Grid) :
    (∃ column row, column < grid.area.width.toNat ∧ row < grid.area.height.toNat ∧
      ∀ number, ¬grid.InCell number column row) ↔ grid.EndsShort := by
  have uncovered (column row : Nat) :
      (∀ number, ¬grid.InCell number column row) ↔ ¬grid.InWhole column row := by
    simp [inCell_iff]
  simp only [uncovered, InWhole, EndsShort]
  constructor
  · rintro ⟨column, row, column_lt, row_lt, beside⟩
    omega
  -- The first pixel beside the cells of the top row, or below those of the left column.
  · have width_pos := Nat.lt_of_lt_of_le (Nat.mul_pos grid.columns_pos grid.width_pos)
      grid.columns_mul_le
    have height_pos := Nat.lt_of_lt_of_le (Nat.mul_pos grid.rows_pos grid.height_pos)
      grid.rows_mul_le
    rintro (right | bottom)
    · exact ⟨_, 0, right, height_pos, fun inside => Nat.lt_irrefl _ inside.1⟩
    · exact ⟨0, _, width_pos, bottom, fun inside => Nat.lt_irrefl _ inside.2⟩

private theorem div_mul_lt_iff {extent cell : Nat} :
    extent / cell * cell < extent ↔ extent % cell ≠ 0 := by
  have whole := Nat.div_add_mod' extent cell
  omega

/-- The remainders tell whether the cells end short. -/
theorem hasPartialCells_iff (grid : Grid) : grid.hasPartialCells = true ↔ grid.EndsShort := by
  simp only [hasPartialCells, EndsShort, toNat_columns, toNat_rows, div_mul_lt_iff,
    ← UInt32.toNat_mod, Bool.or_eq_true, decide_eq_true_eq, ne_eq, ← UInt32.toNat_inj,
    UInt32.toNat_zero]

/-- Why no cell fits: an empty cell is refused for that alone, whatever the area. -/
def misfit (cell area : Size) : GeometryFault :=
  if cell.width = 0 ∨ cell.height = 0 then .emptyCell cell else .noWholeCell area cell

theorem fit_of_not_fitsIn {cell area : Size} (narrow : ¬cell.FitsIn area) :
    fit cell area = .error (misfit cell area) := by
  cases fitted : fit cell area with
  | ok grid =>
    obtain ⟨rfl, rfl⟩ := fit_eq_ok_iff.mp fitted
    exact absurd grid.fits narrow
  | error cause =>
    unfold fit at fitted
    unfold misfit
    split at fitted
    next empty => rw [if_pos empty, ← Except.error.inj fitted]
    next proper =>
      split at fitted
      next => rw [if_neg proper, ← Except.error.inj fitted]
      next => contradiction

end Grid

namespace Atlas

/-! ## Cutting -/

section
variable {π : Type} [Picture π] {cell : Size} {picture : π}

theorem slice_of_not_fitsIn (narrow : ¬cell.FitsIn (Picture.size picture)) :
    slice cell picture = .plain (.error (.geometry (Grid.misfit cell (Picture.size picture)))) := by
  have refused := Grid.fit_of_not_fitsIn narrow
  unfold slice
  split
  next cause fitted => rw [← Except.error.inj (fitted.symm.trans refused)]
  next grid fitted => exact absurd (fitted.symm.trans refused) (by simp)

theorem notices_slice_of_ok {atlas : Atlas π} (made : (slice cell picture).value = .ok atlas) :
    (slice cell picture).notices =
      if atlas.grid.EndsShort then [.partialCells (Picture.size picture) cell] else [] := by
  unfold slice at made ⊢
  split at made
  next => contradiction
  next grid fitted =>
    obtain rfl := Except.ok.inj made
    simp only [Grid.hasPartialCells_iff, Grid.area_of_fit fitted]

/-- Partial cells are remarked on only where there are cells. -/
theorem notices_slice_of_error {cause : Fault}
    (failed : (slice cell picture).value = .error cause) : (slice cell picture).notices = [] := by
  unfold slice at failed ⊢
  split at failed
  next => rfl
  next => contradiction

end

/-! ## Loading -/

section
variable {π : Type} [Picture π] {path : String} {cell : Size}

/-- A picture that was found is cut, and if that gives an atlas, the load is remarked on last. -/
theorem ofLoaded_ok (picture : π) :
    ofLoaded path cell (.ok picture) =
      ⟨(slice cell picture).notices ++
        match (slice cell picture).value with
        | .ok atlas => [.loaded path atlas.grid.shape cell]
        | .error _ => [],
      (slice cell picture).value⟩ := by
  unfold ofLoaded
  dsimp only
  generalize slice cell picture = sliced
  obtain ⟨notices, value⟩ := sliced
  cases value with
  | error fault => rw [List.append_nil]
  | ok atlas => rfl

theorem notices_ofLoaded_of_error {found : Except Fault π} {cause : Fault}
    (failed : (ofLoaded path cell found).value = .error cause) :
    (ofLoaded path cell found).notices = [] := by
  cases found with
  | error fault => rfl
  | ok picture =>
    rw [ofLoaded_ok] at failed ⊢
    rw [notices_slice_of_error failed, failed, List.append_nil]

end

/-! ## Main result -/

section
variable {π : Type} [Picture π]

/-- What is remarked on when an atlas was loaded: at most that pixels are left over, and then the
load itself. -/
structure Remarks (path : String) (cell : Size) (picture : π) (atlas : Atlas π)
    (notices : List Notice) : Prop where
  cell_eq : atlas.grid.cell = cell
  picture_eq : atlas.picture = picture
  notices_eq : notices =
    (if atlas.grid.columns.toNat * cell.width.toNat < (Picture.size picture).width.toNat ∨
        atlas.grid.rows.toNat * cell.height.toNat < (Picture.size picture).height.toNat
      then [.partialCells (Picture.size picture) cell] else []) ++
        [.loaded path ⟨atlas.grid.columns, atlas.grid.rows⟩ cell]
  leftover_iff : .partialCells (Picture.size picture) cell ∈ notices ↔ ∃ column row,
    column < (Picture.size picture).width.toNat ∧ row < (Picture.size picture).height.toNat ∧
      ∀ number, ¬atlas.grid.InCell number column row

/-- How a load ends when the host has the picture: as cutting it ends, with remarks on every atlas
and none on a refusal. -/
structure Loads (path : String) (cell : Size) (picture : π)
    (loaded : Noted (Except Fault (Atlas π))) : Prop where
  value_eq : loaded.value = (slice cell picture).value
  geometry_iff : (∃ cause, loaded.value = .error (.geometry cause)) ↔
    ¬cell.FitsIn (Picture.size picture)
  refused : ∀ fault, loaded.value = .error fault →
    loaded = .plain (.error (.geometry (Grid.misfit cell (Picture.size picture))))
  remarks : ∀ atlas, loaded.value = .ok atlas → Remarks path cell picture atlas loaded.notices

theorem remarks_of_slice {path : String} {cell : Size} {picture : π} {atlas : Atlas π}
    (made : (slice cell picture).value = .ok atlas) :
    Remarks path cell picture atlas
      ((slice cell picture).notices ++ [.loaded path atlas.grid.shape cell]) := by
  obtain ⟨rfl, rfl⟩ := slice_eq_ok_iff.mp made
  have notices_eq := notices_slice_of_ok made
  have uncovered_iff := atlas.grid.exists_uncovered_iff
  rw [atlas.covers] at uncovered_iff
  refine ⟨rfl, rfl, ?_, ?_⟩
  · simp only [notices_eq, Grid.EndsShort, atlas.covers, Grid.shape]
  · rw [uncovered_iff, notices_eq]
    split
    next short => simp [short]
    next whole => simp [whole]

theorem loads_ofLoaded (path : String) (cell : Size) (picture : π) :
    Loads path cell picture (ofLoaded path cell (.ok picture)) := by
  rw [ofLoaded_ok]
  -- Cutting gives an atlas exactly where a whole cell fits, and nothing else decides the outcome.
  by_cases fits : cell.FitsIn (Picture.size picture)
  · obtain ⟨atlas, made⟩ := (exists_slice_iff cell picture).mpr fits
    rw [made]
    refine ⟨made.symm, ?_, ?_, ?_⟩
    · simp [fits]
    · intro fault failed
      contradiction
    · intro other same
      obtain rfl := Except.ok.inj same
      exact remarks_of_slice made
  · rw [slice_of_not_fitsIn fits]
    refine ⟨?_, ?_, ?_, ?_⟩
    · rw [slice_of_not_fitsIn fits]
    · simp [fits, Noted.plain]
    · intro _ _
      rfl
    · intro atlas made
      contradiction

/-- The host is left as loading the picture leaves it. A fault of the host is handed on as it is,
whatever the cell size. Otherwise the load ends as cutting the picture does: with a geometry fault
exactly where no whole cell fits, and with an atlas elsewhere, on which it is remarked once that it
was loaded, and before that, exactly if a pixel of the picture lies in no cell, that pixels are left
over. -/
theorem load_outcome {σ α : Type} [Host σ π α] (host : σ) (path : String) (cell : Size) :
    (load host path cell).2 = (Host.load host path).2 ∧
    (∀ fault, (Host.load host path).1 = .error fault →
      (load host path cell).1 = .plain (.error fault)) ∧
    ∀ picture, (Host.load host path).1 = .ok picture →
      Loads path cell picture (load host path cell).1 := by
  have load_eq : (load host path cell).1 = ofLoaded path cell (Host.load host path).1 := rfl
  refine ⟨rfl, ?_, ?_⟩
  · intro fault failed
    rw [load_eq, failed]
    rfl
  · intro picture found
    rw [load_eq, found]
    exact loads_ofLoaded path cell picture

/-- A shelf with one picture: a path that is missing from it, asked for with an empty cell, then
cells that leave a column over, cells that leave nothing over, asked for under another text of the
path, and a cell that is too wide. -/
theorem load_outcome_shelf :
    let host : Recorder Rect := { shelf := ⟨[("art/walk.png", ⟨0, 0, 5, 4⟩)]⟩ }
    (load host "run.png" ⟨0, 0⟩).1 =
        .plain (.error (.file (.stated .notFound "run.png"))) ∧
      (load host "art/walk.png" ⟨2, 2⟩).1.notices.map Notice.text =
        ["Sheet size 5x4 is not a multiple of sprite size 2x2, ignoring partial cells",
          "Loaded sprite sheet art/walk.png: 2x2 sprites of 2x2"] ∧
      (load host "art//walk.png" ⟨5, 2⟩).1.notices.map Notice.text =
        ["Loaded sprite sheet art//walk.png: 1x2 sprites of 5x2"] ∧
      (load host "art/walk.png" ⟨6, 2⟩).1 =
        .plain (.error (.geometry (.noWholeCell ⟨5, 4⟩ ⟨6, 2⟩))) ∧
      (load host "art/walk.png" ⟨6, 2⟩).2 = host := by
  intro host
  have found : (Host.load host "art/walk.png").1 = .ok ⟨0, 0, 5, 4⟩ := rfl
  have found' : (Host.load host "art//walk.png").1 = .ok ⟨0, 0, 5, 4⟩ := rfl
  refine ⟨(load_outcome host "run.png" ⟨0, 0⟩).2.1 _ rfl, ?_, ?_, ?_, ?_⟩
  · have remarks := ((load_outcome host "art/walk.png" ⟨2, 2⟩).2.2 _ found).remarks _ rfl
    rw [remarks.notices_eq]
    decide
  · have remarks := ((load_outcome host "art//walk.png" ⟨5, 2⟩).2.2 _ found').remarks _ rfl
    rw [remarks.notices_eq]
    decide
  · exact ((load_outcome host "art/walk.png" ⟨6, 2⟩).2.2 _ found).refused _ rfl
  · rw [(load_outcome host "art/walk.png" ⟨6, 2⟩).1]
    exact LawfulHost.load_snd host _

end

end Atlas
end Flipbook
