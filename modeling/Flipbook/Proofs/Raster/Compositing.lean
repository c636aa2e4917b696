import Flipbook.Proofs.Raster.Coverage
import Flipbook.Raster.Stamp
import Mathlib.Data.List.ProdSigma

/-! What drawing a stamp does to each pixel of the surface, and which places it visits on the way. -/
namespace Flipbook

namespace Stamp

def Covers (stamp : Stamp) (column row : Nat) : Prop :=
  stamp.across.Covers column ∧ stamp.down.Covers row

instance (stamp : Stamp) (column row : Nat) : Decidable (stamp.Covers column row) :=
  inferInstanceAs (Decidable (_ ∧ _))

/-- What a stamp shows at a place, in unbounded arithmetic. -/
def shown? (stamp : Stamp) (column row : Nat) : Option Rgba :=
  if stamp.Covers column row then
    stamp.image.pixel? (stamp.across.sampled column) (stamp.down.sampled row)
  else none

/-- A pixel of the surface after drawing, from what it was before. -/
def onto (mix : Rgba → Rgba → Rgba) (stamp : Stamp) (column row : Nat) (below : Rgba) : Rgba :=
  (stamp.shown? column row).elim below (Rgba.cover mix below)

theorem foldl_shown? (mix : Rgba → Rgba → Rgba) (stamp : Stamp) (column row : Nat)
    (below : Rgba) :
    (stamp.shown? column row).toList.foldl (Rgba.cover mix) below =
      stamp.onto mix column row below := by
  unfold onto
  cases stamp.shown? column row <;> rfl

theorem exists_shown (stamp : Stamp) {column row : Nat} (covered : stamp.Covers column row) :
    ∃ above, stamp.image.pixel? (stamp.across.sampled column) (stamp.down.sampled row) =
      some above := by
  apply Option.isSome_iff_exists.mp
  rw [Bitmap.pixel?_isSome]
  exact ⟨stamp.across.sampled_lt covered.1, stamp.down.sampled_lt covered.2⟩

/-! ## The order of drawing -/

/-- The rows and columns that drawing goes through, as the words of its two loops. -/
def visits (stamp : Stamp) (surface : Size) : List (Int64 × Int64) :=
  stamp.down.places surface.height ×ˢ stamp.across.places surface.width

def visit (mix : Rgba → Rgba → Rgba) (stamp : Stamp) (surface : Bitmap)
    (place : Int64 × Int64) : Bitmap :=
  stamp.dab mix surface (stamp.across.spot place.2) (stamp.down.spot place.1)

/-- The column and row of the surface that is written for a row and column of the loops. -/
def target (place : Int64 × Int64) : Nat × Nat :=
  (place.2.toUInt64.toUInt32.toNat, place.1.toUInt64.toUInt32.toNat)

@[simp] theorem size_dab (mix : Rgba → Rgba → Rgba) (stamp : Stamp) (surface : Bitmap)
    (column row : UInt32 × UInt32) : (stamp.dab mix surface column row).size = surface.size := by
  unfold dab
  split <;> simp

theorem size_foldl {α : Type} {change : Bitmap → α → Bitmap}
    (kept : ∀ surface item, (change surface item).size = surface.size) (items : List α)
    (surface : Bitmap) : (items.foldl change surface).size = surface.size := by
  induction items generalizing surface with
  | nil => rfl
  | cons item rest ih => rw [List.foldl_cons, ih, kept]

theorem size_foldl_visit (mix : Rgba → Rgba → Rgba) (stamp : Stamp)
    (places : List (Int64 × Int64)) (surface : Bitmap) :
    (places.foldl (stamp.visit mix) surface).size = surface.size :=
  size_foldl (fun _ _ => size_dab ..) places surface

theorem drawRow_eq (mix : Rgba → Rgba → Rgba) (stamp : Stamp) (surface : Bitmap) (row : Int64) :
    stamp.drawRow mix surface (stamp.down.spot row) =
      ((stamp.across.places surface.size.width).map (Prod.mk row)).foldl (stamp.visit mix)
        surface := by
  unfold drawRow Stretch.touched
  rw [List.foldl_map, List.foldl_map]
  rfl

theorem foldl_drawRow (mix : Rgba → Rgba → Rgba) (stamp : Stamp) (rows : List Int64)
    (surface : Bitmap) (width : UInt32) (fixed : surface.size.width = width) :
    rows.foldl (fun surface row => stamp.drawRow mix surface (stamp.down.spot row)) surface =
      (rows ×ˢ stamp.across.places width).foldl (stamp.visit mix) surface := by
  induction rows generalizing surface with
  | nil => rfl
  | cons row rest ih =>
    -- A row leaves the size as it is, so the next one goes through the same columns.
    rw [List.foldl_cons, drawRow_eq, fixed, ih, List.product_cons, List.foldl_append]
    rw [size_foldl_visit, fixed]

/-- The nested loops are one loop over all visits. -/
theorem stamp_eq_foldl (mix : Rgba → Rgba → Rgba) (surface : Bitmap) (stamp : Stamp) :
    surface.stamp mix stamp = (stamp.visits surface.size).foldl (stamp.visit mix) surface := by
  unfold Bitmap.stamp Stretch.touched
  rw [List.foldl_map]
  exact stamp.foldl_drawRow mix _ surface _ rfl

theorem size_stamp (mix : Rgba → Rgba → Rgba) (surface : Bitmap) (stamp : Stamp) :
    (surface.stamp mix stamp).size = surface.size := by
  rw [stamp_eq_foldl, size_foldl_visit]

/-! ## The visited places -/

theorem exact_of_mem_visits (stamp : Stamp) (surface : Size) {place : Int64 × Int64}
    (visited : place ∈ stamp.visits surface) :
    stamp.across.Exact surface.width place.2 ∧ stamp.down.Exact surface.height place.1 := by
  obtain ⟨row, column⟩ := place
  obtain ⟨rows, columns⟩ := List.mem_product.mp visited
  exact ⟨stamp.across.exact_of_mem_places _ columns, stamp.down.exact_of_mem_places _ rows⟩

theorem target_eq {stamp : Stamp} {surface : Size} {place : Int64 × Int64}
    (visited : place ∈ stamp.visits surface) :
    ((target place).1 : Int) = place.2.toInt ∧ ((target place).2 : Int) = place.1.toInt := by
  obtain ⟨across, down⟩ := stamp.exact_of_mem_visits surface visited
  exact ⟨across.word, down.word⟩

/-- Exactly the covered pixels of the surface are written. -/
theorem mem_target_iff (stamp : Stamp) (surface : Size) (column row : Nat) :
    (column, row) ∈ (stamp.visits surface).map target ↔
      stamp.Covers column row ∧ column < surface.width.toNat ∧ row < surface.height.toNat := by
  constructor
  · intro written
    obtain ⟨place, visited, equal⟩ := List.mem_map.mp written
    obtain ⟨column_eq, row_eq⟩ := target_eq visited
    obtain ⟨rows, columns⟩ := List.mem_product.mp visited
    rw [Stretch.mem_places, ← column_eq, equal] at columns
    rw [Stretch.mem_places, ← row_eq, equal] at rows
    exact ⟨⟨columns.1, rows.1⟩, by omega, by omega⟩
  · rintro ⟨⟨across, down⟩, inside, above⟩
    have column_lt := surface.width.toNat_lt
    have row_lt := surface.height.toNat_lt
    have column_eq : (Int64.ofNat column).toInt = column :=
      Int64.toInt_ofNat_of_lt (by omega)
    have row_eq : (Int64.ofNat row).toInt = row := Int64.toInt_ofNat_of_lt (by omega)
    have visited : (Int64.ofNat row, Int64.ofNat column) ∈ stamp.visits surface := by
      apply List.mem_product.mpr
      rw [Stretch.mem_places, Stretch.mem_places, row_eq, column_eq]
      exact ⟨⟨down, by omega, by omega⟩, ⟨across, by omega, by omega⟩⟩
    refine List.mem_map.mpr ⟨_, visited, ?_⟩
    obtain ⟨first, second⟩ := target_eq visited
    rw [column_eq] at first
    rw [row_eq] at second
    exact Prod.ext (Int.ofNat.inj first) (Int.ofNat.inj second)

theorem nodup_targets (stamp : Stamp) (surface : Size) :
    ((stamp.visits surface).map target).Nodup := by
  apply List.Nodup.map_on
  -- Targets are cut down to 32 bits; between visited places, which lose nothing by it, they differ.
  · intro a visited b visited' equal
    obtain ⟨column, row⟩ := target_eq visited
    obtain ⟨column', row'⟩ := target_eq visited'
    rw [equal] at column row
    apply Prod.ext
    · exact Int64.toInt.inj (row.symm.trans row')
    · exact Int64.toInt.inj (column.symm.trans column')
  · exact (stamp.down.nodup_places _).product (stamp.across.nodup_places _)

theorem length_visits_le (stamp : Stamp) (surface : Size) :
    (stamp.visits surface).length ≤ surface.area := by
  rw [visits, List.length_product, Stretch.length_places, Stretch.length_places, Size.area,
    Nat.mul_comm]
  exact Nat.mul_le_mul (stamp.across.extent_le _) (stamp.down.extent_le _)

/-! ## The pixels after drawing -/

theorem covers_target {stamp : Stamp} {surface : Size} {place : Int64 × Int64}
    (visited : place ∈ stamp.visits surface) :
    stamp.Covers (target place).1 (target place).2 := by
  have written : target place ∈ (stamp.visits surface).map target :=
    List.mem_map_of_mem visited
  exact ((stamp.mem_target_iff surface _ _).mp written).1

theorem shown?_target {stamp : Stamp} {surface : Size} {place : Int64 × Int64}
    (visited : place ∈ stamp.visits surface) :
    stamp.shown? (target place).1 (target place).2 =
      stamp.image.pixel? (stamp.across.spot place.2).2.toNat
        (stamp.down.spot place.1).2.toNat := by
  obtain ⟨across, down⟩ := stamp.exact_of_mem_visits surface visited
  obtain ⟨column_eq, row_eq⟩ := target_eq visited
  rw [shown?, if_pos (covers_target visited), column_eq, row_eq, ← across.sample, ← down.sample]
  rfl

theorem pixel?_visit (mix : Rgba → Rgba → Rgba) (stamp : Stamp) (surface : Bitmap) {size : Size}
    {place : Int64 × Int64} (visited : place ∈ stamp.visits size) (column row : Nat) :
    (stamp.visit mix surface place).pixel? column row =
      if target place = (column, row) then
        (surface.pixel? column row).map (stamp.onto mix column row)
      else surface.pixel? column row := by
  obtain ⟨above, found⟩ := stamp.exists_shown (covers_target visited)
  have shown : stamp.shown? (target place).1 (target place).2 = some above := by
    rw [shown?, if_pos (covers_target visited), found]
  have sampled := (shown?_target visited).symm.trans shown
  have changed : stamp.visit mix surface place =
      surface.modify (target place).1 (target place).2 (Rgba.cover mix · above) := by
    rw [visit, dab, sampled]
    rfl
  rw [changed, Bitmap.pixel?_modify]
  by_cases here : target place = (column, row)
  -- The visited pixel and the one asked for are the same, so both speak of what is shown there.
  · rw [here] at shown ⊢
    have onto_eq : stamp.onto mix column row = (Rgba.cover mix · above) := by
      funext below
      rw [onto, shown, Option.elim_some]
    rw [if_pos ⟨rfl, rfl⟩, if_pos rfl, onto_eq]
  · have elsewhere : ¬((target place).1 = column ∧ (target place).2 = row) :=
      fun same => here (Prod.ext same.1 same.2)
    rw [if_neg here, if_neg elsewhere]

theorem pixel?_foldl_visit (mix : Rgba → Rgba → Rgba) (stamp : Stamp) {size : Size}
    (places : List (Int64 × Int64)) (visited : ∀ place ∈ places, place ∈ stamp.visits size)
    (distinct : (places.map target).Nodup) (surface : Bitmap) (column row : Nat) :
    (places.foldl (stamp.visit mix) surface).pixel? column row =
      if (column, row) ∈ places.map target then
        (surface.pixel? column row).map (stamp.onto mix column row)
      else surface.pixel? column row := by
  induction places generalizing surface with
  | nil => rfl
  | cons place rest ih =>
    obtain ⟨fresh, distinct_rest⟩ := List.nodup_cons.mp distinct
    rw [List.foldl_cons, ih (fun other member => visited other (List.mem_cons_of_mem _ member))
      distinct_rest, pixel?_visit mix stamp surface (visited place List.mem_cons_self)]
    -- No target comes twice, so each visit finds its pixel as it was before the first one.
    by_cases here : target place = (column, row)
    · rw [here] at fresh
      simp [fresh, here]
    · simp only [here, if_false, List.map_cons, List.mem_cons, Ne.symm here, false_or]

theorem pixel?_stamp (mix : Rgba → Rgba → Rgba) (surface : Bitmap) (stamp : Stamp)
    (column row : Nat) :
    (surface.stamp mix stamp).pixel? column row =
      (surface.pixel? column row).map (stamp.onto mix column row) := by
  rw [stamp_eq_foldl, pixel?_foldl_visit mix stamp _ (fun _ member => member)
    (stamp.nodup_targets _)]
  split
  next => rfl
  next missed =>
    rw [mem_target_iff] at missed
    cases found : surface.pixel? column row with
    | none => rfl
    | some below =>
      -- A pixel of the surface that is missed is not covered, so nothing is shown on it.
      have inside := (surface.pixel?_isSome column row).mp (by rw [found]; rfl)
      have uncovered : ¬stamp.Covers column row := fun covered => missed ⟨covered, inside⟩
      rw [Option.map_some, onto, shown?, if_neg uncovered, Option.elim_none]

/-- After drawing any number of stamps, a pixel has under it all that they show there, in order. -/
theorem pixel?_foldl_stamp (mix : Rgba → Rgba → Rgba) (stamps : List Stamp) (surface : Bitmap)
    (column row : Nat) :
    (stamps.foldl (Bitmap.stamp mix) surface).pixel? column row =
      (surface.pixel? column row).map fun below =>
        (stamps.filterMap (·.shown? column row)).foldl (Rgba.cover mix) below := by
  induction stamps generalizing surface with
  | nil => simp
  | cons stamp rest ih =>
    rw [List.foldl_cons, ih, pixel?_stamp, Option.map_map, List.filterMap_cons]
    unfold onto
    cases stamp.shown? column row <;> rfl

theorem size_foldl_stamp (mix : Rgba → Rgba → Rgba) (stamps : List Stamp) (surface : Bitmap) :
    (stamps.foldl (Bitmap.stamp mix) surface).size = surface.size :=
  size_foldl (size_stamp mix) stamps surface

/-! ## Main results -/

/-- The pixel law of drawing. A pixel under the stamp is left alone, replaced or mixed according to
the alpha of the nearest image pixel, and every other pixel stays as it was. -/
theorem stamp_pixelwise (mix : Rgba → Rgba → Rgba) (surface : Bitmap) (stamp : Stamp) :
    (surface.stamp mix stamp).size = surface.size ∧
    ∀ (column row : Nat) (below : Rgba), surface.pixel? column row = some below →
      (stamp.Covers column row → ∃ above,
        stamp.image.pixel? (stamp.across.sampled column) (stamp.down.sampled row) = some above ∧
        (above.alpha = 0 → (surface.stamp mix stamp).pixel? column row = some below) ∧
        (above.alpha = 255 → (surface.stamp mix stamp).pixel? column row = some above) ∧
        (above.alpha ≠ 0 → above.alpha ≠ 255 →
          (surface.stamp mix stamp).pixel? column row = some (mix below above))) ∧
      (¬stamp.Covers column row → (surface.stamp mix stamp).pixel? column row = some below) := by
  refine ⟨size_stamp mix surface stamp, ?_⟩
  intro column row below found
  rw [pixel?_stamp, found, Option.map_some, onto, shown?]
  constructor
  · intro covered
    obtain ⟨above, nearest⟩ := stamp.exists_shown covered
    refine ⟨above, nearest, ?_⟩
    rw [if_pos covered, nearest, Option.elim_some, Rgba.cover]
    refine ⟨fun clear => by rw [if_pos clear], fun solid => ?_, fun clear solid => ?_⟩
    · rw [if_neg (by rw [solid]; decide), if_pos solid]
    · rw [if_neg clear, if_neg solid]
  · intro uncovered
    rw [if_neg uncovered, Option.elim_none]

/-- Two pixels stretched to five by three and drawn over the upper left corner. -/
theorem stamp_pixelwise_clipped :
    let surface := Bitmap.filled ⟨3, 2⟩ ⟨9, 9, 9, 255⟩
    let stamp : Stamp := ⟨.ofFn ⟨2, 1⟩ fun column _ => ⟨column.toUInt8, 0, 0, 255⟩, -1, -1, ⟨5, 3⟩⟩
    surface.pixel? 2 1 = some ⟨9, 9, 9, 255⟩ ∧ stamp.Covers 2 1 ∧
      (surface.stamp Rgba.blend stamp).pixel? 2 1 = some ⟨1, 0, 0, 255⟩ := by
  intro surface stamp
  have found : surface.pixel? 2 1 = some ⟨9, 9, 9, 255⟩ := by decide +kernel
  have covered : stamp.Covers 2 1 := by decide +kernel
  obtain ⟨above, nearest, _, solid, _⟩ :=
    ((stamp_pixelwise Rgba.blend surface stamp).2 2 1 _ found).1 covered
  have shown : stamp.image.pixel? (stamp.across.sampled (2 : Nat)) (stamp.down.sampled (1 : Nat)) =
      some ⟨1, 0, 0, 255⟩ := by decide +kernel
  obtain rfl : ⟨1, 0, 0, 255⟩ = above := Option.some.inj (shown.symm.trans nearest)
  exact ⟨found, covered, solid rfl⟩

/-- Drawing is safe at every place that its loops visit: the words are exact, those of a row also
where no column of it is visited, the pixels that are read and written exist, none is written twice,
and there are no more visits than pixels. -/
theorem visits_safe (mix : Rgba → Rgba → Rgba) (surface : Bitmap) (stamp : Stamp) :
    surface.stamp mix stamp = (stamp.visits surface.size).foldl (stamp.visit mix) surface ∧
    (∀ row ∈ stamp.down.places surface.size.height,
      stamp.down.Exact surface.size.height row) ∧
    (∀ place ∈ stamp.visits surface.size,
      stamp.across.Exact surface.size.width place.2 ∧
      stamp.down.Exact surface.size.height place.1 ∧
      (stamp.image.pixel? (stamp.across.sample place.2).toNat
        (stamp.down.sample place.1).toNat).isSome ∧
      (surface.pixel? (target place).1 (target place).2).isSome) ∧
    ((stamp.visits surface.size).map target).Nodup ∧
    (stamp.visits surface.size).length ≤ surface.size.area := by
  refine ⟨stamp_eq_foldl mix surface stamp, fun _ => stamp.down.exact_of_mem_places _, ?_,
    stamp.nodup_targets _, stamp.length_visits_le _⟩
  intro place visited
  obtain ⟨across, down⟩ := stamp.exact_of_mem_visits surface.size visited
  have written : target place ∈ (stamp.visits surface.size).map target :=
    List.mem_map_of_mem visited
  refine ⟨across, down, ?_, ?_⟩
  · rw [Bitmap.pixel?_isSome, across.sample, down.sample]
    exact ⟨across.sample_lt, down.sample_lt⟩
  · rw [Bitmap.pixel?_isSome]
    exact ((stamp.mem_target_iff surface.size _ _).mp written).2

/-- The widest stretch, its last pixels on the surface, and one that lies beside the surface, level
with its only row. -/
theorem visits_safe_widest :
    let surface := Bitmap.filled ⟨2, 1⟩ .transparent
    let stamp : Stamp := ⟨.filled ⟨0xffff, 1⟩ .transparent, -0xfffffffd, 0, ⟨0xffffffff, 1⟩⟩
    let aside : Stamp := ⟨.filled ⟨1, 3⟩ .transparent, 2, -4, ⟨1, 5⟩⟩
    (0, 1) ∈ stamp.visits surface.size ∧ stamp.across.Exact 2 1 ∧
      aside.visits surface.size = [] ∧ 0 ∈ aside.down.places 1 ∧ aside.down.Exact 1 0 := by
  intro surface stamp aside
  have visited : (0, 1) ∈ stamp.visits surface.size := by decide +kernel
  have unseen : aside.visits surface.size = [] := by decide +kernel
  have level : 0 ∈ aside.down.places 1 := by decide +kernel
  obtain ⟨-, -, exact_visits, -⟩ := visits_safe Rgba.blend surface stamp
  obtain ⟨-, exact_rows, -⟩ := visits_safe Rgba.blend surface aside
  exact ⟨visited, (exact_visits _ visited).1, unseen, level, exact_rows 0 level⟩

end Stamp
end Flipbook
