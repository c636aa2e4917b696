import Flipbook.Proofs.Raster.Compositing

/-! What any run of fills and stamps leaves at a pixel, told from what each of them does there. -/
namespace Flipbook

theorem Bitmap.pixel?_fill (bitmap : Bitmap) (color : Rgba) (column row : Nat) :
    (bitmap.fill color).pixel? column row = (bitmap.pixel? column row).map fun _ => color := by
  rw [fill, pixel?_filled]
  -- A fill keeps the size, so it has a pixel exactly where there was one.
  cases found : bitmap.pixel? column row with
  | none =>
    have outside := mt (bitmap.pixel?_isSome column row).mpr (by rw [found]; decide)
    rw [if_neg outside, Option.map_none]
  | some below =>
    have inside := (bitmap.pixel?_isSome column row).mp (by rw [found]; rfl)
    rw [if_pos inside, Option.map_some]

inductive Stroke where
  | fill (color : Rgba)
  | press (stamp : Stamp)

namespace Stroke

def on (mix : Rgba → Rgba → Rgba) (surface : Bitmap) : Stroke → Bitmap
  | fill color => surface.fill color
  | press stamp => surface.stamp mix stamp

def paint (mix : Rgba → Rgba → Rgba) (surface : Bitmap) (strokes : List Stroke) : Bitmap :=
  strokes.foldl (on mix) surface

/-- The colour that a stroke puts at a place whatever was there. -/
def overwrite? (column row : Nat) : Stroke → Option Rgba
  | fill color => some color
  | press stamp => (stamp.shown? column row).filter (·.alpha = 255)

/-- The colour that a stroke mixes into what is at a place. -/
def mixture? (column row : Nat) : Stroke → Option Rgba
  | fill _ => none
  | press stamp => (stamp.shown? column row).filter fun above =>
      above.alpha ≠ 0 ∧ above.alpha ≠ 255

/-- A stroke acts at a place unless it is a stamp that lies elsewhere or shows nothing there. -/
def actsAt (column row : Nat) : Stroke → Bool
  | fill _ => true
  | press stamp => (stamp.shown? column row).any fun above => above.alpha ≠ 0

/-! ## One stroke at one pixel -/

/-- A pixel after a stroke, from what it was before. -/
def after (mix : Rgba → Rgba → Rgba) (column row : Nat) (below : Rgba) : Stroke → Rgba
  | fill color => color
  | press stamp => stamp.onto mix column row below

theorem size_on (mix : Rgba → Rgba → Rgba) (surface : Bitmap) (stroke : Stroke) :
    (stroke.on mix surface).size = surface.size := by
  cases stroke with
  | fill color => rfl
  | press stamp => exact Stamp.size_stamp mix surface stamp

theorem pixel?_on (mix : Rgba → Rgba → Rgba) (surface : Bitmap) (stroke : Stroke)
    (column row : Nat) :
    (stroke.on mix surface).pixel? column row =
      (surface.pixel? column row).map (stroke.after mix column row ·) := by
  cases stroke with
  | fill color => exact surface.pixel?_fill color column row
  | press stamp => exact Stamp.pixel?_stamp mix surface stamp column row

variable {mix : Rgba → Rgba → Rgba} {column row : Nat} {stroke : Stroke}

theorem after_of_overwrite? {value : Rgba} (written : stroke.overwrite? column row = some value)
    (below : Rgba) : stroke.after mix column row below = value := by
  cases stroke with
  | fill color => exact Option.some.inj written
  | press stamp =>
    obtain ⟨shown, solid⟩ := Option.filter_eq_some_iff.mp written
    have solid : value.alpha = 255 := by simpa using solid
    rw [after, Stamp.onto, shown, Option.elim_some, Rgba.cover, solid]
    rfl

theorem after_of_not_overwrite? (kept : stroke.overwrite? column row = none) (below : Rgba) :
    stroke.after mix column row below =
      (stroke.mixture? column row).toList.foldl mix below := by
  cases stroke with
  | fill color => contradiction
  | press stamp =>
    simp only [overwrite?, after, Stamp.onto, mixture?] at kept ⊢
    cases shown : stamp.shown? column row with
    | none => rfl
    | some above =>
      rw [shown] at kept
      have solid : above.alpha ≠ 255 := by simpa using kept
      by_cases clear : above.alpha = 0
      · simp [Rgba.cover, clear, Option.filter_some]
      · simp [Rgba.cover, clear, solid, Option.filter_some]

theorem after_of_not_actsAt (idle : stroke.actsAt column row = false) (below : Rgba) :
    stroke.after mix column row below = below := by
  cases stroke with
  | fill color => contradiction
  | press stamp =>
    simp only [actsAt, after, Stamp.onto] at idle ⊢
    cases shown : stamp.shown? column row with
    | none => rfl
    | some above =>
      rw [shown] at idle
      have clear : above.alpha = 0 := by simpa using idle
      rw [Option.elim_some, Rgba.cover, if_pos clear]

/-! ## Runs of strokes -/

theorem size_paint (mix : Rgba → Rgba → Rgba) (surface : Bitmap) (strokes : List Stroke) :
    (paint mix surface strokes).size = surface.size :=
  Stamp.size_foldl (size_on mix) strokes surface

theorem pixel?_paint (mix : Rgba → Rgba → Rgba) (surface : Bitmap) (strokes : List Stroke)
    (column row : Nat) :
    (paint mix surface strokes).pixel? column row =
      (surface.pixel? column row).map fun below => strokes.foldl (after mix column row) below := by
  unfold paint
  induction strokes generalizing surface with
  | nil => simp
  | cons stroke rest ih =>
    rw [List.foldl_cons, ih, pixel?_on, Option.map_map]
    rfl

theorem foldl_after_of_not_overwrite? (strokes : List Stroke)
    (kept : ∀ stroke ∈ strokes, stroke.overwrite? column row = none) (below : Rgba) :
    strokes.foldl (after mix column row) below =
      (strokes.filterMap (mixture? column row)).foldl mix below := by
  induction strokes generalizing below with
  | nil => rfl
  | cons stroke rest ih =>
    have kept_rest := fun other member => kept other (List.mem_cons_of_mem _ member)
    rw [List.foldl_cons, ih kept_rest, after_of_not_overwrite? (kept stroke List.mem_cons_self),
      List.filterMap_cons]
    cases stroke.mixture? column row <;> rfl

theorem foldl_after_of_overwrite? (earlier later : List Stroke) {last : Stroke} {value : Rgba}
    (written : last.overwrite? column row = some value) (below : Rgba) :
    (earlier ++ last :: later).foldl (after mix column row) below =
      later.foldl (after mix column row) value := by
  rw [List.foldl_append, List.foldl_cons, after_of_overwrite? written]

theorem foldl_after_filter (strokes : List Stroke) (below : Rgba) :
    (strokes.filter (actsAt column row)).foldl (after mix column row) below =
      strokes.foldl (after mix column row) below := by
  rw [List.foldl_filter]
  -- A stroke that is passed over would have left the pixel alone.
  congr 1
  funext below stroke
  split
  next acts => rfl
  next idle => exact (after_of_not_actsAt (Bool.eq_false_iff.mpr idle) below).symm

/-- The final value of a pixel that is `below` at first: from the last stroke that overwrites it on,
or from the start if none does, the colours mixed in by later strokes, in order. -/
inductive Leaves (mix : Rgba → Rgba → Rgba) (column row : Nat) (below : Rgba) :
    List Stroke → Rgba → Prop
  | never (strokes : List Stroke)
      (kept : ∀ stroke ∈ strokes, stroke.overwrite? column row = none) :
      Leaves mix column row below strokes
        ((strokes.filterMap (mixture? column row)).foldl mix below)
  | last (earlier : List Stroke) (stroke : Stroke) (later : List Stroke) (value : Rgba)
      (written : stroke.overwrite? column row = some value)
      (kept : ∀ stroke ∈ later, stroke.overwrite? column row = none) :
      Leaves mix column row below (earlier ++ stroke :: later)
        ((later.filterMap (mixture? column row)).foldl mix value)

theorem Leaves.eq_foldl {below value : Rgba} {strokes : List Stroke}
    (leaves : Leaves mix column row below strokes value) :
    value = strokes.foldl (after mix column row) below := by
  cases leaves with
  | never strokes kept => rw [foldl_after_of_not_overwrite? strokes kept]
  | last earlier stroke later value written kept =>
    rw [foldl_after_of_overwrite? earlier later written, foldl_after_of_not_overwrite? later kept]

theorem exists_leaves (mix : Rgba → Rgba → Rgba) (column row : Nat) (below : Rgba)
    (strokes : List Stroke) : ∃ value, Leaves mix column row below strokes value := by
  induction strokes with
  | nil => exact ⟨_, .never [] (by simp)⟩
  | cons stroke rest ih =>
    obtain ⟨value, leaves⟩ := ih
    cases leaves with
    | last earlier last later value written kept =>
      exact ⟨_, .last (stroke :: earlier) last later value written kept⟩
    | never strokes kept =>
      -- Nothing after the first stroke overwrites, so it is the last to do so if it does.
      cases written : stroke.overwrite? column row with
      | some value => exact ⟨_, .last [] stroke rest value written kept⟩
      | none => exact ⟨_, .never (stroke :: rest) (List.forall_mem_cons.mpr ⟨written, kept⟩)⟩

theorem leaves_iff {below value : Rgba} {strokes : List Stroke} :
    Leaves mix column row below strokes value ↔
      strokes.foldl (after mix column row) below = value := by
  constructor
  · intro leaves
    exact leaves.eq_foldl.symm
  · rintro rfl
    obtain ⟨value, leaves⟩ := exists_leaves mix column row below strokes
    rw [← leaves.eq_foldl]
    exact leaves

/-! ## Main result -/

/-- The painter's law. A run of strokes leaves at a pixel what its own history says; strokes that do
not act there, and whatever comes before a stroke that overwrites, make no difference. -/
theorem painters_law (mix : Rgba → Rgba → Rgba) (surface : Bitmap) (strokes : List Stroke) :
    (paint mix surface strokes).size = surface.size ∧
    ∀ (column row : Nat) (below : Rgba), surface.pixel? column row = some below →
      (∀ value, (paint mix surface strokes).pixel? column row = some value ↔
        Leaves mix column row below strokes value) ∧
      (∀ others : List Stroke,
        others.filter (actsAt column row) = strokes.filter (actsAt column row) →
        (paint mix surface others).pixel? column row =
          (paint mix surface strokes).pixel? column row) ∧
      (∀ (earlier others : List Stroke) (last : Stroke) (later : List Stroke),
        strokes = earlier ++ last :: later → (last.overwrite? column row).isSome →
        (paint mix surface (others ++ last :: later)).pixel? column row =
          (paint mix surface strokes).pixel? column row) := by
  refine ⟨size_paint mix surface strokes, ?_⟩
  intro column row below found
  have painted (strokes : List Stroke) : (paint mix surface strokes).pixel? column row =
      some (strokes.foldl (after mix column row) below) := by
    rw [pixel?_paint, found, Option.map_some]
  refine ⟨?_, ?_, ?_⟩
  · intro value
    rw [painted, leaves_iff, Option.some_inj]
  · intro others same
    rw [painted, painted, ← foldl_after_filter others, same, foldl_after_filter]
  · rintro earlier others last later rfl overwrites
    obtain ⟨value, written⟩ := Option.isSome_iff_exists.mp overwrites
    rw [painted, painted, foldl_after_of_overwrite? others later written,
      foldl_after_of_overwrite? earlier later written]

/-- A stamp over the left border hides a fill and a half transparent stamp; one without colour comes
between it and the last one. -/
theorem painters_law_hidden :
    let surface := Bitmap.filled ⟨2, 1⟩ ⟨1, 1, 1, 255⟩
    let dot (alpha : UInt8) (x : Int64) : Stroke :=
      press ⟨.filled ⟨1, 1⟩ ⟨8, 0, 0, alpha⟩, x, 0, ⟨2, 1⟩⟩
    let strokes := [fill ⟨0, 0, 0, 255⟩, dot 128 0, dot 255 (-1), dot 0 0, dot 64 0]
    surface.pixel? 0 0 = some ⟨1, 1, 1, 255⟩ ∧
      (paint Rgba.blend surface strokes).pixel? 0 0 =
        some (Rgba.blend ⟨8, 0, 0, 255⟩ ⟨8, 0, 0, 64⟩) ∧
      (paint Rgba.blend surface [dot 0 0, dot 255 (-1), dot 0 0, dot 64 0]).pixel? 0 0 =
        (paint Rgba.blend surface strokes).pixel? 0 0 ∧
      (paint Rgba.blend surface [fill ⟨0, 0, 0, 255⟩, dot 128 0, dot 255 (-1), dot 64 0]).pixel?
        0 0 = (paint Rgba.blend surface strokes).pixel? 0 0 := by
  intro surface dot strokes
  have found : surface.pixel? 0 0 = some ⟨1, 1, 1, 255⟩ := by decide +kernel
  obtain ⟨settled, idle, hidden⟩ := (painters_law Rgba.blend surface strokes).2 0 0 _ found
  have mixed : [dot 0 0, dot 64 0].filterMap (mixture? 0 0) = [⟨8, 0, 0, 64⟩] := by
    decide +kernel
  have written : (dot 255 (-1)).overwrite? 0 0 = some ⟨8, 0, 0, 255⟩ := by decide +kernel
  have kept : ∀ stroke ∈ [dot 0 0, dot 64 0], stroke.overwrite? 0 0 = none := by decide +kernel
  have leaves : Leaves Rgba.blend 0 0 ⟨1, 1, 1, 255⟩ strokes _ :=
    .last [fill ⟨0, 0, 0, 255⟩, dot 128 0] (dot 255 (-1)) [dot 0 0, dot 64 0] _ written kept
  rw [mixed] at leaves
  refine ⟨found, (settled _).mpr leaves, ?_, ?_⟩
  · exact hidden [fill ⟨0, 0, 0, 255⟩, dot 128 0] [dot 0 0] (dot 255 (-1)) _ rfl
      (by rw [written]; rfl)
  · exact idle _ (by rfl)

end Stroke
end Flipbook
