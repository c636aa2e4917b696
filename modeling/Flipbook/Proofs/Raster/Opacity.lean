import Flipbook.Proofs.Raster.Painting

/-! What a run of strokes does to the alpha of an opaque pixel. Rounding lets some mixtures end just
below one, so an opaque pixel can lose one step of its alpha, but never a second one. -/
namespace Flipbook

namespace Rgba

/-! ## One mixture -/

/-- The alphas that cost an opaque pixel a step when they are mixed into it: 128, 132 and so on up
to 252. -/
def Dims (alpha : UInt8) : Prop := 128 ≤ alpha.toNat ∧ alpha.toNat % 4 = 0

instance (alpha : UInt8) : Decidable (Dims alpha) := inferInstanceAs (Decidable (_ ∧ _))

def blendAlpha (below above : UInt8) : UInt8 :=
  if (mixedAlpha (share below) (share above)).isZero then below
  else byte (mixedAlpha (share below) (share above))

theorem alpha_blend (below above : Rgba) :
    (blend below above).alpha = blendAlpha below.alpha above.alpha := by
  unfold blend blendAlpha
  dsimp only
  split <;> rfl

private theorem blendAlpha_solid_table : ∀ n < 255, n ≠ 0 →
    blendAlpha 255 (UInt8.ofNat n) = if Dims (UInt8.ofNat n) then 254 else 255 := by
  decide +kernel

private theorem blendAlpha_dimmed_table : ∀ n < 255, n ≠ 0 →
    blendAlpha 254 (UInt8.ofNat n) = 254 := by
  decide +kernel

-- What is listed for the numbers from 1 to 254 holds of every alpha between the ends.
private theorem of_table {P : UInt8 → Prop} (table : ∀ n < 255, n ≠ 0 → P (UInt8.ofNat n))
    {alpha : UInt8} (clear : alpha ≠ 0) (partly : alpha ≠ 255) : P alpha := by
  have bound := alpha.toNat_lt
  have visible : alpha.toNat ≠ 0 := fun same => clear (UInt8.toNat_inj.mp same)
  have below : alpha.toNat ≠ 255 := fun same => partly (UInt8.toNat_inj.mp same)
  have entry := table alpha.toNat (by omega) visible
  rwa [UInt8.ofNat_toNat] at entry

variable {below above : Rgba}

theorem alpha_blend_of_solid (clear : above.alpha ≠ 0) (partly : above.alpha ≠ 255)
    (solid : below.alpha = 255) :
    (blend below above).alpha = if Dims above.alpha then 254 else 255 := by
  rw [alpha_blend, solid]
  exact of_table (P := fun alpha => blendAlpha 255 alpha = if Dims alpha then 254 else 255)
    blendAlpha_solid_table clear partly

theorem alpha_blend_of_dimmed (clear : above.alpha ≠ 0) (partly : above.alpha ≠ 255)
    (dimmed : below.alpha = 254) : (blend below above).alpha = 254 := by
  rw [alpha_blend, dimmed]
  exact of_table (P := fun alpha => blendAlpha 254 alpha = 254) blendAlpha_dimmed_table clear partly

end Rgba

/-! ## One stroke -/

namespace Stroke

variable {column row : Nat} {stroke : Stroke} {strokes : List Stroke} {below : Rgba}

/-- A stroke dims a place if it mixes a colour of such an alpha in there. -/
def DimsAt (column row : Nat) (stroke : Stroke) : Prop :=
  ∃ above, stroke.mixture? column row = some above ∧ Rgba.Dims above.alpha

/-- The strokes that fill the surface do so with an opaque colour. -/
def FillSolid (strokes : List Stroke) : Prop := ∀ color, fill color ∈ strokes → color.alpha = 255

theorem alpha_of_overwrite? {value : Rgba} (solid : ∀ color, stroke = fill color → color.alpha = 255)
    (written : stroke.overwrite? column row = some value) : value.alpha = 255 := by
  cases stroke with
  | fill color =>
    obtain rfl := Option.some.inj written
    exact solid color rfl
  | press stamp => simpa using (Option.filter_eq_some_iff.mp written).2

theorem alpha_of_mixture? {above : Rgba} (mixed : stroke.mixture? column row = some above) :
    stroke.overwrite? column row = none ∧ above.alpha ≠ 0 ∧ above.alpha ≠ 255 := by
  cases stroke with
  | fill color => contradiction
  | press stamp =>
    obtain ⟨shown, between⟩ := Option.filter_eq_some_iff.mp mixed
    have between : above.alpha ≠ 0 ∧ above.alpha ≠ 255 := by simpa using between
    refine ⟨?_, between⟩
    rw [overwrite?, shown]
    simp [Option.filter_some, between.2]

/-- A stroke keeps a pixel opaque up to one step. That step is missing after it if the stroke dims the
place, or leaves there what is dimmed already. -/
theorem alpha_after (column row : Nat) (solid : ∀ color, stroke = fill color → color.alpha = 255)
    (nearly : below.alpha = 254 ∨ below.alpha = 255) :
    ((stroke.after Rgba.blend column row below).alpha = 254 ∨
      (stroke.after Rgba.blend column row below).alpha = 255) ∧
    ((stroke.after Rgba.blend column row below).alpha = 254 ↔
      stroke.DimsAt column row ∨ below.alpha = 254 ∧ stroke.overwrite? column row = none) := by
  cases written : stroke.overwrite? column row with
  | some value =>
    have alpha_eq := alpha_of_overwrite? solid written
    have undimmed : ¬stroke.DimsAt column row := by
      rintro ⟨above, mixed, _⟩
      rw [(alpha_of_mixture? mixed).1] at written
      contradiction
    rw [after_of_overwrite? written, alpha_eq]
    simp [undimmed]
  | none =>
    rw [after_of_not_overwrite? written]
    -- What does not overwrite either leaves the pixel alone or mixes one colour in.
    cases mixed : stroke.mixture? column row with
    | none => simpa [DimsAt, mixed] using nearly
    | some above =>
      obtain ⟨_, clear, partly⟩ := alpha_of_mixture? mixed
      simp only [DimsAt, mixed, Option.toList_some, List.foldl_cons, List.foldl_nil,
        Option.some.injEq, exists_eq_left']
      rcases nearly with dimmed | whole
      · rw [Rgba.alpha_blend_of_dimmed clear partly dimmed]
        simp [dimmed]
      · rw [Rgba.alpha_blend_of_solid clear partly whole]
        by_cases dims : Rgba.Dims above.alpha <;> simp [dims, whole]

/-! ## Runs of strokes -/

/-- Since the last stroke that overwrites a place, if there is one, some stroke dims it. -/
def Dimmed (column row : Nat) (strokes : List Stroke) : Prop :=
  ∃ earlier stroke later, strokes = earlier ++ stroke :: later ∧ stroke.DimsAt column row ∧
    ∀ other ∈ later, other.overwrite? column row = none

theorem not_dimmed_nil : ¬Dimmed column row [] := by
  rintro ⟨earlier, stroke, later, split, _⟩
  simp at split

theorem dimmed_cons : Dimmed column row (stroke :: strokes) ↔
    Dimmed column row strokes ∨
      stroke.DimsAt column row ∧ ∀ other ∈ strokes, other.overwrite? column row = none := by
  constructor
  · rintro ⟨earlier, dimming, later, split, dims, kept⟩
    rcases List.cons_eq_append_iff.mp split with ⟨rfl, first⟩ | ⟨rest, rfl, first⟩
    · obtain ⟨rfl, rfl⟩ := List.cons.inj first
      exact Or.inr ⟨dims, kept⟩
    · exact Or.inl ⟨rest, dimming, later, first, dims, kept⟩
  · rintro (⟨earlier, dimming, later, rfl, dims, kept⟩ | ⟨dims, kept⟩)
    · exact ⟨stroke :: earlier, dimming, later, rfl, dims, kept⟩
    · exact ⟨[], stroke, strokes, rfl, dims, kept⟩

theorem alpha_foldl_after (column row : Nat) (solid : FillSolid strokes)
    (nearly : below.alpha = 254 ∨ below.alpha = 255) :
    ((strokes.foldl (after Rgba.blend column row) below).alpha = 254 ∨
      (strokes.foldl (after Rgba.blend column row) below).alpha = 255) ∧
    ((strokes.foldl (after Rgba.blend column row) below).alpha = 254 ↔
      Dimmed column row strokes ∨
        below.alpha = 254 ∧ ∀ stroke ∈ strokes, stroke.overwrite? column row = none) := by
  -- The induction carries any of the two alphas, since the first strokes may have dimmed the pixel.
  induction strokes generalizing below with
  | nil => simpa [not_dimmed_nil] using nearly
  | cons stroke rest ih =>
    have solid_first : ∀ color, stroke = fill color → color.alpha = 255 :=
      fun color first => solid color (first ▸ List.mem_cons_self)
    have solid_rest : FillSolid rest :=
      fun color member => solid color (List.mem_cons_of_mem _ member)
    obtain ⟨nearly_next, next_iff⟩ := alpha_after column row solid_first nearly
    obtain ⟨nearly_last, last_iff⟩ := ih solid_rest nearly_next
    refine ⟨nearly_last, last_iff.trans ?_⟩
    rw [next_iff, dimmed_cons, List.forall_mem_cons, or_and_right, and_assoc, or_assoc]

/-- A run of strokes over an opaque pixel leaves an alpha of 254 or 255, and 254 exactly where it is
dimmed. -/
theorem alpha_paint (surface : Bitmap) (solid : FillSolid strokes)
    (found : surface.pixel? column row = some below) (whole : below.alpha = 255) {pixel : Rgba}
    (painted : (paint Rgba.blend surface strokes).pixel? column row = some pixel) :
    (pixel.alpha = 254 ∨ pixel.alpha = 255) ∧
      (pixel.alpha = 254 ↔ Dimmed column row strokes) := by
  rw [pixel?_paint, found, Option.map_some] at painted
  obtain rfl := Option.some.inj painted
  obtain ⟨nearly, dimmed_iff⟩ := alpha_foldl_after column row solid (Or.inr whole)
  exact ⟨nearly, by simpa [whole] using dimmed_iff⟩

end Stroke
end Flipbook
