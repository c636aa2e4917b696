import Flipbook.Host.Easel
import Flipbook.Proofs.Raster.Opacity
import Flipbook.Proofs.Session.History

/-! What drawing commands do to a surface without any transparency: its pixels keep their alpha up to
one step. -/
namespace Flipbook

def Bitmap.Solid (bitmap : Bitmap) : Prop :=
  ∀ column row pixel, bitmap.pixel? column row = some pixel → pixel.alpha = 255

theorem Bitmap.solid_fill (bitmap : Bitmap) {color : Rgba} (solid : color.alpha = 255) :
    (bitmap.fill color).Solid := by
  intro column row pixel found
  rw [pixel?_fill] at found
  obtain ⟨below, _, rfl⟩ := Option.map_eq_some_iff.mp found
  exact solid

/-! ## A session on an easel as a run of strokes -/

def Deed.stroke : Deed Bitmap Easel.Act → Stroke
  | .draw drawing => .press (Easel.stampOf drawing.picture drawing.placement)
  | .act (.background color) => .fill color

theorem Easel.surface_foldl_on (deeds : List (Deed Bitmap Easel.Act)) (easel : Easel) :
    (deeds.foldl Deed.on easel).surface =
      Stroke.paint Rgba.blend easel.surface (deeds.map Deed.stroke) := by
  unfold Stroke.paint
  induction deeds generalizing easel with
  | nil => rfl
  | cons deed rest ih =>
    rw [List.foldl_cons, ih]
    cases deed with
    | draw drawing => rfl
    | act what => cases what; rfl

namespace Session

variable {commands : List (Command Bitmap Easel.Act)}

/-- The strokes that commands put on the surface, in order. -/
def strokes (session : Session Easel Bitmap) (commands : List (Command Bitmap Easel.Act)) :
    List Stroke :=
  (session.history commands).map Deed.stroke

theorem surface_run (session : Session Easel Bitmap)
    (commands : List (Command Bitmap Easel.Act)) :
    (session.run commands).2.host.surface =
      Stroke.paint Rgba.blend session.host.surface (session.strokes commands) := by
  rw [host_run, Easel.surface_foldl_on, strokes]

theorem fillSolid_strokes (session : Session Easel Bitmap)
    (solid : ∀ color, .act (.background color) ∈ commands → color.alpha = 255) :
    Stroke.FillSolid (session.strokes commands) := by
  intro color filled
  obtain ⟨deed, done, equal⟩ := List.mem_map.mp filled
  cases deed with
  | draw drawing => contradiction
  | act what =>
    obtain ⟨painted⟩ := what
    cases equal
    exact solid color (act_mem_of_mem_history session done)

/-! ## Main result -/

/-- On a solid surface drawing and playing, also over solid backgrounds, leave every pixel an alpha
of 254 or 255. It is 254 exactly where, since the place was last overwritten, something was mixed in
whose alpha is one of 128, 132 and so on up to 252. -/
theorem opacity_law (session : Session Easel Bitmap)
    (commands : List (Command Bitmap Easel.Act))
    (solid : ∀ color, .act (.background color) ∈ commands → color.alpha = 255)
    (whole : session.host.surface.Solid) :
    (session.run commands).2.host.surface.size = session.host.surface.size ∧
    ∀ (column row : Nat) (pixel : Rgba),
      (session.run commands).2.host.surface.pixel? column row = some pixel →
      (pixel.alpha = 254 ∨ pixel.alpha = 255) ∧
        (pixel.alpha = 254 ↔ Stroke.Dimmed column row (session.strokes commands)) := by
  rw [surface_run]
  have size_eq := Stroke.size_paint Rgba.blend session.host.surface (session.strokes commands)
  refine ⟨size_eq, ?_⟩
  intro column row pixel painted
  have inside : (session.host.surface.pixel? column row).isSome := by
    rw [Bitmap.pixel?_isSome, ← size_eq, ← Bitmap.pixel?_isSome, painted]
    rfl
  obtain ⟨below, found⟩ := Option.isSome_iff_exists.mp inside
  exact Stroke.alpha_paint _ (session.fillSolid_strokes solid) found
    (whole column row below found) painted

/-- A half transparent image dims both pixels, an image without transparency then overwrites the right
one, and a reel, scaled over both, mixes in an alpha that dims nothing. -/
theorem opacity_law_overwritten :
    let dot (alpha : UInt8) := Bitmap.filled ⟨1, 1⟩ ⟨8, 0, 0, alpha⟩
    let session : Session Easel Bitmap :=
      { host := ⟨.filled ⟨2, 1⟩ ⟨0, 0, 0, 255⟩, none, ⟨[], []⟩⟩
        reels := Slots.empty.put "walk" ⟨#[dot 129], 1, .start⟩ }
    let commands : List (Command Bitmap Easel.Act) :=
      [.act (.background ⟨9, 9, 9, 255⟩), .draw (dot 128) ⟨0, 0, some (2, 1)⟩,
        .draw (dot 255) ⟨1, 0, none⟩, .play "walk" ⟨0, 0, some (2, 1)⟩ 3]
    session.host.surface.Solid ∧
      (∀ color, .act (.background color) ∈ commands → color.alpha = 255) ∧
      (session.run commands).2.host.surface.pixel? 0 0 = some ⟨8, 0, 0, 254⟩ ∧
      (session.run commands).2.host.surface.pixel? 1 0 = some ⟨8, 0, 0, 255⟩ ∧
      Stroke.Dimmed 0 0 (session.strokes commands) ∧
      ¬Stroke.Dimmed 1 0 (session.strokes commands) := by
  intro dot session commands
  have whole : session.host.surface.Solid :=
    (Bitmap.filled ⟨2, 1⟩ ⟨0, 0, 0, 255⟩).solid_fill rfl
  have solid : ∀ color, .act (.background color) ∈ commands → color.alpha = 255 := by
    simp [commands]
  have left : (session.run commands).2.host.surface.pixel? 0 0 = some ⟨8, 0, 0, 254⟩ := by
    decide +kernel
  have right : (session.run commands).2.host.surface.pixel? 1 0 = some ⟨8, 0, 0, 255⟩ := by
    decide +kernel
  have law := (opacity_law session commands solid whole).2
  refine ⟨whole, solid, left, right, (law 0 0 _ left).2.mp rfl, ?_⟩
  exact mt (law 1 0 _ right).2.mpr (by decide)

/-- One step of alpha can be lost: a solid surface on which an image of alpha 128 is drawn. -/
theorem not_solid_after_draw :
    let session : Session Easel Bitmap :=
      { host := ⟨.filled ⟨1, 1⟩ ⟨0, 0, 0, 255⟩, none, ⟨[], []⟩⟩ }
    let image := Bitmap.filled ⟨1, 1⟩ ⟨0, 0, 0, 128⟩
    session.host.surface.Solid ∧
      ¬(session.run [.draw image ⟨0, 0, none⟩]).2.host.surface.Solid := by
  intro session image
  refine ⟨(Bitmap.filled ⟨1, 1⟩ ⟨0, 0, 0, 255⟩).solid_fill rfl, ?_⟩
  intro solid
  have dimmed : (session.run [.draw image ⟨0, 0, none⟩]).2.host.surface.pixel? 0 0 =
      some ⟨0, 0, 0, 254⟩ := by
    decide +kernel
  exact absurd (solid 0 0 _ dimmed) (by decide)

end Session
end Flipbook
