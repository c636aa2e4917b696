import Flipbook.Host
import Flipbook.Raster.Stamp
import Flipbook.Storage.Disk

/-!
# A host that paints on a bitmap

An easel carries a surface that is transparent at first, and loads pictures from a disk. Relative
paths start from its asset directory, where it has one.
-/
namespace Flipbook

structure Easel where
  surface : Bitmap
  assets : Option String
  disk : Disk

inductive Easel.Act where
  | background (color : Rgba)

namespace Easel

def blank (size : Size) (assets : Option String) (disk : Disk) : Easel :=
  ⟨.filled size .transparent, assets, disk⟩

def resolve (easel : Easel) (path : String) : String :=
  match easel.assets with
  | some directory => Path.join directory path
  | none => path

def load (easel : Easel) (path : String) : Except Fault Bitmap × Easel :=
  ((easel.disk.load (easel.resolve path)).mapError .image, easel)

/-- The stamp of an image at a placement: corner and size are rounded to whole pixels, each on its
own. -/
def stampOf (image : Bitmap) (placement : Placement) : Stamp where
  image := image
  x := placement.x.toInt64
  y := placement.y.toInt64
  size :=
    match placement.scaled with
    | some (width, height) => ⟨width.toUInt32, height.toUInt32⟩
    | none => image.size

def draw (easel : Easel) (image : Bitmap) (placement : Placement) : Easel :=
  { easel with surface := easel.surface.stamp Rgba.blend (stampOf image placement) }

def act (easel : Easel) : Easel.Act → Easel
  | .background color => { easel with surface := easel.surface.fill color }

instance : Host Easel Bitmap Easel.Act where
  load := load
  draw := draw
  act := act

instance : LawfulHost Easel where
  load_snd _ _ := rfl

end Easel
end Flipbook
