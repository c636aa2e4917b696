import Flipbook.Raster.Bitmap
import Flipbook.Raster.Stretch

/-!
# Drawing one bitmap onto another

A stamp is a bitmap stretched over a rectangle that may lie partly or wholly off the surface.
`Bitmap.stamp` visits the covered pixels of the surface row by row and puts the sampled pixel
over each.
-/
namespace Flipbook

structure Stamp where
  image : Bitmap
  x : Int64
  y : Int64
  size : Size

namespace Stamp

def across (stamp : Stamp) : Stretch := ⟨stamp.x, stamp.size.width, stamp.image.size.width⟩

def down (stamp : Stamp) : Stretch := ⟨stamp.y, stamp.size.height, stamp.image.size.height⟩

/-- Put the sampled pixel of the stamp over one pixel of the surface. -/
def dab (mix : Rgba → Rgba → Rgba) (stamp : Stamp) (surface : Bitmap)
    (column row : UInt32 × UInt32) : Bitmap :=
  match stamp.image.pixel? column.2.toNat row.2.toNat with
  | some above => surface.modify column.1.toNat row.1.toNat (Rgba.cover mix · above)
  | none => surface

/-- Draw one row of the stamp. -/
def drawRow (mix : Rgba → Rgba → Rgba) (stamp : Stamp) (surface : Bitmap)
    (row : UInt32 × UInt32) : Bitmap :=
  (stamp.across.touched surface.size.width).foldl
    (fun surface column => stamp.dab mix surface column row) surface

end Stamp

/-- Draw a stamp onto the surface, mixing partly transparent pixels by `mix`. -/
def Bitmap.stamp (mix : Rgba → Rgba → Rgba) (surface : Bitmap) (stamp : Stamp) : Bitmap :=
  (stamp.down.touched surface.size.height).foldl (stamp.drawRow mix) surface

end Flipbook
