import Flipbook.Geometry.Rect

/-!
# Pictures

All that cutting a sheet into frames needs of a picture is its size and a way to copy a rectangle
out of it.
-/
namespace Flipbook

/-- `cut` is only ever asked for rectangles that lie inside the picture, so instances are free in
what they give for others. -/
class Picture (π : Type) where
  size : π → Size
  cut : π → Rect → π

/-- A rectangle stands for the picture cut out there. -/
instance : Picture Rect where
  size := Rect.size
  cut := Rect.part

end Flipbook
