import Flipbook.Fault
import Flipbook.Raster.Bitmap

/-!
# What files contain

A file holds an encoded picture or some text. An encoded picture keeps only the channels of its
layout, and decoding fills up the others; the depth of its samples leaves no trace.
-/
namespace Flipbook

inductive Channels where
  | gray
  | grayAlpha
  | rgb
  | rgba
deriving DecidableEq, Repr

namespace Channels

/-- The pixel that comes back: gray is the red channel in all three colours, and what has no alpha
is opaque. -/
def keep (pixel : Rgba) : Channels → Rgba
  | gray => ⟨pixel.red, pixel.red, pixel.red, 255⟩
  | grayAlpha => ⟨pixel.red, pixel.red, pixel.red, pixel.alpha⟩
  | rgb => ⟨pixel.red, pixel.green, pixel.blue, 255⟩
  | rgba => pixel

end Channels

inductive Contents where
  | encoded (channels : Channels) (picture : Bitmap)
  | plain (text : String)

namespace Contents

/-- The length of the mark with which every encoded picture begins. -/
def markLength : Nat := 8

/-- Text never begins with the mark, and where it is shorter it ends before the mark does. -/
def decode : Contents → Except ImageFault Bitmap
  | encoded channels picture => .ok (picture.map fun pixel => channels.keep pixel)
  | plain text =>
    .error <| .malformed (.known .png) <|
      if text.utf8ByteSize < markLength then "unexpected EOF" else "invalid signature"

end Contents
end Flipbook
