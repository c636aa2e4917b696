import Flipbook.Number.Single

/-!
# Colours with an alpha channel

`Rgba.cover` puts one pixel on another. What a partly transparent pixel does to the one below is a
parameter of it, since most laws of drawing do not depend on it; `Rgba.blend` is the rule in use.
-/
namespace Flipbook

structure Rgba where
  red : UInt8
  green : UInt8
  blue : UInt8
  alpha : UInt8
deriving DecidableEq, Repr, Inhabited

namespace Rgba

def transparent : Rgba := ⟨0, 0, 0, 0⟩

/-- A fully transparent pixel leaves what is below, an opaque one replaces it, and any other is
mixed with it. -/
def cover (mix : Rgba → Rgba → Rgba) (below above : Rgba) : Rgba :=
  if above.alpha = 0 then below
  else if above.alpha = 255 then above
  else mix below above

/-! ## Blending in single precision -/

def share (byte : UInt8) : Single := Single.ofNat byte.toNat / 255

/-- The byte of a share, its fraction dropped. -/
def byte (part : Single) : UInt8 := (255 * part).toUInt8

def mixedAlpha (below above : Single) : Single := below + above - below * above

/-- One channel of a mixture. Each colour weighs as much as its alpha, the one below only as far as
the one above lets it through. -/
def mixedChannel (belowAlpha aboveAlpha through alpha : Single) (below above : UInt8) : UInt8 :=
  byte ((share above * aboveAlpha + share below * belowAlpha * through) / alpha)

/-- Mix a pixel into the one below, every operation rounded to single precision. A mixture without
any alpha leaves the pixel below as it is. -/
def blend (below above : Rgba) : Rgba :=
  let belowAlpha := share below.alpha
  let aboveAlpha := share above.alpha
  let alpha := mixedAlpha belowAlpha aboveAlpha
  if alpha.isZero then below
  else
    let channel := mixedChannel belowAlpha aboveAlpha (1 - aboveAlpha) alpha
    ⟨channel below.red above.red, channel below.green above.green,
      channel below.blue above.blue, byte alpha⟩

end Rgba
end Flipbook
