/-!
# One axis of a stretched picture

A picture of `source` pixels is stretched to `length` pixels, the first of which lies at `origin`
on a surface, on it or far off. `places` lists the places on the surface that are covered, and
`touched` gives with each of them the source pixel that is shown there. The arithmetic is that of
64-bit words: an end beyond their range is moved back into it, which no surface is large enough to
show.
-/
namespace Flipbook

structure Stretch where
  origin : Int64
  length : UInt32
  source : UInt32
deriving DecidableEq, Repr

namespace Stretch

def ofWord (word : UInt32) : Int64 := Int64.ofNat word.toNat

/-- The first place on a surface that can be covered. -/
def first (stretch : Stretch) : Int64 := max stretch.origin 0

/-- The place after the last one covered on a surface of `limit` pixels. -/
def stop (stretch : Stretch) (limit : UInt32) : Int64 :=
  min (Int64.ofIntClamp (stretch.origin.toInt + stretch.length.toNat)) (ofWord limit)

/-- The source pixel shown at a place, the nearest one before it. -/
def sample (stretch : Stretch) (place : Int64) : UInt32 :=
  let offset := (place - stretch.origin).toUInt64
  (offset * stretch.source.toUInt64 / stretch.length.toUInt64).toUInt32

/-- The covered places of a surface of `limit` pixels in ascending order. A stretch from nothing or
to nothing covers none. -/
def places (stretch : Stretch) (limit : UInt32) : List Int64 :=
  if stretch.source = 0 ∨ stretch.length = 0 then []
  else
    (List.range ((stretch.stop limit).toInt - stretch.first.toInt).toNat).map fun steps =>
      stretch.first + Int64.ofNat steps

/-- A place as a word, and the source pixel shown there. -/
def spot (stretch : Stretch) (place : Int64) : UInt32 × UInt32 :=
  (place.toUInt64.toUInt32, stretch.sample place)

/-- The covered places, each with its source pixel. -/
def touched (stretch : Stretch) (limit : UInt32) : List (UInt32 × UInt32) :=
  (stretch.places limit).map stretch.spot

end Stretch
end Flipbook
