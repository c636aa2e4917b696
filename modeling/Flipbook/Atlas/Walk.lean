import Flipbook.Atlas.Basic

/-!
# Walks over the frames of an atlas

A walk hands out the frames in order, up to the last one that a frame number can name, and knows
how many are still to come. Its counters and the numbers of items that it tells are words of 64 bits,
as an index into memory is.
-/
namespace Flipbook

/-- Bounds of the number of items to come; `none` where there is no upper one. -/
structure SizeHint where
  atLeast : UInt64
  atMost : Option UInt64
deriving DecidableEq, Repr

def SizeHint.exactly (count : UInt64) : SizeHint := ⟨count, some count⟩

structure Walk (π : Type) [Picture π] where
  atlas : Atlas π
  next : UInt64
  stop : UInt64

variable {π : Type} [Picture π]

/-- The walk over all frames that have a 32-bit number. -/
def Atlas.walk (atlas : Atlas π) : Walk π := ⟨atlas, 0, min atlas.grid.count 0x100000000⟩

namespace Walk

def remaining (walk : Walk π) : UInt64 := walk.stop - walk.next

def sizeHint (walk : Walk π) : SizeHint := .exactly walk.remaining

/-- The next frame and the walk behind it; `none` at the end. -/
def next? (walk : Walk π) : Option (π × Walk π) :=
  if walk.next < walk.stop then
    match walk.atlas.frame walk.next.toUInt32 with
    | .ok frame => some (frame, { walk with next := walk.next + 1 })
    | .error _ => none
  else
    none

/-- Pass over some frames, or over all that are left. Every frame before the end exists, so none
has to be looked at. -/
def drop (n : Nat) (walk : Walk π) : Walk π :=
  { walk with next := walk.next + UInt64.ofNat (min n walk.remaining.toNat) }

/-- Ask for a frame some times, adding each answer to `taken` with the hint after it. -/
def take : Nat → Walk π → Array (Option π × SizeHint) → Array (Option π × SizeHint)
  | 0, _, taken => taken
  | n + 1, walk, taken =>
    match walk.next? with
    | some (frame, walk) => take n walk (taken.push (some frame, walk.sizeHint))
    | none => take n walk (taken.push (none, walk.sizeHint))

end Walk
end Flipbook
