import Flipbook.Geometry.Grid
import Flipbook.Notice
import Flipbook.Playback.Reel

/-!
# Atlases

An atlas is a picture under a grid; its cells are numbered frames. A frame, a run of frames as a
reel, and the atlas itself are copies, so nothing that is done to them changes the atlas.
-/
namespace Flipbook

structure Atlas (π : Type) [Picture π] where
  grid : Grid
  picture : π
  covers : grid.area = Picture.size picture

namespace Atlas

variable {π : Type} [Picture π]

/-- Lay cells over a picture, remarking on pixels that end up in no cell. -/
def slice (cell : Size) (picture : π) : Noted (Except Fault (Atlas π)) :=
  match fitted : Grid.fit cell (Picture.size picture) with
  | .error cause => .plain (.error (.geometry cause))
  | .ok grid =>
    { notices := if grid.hasPartialCells then [.partialCells grid.area cell] else []
      value := .ok ⟨grid, picture, Grid.area_of_fit fitted⟩ }

def locate (atlas : Atlas π) (frame : UInt32) : Except Fault Rect :=
  (atlas.grid.locate frame).mapError .range

def frame (atlas : Atlas π) (frame : UInt32) : Except Fault π := do
  return Picture.cut atlas.picture (← atlas.locate frame)

/-- The frame number `offset` frames after `first`. -/
def frameAfter (first offset : UInt32) : Except Fault UInt32 :=
  if first.toNat + offset.toNat < UInt32.size then
    .ok (first + offset)
  else
    .error (.range (.indexTooLarge first offset))

/-- The whole run of `count` frames from `first` lies on the atlas. Only its last frame is looked
at, since the frames before it lie higher up. -/
def checkRun (atlas : Atlas π) (first count : UInt32) : Except Fault Unit :=
  if count = 0 then
    .ok ()
  else do
    let last ← frameAfter first (count - 1)
    discard (atlas.locate last)

def run (atlas : Atlas π) (first count : UInt32) : Except Fault (List π) :=
  (List.range count.toNat).mapM fun offset => do
    atlas.frame (← frameAfter first (UInt32.ofNat offset))

/-- A reel of `count` frames from `first`. The run is checked before anything is copied and the
rate last of all. -/
def reel (atlas : Atlas π) (first count rate : UInt32) : Except Fault (Reel π) := do
  atlas.checkRun first count
  let frames ← atlas.run first count
  (Reel.ofFrames frames.toArray rate).mapError .setting

/-- Lay cells over what was loaded from a path. A fault of loading is passed on whatever the cell
size. -/
def ofLoaded (path : String) (cell : Size) : Except Fault π → Noted (Except Fault (Atlas π))
  | .error fault => .plain (.error fault)
  | .ok picture =>
    match slice cell picture with
    | ⟨notices, .error fault⟩ => ⟨notices, .error fault⟩
    | ⟨notices, .ok atlas⟩ => ⟨notices ++ [.loaded path atlas.grid.shape cell], .ok atlas⟩

/-- Load a picture through the host and lay cells over it. -/
def load {σ α : Type} [Host σ π α] (host : σ) (path : String) (cell : Size) :
    Noted (Except Fault (Atlas π)) × σ :=
  let (found, host) := Host.load host path
  (ofLoaded path cell found, host)

end Atlas
end Flipbook
