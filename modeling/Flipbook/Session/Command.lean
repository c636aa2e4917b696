import Flipbook.Atlas.Walk

/-!
# Commands and replies

A session is driven by commands on named atlases and reels. `into` names the slot that receives a
result.
-/
namespace Flipbook

/-- `π` is the type of pictures, `α` that of the acts the host knows beside drawing. -/
inductive Command (π α : Type) where
  /-- Lay cells over a picture. -/
  | slice (cell : Size) (picture : π) (into : String)
  /-- Load a picture and lay cells over it. -/
  | load (path : String) (cell : Size) (into : String)
  /-- Lay cells over a frame of an atlas. -/
  | recut (atlas : String) (frame : UInt32) (cell : Size) (into : String)
  | showAtlas (atlas : String)
  | showPicture (atlas : String)
  | locate (atlas : String) (frame : UInt32)
  | copyFrame (atlas : String) (frame : UInt32)
  /-- Start a walk, pass over frames if asked to, and take some. -/
  | walk (atlas : String) (skip : Option Nat) (take : Nat)
  | drawFrame (atlas : String) (frame : UInt32) (placement : Placement)
  | draw (picture : π) (placement : Placement)
  /-- Make a reel of a run of frames of an atlas. -/
  | wind (atlas : String) (first count rate : UInt32) (into : String)
  /-- Make a reel of given frames. -/
  | splice (frames : Array π) (rate : UInt32) (into : String)
  /-- Copy a reel, position included. -/
  | copyReel (reel : String) (into : String)
  | showReel (reel : String)
  | showFrames (reel : String)
  | rewind (reel : String)
  | tick (reel : String) (times : Nat)
  | play (reel : String) (placement : Placement) (times : Nat)
  | act (what : α)

inductive Reply (π : Type) [Picture π] where
  | atlas (atlas : Atlas π)
  | picture (picture : π)
  | rect (rect : Rect)
  /-- The hint at the start, the one after passing over frames if that was asked, and each answer
  with the hint after it. -/
  | walked (start : SizeHint) (behind : Option SizeHint) (taken : Array (Option π × SizeHint))
  | drawn
  | reel (reel : Reel π)
  | frames (frames : Array π)
  | ticked (reel : Reel π) (shown : Array (Option π))
  | played (reel : Reel π) (drawn : Array Bool)

inductive Refusal where
  | emptySlot (name : String)
  | fault (cause : Fault)

end Flipbook
