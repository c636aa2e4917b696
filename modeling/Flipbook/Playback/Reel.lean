import Flipbook.Host
import Flipbook.Playback.Position

/-!
# Reels

A reel plays a sequence of frames at a fixed rate. Each tick shows one frame and moves the
position; behind the last frame the reel is finished and stays so until it is rewound.
-/
namespace Flipbook

structure Reel (π : Type) where
  frames : Array π
  rate : UInt32
  position : Position

inductive PlayState where
  | playing
  | finished
deriving DecidableEq, Repr

namespace Reel

variable {π : Type}

def ofFrames (frames : Array π) (rate : UInt32) : Except SettingFault (Reel π) :=
  if rate = 0 then .error .zeroRate else .ok ⟨frames, rate, .start⟩

def length (reel : Reel π) : UInt64 := reel.frames.size.toUInt64

def isFinished (reel : Reel π) : Bool := reel.position.isPast reel.length

def state (reel : Reel π) : PlayState := if reel.isFinished then .finished else .playing

def rewind (reel : Reel π) : Reel π := { reel with position := .start }

/-- Count one tick: the frame to show for it, and the reel after it. A finished reel shows
nothing and stays as it is. -/
def tick (reel : Reel π) : Option π × Reel π :=
  if reel.isFinished then
    (none, reel)
  else
    (reel.frames[reel.position.frame.toNat]?,
      { reel with position := reel.position.advance reel.rate })

/-- Count some ticks, adding what each of them shows to `shown`. -/
def ticks : Nat → Reel π → Array (Option π) → Array (Option π) × Reel π
  | 0, reel, shown => (shown, reel)
  | n + 1, reel, shown => ticks n reel.tick.2 (shown.push reel.tick.1)

variable {σ α : Type} [Host σ π α]

/-- Count one tick and draw its frame. Nothing is drawn once the reel is finished, and the answer
is whether something was. -/
def play (reel : Reel π) (host : σ) (placement : Placement) : Bool × Reel π × σ :=
  match reel.tick with
  | (some frame, reel) => (true, reel, Host.draw host frame placement)
  | (none, reel) => (false, reel, host)

/-- Play some ticks at one placement, adding the answer for each of them to `played`. -/
def plays (placement : Placement) : Nat → Reel π → σ → Array Bool → Array Bool × Reel π × σ
  | 0, reel, host, played => (played, reel, host)
  | n + 1, reel, host, played =>
    let (drawn, reel, host) := reel.play host placement
    plays placement n reel host (played.push drawn)

end Reel
end Flipbook
