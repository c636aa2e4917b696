/-!
# Playback positions

A position is the frame being shown and the ticks for which it has been shown. It needs no
frames, so the timing rule stands on its own.
-/
namespace Flipbook

structure Position where
  frame : UInt64 := 0
  ticks : UInt32 := 0
deriving DecidableEq, Repr, Inhabited

namespace Position

def start : Position := {}

/-- The position one tick later. A frame stays for `rate + 1` ticks: it leaves on the tick that
finds `rate` ticks already counted. -/
def advance (position : Position) (rate : UInt32) : Position :=
  if position.ticks ≥ rate then
    ⟨position.frame + 1, 0⟩
  else
    ⟨position.frame, position.ticks + 1⟩

def run (position : Position) (rates : List UInt32) : Position := rates.foldl advance position

def hold (rate : UInt32) : Nat → Position → Position
  | 0, position => position
  | n + 1, position => hold rate n (position.advance rate)

theorem hold_eq_run (rate : UInt32) (n : Nat) (position : Position) :
    hold rate n position = position.run (List.replicate n rate) := by
  induction n generalizing position with
  | zero => rfl
  | succ n ih => exact ih (position.advance rate)

/-- The position lies behind the last of `count` frames. -/
def isPast (position : Position) (count : UInt64) : Bool := position.frame ≥ count

end Position
end Flipbook
