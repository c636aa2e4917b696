import Flipbook.Host.Recorder
import Flipbook.Playback.Reel
import Mathlib.Data.Nat.Basic

/-! Where a reel stands after any calls, told from the number of ticks alone. -/
namespace Flipbook

/-! ## One tick of a position -/

namespace Position

theorem advance_of_due (position : Position) (rate : UInt32) (due : rate ≤ position.ticks)
    (room : position.frame.toNat + 1 < UInt64.size) :
    (position.advance rate).frame.toNat = position.frame.toNat + 1 ∧
      (position.advance rate).ticks.toNat = 0 := by
  unfold advance
  rw [if_pos due]
  refine ⟨?_, rfl⟩
  rw [UInt64.toNat_add]
  exact Nat.mod_eq_of_lt room

theorem advance_of_held (position : Position) (rate : UInt32) (held : position.ticks < rate) :
    (position.advance rate).frame = position.frame ∧
      (position.advance rate).ticks.toNat = position.ticks.toNat + 1 := by
  unfold advance
  rw [if_neg (UInt32.not_le.mpr held)]
  refine ⟨rfl, ?_⟩
  -- A counter below the rate has room for one more tick.
  have below := UInt32.lt_iff_toNat_lt.mp held
  have bound := rate.toNat_lt
  rw [UInt32.toNat_add]
  exact Nat.mod_eq_of_lt (Nat.lt_of_le_of_lt below bound)

/-- Neither counter leaves its word on the next tick. -/
def Advances (position : Position) (rate : UInt32) : Prop :=
  if rate ≤ position.ticks then position.frame.toNat + 1 < UInt64.size
  else position.ticks.toNat + 1 < UInt32.size

end Position

/-! ## Counting ticks in frames -/

private theorem div_mod_succ_of_last {count rate : Nat} (last : count % (rate + 1) = rate) :
    (count + 1) / (rate + 1) = count / (rate + 1) + 1 ∧ (count + 1) % (rate + 1) = 0 := by
  have positive : 0 < rate + 1 := Nat.succ_pos rate
  have whole := Nat.mod_add_div count (rate + 1)
  rw [Nat.div_mod_unique positive, Nat.mul_succ]
  omega

private theorem div_mod_succ_of_not_last {count rate : Nat} (more : count % (rate + 1) ≠ rate) :
    (count + 1) / (rate + 1) = count / (rate + 1) ∧
      (count + 1) % (rate + 1) = count % (rate + 1) + 1 := by
  have positive : 0 < rate + 1 := Nat.succ_pos rate
  have whole := Nat.mod_add_div count (rate + 1)
  have bound := Nat.mod_lt count positive
  rw [Nat.div_mod_unique positive]
  omega

namespace Reel

variable {π : Type}

/-- The number of ticks that show something. -/
def span (frames : Array π) (rate : UInt32) : Nat := frames.size * (rate.toNat + 1)

/-- The reel stands where `count` ticks from its start lead. -/
structure StandsAt (frames : Array π) (rate : UInt32) (count : Nat) (reel : Reel π) : Prop where
  frame_eq : reel.position.frame.toNat = count / (rate.toNat + 1)
  ticks_eq : reel.position.ticks.toNat = count % (rate.toNat + 1)
  frames_eq : reel.frames = frames
  rate_eq : reel.rate = rate

section
variable {frames : Array π} {rate : UInt32} {count : Nat} {reel : Reel π}

theorem standsAt_of_ofFrames (made : ofFrames frames rate = .ok reel) :
    StandsAt frames rate 0 reel := by
  unfold ofFrames at made
  split at made
  · cases made
  · cases made
    exact ⟨by simp [Position.start], by simp [Position.start], rfl, rfl⟩

theorem StandsAt.rewind (stands : StandsAt frames rate count reel) :
    StandsAt frames rate 0 reel.rewind :=
  ⟨by simp [Reel.rewind, Position.start], by simp [Reel.rewind, Position.start],
    stands.frames_eq, stands.rate_eq⟩

theorem StandsAt.isFinished_iff (stands : StandsAt frames rate count reel)
    (fits : frames.size < UInt64.size) : reel.isFinished = true ↔ span frames rate ≤ count := by
  have length_eq : reel.length.toNat = frames.size := by
    rw [length, stands.frames_eq]
    exact Nat.mod_eq_of_lt fits
  unfold isFinished Position.isPast
  rw [decide_eq_true_iff, ge_iff_le, UInt64.le_iff_toNat_le, length_eq, stands.frame_eq, span,
    Nat.le_div_iff_mul_le (Nat.succ_pos _)]

theorem StandsAt.tick_of_le (stands : StandsAt frames rate count reel)
    (fits : frames.size < UInt64.size) (finished : span frames rate ≤ count) :
    reel.tick = (none, reel) := by
  unfold tick
  rw [if_pos ((stands.isFinished_iff fits).mpr finished)]

theorem StandsAt.frame_lt (stands : StandsAt frames rate count reel)
    (playing : count < span frames rate) : reel.position.frame.toNat < frames.size := by
  rw [stands.frame_eq, Nat.div_lt_iff_lt_mul (Nat.succ_pos _)]
  exact playing

theorem StandsAt.due_iff (stands : StandsAt frames rate count reel) :
    rate ≤ reel.position.ticks ↔ count % (rate.toNat + 1) = rate.toNat := by
  have bound : count % (rate.toNat + 1) < rate.toNat + 1 := Nat.mod_lt count (Nat.succ_pos _)
  rw [UInt32.le_iff_toNat_le, stands.ticks_eq]
  omega

theorem StandsAt.advances (stands : StandsAt frames rate count reel)
    (fits : frames.size < UInt64.size) (playing : count < span frames rate) :
    reel.position.Advances rate := by
  have inside := stands.frame_lt playing
  unfold Position.Advances
  split
  next due => omega
  next held =>
    have below := UInt32.lt_iff_toNat_lt.mp (UInt32.not_le.mp held)
    exact Nat.lt_of_le_of_lt below rate.toNat_lt

theorem StandsAt.tick_of_lt (stands : StandsAt frames rate count reel)
    (fits : frames.size < UInt64.size) (playing : count < span frames rate) :
    reel.tick.1 = frames[count / (rate.toNat + 1)]? ∧
      StandsAt frames rate (count + 1) reel.tick.2 := by
  have unfinished : ¬reel.isFinished = true := by
    rw [stands.isFinished_iff fits]
    omega
  unfold tick
  rw [if_neg unfinished, stands.frames_eq, stands.rate_eq, stands.frame_eq]
  refine ⟨rfl, ?_⟩
  -- The tick that finds the counter at the rate is the last one of its frame.
  by_cases due : rate ≤ reel.position.ticks
  · have inside := stands.frame_lt playing
    obtain ⟨frame, ticks⟩ := reel.position.advance_of_due rate due (by omega)
    obtain ⟨quotient, rest⟩ := div_mod_succ_of_last (stands.due_iff.mp due)
    exact ⟨by rw [frame, stands.frame_eq, quotient], by rw [ticks, rest], rfl, rfl⟩
  · obtain ⟨frame, ticks⟩ := reel.position.advance_of_held rate (UInt32.not_le.mp due)
    obtain ⟨quotient, rest⟩ := div_mod_succ_of_not_last (mt stands.due_iff.mpr due)
    exact ⟨by rw [frame, stands.frame_eq, quotient], by rw [ticks, stands.ticks_eq, rest],
      rfl, rfl⟩

theorem StandsAt.tick (stands : StandsAt frames rate (min count (span frames rate)) reel)
    (fits : frames.size < UInt64.size) :
    reel.tick.1 = frames[count / (rate.toNat + 1)]? ∧
      StandsAt frames rate (min (count + 1) (span frames rate)) reel.tick.2 := by
  by_cases playing : count < span frames rate
  · rw [min_eq_left (Nat.le_of_lt playing)] at stands
    rw [min_eq_left (Nat.succ_le_of_lt playing)]
    exact stands.tick_of_lt fits playing
  -- Past the end the reel counts no further.
  · have past := Nat.le_of_not_lt playing
    rw [min_eq_right past] at stands
    rw [min_eq_right (Nat.le_succ_of_le past), stands.tick_of_le fits le_rfl]
    refine ⟨?_, stands⟩
    have beyond : frames.size ≤ count / (rate.toNat + 1) :=
      (Nat.le_div_iff_mul_le (Nat.succ_pos _)).mpr past
    rw [Array.getElem?_eq_none beyond]

end

end Reel

/-! ## Runs of calls -/

/-- What a player asks of a reel. -/
inductive Call where
  | tick
  | play (x y : Single)
  | playScaled (x y width height : Single)
  | rewind
deriving DecidableEq, Repr

namespace Call

def placement? : Call → Option Placement
  | tick | rewind => none
  | play x y => some ⟨x, y, none⟩
  | playScaled x y width height => some ⟨x, y, some (width, height)⟩

/-- The number of ticks since the last rewind, after one more call. -/
def count (call : Call) (before : Nat) : Nat :=
  match call with
  | rewind => 0
  | tick | play .. | playScaled .. => before + 1

variable {π σ α : Type} [Host σ π α]

def after (state : Reel π × σ) : Call → Reel π × σ
  | tick => (state.1.tick.2, state.2)
  | play x y => (state.1.play state.2 ⟨x, y, none⟩).2
  | playScaled x y width height => (state.1.play state.2 ⟨x, y, some (width, height)⟩).2
  | rewind => (state.1.rewind, state.2)

/-- What a call draws when `before` ticks precede it. -/
def drawing? (frames : Array π) (rate : UInt32) (before : Nat) (call : Call) :
    Option (Drawing π) :=
  call.placement?.bind fun placement =>
    frames[before / (rate.toNat + 1)]?.map fun picture => ⟨picture, placement⟩

end Call

/-- The number of ticks, drawn or not, since the last rewind. -/
def sinceRewind (calls : List Call) : Nat :=
  calls.foldl (fun before call => call.count before) 0

section
variable {π σ α : Type} [Host σ π α]

def drawings (frames : Array π) (rate : UInt32) : Nat → List Call → List (Drawing π)
  | _, [] => []
  | before, call :: rest =>
    (call.drawing? frames rate before).toList ++ drawings frames rate (call.count before) rest

def Drawing.on (host : σ) (drawing : Drawing π) : σ :=
  Host.draw host drawing.picture drawing.placement

theorem Reel.play_eq (reel : Reel π) (host : σ) (placement : Placement) :
    reel.play host placement =
      (reel.tick.1.isSome, reel.tick.2,
        reel.tick.1.elim host fun frame => Host.draw host frame placement) := by
  unfold Reel.play
  split
  next shown => rw [shown]; rfl
  next shown => rw [shown]; rfl

variable {frames : Array π} {rate : UInt32}

theorem Reel.StandsAt.play {before : Nat} {reel : Reel π}
    (stands : StandsAt frames rate (min before (span frames rate)) reel)
    (fits : frames.size < UInt64.size) (host : σ) (placement : Placement) :
    StandsAt frames rate (min (before + 1) (span frames rate)) (reel.play host placement).2.1 ∧
      (reel.play host placement).2.2 =
        (frames[before / (rate.toNat + 1)]?.map fun picture => ⟨picture, placement⟩).elim host
          (Drawing.on host) := by
  obtain ⟨shown, moved⟩ := stands.tick fits
  rw [Reel.play_eq, shown, Option.elim_map]
  exact ⟨moved, rfl⟩

theorem Reel.StandsAt.after {before : Nat} {state : Reel π × σ}
    (stands : StandsAt frames rate (min before (span frames rate)) state.1)
    (fits : frames.size < UInt64.size) (call : Call) :
    StandsAt frames rate (min (call.count before) (span frames rate)) (call.after state).1 ∧
      (call.after state).2 =
        (call.drawing? frames rate before).elim state.2 (Drawing.on state.2) := by
  cases call with
  | tick => exact ⟨(stands.tick fits).2, rfl⟩
  | play x y => exact stands.play fits state.2 ⟨x, y, none⟩
  | playScaled x y width height => exact stands.play fits state.2 ⟨x, y, some (width, height)⟩
  | rewind =>
    rw [Call.count, Nat.zero_min]
    exact ⟨stands.rewind, rfl⟩

/-- A run keeps the reel where its ticks since the last rewind lead, and the host has drawn exactly
what the ticks called for. -/
theorem Reel.StandsAt.run {before : Nat} {state : Reel π × σ}
    (stands : StandsAt frames rate (min before (span frames rate)) state.1)
    (fits : frames.size < UInt64.size) (calls : List Call) :
    StandsAt frames rate
        (min (calls.foldl (fun before call => call.count before) before) (span frames rate))
        (calls.foldl Call.after state).1 ∧
      (calls.foldl Call.after state).2 =
        (drawings frames rate before calls).foldl Drawing.on state.2 := by
  -- The ticks are counted on past the end, while the reel stands at their number cut off there.
  induction calls generalizing before state with
  | nil => exact ⟨stands, rfl⟩
  | cons call rest ih =>
    obtain ⟨moved, drawn⟩ := stands.after fits call
    obtain ⟨reached, host⟩ := ih moved
    refine ⟨reached, ?_⟩
    rw [List.foldl_cons, host, drawn, drawings, List.foldl_append]
    cases call.drawing? frames rate before <;> rfl

/-! ## Main result -/

/-- The playback law for a reel on which `count` ticks count: where it stands, what the next call
shows, and that no counter leaves its word. -/
structure Plays (frames : Array π) (rate : UInt32) (count : Nat) (reel : Reel π) (host : σ) :
    Prop where
  frame_eq : reel.position.frame.toNat = count / (rate.toNat + 1)
  ticks_eq : reel.position.ticks.toNat = count % (rate.toNat + 1)
  frame_le : reel.position.frame.toNat ≤ frames.size
  ticks_le : reel.position.ticks ≤ rate
  ticks_of_finished : reel.isFinished = true → reel.position.ticks = 0
  isFinished_iff : reel.isFinished = true ↔ count = Reel.span frames rate
  state_iff : reel.state = .finished ↔ count = Reel.span frames rate
  advances : count < Reel.span frames rate → reel.position.Advances reel.rate
  shows : count < Reel.span frames rate →
    ∃ frame, frames[count / (rate.toNat + 1)]? = some frame ∧ reel.tick.1 = some frame ∧
      ∀ placement, reel.play host placement = (true, reel.tick.2, Host.draw host frame placement)
  frozen : ¬count < Reel.span frames rate →
    reel.tick = (none, reel) ∧ ∀ placement, reel.play host placement = (false, reel, host)

theorem Reel.StandsAt.plays {count : Nat} {reel : Reel π} (stands : StandsAt frames rate count reel)
    (fits : frames.size < UInt64.size) (bounded : count ≤ span frames rate) (host : σ) :
    Plays frames rate count reel host := by
  have finished_iff : reel.isFinished = true ↔ count = span frames rate := by
    rw [stands.isFinished_iff fits]
    omega
  have bound : count % (rate.toNat + 1) < rate.toNat + 1 := Nat.mod_lt count (Nat.succ_pos _)
  exact {
    frame_eq := stands.frame_eq
    ticks_eq := stands.ticks_eq
    frame_le := by
      rw [stands.frame_eq]
      exact Nat.div_le_of_le_mul (Nat.le_trans bounded (Nat.le_of_eq (Nat.mul_comm _ _)))
    ticks_le := by
      rw [UInt32.le_iff_toNat_le, stands.ticks_eq]
      omega
    ticks_of_finished := by
      intro finished
      rw [← UInt32.toNat_inj, stands.ticks_eq, finished_iff.mp finished]
      exact Nat.mul_mod_left ..
    isFinished_iff := finished_iff
    state_iff := by
      rw [← finished_iff, state]
      split <;> simp_all
    advances := by
      rw [stands.rate_eq]
      exact stands.advances fits
    shows := by
      intro playing
      have inside := stands.frame_lt playing
      rw [stands.frame_eq] at inside
      have shown := (stands.tick_of_lt fits playing).1
      rw [Array.getElem?_eq_getElem inside] at shown
      refine ⟨_, Array.getElem?_eq_getElem inside, shown, fun placement => ?_⟩
      rw [play_eq, shown]
      rfl
    frozen := by
      intro past
      have still := stands.tick_of_le fits (Nat.le_of_not_lt past)
      refine ⟨still, fun placement => ?_⟩
      rw [play_eq, still]
      rfl }

/-- After any calls on a new reel the playback law holds for the ticks since the last rewind, as far
as they count, and the host has been asked for exactly the drawings of the run. A sequence of frames
in memory has a length of 64 bits. -/
theorem playback_law (frames : Array π) (rate : UInt32) (reel : Reel π)
    (made : Reel.ofFrames frames rate = .ok reel) (fits : frames.size < UInt64.size) (host : σ)
    (calls : List Call) :
    Plays frames rate (min (sinceRewind calls) (Reel.span frames rate))
        (calls.foldl Call.after (reel, host)).1 (calls.foldl Call.after (reel, host)).2 ∧
      (calls.foldl Call.after (reel, host)).2 =
        (drawings frames rate 0 calls).foldl Drawing.on host := by
  have start : Reel.StandsAt frames rate (min 0 (Reel.span frames rate)) (reel, host).1 := by
    rw [Nat.zero_min]
    exact Reel.standsAt_of_ofFrames made
  obtain ⟨stands, drawn⟩ := start.run fits calls
  exact ⟨stands.plays fits (min_le_right _ _) _, drawn⟩

/-- Two frames at rate one: a rewind in the middle of the second frame, then one more tick. -/
theorem playback_law_rewound :
    let frames : Array Rect := #[⟨0, 0, 8, 8⟩, ⟨8, 0, 8, 8⟩]
    let calls : List Call := [.tick, .play 1 2, .playScaled 1 2 4 4, .rewind, .play 0 0]
    let state := calls.foldl Call.after (⟨frames, 1, .start⟩, ({ shelf := .empty } : Recorder Rect))
    Reel.ofFrames frames 1 = .ok ⟨frames, 1, .start⟩ ∧ frames.size < UInt64.size ∧
      Plays frames 1 1 state.1 state.2 ∧ state.2.drawings.size = 3 := by
  intro frames calls state
  have fits : frames.size < UInt64.size := by decide
  obtain ⟨plays, drawn⟩ := playback_law frames 1 ⟨frames, 1, .start⟩ rfl fits
    ({ shelf := .empty } : Recorder Rect) calls
  exact ⟨rfl, fits, plays, congrArg (fun host : Recorder Rect => host.drawings.size) drawn⟩

end
end Flipbook
