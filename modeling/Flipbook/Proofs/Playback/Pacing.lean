import Flipbook.Proofs.Playback.Timing
import Mathlib.Data.List.Forall2

/-! Positions under rates that change from tick to tick: slower rates never lead further, and no
tick leads back. -/
namespace Flipbook.Position

/-! ## The order of positions -/

/-- The frames are compared first, and the ticks within a frame. -/
instance : LE Position where
  le near far := near.frame < far.frame ∨ near.frame = far.frame ∧ near.ticks ≤ far.ticks

instance : LT Position where
  lt near far := near.frame < far.frame ∨ near.frame = far.frame ∧ near.ticks < far.ticks

instance (near far : Position) : Decidable (near ≤ far) := inferInstanceAs (Decidable (_ ∨ _))

instance (near far : Position) : Decidable (near < far) := inferInstanceAs (Decidable (_ ∨ _))

section
variable {near far : Position}

theorem le_iff_toNat : near ≤ far ↔ near.frame.toNat < far.frame.toNat ∨
    near.frame.toNat = far.frame.toNat ∧ near.ticks.toNat ≤ far.ticks.toNat := by
  change _ ∨ _ ∧ _ ↔ _
  simp only [UInt64.lt_iff_toNat_lt, ← UInt64.toNat_inj, UInt32.le_iff_toNat_le]

theorem lt_iff_toNat : near < far ↔ near.frame.toNat < far.frame.toNat ∨
    near.frame.toNat = far.frame.toNat ∧ near.ticks.toNat < far.ticks.toNat := by
  change _ ∨ _ ∧ _ ↔ _
  simp only [UInt64.lt_iff_toNat_lt, ← UInt64.toNat_inj, UInt32.lt_iff_toNat_lt]

protected theorem le_refl (position : Position) : position ≤ position :=
  Or.inr ⟨rfl, UInt32.le_refl _⟩

protected theorem le_trans {between : Position} (first : near ≤ between) (second : between ≤ far) :
    near ≤ far := by
  rw [le_iff_toNat] at first second ⊢
  omega

protected theorem le_of_lt (forward : near < far) : near ≤ far := by
  rw [lt_iff_toNat] at forward
  rw [le_iff_toNat]
  omega

/-- Only the frame decides whether a position is past the end, and it is the first to be compared. -/
theorem isPast_of_le (ordered : near ≤ far) {count : UInt64} (past : near.isPast count) :
    far.isPast count := by
  rw [le_iff_toNat] at ordered
  simp only [isPast, decide_eq_true_eq, ge_iff_le, UInt64.le_iff_toNat_le] at past ⊢
  omega

end

/-! ## One tick -/

theorem advances_iff (position : Position) (rate : UInt32) :
    position.Advances rate ↔
      (rate.toNat ≤ position.ticks.toNat → position.frame.toNat + 1 < UInt64.size) := by
  have rate_lt : rate.toNat < UInt32.size := rate.toNat_lt
  simp only [Advances, UInt32.le_iff_toNat_le]
  split
  next due => simp [due]
  next held =>
    -- A counter below the rate has room for one more tick in any case.
    simp only [held, false_implies, iff_true]
    omega

/-- What one tick does: the frame changes if the counter has reached the rate of this tick, and the
tick is counted otherwise. -/
theorem advance_cases {position : Position} {rate : UInt32} (room : position.Advances rate) :
    (rate.toNat ≤ position.ticks.toNat ∧
      (position.advance rate).frame.toNat = position.frame.toNat + 1 ∧
      (position.advance rate).ticks.toNat = 0) ∨
    (position.ticks.toNat < rate.toNat ∧
      (position.advance rate).frame.toNat = position.frame.toNat ∧
      (position.advance rate).ticks.toNat = position.ticks.toNat + 1) := by
  rcases Nat.lt_or_ge position.ticks.toNat rate.toNat with held | due
  · right
    obtain ⟨frame, ticks⟩ := position.advance_of_held rate (UInt32.lt_iff_toNat_lt.mpr held)
    exact ⟨held, congrArg UInt64.toNat frame, ticks⟩
  · left
    have fits := (position.advances_iff rate).mp room due
    exact ⟨due, position.advance_of_due rate (UInt32.le_iff_toNat_le.mpr due) fits⟩

theorem lt_advance {position : Position} {rate : UInt32} (room : position.Advances rate) :
    position < position.advance rate := by
  rw [lt_iff_toNat]
  rcases advance_cases room with ⟨_, frame, _⟩ | ⟨_, frame, ticks⟩ <;> omega

theorem ticks_advance_le (position : Position) (rate : UInt32) :
    (position.advance rate).ticks ≤ rate := by
  by_cases held : position.ticks < rate
  · obtain ⟨-, ticks⟩ := position.advance_of_held rate held
    rw [UInt32.le_iff_toNat_le, ticks]
    exact UInt32.lt_iff_toNat_lt.mp held
  · simp [advance, UInt32.not_lt.mp held]

section
variable {behind ahead : Position} {fast slow : UInt32}

/-- The position behind stays behind under a slower rate, and has no less room. -/
theorem advance_le_advance (near : behind ≤ ahead) (slower : fast ≤ slow)
    (room : ahead.Advances fast) :
    behind.Advances slow ∧ behind.advance slow ≤ ahead.advance fast := by
  rw [UInt32.le_iff_toNat_le] at slower
  have bound : ahead.frame.toNat < UInt64.size := ahead.frame.toNat_lt
  have room' : behind.Advances slow := by
    rw [le_iff_toNat] at near
    rw [advances_iff] at room ⊢
    omega
  refine ⟨room', ?_⟩
  rw [le_iff_toNat] at near ⊢
  -- In the same frame the counter behind is the lower one and reaches its rate no sooner. From a
  -- frame behind, with any count, one tick leads to the start of the frame ahead at most.
  rcases advance_cases room' with ⟨_, frame, ticks⟩ | ⟨_, frame, ticks⟩ <;>
    rcases advance_cases room with ⟨_, frame', ticks'⟩ | ⟨_, frame', ticks'⟩ <;> omega

end

/-! ## Runs -/

/-- No counter leaves its word on the run. -/
def Runs (position : Position) : List UInt32 → Prop
  | [] => True
  | rate :: rest => position.Advances rate ∧ (position.advance rate).Runs rest

@[simp] theorem run_nil (position : Position) : position.run [] = position := rfl

@[simp] theorem run_cons (position : Position) (rate : UInt32) (rest : List UInt32) :
    position.run (rate :: rest) = (position.advance rate).run rest := rfl

theorem run_append (position : Position) (before after : List UInt32) :
    position.run (before ++ after) = (position.run before).run after :=
  List.foldl_append

theorem runs_append {position : Position} {before after : List UInt32} :
    position.Runs (before ++ after) ↔
      position.Runs before ∧ (position.run before).Runs after := by
  induction before generalizing position with
  | nil => simp [Runs]
  | cons rate rest ih => simp only [List.cons_append, Runs, run_cons, ih, and_assoc]

/-- Every tick adds one frame at most, so the number of ticks bounds the frames. -/
theorem runs_of_length_lt {position : Position} {rates : List UInt32}
    (fits : position.frame.toNat + rates.length < UInt64.size) :
    position.Runs rates ∧
      (position.run rates).frame.toNat ≤ position.frame.toNat + rates.length := by
  induction rates generalizing position with
  | nil => simp [Runs]
  | cons rate rest ih =>
    rw [List.length_cons] at fits ⊢
    have room : position.Advances rate := by
      rw [advances_iff]
      omega
    have frame_le : (position.advance rate).frame.toNat ≤ position.frame.toNat + 1 := by
      rcases advance_cases room with ⟨_, frame, _⟩ | ⟨_, frame, _⟩ <;> omega
    have fits_rest : (position.advance rate).frame.toNat + rest.length < UInt64.size := by omega
    obtain ⟨runs, reached⟩ := ih fits_rest
    refine ⟨⟨room, runs⟩, ?_⟩
    rw [run_cons]
    omega

theorem ticks_run_le {position : Position} {rates : List UInt32} {limit : UInt32}
    (start_le : position.ticks ≤ limit) (rates_le : ∀ rate ∈ rates, rate ≤ limit) :
    (position.run rates).ticks ≤ limit := by
  induction rates generalizing position with
  | nil => exact start_le
  | cons rate rest ih =>
    have rate_le := rates_le rate List.mem_cons_self
    have rest_le := fun other member => rates_le other (List.mem_cons_of_mem _ member)
    exact ih (UInt32.le_trans (position.ticks_advance_le rate) rate_le) rest_le

theorem le_run {position : Position} {rates : List UInt32} (runs : position.Runs rates) :
    position ≤ position.run rates := by
  induction rates generalizing position with
  | nil => exact position.le_refl
  | cons rate rest ih =>
    obtain ⟨room, rest_runs⟩ := runs
    exact Position.le_trans (Position.le_of_lt (lt_advance room)) (ih rest_runs)

/-- The run that is driven by the slower rates has no less room than the other one and stays behind
it, tick by tick. -/
theorem run_le_run {behind ahead : Position} {fast slow : List UInt32} (near : behind ≤ ahead)
    (slower : List.Forall₂ (· ≤ ·) fast slow) (runs : ahead.Runs fast) :
    behind.Runs slow ∧ behind.run slow ≤ ahead.run fast := by
  -- Both positions move on at every tick, and their order is what carries over to the next one.
  induction slower generalizing behind ahead with
  | nil => exact ⟨trivial, near⟩
  | cons rate_le _ ih =>
    obtain ⟨room, rest_runs⟩ := runs
    obtain ⟨room', near'⟩ := advance_le_advance near rate_le room
    obtain ⟨rest_runs', reached⟩ := ih near' rest_runs
    exact ⟨⟨room', rest_runs'⟩, reached⟩

/-! ## Main result -/

/-- What is true of a run from the start, whatever its rates: the counters stay within their words,
the frame is at most the number of ticks, the counter at most the largest rate, every tick leads
forward, and the end once passed stays passed. -/
structure Driven (rates : List UInt32) : Prop where
  runs : start.Runs rates
  frame_le : (start.run rates).frame.toNat ≤ rates.length
  ticks_le : ∀ limit, (∀ rate ∈ rates, rate ≤ limit) → (start.run rates).ticks ≤ limit
  forward : ∀ before rate after, rates = before ++ rate :: after →
    start.run before < start.run (before ++ [rate])
  stays_past : ∀ before after count, rates = before ++ after →
    (start.run before).isPast count → (start.run rates).isPast count

theorem driven_of_length_lt {rates : List UInt32} (fits : rates.length < UInt64.size) :
    Driven rates := by
  have start_frame : start.frame.toNat = 0 := rfl
  have fits_start : start.frame.toNat + rates.length < UInt64.size := by omega
  obtain ⟨runs, frame_le⟩ := runs_of_length_lt fits_start
  refine ⟨runs, by omega, ?_, ?_, ?_⟩
  · intro limit rates_le
    exact ticks_run_le UInt32.zero_le rates_le
  · rintro before rate after rfl
    obtain ⟨-, room, -⟩ := runs_append.mp runs
    rw [run_append]
    exact lt_advance room
  · rintro before after count rfl past
    obtain ⟨-, after_runs⟩ := runs_append.mp runs
    rw [run_append]
    exact isPast_of_le (le_run after_runs) past

/-- Slower rates never lead further, tick by tick and however the rates change. Nothing is asked but
that the faster run keeps its counters within their words, which every run of fewer than 2^64 ticks
does. -/
theorem slower_never_leads (fast slow : List UInt32)
    (slower : List.Forall₂ (· ≤ ·) fast slow) :
    (start.Runs fast →
      start.Runs slow ∧ start.run slow ≤ start.run fast ∧
        ∀ count, (start.run slow).isPast count → (start.run fast).isPast count) ∧
    ∀ rates : List UInt32, rates.length < UInt64.size → Driven rates := by
  refine ⟨?_, fun _ fits => driven_of_length_lt fits⟩
  intro runs
  obtain ⟨runs', behind⟩ := run_le_run start.le_refl slower runs
  exact ⟨runs', behind, fun _ past => isPast_of_le behind past⟩

/-- A counter above the next rate, and a run that is a frame behind with more ticks counted. -/
theorem slower_never_leads_lowered :
    let fast : List UInt32 := [0, 5, 1]
    let slow : List UInt32 := [5, 5, 1]
    List.Forall₂ (· ≤ ·) fast slow ∧ start.run [5, 5] = ⟨0, 2⟩ ∧ start.run [0, 5] = ⟨1, 1⟩ ∧
      start.run slow = ⟨1, 0⟩ ∧ start.run fast = ⟨2, 0⟩ ∧ start.run slow ≤ start.run fast ∧
      (start.run slow).isPast 1 ∧ (start.run fast).isPast 1 ∧ Driven fast ∧ Driven slow := by
  intro fast slow
  have slower : List.Forall₂ (· ≤ ·) fast slow := by decide
  obtain ⟨behind, driven⟩ := slower_never_leads fast slow slower
  have fast_driven : Driven fast := driven fast (by decide)
  obtain ⟨-, reached, past⟩ := behind fast_driven.runs
  have finished : (start.run slow).isPast 1 := by decide
  exact ⟨slower, by decide, by decide, by decide, by decide, reached, finished, past 1 finished,
    fast_driven, driven slow (by decide)⟩

end Flipbook.Position
