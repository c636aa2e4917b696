import Flipbook.Proofs.Atlas.Walking

/-! Which runs of frames can be wound onto a reel, what is refused before what, and what the reel
holds. -/
namespace Flipbook

namespace Grid

/-- The run goes on behind the last frame of the grid or behind the last frame number. -/
def Overruns (grid : Grid) (first count : UInt32) : Prop :=
  0 < count.toNat ∧
    (grid.count.toNat < first.toNat + count.toNat ∨ UInt32.size < first.toNat + count.toNat)

instance (grid : Grid) (first count : UInt32) : Decidable (grid.Overruns first count) :=
  inferInstanceAs (Decidable (_ ∧ (_ ∨ _)))

/-- What is wrong with a run that goes too far: its last frame has no number, or else no row. -/
def overrun (grid : Grid) (first count : UInt32) : RangeFault :=
  if UInt32.size < first.toNat + count.toNat then .indexTooLarge first (count - 1)
  else .belowLastRow (first + (count - 1)) ((first + (count - 1)) / grid.columns) grid.rows

end Grid

namespace Atlas

variable {π : Type} [Picture π] {atlas : Atlas π} {first count : UInt32}

/-! ## The check before copying -/

theorem frameAfter_of_lt {offset : UInt32} (fits : first.toNat + offset.toNat < UInt32.size) :
    frameAfter first offset = .ok (first + offset) ∧
      (first + offset).toNat = first.toNat + offset.toNat := by
  refine ⟨by rw [frameAfter, if_pos fits], ?_⟩
  rw [UInt32.toNat_add]
  exact Nat.mod_eq_of_lt fits

private theorem toNat_pred (positive : 0 < count.toNat) : (count - 1).toNat + 1 = count.toNat := by
  have one_le : 1 ≤ count := UInt32.le_iff_toNat_le.mpr positive
  rw [UInt32.toNat_sub_of_le _ _ one_le]
  exact Nat.sub_add_cancel positive

/-- The last frame of a run that ends with a frame number. -/
theorem frameAfter_last (positive : 0 < count.toNat)
    (numbered : first.toNat + count.toNat ≤ UInt32.size) :
    frameAfter first (count - 1) = .ok (first + (count - 1)) ∧
      (first + (count - 1)).toNat + 1 = first.toNat + count.toNat := by
  have pred_eq := toNat_pred positive
  have fits : first.toNat + (count - 1).toNat < UInt32.size := by omega
  obtain ⟨last, last_eq⟩ := frameAfter_of_lt fits
  exact ⟨last, by omega⟩

theorem frameAfter_of_beyond (positive : 0 < count.toNat)
    (unnumbered : UInt32.size < first.toNat + count.toNat) :
    frameAfter first (count - 1) = .error (.range (.indexTooLarge first (count - 1))) := by
  have pred_eq := toNat_pred positive
  have beyond : ¬first.toNat + (count - 1).toNat < UInt32.size := by omega
  rw [frameAfter, if_neg beyond]

theorem checkRun_of_pos (atlas : Atlas π) (first : UInt32) (positive : 0 < count.toNat) :
    atlas.checkRun first count =
      (frameAfter first (count - 1)).bind fun last => discard (atlas.locate last) := by
  have proper : count ≠ 0 := by
    rintro rfl
    exact Nat.lt_irrefl 0 positive
  rw [checkRun, if_neg proper]
  rfl

theorem checkRun_of_overruns (far : atlas.grid.Overruns first count) :
    atlas.checkRun first count = .error (.range (atlas.grid.overrun first count)) := by
  obtain ⟨positive, behind⟩ := far
  rw [checkRun_of_pos atlas first positive, Grid.overrun]
  -- The number of the last frame is computed before its row, so its fault comes first.
  by_cases unnumbered : UInt32.size < first.toNat + count.toNat
  · rw [if_pos unnumbered, frameAfter_of_beyond positive unnumbered]
    rfl
  · obtain ⟨last, last_eq⟩ := frameAfter_last positive (Nat.le_of_not_lt unnumbered)
    have below : ¬(first + (count - 1)).toNat < atlas.grid.count.toNat := by omega
    rw [if_neg unnumbered, last, Except.bind, atlas.locate_of_not_lt below]
    rfl

theorem checkRun_of_not_overruns (within : ¬atlas.grid.Overruns first count) :
    atlas.checkRun first count = .ok () := by
  by_cases positive : 0 < count.toNat
  · obtain ⟨counted, numbered⟩ : first.toNat + count.toNat ≤ atlas.grid.count.toNat ∧
        first.toNat + count.toNat ≤ UInt32.size := by
      unfold Grid.Overruns at within
      omega
    obtain ⟨last, last_eq⟩ := frameAfter_last positive numbered
    have inside : (first + (count - 1)).toNat < atlas.grid.count.toNat := by omega
    rw [checkRun_of_pos atlas first positive, last, Except.bind, atlas.locate_of_lt inside]
    rfl
  -- A run of no frames is not looked at, wherever it starts.
  · have empty : count = 0 := UInt32.toNat_inj.mp (Nat.eq_zero_of_not_pos positive)
    rw [checkRun, if_pos empty]

theorem checkRun_eq_ok_iff :
    atlas.checkRun first count = .ok () ↔ ¬atlas.grid.Overruns first count := by
  refine ⟨?_, checkRun_of_not_overruns⟩
  intro passed far
  rw [checkRun_of_overruns far] at passed
  contradiction

/-! ## Copying the run -/

/-- A run whose last frame is on the atlas has all its frames there: those before the last one have
smaller numbers and lie no lower. -/
theorem frames_of_not_overruns (within : ¬atlas.grid.Overruns first count) {offset : Nat}
    (inside : offset < count.toNat) :
    frameAfter first (UInt32.ofNat offset) = .ok (UInt32.ofNat (first.toNat + offset)) ∧
      (UInt32.ofNat (first.toNat + offset)).toNat = first.toNat + offset ∧
      first.toNat + offset < atlas.grid.reach := by
  -- The offset is a word already; only its sum with the first frame could leave the range.
  have small : offset < UInt32.size := Nat.lt_trans inside count.toNat_lt
  have offset_eq : (UInt32.ofNat offset).toNat = offset := UInt32.toNat_ofNat_of_lt' small
  have near : first.toNat + offset < atlas.grid.reach := by
    unfold Grid.Overruns at within
    unfold Grid.reach
    omega
  obtain ⟨number_eq, -⟩ := atlas.grid.lt_count_of_lt_reach near
  have fits : first.toNat + (UInt32.ofNat offset).toNat < UInt32.size := by
    rw [offset_eq]
    exact Nat.lt_of_lt_of_le near atlas.grid.reach_le_size
  obtain ⟨numbered, sum_eq⟩ := frameAfter_of_lt fits
  have same : first + UInt32.ofNat offset = UInt32.ofNat (first.toNat + offset) := by
    rw [← UInt32.toNat_inj, sum_eq, offset_eq, number_eq]
  exact ⟨by rw [numbered, same], number_eq, near⟩

private theorem mapM_eq_ok_map {α β ε : Type} {visit : α → Except ε β} {value : α → β}
    {items : List α} (visited : ∀ item ∈ items, visit item = .ok (value item)) :
    items.mapM visit = .ok (items.map value) := by
  induction items with
  | nil => rfl
  | cons item rest ih =>
    rw [List.mapM_cons, visited item List.mem_cons_self,
      ih fun other member => visited other (List.mem_cons_of_mem _ member)]
    rfl

theorem run_of_not_overruns (within : ¬atlas.grid.Overruns first count) :
    atlas.run first count =
      .ok ((List.range' first.toNat count.toNat).map atlas.pictureOf) := by
  rw [List.range'_eq_map_range, List.map_map]
  apply mapM_eq_ok_map
  intro offset listed
  obtain ⟨numbered, -, near⟩ := frames_of_not_overruns within (List.mem_range.mp listed)
  rw [numbered]
  exact atlas.frame_of_lt_reach near

theorem reel_of_overruns (far : atlas.grid.Overruns first count) (rate : UInt32) :
    atlas.reel first count rate = .error (.range (atlas.grid.overrun first count)) := by
  rw [reel, checkRun_of_overruns far]
  rfl

theorem reel_of_not_overruns (within : ¬atlas.grid.Overruns first count) (rate : UInt32) :
    atlas.reel first count rate =
      (Reel.ofFrames ((List.range' first.toNat count.toNat).map atlas.pictureOf).toArray
        rate).mapError .setting := by
  rw [reel, checkRun_of_not_overruns within, run_of_not_overruns within]
  rfl

/-! ## Main result -/

/-- The reel stands at its start and holds `count` frames of the atlas from `first` on, which are
the ones that a walk over the atlas hands out after its first `first` answers. -/
structure Wound (atlas : Atlas π) (first count rate : UInt32) (reel : Reel π) : Prop where
  rate_eq : reel.rate = rate
  position_eq : reel.position = .start
  size_eq : reel.frames.size = count.toNat
  frame_eq : ∀ offset < count.toNat, first.toNat + offset < UInt32.size ∧
    ∃ picture, reel.frames[offset]? = some picture ∧
      atlas.frame (UInt32.ofNat (first.toNat + offset)) = .ok picture
  walked :
    ((atlas.walk.take (first.toNat + count.toNat) #[]).toList.drop first.toNat).map Prod.fst =
      reel.frames.toList.map some

theorem wound_of_not_overruns (within : ¬atlas.grid.Overruns first count) (rate : UInt32) :
    Wound atlas first count rate
      ⟨((List.range' first.toNat count.toNat).map atlas.pictureOf).toArray, rate, .start⟩ where
  rate_eq := rfl
  position_eq := rfl
  size_eq := by simp
  frame_eq := by
    intro offset inside
    obtain ⟨-, -, near⟩ := frames_of_not_overruns within inside
    refine ⟨Nat.lt_of_lt_of_le near atlas.grid.reach_le_size, _, ?_, atlas.frame_of_lt_reach near⟩
    simp [inside]
  walked := by
    -- The first answers are for the frames passed over, and the rest are for those of the run.
    have split : List.range' 0 (first.toNat + count.toNat) =
        List.range' 0 first.toNat ++ List.range' first.toNat count.toNat := by
      simpa using (List.range'_append_1 (s := 0) (m := first.toNat) (n := count.toNat)).symm
    rw [(Walk.standsAt_walk atlas).toList_take, Array.toList_empty, List.nil_append, split,
      List.map_append, List.drop_left' (by simp), List.map_map, List.map_map]
    apply List.map_congr_left
    intro number listed
    obtain ⟨offset, inside, rfl⟩ := List.mem_range'.mp listed
    obtain ⟨-, -, near⟩ := frames_of_not_overruns within inside
    rw [Nat.one_mul, Function.comp_apply, handed, if_pos near, Function.comp_apply]

/-- The outcome of winding for every run and rate. A run that goes too far is refused whatever the
rate, a rate of zero is refused for every other run, and in all remaining cases there is a reel of
exactly these frames. Once the check of the last frame has passed, copying meets no fault. -/
theorem reel_outcome (atlas : Atlas π) (first count rate : UInt32) :
    (atlas.grid.Overruns first count →
      atlas.reel first count rate = .error (.range (atlas.grid.overrun first count))) ∧
    (¬atlas.grid.Overruns first count → rate = 0 →
      atlas.reel first count rate = .error (.setting .zeroRate)) ∧
    (¬atlas.grid.Overruns first count → rate ≠ 0 →
      ∃ reel, atlas.reel first count rate = .ok reel ∧ Wound atlas first count rate reel) ∧
    (atlas.checkRun first count = .ok () → ∀ offset < count.toNat,
      frameAfter first (UInt32.ofNat offset) = .ok (UInt32.ofNat (first.toNat + offset)) ∧
      (UInt32.ofNat (first.toNat + offset)).toNat = first.toNat + offset ∧
      ∃ picture, atlas.frame (UInt32.ofNat (first.toNat + offset)) = .ok picture) := by
  refine ⟨?_, ?_, ?_, ?_⟩
  · intro far
    exact reel_of_overruns far rate
  · intro within still
    rw [reel_of_not_overruns within, Reel.ofFrames, if_pos still]
    rfl
  · intro within moving
    refine ⟨_, ?_, wound_of_not_overruns within rate⟩
    rw [reel_of_not_overruns within, Reel.ofFrames, if_neg moving]
    rfl
  · intro passed offset inside
    obtain ⟨numbered, number_eq, near⟩ :=
      frames_of_not_overruns (checkRun_eq_ok_iff.mp passed) inside
    exact ⟨numbered, number_eq, _, atlas.frame_of_lt_reach near⟩

/-- More than 2^32 cells: a run may end with the last frame number, and one frame more has none,
whatever the rate; a run of no frames is refused for its rate alone. -/
theorem reel_outcome_last_number :
    let picture : Rect := ⟨0, 0, 0xffffffff, 3⟩
    let atlas : Atlas Rect := ⟨⟨⟨2, 1⟩, ⟨0xffffffff, 3⟩, by decide⟩, picture, rfl⟩
    ¬atlas.grid.Overruns 0xfffffffe 2 ∧
      (∃ reel, atlas.reel 0xfffffffe 2 1 = .ok reel ∧ Wound atlas 0xfffffffe 2 1 reel) ∧
      (∃ picture, atlas.frame 0xffffffff = .ok picture) ∧
      atlas.grid.Overruns 0xfffffffe 3 ∧
      atlas.reel 0xfffffffe 3 0 = .error (.range (.indexTooLarge 0xfffffffe 2)) ∧
      ¬atlas.grid.Overruns 0xffffffff 0 ∧
      atlas.reel 0xffffffff 0 0 = .error (.setting .zeroRate) := by
  intro picture atlas
  have within : ¬atlas.grid.Overruns 0xfffffffe 2 := by decide
  have far : atlas.grid.Overruns 0xfffffffe 3 := by decide
  have empty : ¬atlas.grid.Overruns 0xffffffff 0 := by decide
  have passed : atlas.checkRun 0xfffffffe 2 = .ok () := checkRun_of_not_overruns within
  obtain ⟨-, -, wound, copies⟩ := reel_outcome atlas 0xfffffffe 2 1
  obtain ⟨-, -, last⟩ := copies passed 1 (by decide)
  exact ⟨within, wound within (by decide), last, far, (reel_outcome atlas 0xfffffffe 3 0).1 far,
    empty, (reel_outcome atlas 0xffffffff 0 0).2.1 empty rfl⟩

end Atlas
end Flipbook
