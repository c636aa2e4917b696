import Flipbook.Atlas.Walk
import Flipbook.Proofs.Atlas.Indexing

/-! Where a walk stands and what it hands out, told from the number of times it was asked alone. -/
namespace Flipbook

/-- The number of frames that a frame number can name. -/
def Grid.reach (grid : Grid) : Nat := min grid.count.toNat UInt32.size

theorem Grid.reach_le_size (grid : Grid) : grid.reach ≤ UInt32.size := Nat.min_le_right _ _

theorem Grid.reach_lt (grid : Grid) : grid.reach < UInt64.size :=
  Nat.lt_of_le_of_lt grid.reach_le_size (by decide)

theorem Grid.lt_count_of_lt_reach (grid : Grid) {number : Nat} (named : number < grid.reach) :
    (UInt32.ofNat number).toNat = number ∧ number < grid.count.toNat := by
  obtain ⟨counted, small⟩ := Nat.lt_min.mp named
  exact ⟨UInt32.toNat_ofNat_of_lt' small, counted⟩

variable {π : Type} [Picture π]

namespace Atlas

/-- The picture that a frame number leads to, without a look at the number of rows. -/
def pictureOf (atlas : Atlas π) (number : Nat) : π :=
  Picture.cut atlas.picture (atlas.grid.cellAt (UInt32.ofNat number))

theorem frame_of_lt_reach (atlas : Atlas π) {number : Nat} (named : number < atlas.grid.reach) :
    atlas.frame (UInt32.ofNat number) = .ok (atlas.pictureOf number) := by
  obtain ⟨number_eq, counted⟩ := atlas.grid.lt_count_of_lt_reach named
  exact atlas.frame_of_lt (number_eq.symm ▸ counted)

/-- What a walk answers, with the hint after it, when it was asked `asked` times before. -/
def handed (atlas : Atlas π) (asked : Nat) : Option π × SizeHint :=
  (if asked < atlas.grid.reach then some (atlas.pictureOf asked) else none,
    .exactly (UInt64.ofNat (atlas.grid.reach - (asked + 1))))

theorem isSome_handed (atlas : Atlas π) (asked : Nat) :
    (atlas.handed asked).1.isSome = decide (asked < atlas.grid.reach) := by
  unfold handed
  split
  next more => simp [more]
  next past => simp [past]

end Atlas

namespace Walk

/-- The walk stands where asking a new one `asked` times leads. -/
structure StandsAt (atlas : Atlas π) (asked : Nat) (walk : Walk π) : Prop where
  atlas_eq : walk.atlas = atlas
  next_eq : walk.next.toNat = min asked atlas.grid.reach
  stop_eq : walk.stop.toNat = atlas.grid.reach

theorem standsAt_walk (atlas : Atlas π) : StandsAt atlas 0 atlas.walk := by
  refine ⟨rfl, (Nat.zero_min _).symm, ?_⟩
  change (if atlas.grid.count ≤ 0x100000000 then atlas.grid.count else 0x100000000).toNat = _
  have limit : (0x100000000 : UInt64).toNat = UInt32.size := rfl
  rw [apply_ite UInt64.toNat, limit, Grid.reach, Nat.min_def]
  simp only [UInt64.le_iff_toNat_le, limit]

namespace StandsAt

variable {atlas : Atlas π} {asked : Nat} {walk : Walk π}

theorem next_le (stands : StandsAt atlas asked walk) : walk.next ≤ walk.stop := by
  rw [UInt64.le_iff_toNat_le, stands.next_eq, stands.stop_eq]
  exact Nat.min_le_right _ _

theorem toNat_remaining (stands : StandsAt atlas asked walk) :
    walk.remaining.toNat = atlas.grid.reach - asked := by
  rw [remaining, UInt64.toNat_sub_of_le _ _ stands.next_le, stands.next_eq, stands.stop_eq]
  omega

theorem remaining_eq (stands : StandsAt atlas asked walk) :
    walk.remaining = UInt64.ofNat (atlas.grid.reach - asked) := by
  rw [← stands.toNat_remaining, UInt64.ofNat_toNat]

theorem sizeHint_eq (stands : StandsAt atlas asked walk) :
    walk.sizeHint = .exactly (UInt64.ofNat (atlas.grid.reach - asked)) := by
  rw [sizeHint, stands.remaining_eq]

theorem lt_stop_iff (stands : StandsAt atlas asked walk) :
    walk.next < walk.stop ↔ asked < atlas.grid.reach := by
  rw [UInt64.lt_iff_toNat_lt, stands.next_eq, stands.stop_eq]
  omega

/-- The counter has 64 bits, but a frame before the end is named by 32 of them. -/
theorem frame_next_of_lt (stands : StandsAt atlas asked walk) (more : asked < atlas.grid.reach) :
    walk.next.toNat = asked ∧
      walk.atlas.frame walk.next.toUInt32 = .ok (atlas.pictureOf asked) := by
  have next_eq : walk.next.toNat = asked := by
    rw [stands.next_eq]
    omega
  have number_eq : walk.next.toUInt32 = UInt32.ofNat asked := by
    rw [← UInt32.toNat_inj, UInt64.toNat_toUInt32, next_eq]
    rfl
  refine ⟨next_eq, ?_⟩
  rw [stands.atlas_eq, number_eq, atlas.frame_of_lt_reach more]

theorem next?_of_lt (stands : StandsAt atlas asked walk) (more : asked < atlas.grid.reach) :
    ∃ later, walk.next? = some (atlas.pictureOf asked, later) ∧
      StandsAt atlas (asked + 1) later := by
  obtain ⟨next_eq, found⟩ := stands.frame_next_of_lt more
  refine ⟨{ walk with next := walk.next + 1 }, ?_, ?_⟩
  · rw [next?, if_pos (stands.lt_stop_iff.mpr more), found]
  · refine ⟨stands.atlas_eq, ?_, stands.stop_eq⟩
    have bound : asked + 1 < UInt64.size := Nat.lt_of_le_of_lt more atlas.grid.reach_lt
    rw [UInt64.toNat_add, next_eq, UInt64.toNat_one, Nat.mod_eq_of_lt bound, min_eq_left more]

theorem next?_of_le (stands : StandsAt atlas asked walk) (past : atlas.grid.reach ≤ asked) :
    walk.next? = none ∧ StandsAt atlas (asked + 1) walk := by
  have next_eq := stands.next_eq
  rw [min_eq_right past] at next_eq
  have finished : ¬walk.next < walk.stop := by
    rw [UInt64.lt_iff_toNat_lt, next_eq, stands.stop_eq]
    exact Nat.lt_irrefl _
  refine ⟨by rw [next?, if_neg finished], stands.atlas_eq, ?_, stands.stop_eq⟩
  rw [next_eq, min_eq_right (Nat.le_succ_of_le past)]

/-- Passing over frames leads where asking for them would. -/
theorem drop (stands : StandsAt atlas asked walk) (n : Nat) :
    StandsAt atlas (asked + n) (walk.drop n) := by
  refine ⟨stands.atlas_eq, ?_, stands.stop_eq⟩
  have bound := atlas.grid.reach_lt
  have left_eq := stands.toNat_remaining
  have inside : min asked atlas.grid.reach + min n (atlas.grid.reach - asked) < UInt64.size := by
    omega
  rw [Walk.drop, UInt64.toNat_add, left_eq, UInt64.toNat_ofNat_of_lt' (by omega), stands.next_eq,
    Nat.mod_eq_of_lt inside]
  omega

/-- The answers of a walk are those of the atlas, one after another. -/
theorem toList_take (stands : StandsAt atlas asked walk) (n : Nat)
    (taken : Array (Option π × SizeHint)) :
    (walk.take n taken).toList = taken.toList ++ (List.range' asked n).map atlas.handed := by
  induction n generalizing asked walk taken with
  | zero => simp [take]
  | succ n ih =>
    rw [List.range'_succ, List.map_cons, List.append_cons, take]
    by_cases more : asked < atlas.grid.reach
    · obtain ⟨later, asked_next, moved⟩ := stands.next?_of_lt more
      have handed_eq : atlas.handed asked = (some (atlas.pictureOf asked), later.sizeHint) := by
        rw [Atlas.handed, if_pos more, moved.sizeHint_eq]
      rw [asked_next, ih moved, handed_eq, Array.toList_push]
    · obtain ⟨asked_next, stayed⟩ := stands.next?_of_le (Nat.le_of_not_lt more)
      have handed_eq : atlas.handed asked = (none, walk.sizeHint) := by
        rw [Atlas.handed, if_neg more, stayed.sizeHint_eq]
      rw [asked_next, ih stayed, handed_eq, Array.toList_push]

end StandsAt

theorem toList_take_drop (atlas : Atlas π) (skip n : Nat) :
    ((atlas.walk.drop skip).take n #[]).toList = (List.range' skip n).map atlas.handed := by
  have stands := (standsAt_walk atlas).drop skip
  rw [Nat.zero_add] at stands
  rw [stands.toList_take, Array.toList_empty, List.nil_append]

/-! ## Walks that are asked again and again -/

/-- The walk after it was asked once more. One that has nothing to hand out stays where it is. -/
def moved (walk : Walk π) : Walk π := (walk.next?.map Prod.snd).getD walk

/-- The walk after it was asked some more times. -/
def after : Nat → Walk π → Walk π
  | 0, walk => walk
  | calls + 1, walk => after calls walk.moved

/-- The place and the end of a walk are words, so the number of calls leads to one walk alone. -/
theorem StandsAt.unique {atlas : Atlas π} {asked : Nat} {left right : Walk π}
    (stands : StandsAt atlas asked left) (stands' : StandsAt atlas asked right) : left = right := by
  obtain ⟨leftAtlas, leftNext, leftStop⟩ := left
  obtain ⟨rightAtlas, rightNext, rightStop⟩ := right
  obtain rfl : leftAtlas = rightAtlas := stands.atlas_eq.trans stands'.atlas_eq.symm
  obtain rfl : leftNext = rightNext :=
    UInt64.toNat_inj.mp (stands.next_eq.trans stands'.next_eq.symm)
  obtain rfl : leftStop = rightStop :=
    UInt64.toNat_inj.mp (stands.stop_eq.trans stands'.stop_eq.symm)
  rfl

private theorem countP_lt_range' (first n bound : Nat) :
    (List.range' first n).countP (· < bound) = min n (bound - first) := by
  induction n generalizing first with
  | zero => simp
  | succ n ih =>
    rw [List.range'_succ, List.countP_cons, ih]
    simp only [decide_eq_true_eq]
    split <;> omega

namespace StandsAt

variable {atlas : Atlas π} {asked : Nat} {walk : Walk π}

theorem moved (stands : StandsAt atlas asked walk) : StandsAt atlas (asked + 1) walk.moved := by
  rcases Nat.lt_or_ge asked atlas.grid.reach with more | past
  · obtain ⟨later, handed, stands'⟩ := stands.next?_of_lt more
    simpa only [Walk.moved, handed, Option.map_some, Option.getD_some] using stands'
  · obtain ⟨handed, stands'⟩ := stands.next?_of_le past
    simpa only [Walk.moved, handed, Option.map_none, Option.getD_none] using stands'

theorem after (stands : StandsAt atlas asked walk) (calls : Nat) :
    StandsAt atlas (asked + calls) (walk.after calls) := by
  induction calls generalizing asked walk with
  | zero => exact stands
  | succ calls ih =>
    have reached := ih stands.moved
    rwa [Nat.add_assoc, Nat.add_comm 1] at reached

/-- Before the end the frame number is the whole counter, and the frame that it names is there. -/
theorem frame_of_lt_stop (stands : StandsAt atlas asked walk) (unfinished : walk.next < walk.stop) :
    walk.next.toUInt32.toNat = walk.next.toNat ∧ walk.next.toNat + 1 < UInt64.size ∧
      ∃ picture, walk.atlas.frame walk.next.toUInt32 = .ok picture := by
  have more := stands.lt_stop_iff.mp unfinished
  obtain ⟨next_eq, found⟩ := stands.frame_next_of_lt more
  have small : walk.next.toNat < UInt32.size := next_eq ▸ more.trans_le atlas.grid.reach_le_size
  have room : UInt32.size < UInt64.size := by decide
  refine ⟨?_, Nat.lt_of_le_of_lt small room, _, found⟩
  rw [UInt64.toNat_toUInt32]
  exact Nat.mod_eq_of_lt small

/-- Of any number of further calls as many hand out a frame as there are frames left. -/
theorem countP_take (stands : StandsAt atlas asked walk) (calls : Nat) :
    (walk.take calls #[]).toList.countP (fun answer => answer.1.isSome) =
      min calls walk.remaining.toNat := by
  rw [stands.toList_take, Array.toList_empty, List.nil_append, List.countP_map,
    stands.toNat_remaining]
  simp only [Function.comp_def, Atlas.isSome_handed]
  exact countP_lt_range' asked calls atlas.grid.reach

end StandsAt

/-! ## Main result -/

/-- What is true of a walk that was asked `asked` times. Its answers so far were the frames in order
and after them none, and the frames that are left over are still to come, as many as it says. The
counters stay in order, every frame before the end is there under the number that the counter
gives, and passing over frames leads to the same walk. -/
structure Reached (atlas : Atlas π) (asked : Nat) (walk : Walk π) : Prop where
  answered : (atlas.walk.take asked #[]).toList.map Prod.fst =
    (List.range asked).map fun number =>
      if number < atlas.grid.reach then (atlas.frame (UInt32.ofNat number)).toOption else none
  named : ∀ number < atlas.grid.reach, (UInt32.ofNat number).toNat = number ∧
    ∃ picture, atlas.frame (UInt32.ofNat number) = .ok picture
  next_le : walk.next ≤ walk.stop
  remaining_eq : walk.remaining.toNat = atlas.grid.reach - min asked atlas.grid.reach
  hint_eq : walk.sizeHint =
    ⟨UInt64.ofNat (atlas.grid.reach - min asked atlas.grid.reach),
      some (UInt64.ofNat (atlas.grid.reach - min asked atlas.grid.reach))⟩
  to_come : ∀ calls, (walk.take calls #[]).toList.countP (fun answer => answer.1.isSome) =
    min calls walk.remaining.toNat
  handed : asked < atlas.grid.reach → ∃ picture,
    atlas.frame (UInt32.ofNat asked) = .ok picture ∧ walk.next? = some (picture, walk.moved)
  ended : ¬asked < atlas.grid.reach → walk.next? = none ∧ walk.moved = walk
  present : walk.next < walk.stop →
    walk.next.toUInt32.toNat = walk.next.toNat ∧ walk.next.toNat + 1 < UInt64.size ∧
      ∃ picture, walk.atlas.frame walk.next.toUInt32 = .ok picture
  passed : atlas.walk.drop asked = walk

theorem StandsAt.reached {atlas : Atlas π} {asked : Nat} {walk : Walk π}
    (stands : StandsAt atlas asked walk) : Reached atlas asked walk where
  answered := by
    rw [(standsAt_walk atlas).toList_take, Array.toList_empty, List.nil_append,
      ← List.range_eq_range', List.map_map]
    apply List.map_congr_left
    intro number _
    simp only [Function.comp_apply, Atlas.handed]
    split
    next more => rw [atlas.frame_of_lt_reach more]; rfl
    next => rfl
  named := fun number more =>
    ⟨(atlas.grid.lt_count_of_lt_reach more).1, _, atlas.frame_of_lt_reach more⟩
  next_le := stands.next_le
  remaining_eq := by
    rw [stands.toNat_remaining]
    omega
  hint_eq := by
    have left_eq : atlas.grid.reach - asked = atlas.grid.reach - min asked atlas.grid.reach := by
      omega
    rw [stands.sizeHint_eq, left_eq, SizeHint.exactly]
  to_come := stands.countP_take
  handed := by
    intro more
    obtain ⟨later, asked_next, moved⟩ := stands.next?_of_lt more
    -- The walk that comes with the answer stands where the next call is counted to.
    rw [moved.unique stands.moved] at asked_next
    exact ⟨_, atlas.frame_of_lt_reach more, asked_next⟩
  ended := by
    intro past
    obtain ⟨asked_next, stayed⟩ := stands.next?_of_le (Nat.le_of_not_lt past)
    exact ⟨asked_next, stands.moved.unique stayed⟩
  present := stands.frame_of_lt_stop
  passed := by
    have dropped := (standsAt_walk atlas).drop asked
    rw [Nat.zero_add] at dropped
    exact dropped.unique stands

/-- A walk hands out every frame that a frame number can name, each once and in order, and nothing
more however often it is asked; at any time it knows how many are left. -/
theorem after_reached (atlas : Atlas π) (asked : Nat) :
    Reached atlas asked (atlas.walk.after asked) := by
  have stands := (standsAt_walk atlas).after asked
  rw [Nat.zero_add] at stands
  exact stands.reached

/-- More than 2^32 cells: the walk ends behind the last frame number, and the cells that are left
over stay unseen. -/
theorem after_reached_last_number :
    let atlas : Atlas Rect := ⟨⟨⟨2, 1⟩, ⟨0xffffffff, 3⟩, by decide⟩, ⟨0, 0, 0xffffffff, 3⟩, rfl⟩
    UInt32.size < atlas.grid.count.toNat ∧
      (∃ later, (atlas.walk.after 0xffffffff).next? = some (⟨2, 2, 2, 1⟩, later)) ∧
      (atlas.walk.after 0xffffffff).sizeHint = ⟨1, some 1⟩ ∧
      (atlas.walk.after 0x100000000).next? = none ∧
      (atlas.walk.after 0x100000000).sizeHint = ⟨0, some 0⟩ := by
  intro atlas
  have reach_eq : atlas.grid.reach = 0x100000000 := by decide
  have last := after_reached atlas 0xffffffff
  have past := after_reached atlas 0x100000000
  obtain ⟨picture, found, handed⟩ := last.handed (by rw [reach_eq]; decide)
  have picture_eq : atlas.frame (UInt32.ofNat 0xffffffff) = .ok ⟨2, 2, 2, 1⟩ := by decide
  obtain rfl : picture = ⟨2, 2, 2, 1⟩ := Except.ok.inj (found.symm.trans picture_eq)
  refine ⟨by decide, ⟨_, handed⟩, ?_, (past.ended (by rw [reach_eq]; decide)).1, ?_⟩
  · rw [last.hint_eq, reach_eq]
    rfl
  · rw [past.hint_eq, reach_eq]
    rfl

end Walk
end Flipbook
