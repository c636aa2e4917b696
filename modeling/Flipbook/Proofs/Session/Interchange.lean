import Flipbook.Proofs.Host.Copying
import Flipbook.Proofs.Session.History

/-! Giving images their own size or leaving the size out makes no difference to any run. -/
namespace Flipbook

/-- Two placements put the image at one place in one size, where a size that is left out is that of
the image. -/
structure Bitmap.PlacedAlike (image : Bitmap) (left right : Placement) : Prop where
  measurable : image.Measurable
  sized_eq : left.sized image = right.sized image

section
variable {left right : Placement}

theorem Easel.draw_eq_of_placedAlike {image : Bitmap} (alike : image.PlacedAlike left right)
    (easel : Easel) : easel.draw image left = easel.draw image right := by
  rw [← easel.draw_sized alike.measurable left, alike.sized_eq, easel.draw_sized alike.measurable]

namespace Reel

variable {reel : Reel Bitmap}

theorem play_eq_of_placedAlike
    (alike : ∀ image, reel.tick.1 = some image → image.PlacedAlike left right) (easel : Easel) :
    reel.play easel left = reel.play easel right := by
  rw [play_eq, play_eq]
  cases shown : reel.tick.1 with
  | none => simp only [Option.elim_none]
  | some image =>
    have same : Host.draw easel image left = Host.draw easel image right :=
      Easel.draw_eq_of_placedAlike (alike image shown) easel
    rw [Option.elim_some, Option.elim_some, same]

theorem plays_eq_of_placedAlike {times : Nat}
    (alike : ∀ image ∈ reel.shown times, image.PlacedAlike left right) (easel : Easel)
    (played : Array Bool) :
    reel.plays left times easel played = reel.plays right times easel played := by
  induction times generalizing reel easel played with
  | zero => rfl
  | succ times ih =>
    -- The images of the first tick stand before those of the others in what is shown.
    simp only [shown, List.mem_append, Option.mem_toList] at alike
    have first := play_eq_of_placedAlike (fun image now => alike image (Or.inl now)) easel
    rw [plays, plays, first, play_eq]
    exact ih (fun image later => alike image (Or.inr later)) _ _

end Reel

end

namespace Session

variable {session : Session Easel Bitmap}

/-- Two commands that are the same up to placements, and these are alike for every image that the
command draws. -/
inductive Exchanged (session : Session Easel Bitmap) :
    Command Bitmap Easel.Act → Command Bitmap Easel.Act → Prop
  | same (command : Command Bitmap Easel.Act) : Exchanged session command command
  | draw (picture : Bitmap) (left right : Placement) (alike : picture.PlacedAlike left right) :
      Exchanged session (.draw picture left) (.draw picture right)
  | drawFrame (name : String) (frame : UInt32) (left right : Placement)
      (alike : ∀ atlas picture, session.atlases.get? name = some atlas →
        atlas.frame frame = .ok picture → picture.PlacedAlike left right) :
      Exchanged session (.drawFrame name frame left) (.drawFrame name frame right)
  | play (name : String) (times : Nat) (left right : Placement)
      (alike : ∀ reel, session.reels.get? name = some reel →
        ∀ picture ∈ reel.shown times, picture.PlacedAlike left right) :
      Exchanged session (.play name left times) (.play name right times)

/-- Two runs that are exchanged command by command, each in the session that it meets. -/
inductive RunExchanged : Session Easel Bitmap → List (Command Bitmap Easel.Act) →
    List (Command Bitmap Easel.Act) → Prop
  | nil (session : Session Easel Bitmap) : RunExchanged session [] []
  | cons {session : Session Easel Bitmap} {left right : Command Bitmap Easel.Act}
      {lefts rights : List (Command Bitmap Easel.Act)} (first : session.Exchanged left right)
      (rest : RunExchanged (session.step left).2 lefts rights) :
      RunExchanged session (left :: lefts) (right :: rights)

theorem drawPicture_eq {picture : Bitmap} {left right : Placement}
    (alike : picture.PlacedAlike left right) :
    session.drawPicture picture left = session.drawPicture picture right := by
  have drawn : Host.draw session.host picture left = Host.draw session.host picture right :=
    Easel.draw_eq_of_placedAlike alike session.host
  rw [drawPicture, drawn, drawPicture]

theorem step_eq_of_exchanged {left right : Command Bitmap Easel.Act}
    (exchanged : session.Exchanged left right) : session.step left = session.step right := by
  cases exchanged with
  | same command => rfl
  | draw picture left right alike => exact drawPicture_eq alike
  | drawFrame name frame left right alike =>
    simp only [step, withAtlas]
    cases held : session.atlases.get? name with
    | none => rfl
    | some atlas =>
      dsimp only
      cases found : atlas.frame frame with
      | error cause => rfl
      | ok picture => exact drawPicture_eq (alike atlas picture held found)
  | play name times left right alike =>
    simp only [step, withReel]
    cases held : session.reels.get? name with
    | none => rfl
    | some reel => simp only [Reel.plays_eq_of_placedAlike (alike reel held)]

theorem run_eq_of_exchanged {lefts rights : List (Command Bitmap Easel.Act)}
    (exchanged : session.RunExchanged lefts rights) : session.run lefts = session.run rights := by
  induction exchanged with
  | nil session => rfl
  -- The first commands leave one session, so the rest of either run starts from the same.
  | cons first rest ih => simp only [run, ← step_eq_of_exchanged first, ih]

/-! ## Main result -/

/-- An image of at most 2²⁴ pixels each way is drawn the same whether its own size is given or left
out, wherever the placement lies and also where it is no number: its pixels are copied one to one.
So it makes no difference either which of the two a reel is played with, in a single call or
anywhere in a run of commands. -/
theorem own_size_is_native :
    (∀ (easel : Easel) (image : Bitmap) (x y : Single), image.Measurable →
      easel.Interchangeable image x y) ∧
    (∀ (reel : Reel Bitmap) (easel : Easel) (x y : Single) (size : Single × Single),
      (∀ image, reel.tick.1 = some image → image.Measurable ∧ size = image.ownSize) →
        reel.play easel ⟨x, y, some size⟩ = reel.play easel ⟨x, y, none⟩) ∧
    ∀ (session : Session Easel Bitmap) (lefts rights : List (Command Bitmap Easel.Act)),
      session.RunExchanged lefts rights → session.run lefts = session.run rights := by
  refine ⟨fun easel _ x y measurable => easel.interchangeable measurable x y, ?_,
    fun _ _ _ => run_eq_of_exchanged⟩
  intro reel easel x y size own
  apply Reel.play_eq_of_placedAlike
  intro image shown
  obtain ⟨measurable, rfl⟩ := own image shown
  exact ⟨measurable, rfl⟩

/-- Two frames are played over the right border, a third image is drawn over the left one at a
height that is no number, and the reel, by then finished, is told to play once more in another
size. -/
theorem own_size_is_native_walk :
    let image (red : UInt8) := Bitmap.ofFn ⟨2, 1⟩ fun column _ => ⟨red, column.toUInt8, 0, 255⟩
    let reel : Reel Bitmap := ⟨#[image 1, image 2], 1, .start⟩
    let session : Session Easel Bitmap :=
      { host := .blank ⟨3, 1⟩ none ⟨[], []⟩
        reels := Slots.empty.put "walk" reel }
    let lefts : List (Command Bitmap Easel.Act) :=
      [.play "walk" ⟨2, 0, none⟩ 4, .draw (image 3) ⟨-1, .nan, none⟩,
        .play "walk" ⟨0, 0, none⟩ 1]
    let rights : List (Command Bitmap Easel.Act) :=
      [.play "walk" ⟨2, 0, some (2, 1)⟩ 4, .draw (image 3) ⟨-1, .nan, some (2, 1)⟩,
        .play "walk" ⟨0, 0, some (9, 9)⟩ 1]
    session.host.Interchangeable (image 3) (-1) .nan ∧
      reel.play session.host ⟨2, 0, some (2, 1)⟩ = reel.play session.host ⟨2, 0, none⟩ ∧
      session.RunExchanged lefts rights ∧ session.run lefts = session.run rights ∧
      (session.run rights).2.host.surface.pixel? 0 0 = some ⟨3, 1, 0, 255⟩ ∧
      (session.run rights).2.host.surface.pixel? 2 0 = some ⟨2, 0, 0, 255⟩ := by
  intro image reel session lefts rights
  obtain ⟨interchangeable, play_eq, run_eq⟩ := own_size_is_native
  have measurable (red : UInt8) : (image red).Measurable := by
    change 2 ≤ 2 ^ 24 ∧ 1 ≤ 2 ^ 24
    decide
  have alike (red : UInt8) (x y : Single) :
      (image red).PlacedAlike ⟨x, y, none⟩ ⟨x, y, some (2, 1)⟩ := ⟨measurable red, rfl⟩
  have played : reel.play session.host ⟨2, 0, some (2, 1)⟩ =
      reel.play session.host ⟨2, 0, none⟩ := by
    apply play_eq
    intro shown first
    obtain rfl : image 1 = shown := Option.some.inj first
    exact ⟨measurable 1, rfl⟩
  have exchanged : session.RunExchanged lefts rights := by
    apply RunExchanged.cons (.play "walk" 4 _ _ ?_)
    · apply RunExchanged.cons (.draw _ _ _ (alike 3 _ _))
      apply RunExchanged.cons (.play "walk" 1 _ _ ?_) (.nil _)
      -- The reel has shown its last frame.
      intro finished held picture shown
      obtain rfl := Option.some.inj held
      have none : picture ∈ ([] : List Bitmap) := shown
      contradiction
    · intro fresh held picture shown
      obtain rfl : reel = fresh := Option.some.inj held
      have member : picture ∈ #[image 1, image 2] := Reel.mem_frames_of_mem_shown shown
      obtain rfl | rfl : picture = image 1 ∨ picture = image 2 := by simpa using member
      · exact alike 1 _ _
      · exact alike 2 _ _
  have over_left : (session.run rights).2.host.surface.pixel? 0 0 = some ⟨3, 1, 0, 255⟩ := by
    decide +kernel
  have over_right : (session.run rights).2.host.surface.pixel? 2 0 = some ⟨2, 0, 0, 255⟩ := by
    decide +kernel
  exact ⟨interchangeable session.host (image 3) (-1) .nan (measurable 3), played, exchanged,
    run_eq session lefts rights exchanged, over_left, over_right⟩

end Session
end Flipbook
