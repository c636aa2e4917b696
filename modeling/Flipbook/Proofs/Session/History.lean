import Flipbook.Proofs.Playback.Timing
import Flipbook.Session.Step

/-! What a session has its host do: the deeds of its commands, in order, and nothing besides. -/
namespace Flipbook

/-- What changes a host. -/
inductive Deed (π α : Type) where
  | draw (drawing : Drawing π)
  | act (what : α)

section
variable {σ π α : Type} [Host σ π α]

def Deed.on (host : σ) : Deed π α → σ
  | draw drawing => drawing.on host
  | act what => Host.act host what

end

/-! ## Playing a reel several times -/

namespace Reel

variable {σ π α : Type} [Host σ π α]

/-- What a number of ticks show, those that show nothing left out. -/
def shown : Nat → Reel π → List π
  | 0, _ => []
  | n + 1, reel => reel.tick.1.toList ++ shown n reel.tick.2

theorem frames_tick (reel : Reel π) : reel.tick.2.frames = reel.frames := by
  unfold tick
  split <;> rfl

/-- Nothing but frames of the reel is ever shown. -/
theorem mem_frames_of_mem_shown {times : Nat} {reel : Reel π} {picture : π}
    (listed : picture ∈ reel.shown times) : picture ∈ reel.frames := by
  induction times generalizing reel with
  | zero => contradiction
  | succ times ih =>
    rw [shown, List.mem_append, Option.mem_toList] at listed
    rcases listed with now | later
    · unfold tick at now
      split at now
      · contradiction
      · exact Array.mem_of_getElem? now
    · rw [← frames_tick reel]
      exact ih later

def deeds (reel : Reel π) (placement : Placement) (times : Nat) : List (Deed π α) :=
  (reel.shown times).map fun picture => .draw ⟨picture, placement⟩

theorem host_plays (placement : Placement) (times : Nat) (reel : Reel π) (host : σ)
    (played : Array Bool) :
    (reel.plays placement times host played).2.2 =
      (reel.deeds placement times).foldl Deed.on host := by
  induction times generalizing reel host played with
  | zero => rfl
  | succ times ih =>
    rw [plays, play_eq, ih]
    unfold deeds
    rw [shown, List.map_append, List.foldl_append]
    cases reel.tick.1 <;> rfl

end Reel

/-! ## Commands that leave the host alone -/

namespace Session

variable {σ π α : Type} [Picture π]

theorem host_keepAtlas (session : Session σ π) (into : String)
    (made : Noted (Except Fault (Atlas π))) :
    (session.keepAtlas into made).2.host = session.host := by
  rcases made with ⟨notices, cause | atlas⟩ <;> rfl

theorem host_keepReel (session : Session σ π) (into : String) (made : Except Fault (Reel π)) :
    (session.keepReel into made).2.host = session.host := by
  cases made <;> rfl

theorem host_report (session : Session σ π) {β : Type} (wrap : β → Reply π)
    (result : Except Fault β) : (session.report wrap result).2.host = session.host := by
  cases result <;> rfl

theorem host_withAtlas (session : Session σ π) (name : String)
    (use : Atlas π → Answer π × Session σ π)
    (kept : ∀ atlas, (use atlas).2.host = session.host) :
    (session.withAtlas name use).2.host = session.host := by
  unfold withAtlas
  split
  · exact kept _
  · rfl

theorem host_withReel (session : Session σ π) (name : String)
    (use : Reel π → Answer π × Session σ π)
    (kept : ∀ reel, (use reel).2.host = session.host) :
    (session.withReel name use).2.host = session.host := by
  unfold withReel
  split
  · exact kept _
  · rfl

/-! ## The deeds of a command and of a run -/

/-- What a command has the host do. A refused one does nothing. -/
def deeds (session : Session σ π) : Command π α → List (Deed π α)
  | .drawFrame name frame placement =>
    match session.atlases.get? name with
    | some atlas =>
      match atlas.frame frame with
      | .ok picture => [.draw ⟨picture, placement⟩]
      | .error _ => []
    | none => []
  | .draw picture placement => [.draw ⟨picture, placement⟩]
  | .play name placement times =>
    match session.reels.get? name with
    | some reel => reel.deeds placement times
    | none => []
  | .act what => [.act what]
  | _ => []

/-- A host acts only where a command says so. -/
theorem eq_act_of_mem_deeds {session : Session σ π} {command : Command π α} {what : α}
    (done : .act what ∈ session.deeds command) : command = .act what := by
  unfold deeds at done
  split at done
  · split at done
    · split at done <;> simp at done
    · simp at done
  · simp at done
  · split at done
    · simp [Reel.deeds] at done
    · simp at done
  · cases List.mem_singleton.mp done
    rfl
  · simp at done

variable [Host σ π α]

def history (session : Session σ π) : List (Command π α) → List (Deed π α)
  | [] => []
  | command :: rest => session.deeds command ++ (session.step command).2.history rest

variable [LawfulHost σ]

/-- A command leaves the host as its deeds make it. -/
theorem host_step (session : Session σ π) (command : Command π α) :
    (session.step command).2.host = (session.deeds command).foldl Deed.on session.host := by
  cases command with
  -- Nothing is drawn where an atlas is made or asked.
  | slice cell picture into => exact host_keepAtlas ..
  | load path cell into =>
    rw [step_load]
    exact host_keepAtlas ..
  | recut name frame cell into =>
    refine host_withAtlas _ _ _ fun atlas => ?_
    split
    · exact host_keepAtlas ..
    · rfl
  | showAtlas name => exact host_withAtlas _ _ _ fun atlas => rfl
  | showPicture name => exact host_withAtlas _ _ _ fun atlas => rfl
  | locate name frame => exact host_withAtlas _ _ _ fun atlas => host_report ..
  | copyFrame name frame => exact host_withAtlas _ _ _ fun atlas => host_report ..
  | walk name skip take => exact host_withAtlas _ _ _ fun atlas => rfl
  | drawFrame name frame placement =>
    simp only [step, withAtlas, deeds]
    cases session.atlases.get? name with
    | none => rfl
    | some atlas =>
      dsimp only
      cases atlas.frame frame <;> rfl
  | draw picture placement => rfl
  -- Making and moving reels is the business of the session alone.
  | wind name first count rate into => exact host_withAtlas _ _ _ fun atlas => host_keepReel ..
  | splice frames rate into => exact host_keepReel ..
  | copyReel name into => exact host_withReel _ _ _ fun reel => host_keepReel ..
  | showReel name => exact host_withReel _ _ _ fun reel => rfl
  | showFrames name => exact host_withReel _ _ _ fun reel => rfl
  | rewind name => exact host_withReel _ _ _ fun reel => host_keepReel ..
  | tick name times => exact host_withReel _ _ _ fun reel => rfl
  | play name placement times =>
    simp only [step, withReel, deeds]
    cases session.reels.get? name with
    | none => rfl
    | some reel => exact reel.host_plays placement times session.host #[]
  | act what => rfl

/-- A run leaves the host as its history makes it. -/
theorem host_run (session : Session σ π) (commands : List (Command π α)) :
    (session.run commands).2.host = (session.history commands).foldl Deed.on session.host := by
  induction commands generalizing session with
  | nil => rfl
  | cons command rest ih =>
    rw [history, List.foldl_append, ← host_step]
    exact ih (session.step command).2

omit [LawfulHost σ] in
theorem act_mem_of_mem_history {commands : List (Command π α)} {what : α}
    (session : Session σ π) (done : .act what ∈ session.history commands) :
    .act what ∈ commands := by
  induction commands generalizing session with
  | nil => simp [history] at done
  | cons command rest ih =>
    rcases List.mem_append.mp done with now | later
    · rw [eq_act_of_mem_deeds now]
      exact List.mem_cons_self
    · exact List.mem_cons_of_mem _ (ih _ later)

end Session
end Flipbook
