import Flipbook.Host.Easel
import Flipbook.Proofs.Atlas.Loading
import Flipbook.Session.Step

/-! A refused command leaves no trace, so a run goes as if refused commands had not been given. -/
namespace Flipbook

namespace Session

variable {σ π α : Type} [Picture π]

/-! ## One command -/

/-- If the result is a refusal, then that is all of it: nothing was remarked on, and the session is
still the same. -/
def Inert (session : Session σ π) (result : Answer π × Session σ π) : Prop :=
  ∀ refusal, result.1.value = .error refusal → result = (.plain (.error refusal), session)

variable {session : Session σ π}

theorem inert_reply {later : Session σ π} {reply : Reply π} :
    session.Inert (later.reply reply) := by
  intro refusal refused
  contradiction

theorem inert_refuse {cause : Fault} : session.Inert (session.refuse cause) := by
  intro refusal refused
  cases refused
  rfl

theorem inert_keepAtlas {into : String} {made : Noted (Except Fault (Atlas π))}
    (silent : ∀ cause, made.value = .error cause → made.notices = []) :
    session.Inert (session.keepAtlas into made) := by
  intro refusal refused
  rcases made with ⟨notices, cause | atlas⟩
  · cases refused
    obtain rfl : notices = [] := silent cause rfl
    rfl
  · contradiction

theorem inert_keepReel {into : String} {made : Except Fault (Reel π)} :
    session.Inert (session.keepReel into made) := by
  cases made with
  | error cause => exact inert_refuse
  | ok reel => exact inert_reply

theorem inert_report {β : Type} {wrap : β → Reply π} {result : Except Fault β} :
    session.Inert (session.report wrap result) := by
  cases result with
  | error cause => exact inert_refuse
  | ok value => exact inert_reply

theorem inert_withAtlas {name : String} {use : Atlas π → Answer π × Session σ π}
    (inert : ∀ atlas, session.Inert (use atlas)) : session.Inert (session.withAtlas name use) := by
  unfold withAtlas
  split
  · exact inert _
  · intro refusal refused
    cases refused
    rfl

theorem inert_withReel {name : String} {use : Reel π → Answer π × Session σ π}
    (inert : ∀ reel, session.Inert (use reel)) : session.Inert (session.withReel name use) := by
  unfold withReel
  split
  · exact inert _
  · intro refusal refused
    cases refused
    rfl

variable [Host σ π α] [LawfulHost σ]

theorem inert_step (session : Session σ π) (command : Command π α) :
    session.Inert (session.step command) := by
  cases command with
  -- Making an atlas can fail after its picture was loaded or copied; only success is remarked on.
  | slice cell picture into => exact inert_keepAtlas fun _ => Atlas.notices_slice_of_error
  | load path cell into =>
    rw [step_load]
    exact inert_keepAtlas fun _ => Atlas.notices_ofLoaded_of_error
  | recut name frame cell into =>
    refine inert_withAtlas fun atlas => ?_
    cases atlas.frame frame with
    | error cause => exact inert_refuse
    | ok picture => exact inert_keepAtlas fun _ => Atlas.notices_slice_of_error
  | showAtlas name => exact inert_withAtlas fun atlas => inert_reply
  | showPicture name => exact inert_withAtlas fun atlas => inert_reply
  | locate name frame => exact inert_withAtlas fun atlas => inert_report
  | copyFrame name frame => exact inert_withAtlas fun atlas => inert_report
  | walk name skip take => exact inert_withAtlas fun atlas => inert_reply
  | drawFrame name frame placement =>
    refine inert_withAtlas fun atlas => ?_
    cases atlas.frame frame with
    | error cause => exact inert_refuse
    | ok picture => exact inert_reply
  | draw picture placement => exact inert_reply
  -- A reel is kept only when its run and its rate have been accepted.
  | wind name first count rate into => exact inert_withAtlas fun atlas => inert_keepReel
  | splice frames rate into => exact inert_keepReel
  | copyReel name into => exact inert_withReel fun reel => inert_keepReel
  | showReel name => exact inert_withReel fun reel => inert_reply
  | showFrames name => exact inert_withReel fun reel => inert_reply
  | rewind name => exact inert_withReel fun reel => inert_keepReel
  | tick name times => exact inert_withReel fun reel => inert_reply
  | play name placement times => exact inert_withReel fun reel => inert_reply
  | act what => exact inert_reply

/-! ## Runs -/

omit [LawfulHost σ] in
theorem run_cons (session : Session σ π) (command : Command π α) (rest : List (Command π α)) :
    session.run (command :: rest) =
      ((session.step command).1 :: ((session.step command).2.run rest).1,
        ((session.step command).2.run rest).2) :=
  rfl

/-- The commands of a run that are answered with a reply. -/
def accepted (session : Session σ π) (commands : List (Command π α)) : List (Command π α) :=
  ((commands.zip (session.run commands).1).filter (·.2.value.isOk)).map Prod.fst

omit [LawfulHost σ] in
theorem accepted_cons (session : Session σ π) (command : Command π α)
    (rest : List (Command π α)) :
    session.accepted (command :: rest) =
      if (session.step command).1.value.isOk then
        command :: (session.step command).2.accepted rest
      else (session.step command).2.accepted rest := by
  unfold accepted
  rw [run_cons, List.zip_cons_cons, List.filter_cons]
  split <;> rfl

theorem run_accepted (session : Session σ π) (commands : List (Command π α)) :
    session.run (session.accepted commands) =
      ((session.run commands).1.filter (·.value.isOk), (session.run commands).2) := by
  induction commands generalizing session with
  | nil => rfl
  | cons command rest ih =>
    have inert := session.inert_step command
    rw [accepted_cons]
    -- A refused command goes on with the session that it found, where the induction stands already.
    cases answered : (session.step command).1.value with
    | ok reply =>
      have kept : (session.step command).1.value.isOk = true := by rw [answered]; rfl
      rw [← answered, if_pos kept, run_cons, ih, run_cons, List.filter_cons, if_pos kept]
    | error refusal =>
      have stepped := inert refusal answered
      rw [run_cons, stepped]
      exact ih session

/-- Refusals leave no trace, on recorders, on easels and on every other host that is not changed by
loading. A refused command remarks on nothing and leaves the host, the atlases and the reels as they
are; and a run without its refused commands gives the same other answers, with the same notices, and
ends in the same session. -/
theorem refusals_leave_no_trace (session : Session σ π) (commands : List (Command π α)) :
    (∀ (command : Command π α) (refusal : Refusal),
      (session.step command).1.value = .error refusal →
        (session.step command).1.notices = [] ∧ (session.step command).2 = session) ∧
    (session.run (session.accepted commands)).1 =
      (session.run commands).1.filter (·.value.isOk) ∧
    (session.run (session.accepted commands)).2 = (session.run commands).2 := by
  refine ⟨?_, ?_, ?_⟩
  · intro command refusal refused
    rw [session.inert_step command refusal refused]
    exact ⟨rfl, rfl⟩
  · rw [run_accepted]
  · rw [run_accepted]

/-- A run that meets a missing file, a cell wider than the picture, frames below the last row, a
rate of zero that is found only after copying, and an empty slot; and an easel that misses a file on
its disk. -/
theorem refusals_leave_no_trace_mixed :
    let session : Session (Recorder Rect) Rect :=
      { host := { shelf := ⟨[("walk.png", ⟨0, 0, 5, 4⟩)]⟩ } }
    let commands : List (Command Rect Empty) :=
      [.load "run.png" ⟨2, 2⟩ "walk", .load "walk.png" ⟨2, 2⟩ "walk",
        .load "walk.png" ⟨6, 2⟩ "walk", .wind "walk" 0 5 1 "steps", .wind "walk" 0 4 0 "steps",
        .wind "walk" 0 4 1 "steps", .play "run" ⟨0, 0, none⟩ 1, .play "steps" ⟨0, 0, none⟩ 1]
    let tooWide : Command Rect Empty := .load "walk.png" ⟨6, 2⟩ "walk"
    let painting : Session Easel Bitmap := { host := .blank ⟨2, 1⟩ none ⟨[], []⟩ }
    let missing : Command Bitmap Easel.Act := .load "walk.png" ⟨1, 1⟩ "walk"
    (session.step tooWide).1.value =
        .error (.fault (.geometry (.noWholeCell ⟨5, 4⟩ ⟨6, 2⟩))) ∧
      (session.step tooWide).1.notices = [] ∧ (session.step tooWide).2 = session ∧
      session.accepted commands =
        [.load "walk.png" ⟨2, 2⟩ "walk", .wind "walk" 0 4 1 "steps",
          .play "steps" ⟨0, 0, none⟩ 1] ∧
      (session.run (session.accepted commands)).2 = (session.run commands).2 ∧
      (session.run commands).2.host.drawings.size = 1 ∧
      (painting.step missing).1.value =
        .error (.fault (.image (.file (.system .noEntry)))) ∧
      (painting.step missing).2 = painting := by
  intro session commands tooWide painting missing
  have refused : (session.step tooWide).1.value =
      .error (.fault (.geometry (.noWholeCell ⟨5, 4⟩ ⟨6, 2⟩))) := by rfl
  have refused' : (painting.step missing).1.value =
      .error (.fault (.image (.file (.system .noEntry)))) := by
    -- The search on the disk is computed only when the session is written out.
    unfold painting missing
    rfl
  obtain ⟨inert, -, final⟩ := refusals_leave_no_trace session commands
  obtain ⟨silent, unchanged⟩ := inert tooWide _ refused
  obtain ⟨inert', -, -⟩ := refusals_leave_no_trace painting [missing]
  exact ⟨refused, silent, unchanged, by rfl, final, by rfl, refused', (inert' missing _ refused').2⟩

end Session
end Flipbook
