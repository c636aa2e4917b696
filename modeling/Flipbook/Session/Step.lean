import Flipbook.Session.Command
import Flipbook.Slots

/-!
# Sessions

A session is a host with named atlases and reels. Commands are carried out one after another; a
refused command leaves the atlases and reels as they were, and the host too unless loading changes
it.
-/
namespace Flipbook

structure Session (σ π : Type) [Picture π] where
  host : σ
  atlases : Slots (Atlas π) := {}
  reels : Slots (Reel π) := {}

/-- A reply or the reason why there is none, with the notices that came up on the way. -/
abbrev Answer (π : Type) [Picture π] := Noted (Except Refusal (Reply π))

namespace Session

variable {σ π α : Type} [Picture π]

def refuse (session : Session σ π) (cause : Fault) : Answer π × Session σ π :=
  (.plain (.error (.fault cause)), session)

def reply (session : Session σ π) (reply : Reply π) : Answer π × Session σ π :=
  (.plain (.ok reply), session)

def keepAtlas (session : Session σ π) (into : String) :
    Noted (Except Fault (Atlas π)) → Answer π × Session σ π
  | ⟨notices, .ok atlas⟩ =>
    (⟨notices, .ok (.atlas atlas)⟩, { session with atlases := session.atlases.put into atlas })
  | ⟨notices, .error cause⟩ => (⟨notices, .error (.fault cause)⟩, session)

def keepReel (session : Session σ π) (into : String) :
    Except Fault (Reel π) → Answer π × Session σ π
  | .ok reel =>
    { session with reels := session.reels.put into reel }.reply (.reel reel)
  | .error cause => session.refuse cause

def withAtlas (session : Session σ π) (name : String)
    (use : Atlas π → Answer π × Session σ π) : Answer π × Session σ π :=
  match session.atlases.get? name with
  | some atlas => use atlas
  | none => (.plain (.error (.emptySlot name)), session)

def withReel (session : Session σ π) (name : String)
    (use : Reel π → Answer π × Session σ π) : Answer π × Session σ π :=
  match session.reels.get? name with
  | some reel => use reel
  | none => (.plain (.error (.emptySlot name)), session)

def report (session : Session σ π) {β : Type} (wrap : β → Reply π) :
    Except Fault β → Answer π × Session σ π
  | .ok result => session.reply (wrap result)
  | .error cause => session.refuse cause

variable [Host σ π α]

def drawPicture (session : Session σ π) (picture : π) (placement : Placement) :
    Answer π × Session σ π :=
  { session with host := Host.draw session.host picture placement }.reply .drawn

def step (session : Session σ π) : Command π α → Answer π × Session σ π
  | .slice cell picture into => session.keepAtlas into (Atlas.slice cell picture)
  | .load path cell into =>
    let (made, host) := Atlas.load session.host path cell
    { session with host := host }.keepAtlas into made
  | .recut name frame cell into =>
    session.withAtlas name fun atlas =>
      match atlas.frame frame with
      | .ok picture => session.keepAtlas into (Atlas.slice cell picture)
      | .error cause => session.refuse cause
  | .showAtlas name => session.withAtlas name fun atlas => session.reply (.atlas atlas)
  | .showPicture name => session.withAtlas name fun atlas => session.reply (.picture atlas.picture)
  | .locate name frame =>
    session.withAtlas name fun atlas => session.report .rect (atlas.locate frame)
  | .copyFrame name frame =>
    session.withAtlas name fun atlas => session.report .picture (atlas.frame frame)
  | .walk name skip take =>
    session.withAtlas name fun atlas =>
      let start := atlas.walk
      let ahead := start.drop (skip.getD 0)
      session.reply <|
        .walked start.sizeHint (skip.map fun _ => ahead.sizeHint) (ahead.take take #[])
  | .drawFrame name frame placement =>
    session.withAtlas name fun atlas =>
      match atlas.frame frame with
      | .ok picture => session.drawPicture picture placement
      | .error cause => session.refuse cause
  | .draw picture placement => session.drawPicture picture placement
  | .wind name first count rate into =>
    session.withAtlas name fun atlas => session.keepReel into (atlas.reel first count rate)
  | .splice frames rate into =>
    session.keepReel into ((Reel.ofFrames frames rate).mapError .setting)
  | .copyReel name into => session.withReel name fun reel => session.keepReel into (.ok reel)
  | .showReel name => session.withReel name fun reel => session.reply (.reel reel)
  | .showFrames name => session.withReel name fun reel => session.reply (.frames reel.frames)
  | .rewind name => session.withReel name fun reel => session.keepReel name (.ok reel.rewind)
  | .tick name times =>
    session.withReel name fun reel =>
      let (shown, reel) := reel.ticks times #[]
      { session with reels := session.reels.put name reel }.reply (.ticked reel shown)
  | .play name placement times =>
    session.withReel name fun reel =>
      let (drawn, reel, host) := reel.plays placement times session.host #[]
      { session with host := host, reels := session.reels.put name reel }.reply
        (.played reel drawn)
  | .act what => { session with host := Host.act session.host what }.reply .drawn

/-- Where loading only looks at the host, the session keeps the atlas and has the host it had. -/
theorem step_load [LawfulHost σ] (session : Session σ π) (path : String) (cell : Size)
    (into : String) :
    session.step (.load path cell into) =
      session.keepAtlas into (Atlas.load session.host path cell).1 := by
  have left : (Atlas.load session.host path cell).2 = session.host :=
    LawfulHost.load_snd session.host path
  rw [step]
  dsimp only
  rw [left]

/-- Carry out commands in order, with the answer to each. -/
def run (session : Session σ π) : List (Command π α) → List (Answer π) × Session σ π
  | [] => ([], session)
  | command :: rest =>
    let (answer, session) := session.step command
    let (answers, session) := session.run rest
    (answer :: answers, session)

end Session
end Flipbook
