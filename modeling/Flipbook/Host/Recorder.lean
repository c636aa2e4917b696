import Flipbook.Host
import Flipbook.Slots
import Flipbook.Storage.Path

/-!
# A host that writes down what it is asked to draw

Pictures come from a shelf on which they stand under their paths, a later one in front of those that
stand under the same path already.
-/
namespace Flipbook

structure Drawing (π : Type) where
  picture : π
  placement : Placement

structure Recorder (π : Type) where
  shelf : Slots π
  drawings : Array (Drawing π) := #[]
  /-- Whether two texts stand for one path. -/
  alike : String → String → Bool := Path.alike

namespace Recorder

variable {π : Type}

def lookup (recorder : Recorder π) (path : String) : Option π :=
  (recorder.shelf.entries.find? fun entry => recorder.alike entry.1 path).map Prod.snd

/-- What is not on the shelf is not found, and the fault is its path as it was asked for. -/
def load (recorder : Recorder π) (path : String) : Except Fault π × Recorder π :=
  match recorder.lookup path with
  | some picture => (.ok picture, recorder)
  | none => (.error (.file (.stated .notFound path)), recorder)

def draw (recorder : Recorder π) (picture : π) (placement : Placement) : Recorder π :=
  { recorder with drawings := recorder.drawings.push ⟨picture, placement⟩ }

instance : Host (Recorder π) π Empty where
  load := load
  draw := draw
  act _ := Empty.elim

instance : LawfulHost (Recorder π) where
  load_snd recorder path := by
    change (recorder.load path).2 = recorder
    unfold load
    split <;> rfl

end Recorder
end Flipbook
