import Flipbook.Fault
import Flipbook.Number.Single
import Flipbook.Picture

/-!
# Hosts

A host is where pictures come from and where they are drawn. It loads pictures by path, draws a
picture at a placement, and may know further acts of its own.
-/
namespace Flipbook

/-- The place of the top left corner, and the size to scale to; `none` keeps the picture's own
size. -/
structure Placement where
  x : Single
  y : Single
  scaled : Option (Single × Single)
deriving DecidableEq, Repr

/-- Each operation gives the host that it leaves, loading beside its answer. -/
class Host (σ : Type) (π : outParam Type) (α : outParam Type) where
  load : σ → String → Except Fault π × σ
  draw : σ → π → Placement → σ
  act : σ → α → σ

/-- Loading only looks at the host. -/
class LawfulHost (σ : Type) {π α : outParam Type} [Host σ π α] : Prop where
  load_snd : ∀ (host : σ) (path : String), (Host.load host path).2 = host

end Flipbook
