import Flipbook.Geometry.Rect

/-!
# Notices

Remarks that the library makes beside its results, in the order in which they arise. A `Noted`
value carries them along, also where the value is a failure.
-/
namespace Flipbook

inductive Notice where
  /-- Some pixels of the sheet belong to no cell. -/
  | partialCells (sheet cell : Size)
  /-- A sheet was loaded and cut into a grid. -/
  | loaded (path : String) (grid cell : Size)
deriving DecidableEq, Repr

namespace Notice

def text : Notice → String
  | partialCells sheet cell =>
    "Sheet size " ++ sheet.text ++ " is not a multiple of sprite size " ++ cell.text ++
      ", ignoring partial cells"
  | loaded path grid cell =>
    "Loaded sprite sheet " ++ path ++ ": " ++ grid.text ++ " sprites of " ++ cell.text

end Notice

structure Noted (α : Type) where
  notices : List Notice
  value : α

/-- A value about which there is nothing to remark. -/
def Noted.plain {α : Type} (value : α) : Noted α := ⟨[], value⟩

end Flipbook
