import Flipbook.Text.Decimal

/-!
# Sizes and rectangles of pixels

Coordinates grow to the right and downwards and are 32-bit words. `Rect.text` writes a rectangle
as `WIDTHxHEIGHT+X+Y` and `Rect.ofText?` reads that form.
-/
namespace Flipbook

structure Size where
  width : UInt32
  height : UInt32
deriving DecidableEq, Repr, Inhabited

namespace Size

def text (size : Size) : String :=
  Decimal.text size.width.toNat ++ "x" ++ Decimal.text size.height.toNat

/-- The number of pixels, in unbounded arithmetic. -/
def area (size : Size) : Nat := size.width.toNat * size.height.toNat

end Size

structure Rect where
  x : UInt32
  y : UInt32
  width : UInt32
  height : UInt32
deriving DecidableEq, Repr, Inhabited

namespace Rect

def size (rect : Rect) : Size := ⟨rect.width, rect.height⟩

def whole (size : Size) : Rect := ⟨0, 0, size.width, size.height⟩

/-- The part `inner` of this rectangle, `inner` being given relative to its corner. -/
def part (rect inner : Rect) : Rect :=
  ⟨rect.x + inner.x, rect.y + inner.y, inner.width, inner.height⟩

def chars (rect : Rect) : List Char :=
  Decimal.digits rect.width.toNat ++ 'x' :: (Decimal.digits rect.height.toNat ++
    '+' :: (Decimal.digits rect.x.toNat ++ '+' :: Decimal.digits rect.y.toNat))

def text (rect : Rect) : String := String.ofList rect.chars

/-- A number that fits a word, followed by `mark`. -/
def field? (mark : Char) (text : List Char) : Option (UInt32 × List Char) := do
  let (value, rest) ← Decimal.read? text
  guard (value < UInt32.size)
  match rest with
  | [] => none
  | c :: rest => if c = mark then some (UInt32.ofNat value, rest) else none

def ofChars? (text : List Char) : Option Rect := do
  let (width, text) ← field? 'x' text
  let (height, text) ← field? '+' text
  let (x, text) ← field? '+' text
  let (y, rest) ← Decimal.read? text
  guard (y < UInt32.size ∧ rest = [])
  return ⟨x, UInt32.ofNat y, width, height⟩

/-- Reads the four fields of `WIDTHxHEIGHT+X+Y`, each of them a decimal number that fits a word. -/
def ofText? (text : String) : Option Rect := ofChars? text.toList

end Rect
end Flipbook
