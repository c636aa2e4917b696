import Flipbook.Picture
import Flipbook.Raster.Rgba

/-!
# Bitmaps

A bitmap keeps its pixels row by row. `Bitmap.pixel?` is the view in which the operations are
described: what stands at a column and a row, and nothing outside.
-/
namespace Flipbook

structure Bitmap where
  size : Size
  pixels : Array Rgba
  size_pixels : pixels.size = size.area

namespace Bitmap

def pixel? (bitmap : Bitmap) (column row : Nat) : Option Rgba :=
  if column < bitmap.size.width.toNat then
    bitmap.pixels[row * bitmap.size.width.toNat + column]?
  else
    none

/-- The bitmap whose pixel at a column and a row is given by `color`. -/
def ofFn (size : Size) (color : Nat → Nat → Rgba) : Bitmap where
  size := size
  pixels := Array.ofFn fun index : Fin size.area =>
    color (index % size.width.toNat) (index / size.width.toNat)
  size_pixels := Array.size_ofFn

def filled (size : Size) (color : Rgba) : Bitmap where
  size := size
  pixels := Array.replicate size.area color
  size_pixels := Array.size_replicate

/-- Change one pixel; a place outside the bitmap is left alone. -/
def modify (bitmap : Bitmap) (column row : Nat) (change : Rgba → Rgba) : Bitmap :=
  if column < bitmap.size.width.toNat then
    match bitmap with
    | ⟨size, pixels, size_pixels⟩ =>
      ⟨size, pixels.modify (row * size.width.toNat + column) change,
        Array.size_modify.trans size_pixels⟩
  else
    bitmap

/-- The same bitmap in one colour all over. -/
def fill (bitmap : Bitmap) (color : Rgba) : Bitmap := filled bitmap.size color

def map (change : Rgba → Rgba) (bitmap : Bitmap) : Bitmap where
  size := bitmap.size
  pixels := bitmap.pixels.map change
  size_pixels := (Array.size_map ..).trans bitmap.size_pixels

/-- A copy of a rectangle. Whatever of it lies outside is transparent. -/
def cut (bitmap : Bitmap) (rect : Rect) : Bitmap :=
  ofFn rect.size fun column row =>
    (bitmap.pixel? (rect.x.toNat + column) (rect.y.toNat + row)).getD .transparent

instance : Picture Bitmap where
  size := Bitmap.size
  cut := Bitmap.cut

/-! ## What the operations do to the view -/

theorem index_lt_area (size : Size) {column row : Nat} (inside : column < size.width.toNat) :
    row * size.width.toNat + column < size.area ↔ row < size.height.toNat := by
  unfold Size.area
  constructor
  · intro below
    apply Nat.lt_of_not_le
    intro beyond
    have := Nat.mul_le_mul_right size.width.toNat beyond
    rw [Nat.mul_comm size.height.toNat] at this
    omega
  · intro below
    have := Nat.mul_le_mul_right size.width.toNat (Nat.succ_le_of_lt below)
    rw [Nat.succ_mul, Nat.mul_comm size.height.toNat] at this
    omega

theorem index_inj {width column row column' row' : Nat} (inside : column < width)
    (inside' : column' < width) :
    row * width + column = row' * width + column' ↔ column = column' ∧ row = row' := by
  constructor
  · intro same
    have rows := congrArg (· / width) same
    have columns := congrArg (· % width) same
    simp only [Nat.mul_comm _ width, Nat.mul_add_div (Nat.zero_lt_of_lt inside),
      Nat.mul_add_mod, Nat.div_eq_of_lt inside, Nat.div_eq_of_lt inside',
      Nat.mod_eq_of_lt inside, Nat.mod_eq_of_lt inside', Nat.add_zero] at rows columns
    exact ⟨columns, rows⟩
  · rintro ⟨rfl, rfl⟩
    rfl

theorem pixel?_isSome (bitmap : Bitmap) (column row : Nat) :
    (bitmap.pixel? column row).isSome ↔
      column < bitmap.size.width.toNat ∧ row < bitmap.size.height.toNat := by
  unfold pixel?
  split
  next inside =>
    simp [inside, bitmap.size_pixels, index_lt_area _ inside]
  next outside => simp [outside]

theorem pixel?_ofFn (size : Size) (color : Nat → Nat → Rgba) (column row : Nat) :
    (ofFn size color).pixel? column row =
      if column < size.width.toNat ∧ row < size.height.toNat then some (color column row)
      else none := by
  unfold pixel? ofFn
  by_cases inside : column < size.width.toNat
  · have column_eq : (row * size.width.toNat + column) % size.width.toNat = column := by
      rw [Nat.mul_comm, Nat.mul_add_mod, Nat.mod_eq_of_lt inside]
    have row_eq : (row * size.width.toNat + column) / size.width.toNat = row := by
      rw [Nat.mul_comm, Nat.mul_add_div (Nat.zero_lt_of_lt inside), Nat.div_eq_of_lt inside,
        Nat.add_zero]
    simp [inside, Array.getElem?_ofFn, index_lt_area size inside, column_eq, row_eq]
  · simp [inside]

theorem pixel?_filled (size : Size) (color : Rgba) (column row : Nat) :
    (filled size color).pixel? column row =
      if column < size.width.toNat ∧ row < size.height.toNat then some color else none := by
  unfold pixel? filled
  by_cases inside : column < size.width.toNat
  · simp [inside, Array.getElem?_replicate, index_lt_area size inside]
  · simp [inside]

theorem pixel?_map (bitmap : Bitmap) (change : Rgba → Rgba) (column row : Nat) :
    (bitmap.map change).pixel? column row = (bitmap.pixel? column row).map change := by
  unfold pixel? map
  split <;> simp

theorem pixel?_cut (bitmap : Bitmap) (rect : Rect) (column row : Nat) :
    (bitmap.cut rect).pixel? column row =
      if column < rect.width.toNat ∧ row < rect.height.toNat then
        some ((bitmap.pixel? (rect.x.toNat + column) (rect.y.toNat + row)).getD .transparent)
      else none :=
  pixel?_ofFn ..

@[simp] theorem size_modify (bitmap : Bitmap) (column row : Nat) (change : Rgba → Rgba) :
    (bitmap.modify column row change).size = bitmap.size := by
  unfold modify
  split <;> rfl

theorem pixel?_modify (bitmap : Bitmap) (column row : Nat) (change : Rgba → Rgba)
    (column' row' : Nat) :
    (bitmap.modify column row change).pixel? column' row' =
      if column = column' ∧ row = row' then (bitmap.pixel? column' row').map change
      else bitmap.pixel? column' row' := by
  unfold modify pixel?
  by_cases inside : column < bitmap.size.width.toNat
  · by_cases inside' : column' < bitmap.size.width.toNat
    · simp [inside, inside', Array.getElem?_modify, index_inj inside inside']
    · simp [inside, inside']
  · simp only [inside, if_false]
    by_cases same : column = column' ∧ row = row'
    · simp [← same.1, inside]
    · simp [same]

/-- A bitmap is determined by its size and its view. -/
theorem ext_pixel? {left right : Bitmap} (size : left.size = right.size)
    (pixel? : ∀ column row, left.pixel? column row = right.pixel? column row) : left = right := by
  obtain ⟨leftSize, leftPixels, left_eq⟩ := left
  obtain ⟨rightSize, rightPixels, right_eq⟩ := right
  obtain rfl : leftSize = rightSize := size
  have pixels : leftPixels = rightPixels := by
    apply Array.ext_getElem?
    intro index
    by_cases inside : index < leftSize.area
    · have width_pos : 0 < leftSize.width.toNat := by
        apply Nat.pos_of_ne_zero
        intro none
        simp [Size.area, none] at inside
      have column_lt := Nat.mod_lt index width_pos
      have same := pixel? (index % leftSize.width.toNat) (index / leftSize.width.toNat)
      simpa [Bitmap.pixel?, column_lt, Nat.mul_comm _ leftSize.width.toNat, Nat.div_add_mod]
        using same
    · rw [Array.getElem?_eq_none (by omega), Array.getElem?_eq_none (by omega)]
  subst pixels
  rfl

end Bitmap
end Flipbook
