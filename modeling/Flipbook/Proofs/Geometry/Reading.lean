import Flipbook.Geometry.Rect
import Mathlib.Data.Option.Basic

/-! The text of a rectangle can be read in one way only, and reading gives the rectangle back. -/
namespace Flipbook

/-! ## Numerals -/

namespace Decimal

/-- One or more digits that stand for a number. Leading zeros are allowed. -/
structure Denotes (numeral : List Char) (value : Nat) : Prop where
  ne_nil : numeral ≠ []
  only_digits : ∀ c ∈ numeral, c.isDigit
  value_eq : Nat.ofDigitChars 10 numeral 0 = value

theorem denotes_digits (n : Nat) : Denotes (digits n) n where
  ne_nil := digits_ne_nil n
  only_digits := fun _ => isDigit_of_mem_digits
  value_eq := ofDigitChars_digits n

/-- Reading takes a whole numeral from the front, and fails only where none stands. -/
theorem read?_eq_some_iff {text rest : List Char} {value : Nat} :
    read? text = some (value, rest) ↔
      ∃ numeral, Denotes numeral value ∧ (∀ c ∈ rest.head?, c.isDigit = false) ∧
        text = numeral ++ rest := by
  constructor
  · intro found
    unfold read? at found
    split at found
    next => contradiction
    next front c tail front_eq =>
      obtain ⟨value_eq, rest_eq⟩ := Prod.mk.inj (Option.some.inj found)
      refine ⟨c :: tail, ⟨by simp, ?_, value_eq⟩, ?_, ?_⟩
      · rw [← front_eq]
        exact List.all_eq_true.mp List.all_takeWhile
      · intro next following
        have ended := List.head?_dropWhile_not Char.isDigit text
        rwa [rest_eq, following] at ended
      · rw [← front_eq, ← rest_eq, List.takeWhile_append_dropWhile]
  · rintro ⟨numeral, denotes, ended, rfl⟩
    rw [read?_append denotes.only_digits ended denotes.ne_nil, denotes.value_eq]

end Decimal

namespace Rect

/-! ## Fields -/

/-- A field is a numeral of a word up to the mark. No mark is a digit, so the numeral ends there. -/
theorem field?_of_denotes {mark : Char} (separates : mark.isDigit = false) {numeral : List Char}
    {word : UInt32} (denotes : Decimal.Denotes numeral word.toNat) (rest : List Char) :
    field? mark (numeral ++ mark :: rest) = some (word, rest) := by
  have read : Decimal.read? (numeral ++ mark :: rest) = some (word.toNat, mark :: rest) :=
    Decimal.read?_eq_some_iff.mpr ⟨numeral, denotes, by simpa using separates, rfl⟩
  simp [field?, read, word.toNat_lt, guard]

theorem denotes_of_field? {mark : Char} {text rest : List Char} {word : UInt32}
    (found : field? mark text = some (word, rest)) :
    ∃ numeral, Decimal.Denotes numeral word.toNat ∧ text = numeral ++ mark :: rest := by
  simp only [field?, bind, Option.bind_eq_some_iff, Prod.exists, Option.guard_eq_some'] at found
  obtain ⟨value, left, read, -, small, marked⟩ := found
  obtain ⟨numeral, denotes, -, rfl⟩ := Decimal.read?_eq_some_iff.mp read
  split at marked
  next => contradiction
  next c tail =>
    split at marked
    next same =>
      obtain ⟨rfl, rfl⟩ := Prod.mk.inj (Option.some.inj marked)
      exact ⟨numeral, by rwa [UInt32.toNat_ofNat_of_lt' small], by rw [same]⟩
    next => contradiction

/-- Four numerals of the numbers of a rectangle in the form `WIDTHxHEIGHT+X+Y`. -/
def Denoted (rect : Rect) (text : List Char) : Prop :=
  ∃ width height x y,
    Decimal.Denotes width rect.width.toNat ∧ Decimal.Denotes height rect.height.toNat ∧
      Decimal.Denotes x rect.x.toNat ∧ Decimal.Denotes y rect.y.toNat ∧
        text = width ++ 'x' :: (height ++ '+' :: (x ++ '+' :: y))

theorem denoted_chars (rect : Rect) : rect.Denoted rect.chars :=
  ⟨_, _, _, _, Decimal.denotes_digits _, Decimal.denotes_digits _, Decimal.denotes_digits _,
    Decimal.denotes_digits _, rfl⟩

theorem ofChars?_eq_some_iff {text : List Char} {rect : Rect} :
    ofChars? text = some rect ↔ rect.Denoted text := by
  constructor
  · intro read
    simp only [ofChars?, bind, pure, Option.bind_eq_some_iff, Prod.exists, Option.guard_eq_some',
      Option.some.injEq] at read
    obtain ⟨width, _, width?, height, _, height?, x, _, x?, y, rest, y?, -, ⟨small, rfl⟩, rfl⟩ :=
      read
    obtain ⟨wide, denotes_width, rfl⟩ := denotes_of_field? width?
    obtain ⟨high, denotes_height, rfl⟩ := denotes_of_field? height?
    obtain ⟨left, denotes_x, rfl⟩ := denotes_of_field? x?
    obtain ⟨top, denotes_y, -, rfl⟩ := Decimal.read?_eq_some_iff.mp y?
    refine ⟨wide, high, left, top, denotes_width, denotes_height, denotes_x, ?_, ?_⟩
    · rwa [UInt32.toNat_ofNat_of_lt' small]
    · rw [List.append_nil]
  · rintro ⟨wide, high, left, top, denotes_width, denotes_height, denotes_x, denotes_y, rfl⟩
    have y? : Decimal.read? top = some (rect.y.toNat, []) :=
      Decimal.read?_eq_some_iff.mpr ⟨top, denotes_y, by simp, by simp⟩
    have cross : 'x'.isDigit = false := by decide
    have plus : '+'.isDigit = false := by decide
    simp [ofChars?, field?_of_denotes cross denotes_width, field?_of_denotes plus denotes_height,
      field?_of_denotes plus denotes_x, y?, rect.y.toNat_lt, guard]

theorem ofText?_eq_some_iff {text : String} {rect : Rect} :
    ofText? text = some rect ↔ rect.Denoted text.toList :=
  ofChars?_eq_some_iff

theorem denoted_text (rect : Rect) : rect.Denoted rect.text.toList := by
  rw [text, String.toList_ofList]
  exact rect.denoted_chars

theorem text_inj {left right : Rect} : left.text = right.text ↔ left = right := by
  constructor
  · intro same
    have read := ofText?_eq_some_iff.mpr left.denoted_text
    rw [same, ofText?_eq_some_iff.mpr right.denoted_text] at read
    exact (Option.some.inj read).symm
  · rintro rfl
    rfl

/-! ## Main result -/

/-- The text of a rectangle gives the rectangle back, and so no two rectangles share a text. What
is read out of any text are the numbers that stand there in decimal, in that order and with nothing
before, between or after them but the marks. -/
theorem text_unambiguous :
    (∀ rect : Rect, ofText? rect.text = some rect) ∧
    (∀ left right : Rect, left.text = right.text ↔ left = right) ∧
    ∀ (text : String) (rect : Rect), ofText? text = some rect ↔ rect.Denoted text.toList :=
  ⟨fun rect => ofText?_eq_some_iff.mpr rect.denoted_text, fun _ _ => text_inj,
    fun _ _ => ofText?_eq_some_iff⟩

example : (⟨30, 20, 10, 5⟩ : Rect).text = "10x5+30+20" := by decide

-- A number beyond the words is not cut down to one.
example : ofText? "10x5+30+4294967296" = none := by decide

end Rect
end Flipbook
