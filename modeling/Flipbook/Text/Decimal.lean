/-!
# Decimal numbers in running text

`digits` writes a number without leading zeros and `read?` takes the number at the front of a
text. Reading what was written gives the number back whenever no further digit follows
(`read?_digits_append`), so a number ends at any separator.
-/
namespace Flipbook.Decimal

def digits (n : Nat) : List Char := Nat.toDigits 10 n

def text (n : Nat) : String := String.ofList (digits n)

/-- The number at the front of `text` and what follows it; `none` where no digit stands. -/
def read? (text : List Char) : Option (Nat × List Char) :=
  match text.takeWhile Char.isDigit with
  | [] => none
  | front@(_ :: _) => some (Nat.ofDigitChars 10 front 0, text.dropWhile Char.isDigit)

theorem digits_ne_nil (n : Nat) : digits n ≠ [] := Nat.toDigits_ne_nil

theorem isDigit_of_mem_digits {n : Nat} {c : Char} (member : c ∈ digits n) : c.isDigit :=
  Nat.isDigit_of_mem_toDigits (by decide) (by decide) member

theorem ofDigitChars_digits (n : Nat) : Nat.ofDigitChars 10 (digits n) 0 = n :=
  Nat.ofDigitChars_toDigits (by decide) (by decide)

section
variable {front rest : List Char} (only : ∀ c ∈ front, c.isDigit)
  (ended : ∀ c ∈ rest.head?, c.isDigit = false)
include only ended

theorem takeWhile_append : (front ++ rest).takeWhile Char.isDigit = front := by
  rw [List.takeWhile_append_of_pos only]
  cases rest with
  | nil => simp
  | cons c _ => simp [ended c (by simp)]

theorem dropWhile_append : (front ++ rest).dropWhile Char.isDigit = rest := by
  rw [List.dropWhile_append_of_pos only]
  cases rest with
  | nil => simp
  | cons c _ => simp [ended c (by simp)]

theorem read?_append (nonempty : front ≠ []) :
    read? (front ++ rest) = some (Nat.ofDigitChars 10 front 0, rest) := by
  unfold read?
  rw [takeWhile_append only ended, dropWhile_append only ended]
  cases front with
  | nil => exact absurd rfl nonempty
  | cons c _ => rfl

end

theorem read?_digits_append (n : Nat) {rest : List Char}
    (ended : ∀ c ∈ rest.head?, c.isDigit = false) :
    read? (digits n ++ rest) = some (n, rest) := by
  rw [read?_append (fun _ => isDigit_of_mem_digits) ended (digits_ne_nil n),
    ofDigitChars_digits]

end Flipbook.Decimal
