/-!
# Named slots

Every name stands for at most one value, the one that was put there last.
-/
namespace Flipbook

structure Slots (α : Type) where
  entries : List (String × α) := []

namespace Slots

variable {α : Type}

def empty : Slots α := {}

def get? (slots : Slots α) (name : String) : Option α := slots.entries.lookup name

def put (slots : Slots α) (name : String) (value : α) : Slots α :=
  ⟨(name, value) :: slots.entries.filter (·.1 ≠ name)⟩

@[simp] theorem get?_empty (name : String) : (empty : Slots α).get? name = none := rfl

@[simp] theorem get?_put (slots : Slots α) (name asked : String) (value : α) :
    (slots.put name value).get? asked = if asked = name then some value else slots.get? asked := by
  simp only [get?, put, List.lookup_cons]
  by_cases same : asked = name
  · simp [same]
  · have differs : (asked == name) = false := by simp [same]
    simp only [differs, if_neg same]
    induction slots.entries with
    | nil => rfl
    | cons entry rest ih =>
      obtain ⟨key, held⟩ := entry
      by_cases replaced : key = name
      · have other : (asked == key) = false := by simp [replaced, same]
        rw [List.filter_cons_of_neg (by simp [replaced]), ih, List.lookup_cons, other]
      · rw [List.filter_cons_of_pos (by simp [replaced]), List.lookup_cons, List.lookup_cons, ih]

end Slots
end Flipbook
