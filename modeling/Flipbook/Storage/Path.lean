/-!
# Paths

A path is a text in which slashes separate names. A leading slash makes it absolute; empty
pieces and single dots stand for the directory reached so far, two dots for the one above.
-/
namespace Flipbook.Path

def isAbsolute (path : String) : Bool := path.toList.head? = some '/'

/-- The characters before the first slash, and those between one slash and the next after it. -/
def split : List Char → List Char × List (List Char)
  | [] => ([], [])
  | c :: rest =>
    let after := split rest
    if c = '/' then ([], after.1 :: after.2) else (c :: after.1, after.2)

/-- Nothing is lost: with the slashes put back between the pieces the text is there again. -/
theorem intercalate_split (text : List Char) :
    ['/'].intercalate ((split text).1 :: (split text).2) = text := by
  induction text with
  | nil => rfl
  | cons c rest ih =>
    rw [split]
    by_cases slash : c = '/'
    · rw [if_pos slash, List.intercalate_cons_cons, ih, slash]
      rfl
    · rw [if_neg slash]
      cases later : (split rest).2 with
      | nil =>
        rw [later] at ih
        rw [List.intercalate_singleton] at ih ⊢
        rw [ih]
      | cons next more =>
        rw [later, List.intercalate_cons_cons] at ih
        rw [List.intercalate_cons_cons, List.cons_append, List.cons_append, ih]

/-- A piece ends where a slash stands. -/
theorem slash_not_mem_of_mem_split {text piece : List Char}
    (listed : piece ∈ (split text).1 :: (split text).2) : '/' ∉ piece := by
  induction text generalizing piece with
  | nil => simp_all [split]
  | cons c rest ih =>
    rw [split] at listed
    by_cases slash : c = '/'
    · rw [if_pos slash] at listed
      rcases List.mem_cons.mp listed with rfl | later
      · exact List.not_mem_nil
      · exact ih later
    · rw [if_neg slash] at listed
      rcases List.mem_cons.mp listed with rfl | later
      · rw [List.mem_cons, not_or]
        exact ⟨Ne.symm slash, ih List.mem_cons_self⟩
      · exact ih (List.mem_cons_of_mem _ later)

/-- All that stands between slashes, empty pieces included. -/
def pieces (path : String) : List String :=
  let (piece, later) := split path.toList
  (piece :: later).map String.ofList

/-- The pieces that lead away from the directory reached so far. -/
def names (path : String) : List String :=
  (pieces path).filter fun piece => piece ≠ "" ∧ piece ≠ "."

/-- What a path consists of. Doubled slashes, one at the end and single dots do not count, but a
path from the root is another one than the same names from a directory, and a single dot at the very
front is kept. -/
def components (path : String) : List String :=
  if isAbsolute path then "/" :: names path
  else if (pieces path).head? = some "." then "." :: names path
  else names path

/-- The texts consist of the same, so they stand for one path. -/
def alike (left right : String) : Bool := components left = components right

/-- A path seen from a directory, with a slash between them where none stands yet. An absolute path
leads away from the directory, and a directory without a name adds nothing. -/
def join (directory path : String) : String :=
  if isAbsolute path then path
  else if directory.isEmpty || directory.toList.getLast? = some '/' then directory ++ path
  else directory ++ "/" ++ path

/-- The name of the file that the path leads to. There is none where it ends by going up or goes
nowhere. -/
def fileName? (path : String) : Option String :=
  match (names path).getLast? with
  | some ".." | none => none
  | some name => some name

/-- What follows the last dot of the file name. A dot in front of the whole name does not
count. -/
def extension? (path : String) : Option String := do
  let name ← fileName? path
  let (after, before) := name.toList.reverse.span (· ≠ '.')
  match before with
  | [] | [_] => none
  | _ => some (String.ofList after.reverse)

end Flipbook.Path
