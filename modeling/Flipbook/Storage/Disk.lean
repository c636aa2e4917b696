import Flipbook.Storage.Contents
import Flipbook.Storage.Path
import Flipbook.Text.Quoted

/-!
# Disks

A disk holds directories and files at locations, a location being the names that lead to it from
the root, the innermost first. `Disk.find` follows a path name by name as the operating system
does: every name but the last must be a directory, also one that the path leaves again.
-/
namespace Flipbook

abbrev Location := List String

inductive Entry where
  | directory
  | file (contents : Contents)

structure Disk where
  entries : List (Location × Entry)
  /-- The directory from which relative paths start. -/
  working : Location

namespace Disk

/-! ## Filling a disk -/

def entry? (disk : Disk) : Location → Option Entry
  | [] => some .directory
  | location => disk.entries.lookup location

def put (disk : Disk) (location : Location) (entry : Entry) : Disk :=
  { disk with entries := (location, entry) :: disk.entries }

/-- Make a directory, unless there is something at its location already. -/
def makeDirectory (disk : Disk) (location : Location) : Disk :=
  if (disk.entry? location).isSome then disk else disk.put location .directory

/-- Go from a location through names, making every directory that is missing on the way, also one
that the way leaves again. -/
def makeWay : List String → Disk → Location → Disk × Location
  | [], disk, location => (disk, location)
  | piece :: rest, disk, location =>
    if piece = "" ∨ piece = "." then makeWay rest disk location
    else if piece = ".." then makeWay rest disk location.tail
    else makeWay rest (disk.makeDirectory (piece :: location)) (piece :: location)

def start (disk : Disk) (path : String) : Location :=
  if Path.isAbsolute path then [] else disk.working

/-- A disk that holds nothing but its working directory. -/
def blank (working : String) : Disk :=
  let (disk, location) := makeWay (Path.pieces working) ⟨[], []⟩ []
  { disk with working := location }

def storeDirectory (disk : Disk) (path : String) : Disk :=
  (makeWay (Path.pieces path) disk (disk.start path)).1

def storeFile (disk : Disk) (path : String) (contents : Contents) : Disk :=
  let pieces := Path.pieces path
  let (disk, directory) := makeWay pieces.dropLast disk (disk.start path)
  match pieces.getLast? with
  | some name => disk.put (name :: directory) (.file contents)
  | none => disk

/-! ## Finding and loading -/

-- Both limits count bytes.
def maxNameLength : Nat := 255

def maxPathLength : Nat := 4095

def follow (disk : Disk) : List String → Location → Except SystemFault Location
  | [], location => .ok location
  | piece :: rest, location =>
    match disk.entry? location with
    | none => .error .noEntry
    | some (.file _) => .error .notADirectory
    | some .directory =>
      if piece = "" ∨ piece = "." then disk.follow rest location
      else if piece = ".." then disk.follow rest location.tail
      else if piece.utf8ByteSize > maxNameLength then .error .nameTooLong
      else if (disk.entry? (piece :: location)).isSome then disk.follow rest (piece :: location)
      else .error .noEntry

def find (disk : Disk) (path : String) : Except FileFault Entry :=
  if path.toList.contains '\x00' then .error .nulInPath
  else if path.isEmpty then .error (.system .noEntry)
  else if path.utf8ByteSize > maxPathLength then .error (.system .nameTooLong)
  else
    match disk.follow (Path.pieces path) (disk.start path) with
    | .error fault => .error (.system fault)
    | .ok location =>
      match disk.entry? location with
      | some entry => .ok entry
      | none => .error (.system .noEntry)

def formatOf (path : String) : Except ImageFault Format :=
  match Path.extension? path with
  | none => .error .noExtension
  | some extension =>
    match Format.ofExtension? extension with
    | some format => .ok format
    | none => .error (.unknownExtension (Quoted.encode extension))

/-- Load a picture. The file is opened before its extension is looked at, and the extension alone
decides the format, so a directory fails only when it is read. -/
def load (disk : Disk) (path : String) : Except ImageFault Bitmap := do
  let entry ← (disk.find path).mapError .file
  match ← formatOf path with
  | .png =>
    match entry with
    | .directory => .error (.file (.system .isADirectory))
    | .file contents => contents.decode
  | format => .error (.undecodable format)

end Disk
end Flipbook
