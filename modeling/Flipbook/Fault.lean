import Flipbook.Geometry.Rect
import Flipbook.Storage.Format

/-!
# What can go wrong

A fault is its cause. `Fault.text` words it for a reader; `Fault.inner?` is the wording of the
file or image fault that lies beneath, where there is one. Every family has a case `stated` for
causes that a host words itself.
-/
namespace Flipbook

inductive GeometryFault where
  | emptyCell (cell : Size)
  | noWholeCell (area cell : Size)
  | stated (text : String)
deriving DecidableEq, Repr

inductive RangeFault where
  | belowLastRow (frame row rows : UInt32)
  | indexTooLarge (first offset : UInt32)
  | stated (text : String)
deriving DecidableEq, Repr

inductive SettingFault where
  | zeroRate
  | stated (text : String)
deriving DecidableEq, Repr

/-- The failures of the operating system that opening or reading a file can meet. -/
inductive SystemFault where
  | noEntry
  | notADirectory
  | isADirectory
  | nameTooLong
deriving DecidableEq, Repr

/-- The kinds of file fault that hosts tell apart. -/
inductive FileFault.Kind where
  | notFound
  | permissionDenied
  | connectionRefused
  | connectionReset
  | hostUnreachable
  | networkUnreachable
  | connectionAborted
  | notConnected
  | addressInUse
  | addressNotAvailable
  | networkDown
  | brokenPipe
  | alreadyExists
  | wouldBlock
  | notADirectory
  | isADirectory
  | directoryNotEmpty
  | readOnlyStorage
  | staleHandle
  | invalidInput
  | invalidData
  | timedOut
  | writeZero
  | storageFull
  | notSeekable
  | quotaExceeded
  | fileTooLarge
  | resourceBusy
  | executableBusy
  | deadlock
  | crossesDevices
  | tooManyLinks
  | invalidName
  | argumentListTooLong
  | interrupted
  | unsupported
  | unexpectedEnd
  | outOfMemory
  | other
deriving DecidableEq, Repr

inductive FileFault where
  | system (cause : SystemFault)
  | nulInPath
  | stated (kind : FileFault.Kind) (text : String)
deriving DecidableEq, Repr

/-- The name of an image format in a fault: one of the known formats, or any other name. -/
inductive FormatName where
  | known (format : Format)
  | other (name : String)
deriving DecidableEq, Repr

/-- A file's contents do not become a picture. -/
inductive ImageFault where
  | file (cause : FileFault)
  | noExtension
  | unknownExtension (quoted : String)
  | undecodable (format : Format)
  | malformed (format : FormatName) (detail : String)
  | parameter (detail : String)
  | tooLarge
deriving DecidableEq, Repr

inductive Fault where
  | geometry (cause : GeometryFault)
  | range (cause : RangeFault)
  | setting (cause : SettingFault)
  | image (cause : ImageFault)
  | file (cause : FileFault)
deriving DecidableEq, Repr

namespace GeometryFault

def text : GeometryFault → String
  | emptyCell cell => "Sprite size must be positive, got " ++ cell.text
  | noWholeCell area cell =>
    "Sheet of " ++ area.text ++ " pixels cannot hold a " ++ cell.text ++ " sprite"
  | stated text => text

end GeometryFault

namespace RangeFault

def text : RangeFault → String
  | belowLastRow frame row rows =>
    "Frame " ++ Decimal.text frame.toNat ++ " is in row " ++ Decimal.text row.toNat ++
      ", but the sheet only has " ++ Decimal.text rows.toNat ++ " rows"
  | indexTooLarge first offset =>
    "Frame " ++ Decimal.text first.toNat ++ " + " ++ Decimal.text offset.toNat ++
      " does not fit into a frame index"
  | stated text => text

end RangeFault

namespace SettingFault

def text : SettingFault → String
  | zeroRate => "Frame rate must be at least 1"
  | stated text => text

end SettingFault

namespace SystemFault

def code : SystemFault → Nat
  | noEntry => 2
  | notADirectory => 20
  | isADirectory => 21
  | nameTooLong => 36

def description : SystemFault → String
  | noEntry => "No such file or directory"
  | notADirectory => "Not a directory"
  | isADirectory => "Is a directory"
  | nameTooLong => "File name too long"

def kind : SystemFault → FileFault.Kind
  | noEntry => .notFound
  | notADirectory => .notADirectory
  | isADirectory => .isADirectory
  | nameTooLong => .invalidName

end SystemFault

namespace FileFault

def kind : FileFault → FileFault.Kind
  | system cause => cause.kind
  | nulInPath => .invalidInput
  | stated kind _ => kind

def text : FileFault → String
  | system cause => cause.description ++ " (os error " ++ Decimal.text cause.code ++ ")"
  | nulInPath => "file name contained an unexpected NUL byte"
  | stated _ text => text

end FileFault

namespace FormatName

/-- A known format stands for itself; any other name is set between backticks. -/
def text : FormatName → String
  | known format => format.name
  | other name => "`" ++ name ++ "`"

end FormatName

namespace ImageFault

def text : ImageFault → String
  | file cause => cause.text
  | noExtension => "The image format could not be determined"
  | unknownExtension quoted =>
    "The file extension `." ++ quoted ++ "` was not recognized as an image format"
  | undecodable format => "The image format " ++ format.name ++ " is not supported"
  | malformed format detail => "Format error decoding " ++ format.text ++ ": " ++ detail
  | parameter detail => "The parameter is malformed: " ++ detail
  | tooLarge => "Image is too large"

end ImageFault

namespace Fault

def text : Fault → String
  | geometry cause => "Invalid sheet geometry: " ++ cause.text
  | range cause => "Frame out of range: " ++ cause.text
  | setting cause => "Invalid animation configuration: " ++ cause.text
  | image cause => "Image error: " ++ cause.text
  | file cause => "I/O error: " ++ cause.text

/-- The wording of the wrapped fault. The three families that the library itself raises wrap
none. -/
def inner? : Fault → Option String
  | geometry _ | range _ | setting _ => none
  | image cause => some cause.text
  | file cause => some cause.text

end Fault
end Flipbook
