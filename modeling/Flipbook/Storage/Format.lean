/-!
# Image formats

The formats that file extensions name. Only some of them can be decoded.
-/
namespace Flipbook

inductive Format where
  | png
  | avif
  | jpeg
  | gif
  | webp
  | tiff
  | tga
  | dds
  | bmp
  | ico
  | hdr
  | pnm
  | farbfeld
deriving DecidableEq, Repr

namespace Format

def name : Format → String
  | png => "Png"
  | avif => "Avif"
  | jpeg => "Jpeg"
  | gif => "Gif"
  | webp => "WebP"
  | tiff => "Tiff"
  | tga => "Tga"
  | dds => "Dds"
  | bmp => "Bmp"
  | ico => "Ico"
  | hdr => "Hdr"
  | pnm => "Pnm"
  | farbfeld => "Farbfeld"

def extensions : List (String × Format) :=
  [("png", png), ("avif", avif), ("jpg", jpeg), ("jpeg", jpeg), ("gif", gif), ("webp", webp),
    ("tif", tiff), ("tiff", tiff), ("tga", tga), ("dds", dds), ("bmp", bmp), ("ico", ico),
    ("hdr", hdr), ("pbm", pnm), ("pam", pnm), ("ppm", pnm), ("pgm", pnm), ("ff", farbfeld),
    ("farbfeld", farbfeld)]

/-- The format of an extension, whatever the case of its ASCII letters. -/
def ofExtension? (extension : String) : Option Format :=
  extensions.lookup (String.ofList (extension.toList.map Char.toLower))

end Format
end Flipbook
