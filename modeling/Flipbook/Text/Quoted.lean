import Flipbook.Text.Unprintable

/-!
# Quoted text

A text is quoted so that nothing in it is invisible: the quote that ends it, the backslash and a
few controls are written after a backslash, other characters that would not show as their code
point.
-/
namespace Flipbook.Quoted

/-- A code point in braces, in lower-case hexadecimal digits. -/
def codePoint (c : Char) : List Char :=
  ['\\', 'u', '\x7b'] ++ Nat.toDigits 16 c.toNat ++ ['\x7d']

def escape (c : Char) : List Char :=
  if c = '\x00' then ['\\', '0']
  else if c = '\t' then ['\\', 't']
  else if c = '\n' then ['\\', 'n']
  else if c = '\r' then ['\\', 'r']
  else if c = '"' ∨ c = '\\' then ['\\', c]
  else if Unprintable.contains c then codePoint c
  else [c]

def encode (text : String) : String :=
  String.ofList ('"' :: text.toList.flatMap escape ++ ['"'])

end Flipbook.Quoted
