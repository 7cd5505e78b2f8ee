import Assay.Text.Category
import Assay.Text.Property

/-!
# Quoted text

A text between double quotes. Tab, line ends, NUL, the quote and the backslash have short escapes;
a character that would not show by itself is written by its code point in hexadecimal.
-/

namespace Assay.Text.Quoted

def codePoint (c : Char) : List Char :=
  ['\\', 'u', '\x7b'] ++ Nat.toDigits 16 c.toNat ++ ['\x7d']

/-- Shows by itself: it is printable and does not combine with the character before it. -/
def isPlain (c : Char) : Bool := isPrintable c && !Property.graphemeExtend.contains c

def escape (c : Char) : List Char :=
  match c with
  | '\x00' => ['\\', '0']
  | '\t' => ['\\', 't']
  | '\r' => ['\\', 'r']
  | '\n' => ['\\', 'n']
  | '"' => ['\\', '"']
  | '\\' => ['\\', '\\']
  | c => if isPlain c then [c] else codePoint c

def encode (s : List Char) : List Char := '"' :: (s.flatMap escape ++ ['"'])

@[simp] theorem encode_nil : encode [] = ['"', '"'] := rfl

end Assay.Text.Quoted

namespace Assay.Text

def quote (s : String) : String := String.ofList (Quoted.encode s.toList)

end Assay.Text
