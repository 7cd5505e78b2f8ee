import Assay.Json.Basic

/-!
# Writing JSON text

Without space between tokens. In strings the quote, the backslash and control characters are
escaped, all else stands as it is.
-/

namespace Assay.Json

variable {ν : Type}

def escapeChar (c : Char) : List Char :=
  match c with
  | '"' => ['\\', '"']
  | '\\' => ['\\', '\\']
  | '\n' => ['\\', 'n']
  | '\r' => ['\\', 'r']
  | '\t' => ['\\', 't']
  | '\x08' => ['\\', 'b']
  | '\x0c' => ['\\', 'f']
  | c =>
    if c.toNat < 0x20 then
      ['\\', 'u', '0', '0', Nat.digitChar (c.toNat / 16), Nat.digitChar (c.toNat % 16)]
    else [c]

def writeString (s : String) : List Char := '"' :: (s.toList.flatMap escapeChar ++ ['"'])

mutual
def write (number : ν → List Char) : Json ν → List Char
  | .null => "null".toList
  | .bool b => (if b then "true" else "false").toList
  | .number n => number n
  | .string s => writeString s
  | .array items => '[' :: (writeItems number items ++ [']'])
  | .object members => '\x7b' :: (writeMembers number members ++ ['\x7d'])
def writeItems (number : ν → List Char) : List (Json ν) → List Char
  | [] => []
  | [j] => write number j
  | j :: rest => write number j ++ ',' :: writeItems number rest
def writeMembers (number : ν → List Char) : List (String × Json ν) → List Char
  | [] => []
  | [(k, j)] => writeString k ++ ':' :: write number j
  | (k, j) :: rest => writeString k ++ ':' :: (write number j ++ ',' :: writeMembers number rest)
end

def text (number : ν → List Char) (j : Json ν) : String := String.ofList (j.write number)

end Assay.Json
