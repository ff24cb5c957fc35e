import MiniPascal.Character.Printable

/-!
# Quoted text

`Quoted.text` puts a text between double quotes so that every character of it is visible: quotes
and backslashes are escaped, the usual control characters have names, and whatever cannot be shown
on its own is given by its code point.
-/

namespace MiniPascal.Quoted

/-- The escape `\u` with the code point of `c` in braces, in lower-case hexadecimal. -/
def codePoint (c : Char) : List Char :=
  ['\\', 'u', '\x7b'] ++ Nat.toDigits 16 c.toNat ++ ['\x7d']

/-- How a character is written inside quotes. -/
def escape (c : Char) : List Char :=
  if c = '\x00' then ['\\', '0']
  else if c = '\t' then ['\\', 't']
  else if c = '\n' then ['\\', 'n']
  else if c = '\r' then ['\\', 'r']
  else if c = '"' ∨ c = '\\' then ['\\', c]
  else if Character.extendsGrapheme c || !Character.isPrintable c then codePoint c
  else [c]

/-- The text between double quotes, every character written by `escape`. -/
def text (s : String) : String :=
  String.ofList ('"' :: s.toList.flatMap escape ++ ['"'])

end MiniPascal.Quoted
