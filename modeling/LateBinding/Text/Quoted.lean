import LateBinding.Text.Printable

/-!
# Quoted text

A text in double quotes, written so that every character can be seen: quotes and backslashes are
marked by a backslash, some controls have a letter, and whatever has no written form of its own is
given by its code in hexadecimal digits.
-/

namespace LateBinding.Text

/-- The code of a character in braces. -/
def codeEscape (c : Char) : List Char :=
  '\\' :: 'u' :: '\x7b' :: Nat.toDigits 16 c.toNat ++ ['\x7d']

/-- One character inside quotes. -/
def quotedChar (c : Char) : List Char :=
  if c == '\x00' then ['\\', '0']
  else if c == '\t' then ['\\', 't']
  else if c == '\r' then ['\\', 'r']
  else if c == '\n' then ['\\', 'n']
  else if c == '"' || c == '\\' then ['\\', c]
  else if isExtending c || !isPrintable c then codeEscape c
  else [c]

/-- A text in quotes. -/
def quoted (s : String) : String :=
  String.ofList ('"' :: s.toList.flatMap quotedChar ++ ['"'])

end LateBinding.Text
