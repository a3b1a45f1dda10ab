import SbomGate.Text.Unprintable
/-!
# SbomGate.Text.Quoted

A text **in double quotes**, as messages show it: the quote, the backslash
and the common controls are escaped by a letter, unprintable characters by
their code point in braces, and everything else stands for itself.
-/

namespace SbomGate.Text

/-- A character by its code point, as in `\u{301}`. -/
def codePoint (c : Char) : List Char :=
  '\\' :: 'u' :: '\x7b' :: (Nat.toDigits 16 c.toNat ++ ['\x7d'])

/-- A character between quotes, escaped unless it can be printed. -/
def quoteChar (c : Char) : List Char :=
  if c = '\x00' then ['\\', '0']
  else if c = '\t' then ['\\', 't']
  else if c = '\r' then ['\\', 'r']
  else if c = '\n' then ['\\', 'n']
  else if c = '\\' then ['\\', '\\']
  else if c = '"' then ['\\', '"']
  else if isUnprintable c then codePoint c
  else [c]

/-- A text in quotes, as messages show it. -/
def quoted (s : String) : String :=
  String.ofList ('"' :: (s.toList.flatMap quoteChar ++ ['"']))

end SbomGate.Text
