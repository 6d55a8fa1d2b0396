import RecordFilter.Unicode.Current

set_option autoImplicit false

/-!
# Quoted text

How messages show a text that was found where something else belongs: between quotes, with
escapes for what would not be visible.
-/

namespace RecordFilter.Text

/-- The escape of a character by its code. -/
def codeEscape (c : Char) : List Char :=
  ['\\', 'u', '\x7b'] ++ Nat.toDigits 16 c.toNat ++ ['\x7d']

/-- The characters that are written by their code: those that join the one before, the two wide
sound marks excepted, those that may be left out of sight and those without a visible form. -/
def codedChars : Unicode.CharSet :=
  .unions [Unicode.Current.graphemeExtend.difference (.range '\uff9e' '\uff9f'),
    Unicode.defaultIgnorable, Unicode.Current.printable.complement]

/-- The written form of a character between quotes. -/
def escape (c : Char) : List Char :=
  if c = '\x00' then ['\\', '0']
  else if c = '\t' then ['\\', 't']
  else if c = '\n' then ['\\', 'n']
  else if c = '\r' then ['\\', 'r']
  else if c = '"' then ['\\', '"']
  else if c = '\\' then ['\\', '\\']
  else if codedChars.contains c then codeEscape c
  else [c]

/-- The text between quotes. -/
def quoted (s : String) : String := String.ofList ('"' :: s.toList.flatMap escape ++ ['"'])

end RecordFilter.Text
