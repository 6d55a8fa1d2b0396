import RecordFilter.Unicode.Property

set_option autoImplicit false

/-!
# The current properties

Patterns go by Unicode 16.0, all else by Unicode 17.0. The sets here add to those of the older
version the characters that the newer one brought; nothing else differs in these properties.

Single characters of ASCII are told apart without the sets.
-/

namespace RecordFilter.Unicode.Current

/-! ## New characters -/

/-- The new characters. -/
def newPrintable : CharSet := .ofText
  "88f c5c cdc 1acf-1add 1ae0-1aeb 20c1 2b96 a7ce-a7cf a7d2 a7d4 a7f1 fbc3-fbd2 fd90-fd91 fdc8-fdce
   10940-10959 10ec5-10ec7 10ed0-10ed8 10efa-10efb 11b60-11b67 11db0-11ddb 11de0-11de9 16ea0-16eb8
   16ebb-16ed3 16ff2-16ff6 187f8-187ff 18d09-18d1e 18d80-18df2 1ccfa-1ccfc 1ceba-1ced0 1cee0-1cef0
   1e6c0-1e6de 1e6e0-1e6f5 1e6fe-1e6ff 1f6d8 1f777-1f77a 1f8d0-1f8d8 1fa54-1fa57 1fa8a 1fa8e 1fac8
   1facd 1faea 1faef 1fbfa 2b73a-2b73f 2cea2-2cead 323b0-33479"

/-- The new alphabetic characters. -/
def newAlphabetic : CharSet := .ofText
  "88f c5c cdc a7ce-a7cf a7d2 a7d4 a7f1 10940-10959 10ec5-10ec7 10efa-10efb 11b60-11b67 11db0-11ddb
   16ea0-16eb8 16ebb-16ed3 16ff2-16ff6 187f8-187ff 18d09-18d1e 18d80-18df2 1e6c0-1e6de 1e6e0-1e6f5
   1e6fe-1e6ff 2b73a-2b73f 2cea2-2cead 323b0-33479"

/-- The new uppercase letters. -/
def newUppercase : CharSet := .ofText
  "a7ce a7d2 a7d4 16ea0-16eb8"

/-- The new numbers. -/
def newNumbers : CharSet := .ofText
  "11de0-11de9 16ff4-16ff6"

/-- The new characters that extend the preceding one, which are the new nonspacing marks. -/
def newGraphemeExtend : CharSet := .ofText
  "1acf-1add 1ae0-1aeb 10efa-10efb 11b60 11b62-11b64 11b66 1e6e3 1e6e6 1e6ee-1e6ef 1e6f5"

/-- The new characters that start identifiers. -/
def newIdStart : CharSet := .ofText
  "88f c5c cdc a7ce-a7cf a7d2 a7d4 a7f1 10940-10959 10ec5-10ec7 11db0-11ddb 16ea0-16eb8 16ebb-16ed3
   16ff2-16ff6 187f8-187ff 18d09-18d1e 18d80-18df2 1e6c0-1e6de 1e6e0-1e6e2 1e6e4-1e6e5 1e6e7-1e6ed
   1e6f0-1e6f4 1e6fe-1e6ff 2b73a-2b73f 2cea2-2cead 323b0-33479"

/-- The new characters that continue identifiers. -/
def newIdContinue : CharSet := .ofText
  "88f c5c cdc 1acf-1add 1ae0-1aeb a7ce-a7cf a7d2 a7d4 a7f1 10940-10959 10ec5-10ec7 10efa-10efb
   11b60-11b67 11db0-11ddb 11de0-11de9 16ea0-16eb8 16ebb-16ed3 16ff2-16ff6 187f8-187ff 18d09-18d1e
   18d80-18df2 1e6c0-1e6de 1e6e0-1e6f5 1e6fe-1e6ff 2b73a-2b73f 2cea2-2cead 323b0-33479"

/-! ## Properties -/

/-- Letters, letter numbers and further characters, most of them vowel signs. -/
def alphabetic : CharSet := Unicode.alphabetic.union newAlphabetic

/-- Alphabetic characters and numbers of every kind. -/
def alphanumeric : CharSet := .unions [alphabetic, numbers, newNumbers]

/-- Uppercase letters and characters used like them. -/
def uppercaseChars : CharSet := Unicode.uppercaseChars.union newUppercase

/-- Characters that join the preceding one into one unit. -/
def graphemeExtend : CharSet := Unicode.graphemeExtend.union newGraphemeExtend

/-- Marks of all kinds. -/
def marks : CharSet := .unions [Unicode.marks, newGraphemeExtend, .ofText "11b61 11b65 11b67"]

/-- Characters that stand for something visible, the blank included. -/
def printable : CharSet := Unicode.printable.union newPrintable

/-- Characters that start identifiers and still do once normalized. -/
def closedIdStart : CharSet := Unicode.closedIdStart.union newIdStart

/-- Characters that continue identifiers and still do once normalized. -/
def closedIdContinue : CharSet := Unicode.closedIdContinue.union newIdContinue

/-! ## Characters -/

/-- Whether a character is an uppercase letter or used like one. -/
def isUppercase (c : Char) : Bool :=
  if c.toNat < 0x80 then c.isUpper else uppercaseChars.contains c

/-- Whether a character can start an identifier. -/
def startsIdentifier (c : Char) : Bool :=
  if c.toNat < 0x80 then c.isAlpha || c = '_' else closedIdStart.contains c

/-- Whether a character can stand in an identifier behind its first. -/
def continuesIdentifier (c : Char) : Bool :=
  if c.toNat < 0x80 then c.isAlphanum || c = '_' else closedIdContinue.contains c

end RecordFilter.Unicode.Current
