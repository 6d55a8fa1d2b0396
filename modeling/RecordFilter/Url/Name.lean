import RecordFilter.Unicode.Direction
import RecordFilter.Unicode.Joining
import RecordFilter.Unicode.Normalization
import RecordFilter.Url.PlainForm
import RecordFilter.Url.Punycode

set_option autoImplicit false

/-!
# Names of hosts

A name is made of labels with full stops between them. What a label stands for, its plain form or
the characters that it writes in code, has to start with a letter or sign that is no mark, to use
the two invisible joiners only where they matter, and, if any label of the name is written to the
left, to keep to one direction.
-/

namespace RecordFilter.Url

/-! ## Splitting -/

/-- The parts of a text between the places where a character stands. -/
def splitAt (separator : Char) : List Char → List Char × List (List Char)
  | [] => ([], [])
  | c :: rest =>
    let (part, parts) := splitAt separator rest
    if c = separator then ([], part :: parts) else (c :: part, parts)

/-- The parts of a text, the first included. -/
def parts (separator : Char) (text : List Char) : List (List Char) :=
  let (part, parts) := splitAt separator text
  part :: parts

/-! ## Characters -/

/-- The characters that no host contains. -/
def isForbiddenInHost (c : Char) : Bool :=
  c = '\x00' || c = '\t' || c = '\n' || c = '\r' || c = ' ' || c = '#' || c = '/' || c = ':' ||
    c = '<' || c = '>' || c = '?' || c = '@' || c = '[' || c = '\\' || c = ']' || c = '^' || c = '|'

/-- The characters that no name contains. -/
def isForbiddenInName (c : Char) : Bool :=
  isForbiddenInHost c || c.toNat < 0x20 || c = '%' || c.toNat = 0x7f

/-- Whether a character is of ASCII. -/
def isAscii (c : Char) : Bool := c.toNat < 128

/-! ## Joiners -/

/-- The joiner that keeps letters apart. -/
def nonJoiner : Char := '\u200c'

/-- The joiner that makes letters join. -/
def joiner : Char := '\u200d'

/-- The class of the marks that take the vowel from a letter. -/
def vowelKiller : Nat := 9

/-- Whether a character of a set comes first, once those over which joints pass are left out. -/
def meets (set : Unicode.CharSet) (text : List Char) : Bool :=
  (text.dropWhile Unicode.joiningThrough.contains).head?.any set.contains

/-- Whether joiners stand only where they matter: after a mark that takes the vowel from a letter,
and between letters that would join, to keep them apart. What comes before is given backward. -/
def joinersFit : List Char → List Char → Bool
  | _, [] => true
  | before, c :: rest =>
    (if c = joiner ∨ c = nonJoiner then
      before.head?.any (fun mark => Unicode.combiningClass mark = vowelKiller) ||
        (c = nonJoiner && meets Unicode.joiningNext before && meets Unicode.joiningPrevious rest)
    else true) && joinersFit (c :: before) rest

/-! ## Directions -/

/-- Whether a label has something that is written to the left. -/
def turnsLeft (label : List Char) : Bool :=
  label.any fun c => Unicode.direction c = .left || Unicode.direction c = .arabicDigit

/-- Whether a label that starts with a letter of the given direction keeps to it. The directions of
the other characters are given backward, without the marks at the end. -/
def keepsDirection (first : Unicode.Direction) (others : List Unicode.Direction) : Bool :=
  match first with
  | .right =>
    others.head?.all (fun last => last = .right || last = .digit) &&
      others.all fun other => other ≠ .left && other ≠ .arabicDigit
  | .left =>
    others.head?.all (fun last => last = .left || last = .digit || last = .arabicDigit) &&
      others.all (· ≠ .right) && !(others.contains .digit && others.contains .arabicDigit)
  | _ => false

/-- Whether a label keeps to one direction. -/
def directionsFit : List Char → Bool
  | [] => true
  | c :: rest =>
    keepsDirection (Unicode.direction c)
      ((rest.map Unicode.direction).reverse.dropWhile (· = .mark))

/-! ## Labels -/

/-- Characters beyond ASCII that a label may stand for, and characters that a label may write in
code. -/
def labelLimit : Nat := 1000

@[inherit_doc labelLimit]
def codeLimit : Nat := 2000

/-- What a label stands for: itself, or what it writes in code, which has to be in plain form. -/
def Label.content? : List Char → Option (List Char)
  | 'x' :: 'n' :: '-' :: '-' :: code =>
    if code.all isAscii && code.length ≤ codeLimit && code.getLast?.any (· ≠ '-') then
      (Punycode.decode? code).filter fun content =>
        content.all (fun c => isAscii c || keptChars.contains c) && Unicode.isComposed content
    else none
  | label => some label

/-- Whether what a label stands for is well formed. -/
def Label.isWellFormed (content : List Char) : Bool :=
  !content.head?.any Unicode.Current.marks.contains && joinersFit [] content &&
    (content.all isAscii || content.length ≤ labelLimit)

/-- The labels of a name in plain form. -/
def labels (name : List Char) : List (List Char) :=
  (parts '.' (name.flatMap plainForm)).map Unicode.compose

/-- Whether a text is a name. -/
def isName (name : List Char) : Bool :=
  name.all (fun c => isAscii c || acceptedChars.contains c) &&
    (labels name).all (fun label => !label.any isForbiddenInName) &&
      match (labels name).mapM Label.content? with
      | some contents =>
        contents.all Label.isWellFormed && (!contents.any turnsLeft || contents.all directionsFit)
      | none => false

end RecordFilter.Url
