import RecordFilter.Unicode.CaseMap
import RecordFilter.Unicode.Property

set_option autoImplicit false

/-!
# Named sets of characters

The sets that a letter after a backslash or a name in brackets and colons stands for. The letters
stand for characters of all scripts or of ASCII only, the names always for characters of ASCII.
-/

namespace RecordFilter.Regex

open Unicode (CharSet)

namespace NamedSet

/-- The decimal digits of all scripts. -/
def digit : CharSet := Unicode.withCategories [.decimalNumber]

/-- The decimal digits of ASCII. -/
def asciiDigit : CharSet := .range '0' '9'

/-- The blank characters of ASCII. -/
def asciiSpace : CharSet := .ofRanges [('\t', '\r'), (' ', ' ')]

/-- The word characters of ASCII. -/
def asciiWord : CharSet := .ofRanges [('0', '9'), ('A', 'Z'), ('_', '_'), ('a', 'z')]

/-- The word characters of all scripts, or of ASCII. -/
def word (unicode : Bool) : CharSet := if unicode then Unicode.wordChars else asciiWord

/-- The named sets of ASCII characters. -/
def ascii : List (String × List (Char × Char)) :=
  [("alnum", [('0', '9'), ('A', 'Z'), ('a', 'z')]),
   ("alpha", [('A', 'Z'), ('a', 'z')]),
   ("ascii", [('\x00', '\x7f')]),
   ("blank", [('\t', '\t'), (' ', ' ')]),
   ("cntrl", [('\x00', '\x1f'), ('\x7f', '\x7f')]),
   ("digit", [('0', '9')]),
   ("graph", [('!', '~')]),
   ("lower", [('a', 'z')]),
   ("print", [(' ', '~')]),
   ("punct", [('!', '/'), (':', '@'), ('[', '\x60'), ('\x7b', '~')]),
   ("space", [('\t', '\r'), (' ', ' ')]),
   ("upper", [('A', 'Z')]),
   ("word", [('0', '9'), ('A', 'Z'), ('_', '_'), ('a', 'z')]),
   ("xdigit", [('0', '9'), ('A', 'F'), ('a', 'f')])]

/-- The ASCII set with the given name. -/
def ascii? (name : String) : Option CharSet := (ascii.lookup name).map .ofRanges

end NamedSet

end RecordFilter.Regex
