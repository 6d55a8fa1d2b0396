set_option autoImplicit false

/-!
# Tables over the character codes

A `RunTable` assigns a value to every code from its first start on: the value of the last run
that starts at or before the code. Tables are written as text, one word for each run.
-/

namespace RecordFilter.Unicode

/-- Runs of codes with one value each, by increasing start. -/
structure RunTable (α : Type) where
  starts : Array Nat
  values : Array α

namespace RunTable

/-- The greatest position from `low` below `high` whose start is at most `c`, or `low`. -/
def position (starts : Array Nat) (c low high : Nat) : Nat :=
  if low + 1 < high then
    let middle := (low + high) / 2
    if starts.getD middle 0 ≤ c then position starts c middle high
    else position starts c low middle
  else low
termination_by high - low

/-- The value of the code `c`. -/
def find? {α : Type} (table : RunTable α) (c : Nat) : Option α :=
  table.values[position table.starts c 0 table.starts.size]?

/-- The value of a hexadecimal digit. -/
def hexDigit (c : Char) : Nat :=
  if c.isDigit then c.toNat - '0'.toNat else c.toNat - 'a'.toNat + 10

/-- Whether a character is a hexadecimal digit in lower case. -/
def isHexDigit (c : Char) : Bool := c.isDigit || ('a' ≤ c && c ≤ 'f')

/-- The number written in hexadecimal digits. -/
def hexNumber (digits : List Char) : Nat := digits.foldl (fun n c => 16 * n + hexDigit c) 0

/-- The first word of a text, which may be empty, and the others. -/
def splitWords : List Char → List Char × List (List Char)
  | [] => ([], [])
  | c :: rest =>
    let (word, others) := splitWords rest
    if c.isWhitespace then ([], word :: others) else (c :: word, others)

/-- The words of a text. -/
def words (text : String) : List (List Char) :=
  let (first, others) := splitWords text.toList
  (first :: others).filter fun word => !word.isEmpty

/-- The table written as words of a start in hexadecimal and the code of a value, which begins
with a capital letter. -/
def ofText {α : Type} (decode : String → α) (text : String) : RunTable α :=
  let runs := (words text).map fun word =>
    (hexNumber (word.takeWhile isHexDigit), decode (String.ofList (word.dropWhile isHexDigit)))
  ⟨(runs.map (·.1)).toArray, (runs.map (·.2)).toArray⟩

end RunTable

end RecordFilter.Unicode
