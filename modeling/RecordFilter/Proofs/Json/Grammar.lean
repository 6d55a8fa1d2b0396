import RecordFilter.Json.Source

set_option autoImplicit false

/-!
# The grammar of texts

What a JSON text is, said without a reader. `Grammar.Value tree text` holds if `text` is one way to
write `tree`, from its first character to its last; `Grammar.Document` allows blanks around it. The
trees of texts have no faults, and a string is written only if its surrogate escapes pair up.
-/

namespace RecordFilter.Grammar

open Source

variable {α : Type}

/-! ## Words, numbers and strings -/

/-- Blanks, or nothing. -/
def Blanks (text : List Char) : Prop := ∀ c ∈ text, isBlank c = true

theorem blanks_nil : Blanks [] := List.forall_mem_nil _

/-- One or more digits. -/
def Digits (text : List Char) : Prop := text ≠ [] ∧ ∀ c ∈ text, c.isDigit = true

/-- A fraction, if there is one. -/
inductive Fraction : Option (List Char) → List Char → Prop where
  | absent : Fraction none []
  | present {digits : List Char} : Digits digits → Fraction (some digits) ('.' :: digits)

/-- The mark of an exponent. -/
def IsMark (c : Char) : Prop := c = 'e' ∨ c = 'E'

/-- An exponent, if there is one. -/
inductive Exponent : Option Int → List Char → Prop where
  | absent : Exponent none []
  | unsigned {mark : Char} {digits : List Char} : IsMark mark → Digits digits →
      Exponent (some (NumberLiteral.natural digits)) (mark :: digits)
  | plus {mark : Char} {digits : List Char} : IsMark mark → Digits digits →
      Exponent (some (NumberLiteral.natural digits)) (mark :: '+' :: digits)
  | minus {mark : Char} {digits : List Char} : IsMark mark → Digits digits →
      Exponent (some (-NumberLiteral.natural digits)) (mark :: '-' :: digits)

/-- What stands behind the sign of a number. No digit follows a zero in front. -/
inductive Magnitude (negative : Bool) : NumberLiteral → List Char → Prop where
  | parts {whole fractionText exponentText : List Char} {fraction : Option (List Char)}
      {exponent : Option Int} : Digits whole → (whole.head? = some '0' → whole.length = 1) →
      Fraction fraction fractionText → Exponent exponent exponentText →
      Magnitude negative ⟨negative, whole, fraction, exponent⟩
        (whole ++ (fractionText ++ exponentText))

/-- A number. -/
inductive Number : NumberLiteral → List Char → Prop where
  | plain {literal : NumberLiteral} {text : List Char} : Magnitude false literal text →
      Number literal text
  | minus {literal : NumberLiteral} {text : List Char} : Magnitude true literal text →
      Number literal ('-' :: text)

/-- The four digits of a code unit. -/
inductive CodeUnit : Nat → List Char → Prop where
  | digits {a b c d : Char} {i j k l : Nat} : hexDigit? a = some i → hexDigit? b = some j →
      hexDigit? c = some k → hexDigit? d = some l →
      CodeUnit (16 * (16 * (16 * i + j) + k) + l) [a, b, c, d]

/-- The first half of a surrogate pair. -/
def IsHigh (unit : Nat) : Prop := 0xD800 ≤ unit ∧ unit < 0xDC00

/-- The second half of a surrogate pair. -/
def IsLow (unit : Nat) : Prop := 0xDC00 ≤ unit ∧ unit < 0xE000

/-- A character inside a string. -/
inductive Character : Char → List Char → Prop where
  | itself {c : Char} : c ≠ '"' → c ≠ '\\' → 0x20 ≤ c.toNat → Character c [c]
  | letter {c letter : Char} : unescape? letter = some c → Character c ['\\', letter]
  | unit {unit : Nat} {digits : List Char} : CodeUnit unit digits → ¬IsHigh unit → ¬IsLow unit →
      Character (Char.ofNat unit) ('\\' :: 'u' :: digits)
  | pair {high low : Nat} {highDigits lowDigits : List Char} : CodeUnit high highDigits →
      IsHigh high → CodeUnit low lowDigits → IsLow low →
      Character (Char.ofNat (0x10000 + (high - 0xD800) * 0x400 + (low - 0xDC00)))
        ('\\' :: 'u' :: (highDigits ++ '\\' :: 'u' :: lowDigits))

/-- The characters of a string. -/
inductive Characters : List Char → List Char → Prop where
  | nil : Characters [] []
  | cons {c : Char} {cs written more : List Char} : Character c written → Characters cs more →
      Characters (c :: cs) (written ++ more)

/-- A string in its quotes. -/
inductive Text : String → List Char → Prop where
  | quoted {cs body : List Char} : Characters cs body →
      Text (String.ofList cs) ('"' :: (body ++ ['"']))

/-! ## Trees -/

/-- Entries behind the first, a comma before each. -/
inductive Following (Entry : α → List Char → Prop) : List α → List Char → Prop where
  | nil : Following Entry [] []
  | cons {entry : α} {entries : List α} {before text behind more : List Char} : Blanks before →
      Entry entry text → Blanks behind → Following Entry entries more →
      Following Entry (entry :: entries) (',' :: (before ++ (text ++ (behind ++ more))))

/-- Entries with commas between them. -/
inductive Listed (Entry : α → List Char → Prop) : List α → List Char → Prop where
  | empty {blanks : List Char} : Blanks blanks → Listed Entry [] blanks
  | cons {entry : α} {entries : List α} {before text behind more : List Char} : Blanks before →
      Entry entry text → Blanks behind → Following Entry entries more →
      Listed Entry (entry :: entries) (before ++ (text ++ (behind ++ more)))

/-- A member of an object. -/
inductive Member (Value : Source → List Char → Prop) : MemberName × Source → List Char → Prop where
  | named {key : String} {value : Source} {name behind before text : List Char} : Text key name →
      Blanks behind → Blanks before → Value value text →
      Member Value (.ok (some key), value) (name ++ (behind ++ ':' :: (before ++ text)))

/-- A value without blanks around it. -/
inductive Value : Source → List Char → Prop where
  | null : Value .null ['n', 'u', 'l', 'l']
  | yes : Value (.bool true) ['t', 'r', 'u', 'e']
  | no : Value (.bool false) ['f', 'a', 'l', 's', 'e']
  | number {literal : NumberLiteral} {text : List Char} : Number literal text →
      Value (.number literal) text
  | string {s : String} {text : List Char} : Text s text → Value (.string (some s)) text
  | array {items : List Source} {body : List Char} : Listed Value items body →
      Value (.array items none) ('[' :: (body ++ [']']))
  | object {members : List (MemberName × Source)} {body : List Char} :
      Listed (Member Value) members body →
        Value (.object members none) ('\x7b' :: (body ++ ['\x7d']))

/-- A whole text. -/
inductive Document : Source → List Char → Prop where
  | padded {tree : Source} {before text behind : List Char} : Blanks before → Value tree text →
      Blanks behind → Document tree (before ++ (text ++ behind))

/-! ## Where a value ends -/

/-- What may stand behind a value: nothing, a blank, a comma or a closing bracket. -/
def Stops (rest : List Char) : Prop :=
  ∀ c tail, rest = c :: tail → isBlank c = true ∨ c = ',' ∨ c = ']' ∨ c = '\x7d'

theorem stops_nil : Stops [] := by
  rintro c tail ⟨⟩

theorem stops_cons {c : Char} (tail : List Char)
    (stop : isBlank c = true ∨ c = ',' ∨ c = ']' ∨ c = '\x7d') : Stops (c :: tail) := by
  rintro d tail' ⟨⟩
  exact stop

theorem Stops.blanks {blanks rest : List Char} (blank : Blanks blanks) (stops : Stops rest) :
    Stops (blanks ++ rest) := by
  cases blanks with
  | nil => exact stops
  | cons c tail => exact stops_cons _ (.inl (blank c (.head _)))

/-- No character that ends a value continues a number. -/
theorem Stops.head {c : Char} {tail : List Char} (stops : Stops (c :: tail)) :
    c.isDigit = false ∧ c ≠ '.' ∧ ¬IsMark c := by
  have blank_or :
      (((c = ' ' ∨ c = '\n') ∨ c = '\t') ∨ c = '\r') ∨ c = ',' ∨ c = ']' ∨ c = '\x7d' := by
    simpa [isBlank] using stops c tail rfl
  rcases blank_or with (((rfl | rfl) | rfl) | rfl) | rfl | rfl | rfl
  all_goals exact ⟨rfl, by decide, by rintro (mark | mark) <;> cases mark⟩

end RecordFilter.Grammar
