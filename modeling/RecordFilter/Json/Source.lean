import RecordFilter.Json.NumberLiteral

set_option autoImplicit false

/-!
# Source trees

A `Source` is what a JSON text says before anyone asks for a document: members in the order of
the text, repeated names included, numbers as literals. Reading never fails; where the text stops
being JSON the tree ends with a `Fault`, and nothing after that place is in the tree. Whoever
walks the tree in order meets the parts of the text front to back and the fault last.

A value that is read and a value that is only skipped are not held to the same rules: skipping
does not look at nesting, at the size of numbers or at how surrogate escapes pair up. `Source.skip`
is the second, `Source.toJson` in the module of the reader the first.
-/

namespace RecordFilter

/-- What ends a text that is not JSON: its end, or a character that cannot follow. -/
inductive Breakage where
  | truncated
  | malformed
deriving DecidableEq

/-- Where and how a text stops being JSON. -/
inductive Fault where
  /-- The text ends where something has to follow. -/
  | missing
  /-- The text ends inside a word. -/
  | cutWord
  /-- The text ends inside a string; `unpaired` if a surrogate escape before has no partner. -/
  | cutText (unpaired : Bool)
  /-- The text ends inside a number. -/
  | cutNumber
  /-- A character that cannot follow. -/
  | malformed
deriving DecidableEq

namespace Fault

/-- What a fault is to one who reads the value. -/
def whenRead : Fault → Breakage
  | .missing | .cutWord | .cutNumber | .cutText false => .truncated
  | .cutText true | .malformed => .malformed

/-- What a fault is to one who skips the value. -/
def whenSkipped : Fault → Breakage
  | .missing | .cutWord | .cutText _ => .truncated
  | .cutNumber | .malformed => .malformed

end Fault

/-- The name of a member, absent where a surrogate escape has no partner, or the fault in its place.
Nothing but a string can be a name. -/
abbrev MemberName := Except Fault (Option String)

/-- A JSON text as a tree. A string is absent where a surrogate escape has no partner; arrays and
objects end with the fault that kept them from being closed, if one did. -/
inductive Source where
  | null
  | bool (value : Bool)
  | number (literal : NumberLiteral)
  | string (content : Option String)
  | array (items : List Source) (stop : Option Fault)
  | object (members : List (MemberName × Source)) (stop : Option Fault)
  | broken (fault : Fault)

namespace Source

/-! ## Words and numbers -/

/-- The blanks of JSON. -/
def isBlank (c : Char) : Bool := c = ' ' || c = '\n' || c = '\t' || c = '\r'

/-- A text without the blanks it starts with. -/
def skipBlanks (text : List Char) : List Char := text.dropWhile isBlank

/-- The text after a word. -/
def readWord : List Char → List Char → Except Fault (List Char)
  | [], text => .ok text
  | _ :: _, [] => .error .cutWord
  | w :: word, c :: text => if w = c then readWord word text else .error .malformed

/-- One or more digits. -/
def readDigits (text : List Char) : Except Fault (List Char × List Char) :=
  let digits := text.takeWhile Char.isDigit
  let rest := text.dropWhile Char.isDigit
  if digits.isEmpty then .error (if rest.isEmpty then .cutNumber else .malformed)
  else .ok (digits, rest)

/-- A fraction, if one follows. -/
def readFraction : List Char → Except Fault (Option (List Char) × List Char)
  | '.' :: text => (readDigits text).map fun (digits, rest) => (some digits, rest)
  | text => .ok (none, text)

/-- A sign, if one follows, and whether it is a minus. -/
def readSign : List Char → Bool × List Char
  | '+' :: text => (false, text)
  | '-' :: text => (true, text)
  | text => (false, text)

/-- An exponent, if one follows. -/
def readExponent (text : List Char) : Except Fault (Option Int × List Char) :=
  match text with
  | c :: rest =>
    if c = 'e' ∨ c = 'E' then
      let (negative, unsigned) := readSign rest
      (readDigits unsigned).map fun (digits, rest) =>
        let n : Int := NumberLiteral.natural digits
        (some (if negative then -n else n), rest)
    else .ok (none, text)
  | [] => .ok (none, text)

/-- The number after its sign. Only a zero by itself may start with zero. -/
def readNumber (negative : Bool) (text : List Char) :
    Except Fault (NumberLiteral × List Char) := do
  let (whole, rest) ← readDigits text
  if whole.head? = some '0' ∧ whole.length ≠ 1 then throw .malformed
  let (fraction, rest) ← readFraction rest
  let (exponent, rest) ← readExponent rest
  return (⟨negative, whole, fraction, exponent⟩, rest)

/-! ## Strings -/

/-- Where a reader stands inside a string. -/
inductive TextState where
  /-- Between characters. -/
  | plain
  /-- After a backslash. -/
  | escape
  /-- In an escape by number, with `left` digits to come after those of `value`. -/
  | hex (left value : Nat)

/-- The part of a string that has been read: its characters in reverse, the first half of a
surrogate pair that waits for the second, and whether all surrogates so far are in pairs. -/
structure TextSoFar where
  reversed : List Char
  pending : Option Nat
  paired : Bool

namespace TextSoFar

/-- Nothing read. -/
def start : TextSoFar := ⟨[], none, true⟩

/-- A character follows. -/
def push (soFar : TextSoFar) (c : Char) : TextSoFar :=
  ⟨c :: soFar.reversed, none, soFar.paired && soFar.pending.isNone⟩

/-- An escape with the code unit `unit` follows. -/
def pushUnit (soFar : TextSoFar) (unit : Nat) : TextSoFar :=
  match soFar.pending with
  | some high =>
    if 0xDC00 ≤ unit ∧ unit < 0xE000 then
      ⟨Char.ofNat (0x10000 + (high - 0xD800) * 0x400 + (unit - 0xDC00)) :: soFar.reversed, none,
        soFar.paired⟩
    else { soFar with pending := none, paired := false }
  | none =>
    if 0xD800 ≤ unit ∧ unit < 0xDC00 then { soFar with pending := some unit }
    else if 0xDC00 ≤ unit ∧ unit < 0xE000 then { soFar with paired := false }
    else { soFar with reversed := Char.ofNat unit :: soFar.reversed }

/-- The string, absent if a surrogate has no partner. -/
def content (soFar : TextSoFar) : Option String :=
  if soFar.paired && soFar.pending.isNone then some (String.ofList soFar.reversed.reverse) else none

end TextSoFar

/-- The value of a hexadecimal digit in either case. -/
def hexDigit? (c : Char) : Option Nat :=
  if c.isDigit then some (c.toNat - '0'.toNat)
  else if 'a' ≤ c ∧ c ≤ 'f' then some (c.toNat - 'a'.toNat + 10)
  else if 'A' ≤ c ∧ c ≤ 'F' then some (c.toNat - 'A'.toNat + 10)
  else none

/-- The character that a one-letter escape stands for. -/
def unescape? (c : Char) : Option Char :=
  if c = '"' ∨ c = '\\' ∨ c = '/' then some c
  else if c = 'b' then some '\x08'
  else if c = 'f' then some '\x0c'
  else if c = 'n' then some '\n'
  else if c = 'r' then some '\r'
  else if c = 't' then some '\t'
  else none

/-- The bytes that a text takes in UTF-8. -/
def byteLength (text : List Char) : Nat := text.foldr (fun c bytes => c.utf8Size + bytes) 0

/-- A string after its opening quote. The digits of an escape by number are taken four bytes at a
time, so a wrong digit is a fault of its own only if that many bytes are there. -/
def readText : TextState → TextSoFar → List Char → Except Fault (Option String × List Char)
  | _, soFar, [] => .error (.cutText !soFar.paired)
  | .plain, soFar, c :: rest =>
    if c = '"' then .ok (soFar.content, rest)
    else if c = '\\' then readText .escape soFar rest
    else if c.toNat < 0x20 then .error .malformed
    else readText .plain (soFar.push c) rest
  | .escape, soFar, c :: rest =>
    if c = 'u' then readText (.hex 4 0) soFar rest
    else match unescape? c with
      | some d => readText .plain (soFar.push d) rest
      | none => .error .malformed
  | .hex left value, soFar, c :: rest =>
    match hexDigit? c with
    | some d =>
      if left = 1 then readText .plain (soFar.pushUnit (16 * value + d)) rest
      else readText (.hex (left - 1) (16 * value + d)) soFar rest
    | none =>
      .error (if left ≤ byteLength (c :: rest) then .malformed else .cutText !soFar.paired)

/-! ## Trees -/

/-- A tree and the text after it; no text is left after a fault. -/
abbrev Reading := Source × Option (List Char)

/-- The value after a word. -/
def afterWord (value : Source) (word text : List Char) : Reading :=
  match readWord word text with
  | .ok rest => (value, some rest)
  | .error fault => (.broken fault, none)

/-- The number after its sign, as a tree. -/
def afterSign (negative : Bool) (text : List Char) : Reading :=
  match readNumber negative text with
  | .ok (literal, rest) => (.number literal, some rest)
  | .error fault => (.broken fault, none)

/-- The name of a member and the text after it; no text is left after a fault. -/
def readName (text : List Char) : MemberName × Option (List Char) :=
  match skipBlanks text with
  | [] => (.error .missing, none)
  | c :: rest =>
    if c = '"' then
      match readText .plain .start rest with
      | .ok (content, rest) => (.ok content, some rest)
      | .error fault => (.error fault, none)
    else (.error .malformed, none)

mutual

/-- The tree of the value that a text starts with. The first argument bounds the characters
looked at, counting those looked at twice. -/
def read : Nat → List Char → Reading
  | 0, _ => (.broken .malformed, none)
  | fuel + 1, text =>
    match skipBlanks text with
    | [] => (.broken .missing, none)
    | c :: rest =>
      if c = '"' then
        match readText .plain .start rest with
        | .ok (content, rest) => (.string content, some rest)
        | .error fault => (.broken fault, none)
      else if c = '[' then
        let (items, stop, rest) := readItems fuel true rest
        (.array items stop, rest)
      else if c = '\x7b' then
        let (members, stop, rest) := readMembers fuel true rest
        (.object members stop, rest)
      else if c = 'n' then afterWord .null ['u', 'l', 'l'] rest
      else if c = 't' then afterWord (.bool true) ['r', 'u', 'e'] rest
      else if c = 'f' then afterWord (.bool false) ['a', 'l', 's', 'e'] rest
      else if c = '-' then afterSign true rest
      else if c.isDigit then afterSign false (c :: rest)
      else (.broken .malformed, none)

/-- The items up to the closing bracket; a comma comes before each but the first. -/
def readItems : Nat → Bool → List Char → List Source × Option Fault × Option (List Char)
  | 0, _, _ => ([], some .malformed, none)
  | fuel + 1, first, text =>
    match skipBlanks text with
    | [] => ([], some .missing, none)
    | c :: rest =>
      if c = ']' then ([], none, some rest)
      else if first ∨ c = ',' then
        match read fuel (if first then c :: rest else rest) with
        | (item, none) => ([item], some .malformed, none)
        | (item, some rest) =>
          let (items, stop, rest) := readItems fuel false rest
          (item :: items, stop, rest)
      else ([], some .malformed, none)

/-- The members up to the closing brace; a comma comes before each but the first. -/
def readMembers : Nat → Bool → List Char →
    List (MemberName × Source) × Option Fault × Option (List Char)
  | 0, _, _ => ([], some .malformed, none)
  | fuel + 1, first, text =>
    match skipBlanks text with
    | [] => ([], some .missing, none)
    | c :: rest =>
      if c = '\x7d' then ([], none, some rest)
      else if first ∨ c = ',' then
        match readName (if first then c :: rest else rest) with
        | (name, none) => ([(name, .broken .malformed)], some .malformed, none)
        | (name, some rest) =>
          match skipBlanks rest with
          | ':' :: rest =>
            match read fuel rest with
            | (value, none) => ([(name, value)], some .malformed, none)
            | (value, some rest) =>
              let (members, stop, rest) := readMembers fuel false rest
              ((name, value) :: members, stop, rest)
          | [] => ([(name, .broken .missing)], some .malformed, none)
          | _ :: _ => ([(name, .broken .malformed)], some .malformed, none)
      else ([], some .malformed, none)

end

/-- The tree of a text, and the text after its value. -/
def ofText (text : String) : Reading := read (3 * text.toList.length + 1) text.toList

/-! ## Skipping -/

/-- The end of an array or object, skipped. -/
def skipStop : Option Fault → Except Breakage Unit
  | none => .ok ()
  | some fault => .error fault.whenSkipped

/-- Passes over the name of a member. -/
def skipName : MemberName → Except Breakage Unit
  | .ok _ => .ok ()
  | .error fault => .error fault.whenSkipped

mutual

/-- Passes over a value, failing only where the text stops being JSON. -/
def skip : Source → Except Breakage Unit
  | .broken fault => .error fault.whenSkipped
  | .array items stop => do skipItems items; skipStop stop
  | .object members stop => do skipMembers members; skipStop stop
  | _ => .ok ()

/-- Passes over the items of an array. -/
def skipItems : List Source → Except Breakage Unit
  | [] => .ok ()
  | x :: xs => do skip x; skipItems xs

/-- Passes over the members of an object. -/
def skipMembers : List (MemberName × Source) → Except Breakage Unit
  | [] => .ok ()
  | (name, x) :: xs => do skipName name; skip x; skipMembers xs

end

end Source

end RecordFilter
