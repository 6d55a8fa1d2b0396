import RecordFilter.Regex.NamedSet
import RecordFilter.Regex.Tree
import RecordFilter.Unicode.Current

set_option autoImplicit false

/-!
# Reading patterns

`Tree.parse?` reads the text of a pattern. There is no look-around and no reference back to a
group. Where the flag for it is on, blanks and comments between the parts of a pattern are passed
over; the reader follows this flag itself, all others are left to those who use the tree.
-/

namespace RecordFilter.Regex

/-- A reader's state: the text to come, whether blanks and comments are passed over, the number of
groups so far, and their names. -/
structure ReaderState where
  rest : List Char
  ignoreBlanks : Bool
  groups : Nat
  names : List (List Char)

/-- Readers of parts of a pattern; a pattern that is not well formed has no reading. -/
abbrev Reader (α : Type) := StateT ReaderState Option α

namespace Reader

/-! ## Characters -/

/-- A text without the blanks and comments it starts with. -/
def afterBlanks (inComment : Bool) : List Char → List Char
  | [] => []
  | c :: rest =>
    if inComment then afterBlanks (c ≠ '\n') rest
    else if Unicode.whiteSpace.contains c then afterBlanks false rest
    else if c = '#' then afterBlanks true rest
    else c :: rest

/-- The next character. -/
def peek : Reader (Option Char) := return (← get).rest.head?

/-- Whether the text to come starts with the given characters, which are passed over if so. -/
def accept (expected : List Char) : Reader Bool := do
  let state ← get
  if expected.isPrefixOf state.rest then
    set { state with rest := state.rest.drop expected.length }
    return true
  else return false

/-- Passes over one character. -/
def advance : Reader Unit := modify fun state => { state with rest := state.rest.tail }

/-- Passes over blanks and comments where they mean nothing. -/
def blanks : Reader Unit := modify fun state =>
  if state.ignoreBlanks then { state with rest := afterBlanks false state.rest } else state

/-- Passes over one character and what blanks follow. -/
def advanceOver : Reader Unit := do advance; blanks

/-- The next character, which has to be there. -/
def demand : Reader Char := do
  match ← peek with
  | some c => return c
  | none => failure

/-- Passes over the given character, which has to be there, and what blanks follow. -/
def expectOver (c : Char) : Reader Unit := do
  if (← peek) = some c then advanceOver else failure

/-- The character after the next one and the blanks between, where a comment counts as its first
character. -/
def second : Reader (Option Char) := do
  let state ← get
  let after := state.rest.tail
  if state.ignoreBlanks then
    match after.dropWhile Unicode.whiteSpace.contains with
    | '#' :: comment => return (comment.dropWhile Unicode.whiteSpace.contains).head?.or after.head?
    | c :: _ => return some c
    | [] => return after.head?
  else return after.head?

/-- The characters that satisfy `accepts`, with the blanks between them passed over; at most as
many as the first argument says. -/
def charsUpTo (accepts : Char → Bool) : Nat → Reader (List Char)
  | 0 => return []
  | bound + 1 => do
    match ← peek with
    | some c =>
      if accepts c then
        advanceOver
        return c :: (← charsUpTo accepts bound)
      else return []
    | none => return []

/-- All next characters that satisfy `accepts`. -/
def chars (accepts : Char → Bool) : Reader (List Char) := do
  charsUpTo accepts (← get).rest.length

/-! ## Escapes -/

/-- Whether a character is a hexadecimal digit. -/
def isHexDigit (c : Char) : Bool := c.isDigit || ('a' ≤ c && c ≤ 'f') || ('A' ≤ c && c ≤ 'F')

/-- The number that hexadecimal digits spell. -/
def hexNumber (digits : List Char) : Nat :=
  Unicode.RunTable.hexNumber (digits.map Char.toLower)

/-- The character with the code that hexadecimal digits spell. -/
def charOfHex (digits : List Char) : Reader Char :=
  let n := hexNumber digits
  if !digits.isEmpty && n.isValidChar then return Char.ofNat n else failure

/-- Exactly `count` hexadecimal digits. -/
def hexDigits : Nat → Reader (List Char)
  | 0 => return []
  | count + 1 => do
    let c ← demand
    if isHexDigit c then
      advanceOver
      return c :: (← hexDigits count)
    else failure

/-- The rest of an escape by number, from the letter that says how many digits it has without
braces. -/
def hexEscape (count : Nat) : Reader Literal := do
  advanceOver
  if (← demand) = '\x7b' then
    advanceOver
    let digits ← chars isHexDigit
    expectOver '\x7d'
    return ⟨← charOfHex digits, false⟩
  else
    let digits ← hexDigits count
    return ⟨← charOfHex digits, count = 2⟩

/-- The parts of a text before and after the first place where `separator` stands. -/
def cut? (separator : List Char) : List Char → Option (List Char × List Char)
  | [] => none
  | c :: rest =>
    if separator.isPrefixOf (c :: rest) then some ([], (c :: rest).drop separator.length)
    else (cut? separator rest).map fun (before, after) => (c :: before, after)

/-- What the text between the braces of a property asks for. -/
def propertyQuery (text : List Char) : PropertyQuery :=
  match cut? ['!', '='] text, (cut? [':'] text).or (cut? ['='] text) with
  | some (property, value), _ => .valued (String.ofList property) (String.ofList value) true
  | none, some (property, value) => .valued (String.ofList property) (String.ofList value) false
  | none, none => .named (String.ofList text)

/-- The rest of a property escape, from its letter. -/
def propertyEscape (negated : Bool) : Reader SetTree := do
  advanceOver
  let c ← demand
  if c = '\x7b' then
    advanceOver
    let text ← chars (· ≠ '\x7d')
    if (← peek) = some '\x7d' then advance else failure
    return .property (propertyQuery text) negated
  else if c = '\\' then failure
  else
    advanceOver
    return .property (.named (String.singleton c)) negated

/-- The kind of word boundary with the given name. -/
def wordBoundary? (name : String) : Option Assertion :=
  if name = "start" then some .wordStart
  else if name = "end" then some .wordEnd
  else if name = "start-half" then some .wordStartHalf
  else if name = "end-half" then some .wordEndHalf
  else none

/-- The kind of a word boundary after its letter. Braces that cannot name a kind are left to be
read as a repetition. -/
def boundaryKind : Reader Assertion := do
  if (← peek) ≠ some '\x7b' then return .wordBoundary
  let before ← get
  let isNameChar (c : Char) : Bool := c.isAlpha || c = '-'
  advanceOver
  if isNameChar (← demand) then
    let name ← chars isNameChar
    if (← peek) = some '\x7d' then advance else failure
    match wordBoundary? (String.ofList name) with
    | some kind => return kind
    | none => failure
  else
    set before
    return .wordBoundary

/-- What a part of a pattern without parts of its own stands for. -/
inductive Item where
  | literal (value : Literal)
  | anyChar
  | assertion (kind : Assertion)
  | set (content : SetTree)

/-- The characters that a backslash takes their meaning from. -/
def isMeta (c : Char) : Bool := "\\.+*?()|[]\x7b\x7d^$#&-~".toList.contains c

/-- Whether a backslash before the character means the character itself. -/
def isEscapable (c : Char) : Bool :=
  isMeta c || (c.toNat < 128 && !c.isAlphanum && c ≠ '<' && c ≠ '>')

/-- The character that a letter after a backslash stands for. -/
def controlEscape? (c : Char) : Option Char :=
  if c = 'a' then some '\x07'
  else if c = 'f' then some '\x0c'
  else if c = 't' then some '\t'
  else if c = 'n' then some '\n'
  else if c = 'r' then some '\r'
  else if c = 'v' then some '\x0b'
  else none

/-- The set that a letter after a backslash stands for, and whether negated. -/
def letterClass? (c : Char) : Option (LetterClass × Bool) :=
  if c = 'd' then some (.digit, false)
  else if c = 'D' then some (.digit, true)
  else if c = 's' then some (.space, false)
  else if c = 'S' then some (.space, true)
  else if c = 'w' then some (.word, false)
  else if c = 'W' then some (.word, true)
  else none

/-- The condition that a letter or angle after a backslash stands for. -/
def assertionEscape? (c : Char) : Option Assertion :=
  if c = 'A' then some .textStart
  else if c = 'z' then some .textEnd
  else if c = 'B' then some .notWordBoundary
  else if c = '<' then some .wordStart
  else if c = '>' then some .wordEnd
  else none

/-- An escape after its backslash. -/
def escape : Reader Item := do
  let c ← demand
  if c = 'x' then return .literal (← hexEscape 2)
  if c = 'u' then return .literal (← hexEscape 4)
  if c = 'U' then return .literal (← hexEscape 8)
  if c = 'p' ∨ c = 'P' then return .set (← propertyEscape (c = 'P'))
  advance
  if let some (kind, negated) := letterClass? c then return .set (.letter kind negated)
  if isEscapable c then return .literal ⟨c, false⟩
  if let some d := controlEscape? c then return .literal ⟨d, false⟩
  if c = 'b' then return .assertion (← boundaryKind)
  if let some kind := assertionEscape? c then return .assertion kind
  failure

/-! ## Sets -/

/-- One item of a set: an escape, or a character that stands for itself. -/
def setItem : Reader Item := do
  let c ← demand
  advance
  if c = '\\' then escape else return .literal ⟨c, false⟩

/-- An item as a set; conditions have no place in sets. -/
def Item.toSet : Item → Reader SetTree
  | .literal value => return .literal value
  | .set content => return content
  | _ => failure

/-- An item as the end of a range. -/
def Item.toLiteral : Item → Reader Literal
  | .literal value => return value
  | _ => failure

/-- An item of a set, or a range of which it is the start. -/
def setRange : Reader SetTree := do
  let first ← setItem
  blanks
  let _ ← demand
  let next ← peek
  let afterNext ← second
  if next ≠ some '-' ∨ afterNext = some ']' ∨ afterNext = some '-' then first.toSet
  else
    advanceOver
    let last ← setItem
    let first ← first.toLiteral
    let last ← last.toLiteral
    if first.char ≤ last.char then return .range first last else failure

/-- A named ASCII set in brackets and colons, from its bracket. A text that has no such form is
left alone. -/
def asciiSet? : Reader (Option SetTree) := do
  let before ← get
  if !(← accept ['[', ':']) then return none
  let negated ← accept ['^']
  let state ← get
  let name := String.ofList (state.rest.takeWhile (· ≠ ':'))
  set { state with rest := state.rest.dropWhile (· ≠ ':') }
  if (← accept [':', ']']) && (NamedSet.ascii? name).isSome then
    return some (.ascii name negated)
  else
    set before
    return none

/-- The items of a set, in reverse, as one set. -/
def unionOf : List SetTree → SetTree
  | [] => .empty
  | [item] => item
  | items => .union items.reverse

/-- The set on the left of an operation combined with the one on the right of it. -/
def combine : Option (SetOperation × SetTree) → SetTree → SetTree
  | none, right => right
  | some (op, left), right => .operation op left right

/-- Hyphens at the start of a set, which stand for themselves, at most as many as the first
argument says. -/
def leadingHyphens : Nat → Reader (List SetTree)
  | 0 => return []
  | bound + 1 => do
    if (← demand) = '-' then
      advanceOver
      return .literal ⟨'-', false⟩ :: (← leadingHyphens bound)
    else return []

/-- The operation that a doubled character stands for. -/
def setOperations : List (List Char × SetOperation) :=
  [(['&', '&'], .intersection), (['-', '-'], .difference), (['~', '~'], .symmetricDifference)]

/-- The operation that comes next, passed over. -/
def setOperation? : Reader (Option SetOperation) := do
  let state ← get
  match setOperations.find? fun (sign, _) => sign.isPrefixOf state.rest with
  | some (_, op) =>
    advance
    advance
    return some op
  | none => return none

mutual

/-- A set in brackets, from its opening bracket. The first argument bounds the characters. -/
def bracketed : Nat → Reader SetTree
  | 0 => failure
  | fuel + 1 => do
    advanceOver
    let negated := (← demand) = '^'
    if negated then advanceOver
    let hyphens ← leadingHyphens fuel
    let c ← demand
    if hyphens.isEmpty && c = ']' then
      advanceOver
      let _ ← demand
      return .bracketed negated (← setItems fuel [.literal ⟨']', false⟩] none)
    else return .bracketed negated (← setItems fuel hyphens none)

/-- The items of a set up to its closing bracket, after those that were read already, in reverse,
and the side of an operation that stands before them. -/
def setItems : Nat → List SetTree → Option (SetOperation × SetTree) → Reader SetTree
  | 0, _, _ => failure
  | fuel + 1, items, left => do
    blanks
    let c ← demand
    if c = ']' then
      advance
      return combine left (unionOf items)
    if c = '[' then
      match ← asciiSet? with
      | some item => return ← setItems fuel (item :: items) left
      | none =>
        let item ← bracketed fuel
        return ← setItems fuel (item :: items) left
    match ← setOperation? with
    | some op => setItems fuel [] (some (op, combine left (unionOf items)))
    | none =>
      let item ← setRange
      setItems fuel (item :: items) left

end

/-! ## Groups -/

/-- Flags up to the colon or parenthesis that ends them; each may occur once, and a minus, which
switches off those after it, is followed by one. The arguments are those that came before, in
reverse, and whether a minus was among them. -/
def flagChanges : Nat → FlagChanges → Bool → Reader FlagChanges
  | 0, _, _ => failure
  | bound + 1, changes, negated => do
    let c ← demand
    if c = ':' ∨ c = ')' then return changes.reverse
    advance
    if c = '-' then
      let next ← demand
      if negated ∨ next = ':' ∨ next = ')' then failure
      flagChanges bound changes true
    else
      match Flag.ofLetter? c with
      | some flag =>
        if changes.any fun change => change.1 = flag then failure
        flagChanges bound ((flag, !negated) :: changes) negated
      | none => failure

/-- Whether a character may stand in the name of a group. -/
def isNameChar (first : Bool) (c : Char) : Bool :=
  if first then c = '_' || Unicode.Current.alphabetic.contains c
  else c = '_' || c = '.' || c = '[' || c = ']' || Unicode.Current.alphanumeric.contains c

/-- The name of a group, up to the angle that ends it; no two groups share a name. -/
def groupName : Reader Unit := do
  let state ← get
  let name := state.rest.takeWhile (· ≠ '>')
  let wellFormed := match name with
    | [] => false
    | c :: rest => isNameChar true c && rest.all (isNameChar false)
  if !wellFormed || state.names.contains name then failure
  match state.rest.dropWhile (· ≠ '>') with
  | [] => failure
  | _ :: rest => set { state with rest := rest, names := name :: state.names }

/-- How a parenthesis goes on. -/
inductive GroupStart where
  /-- Flags for what follows. -/
  | flags (changes : FlagChanges)
  /-- A group with flags of its own. -/
  | scope (changes : FlagChanges)
  /-- A group with a number. -/
  | group (index : Nat)

/-- A group with the next number. -/
def numberedGroup : Reader GroupStart := do
  let state ← get
  set { state with groups := state.groups + 1 }
  return .group (state.groups + 1)

/-- What follows an opening parenthesis, up to the body of a group. -/
def groupStart : Reader GroupStart := do
  advance
  blanks
  let lookAround := [['?', '='], ['?', '!'], ['?', '<', '='], ['?', '<', '!']]
  let state ← get
  if lookAround.any fun start => start.isPrefixOf state.rest then failure
  if (← accept ['?', 'P', '<']) || (← accept ['?', '<']) then
    groupName
    return ← numberedGroup
  if ← accept ['?'] then
    let changes ← flagChanges state.rest.length [] false
    let c ← demand
    advance
    if c = ')' then
      if changes.isEmpty then failure
      return .flags changes
    return .scope changes
  numberedGroup

/-- Whether blanks are passed over once the flags are changed. -/
def ignoreBlanksAfter (changes : FlagChanges) (before : Bool) : Bool :=
  ((changes.find? fun change => change.1 = .ignoreBlanks).map (·.2)).getD before

/-! ## Repetitions -/

/-- A decimal number below `2^32`, with blanks around it; absent if there are no digits. -/
def count : Reader (Option Nat) := do
  modify fun state => { state with rest := state.rest.dropWhile Unicode.whiteSpace.contains }
  let digits ← chars Char.isDigit
  let _ ← chars Unicode.whiteSpace.contains
  if digits.isEmpty then return none
  let n := digits.foldl (fun n c => 10 * n + (c.toNat - '0'.toNat)) 0
  if n < 0x100000000 then return some n else failure

/-- The bounds of a repetition between braces, from the opening brace. -/
def bounds : Reader (Nat × Option Nat) := do
  advanceOver
  let _ ← demand
  let least ← count
  let range ← match least, (← demand) with
    | some least, ',' => do
      advanceOver
      if (← demand) = '\x7d' then pure (least, none)
      else match ← count with
        | some most => if least ≤ most then pure (least, some most) else failure
        | none => failure
    | some least, _ => pure (least, some least)
    | none, _ => failure
  expectOver '\x7d'
  return range

/-- The repetition of a part that a sign stands for, passed over together with the mark that
prefers few. -/
def repetition (sign : Char) (body : Tree) : Reader Tree := do
  let (least, most) ←
    if sign = '\x7b' then bounds
    else do
      advance
      pure (if sign = '?' then (0, some 1) else if sign = '*' then (0, none) else (1, none))
  let few ← accept ['?']
  return .repetition least most (!few) body

/-! ## Patterns -/

/-- The items of a sequence, in reverse, as one tree. -/
def sequenceOf : List Tree → Tree
  | [] => .empty
  | [item] => item
  | items => .sequence items.reverse

/-- The branches of an alternation, in reverse, as one tree. -/
def alternationOf : List Tree → Tree
  | [branch] => branch
  | branches => .alternation branches.reverse

/-- An item as a tree. -/
def Item.toTree : Item → Tree
  | .literal value => .literal value
  | .anyChar => .anyChar
  | .assertion kind => .assertion kind
  | .set content => .set content

/-- A part without parts of its own. -/
def primitive : Reader Item := do
  let c ← demand
  advance
  if c = '\\' then escape
  else if c = '.' then return .anyChar
  else if c = '^' then return .assertion .lineStart
  else if c = '$' then return .assertion .lineEnd
  else return .literal ⟨c, false⟩

mutual

/-- The branches up to the end of the group or text, after the items of the branch and the branches
that were read already, both in reverse. The first argument bounds the characters. -/
def branches : Nat → List Tree → List Tree → Reader Tree
  | 0, _, _ => failure
  | fuel + 1, items, before => do
    blanks
    match ← peek with
    | none => return alternationOf (sequenceOf items :: before)
    | some c =>
      if c = ')' then return alternationOf (sequenceOf items :: before)
      else if c = '|' then
        advance
        branches fuel [] (sequenceOf items :: before)
      else if c = '(' then
        let item ← parenthesis fuel
        branches fuel (item :: items) before
      else if c = '[' then
        let item ← bracketed (fuel + 1)
        branches fuel (.set item :: items) before
      else if c = '?' ∨ c = '*' ∨ c = '+' ∨ c = '\x7b' then
        match items with
        | [] | .empty :: _ | .flags _ :: _ => failure
        | item :: others =>
          let repeated ← repetition c item
          branches fuel (repeated :: others) before
      else
        let item ← primitive
        branches fuel (item.toTree :: items) before

/-- A group, or flags for what follows, from the opening parenthesis. -/
def parenthesis : Nat → Reader Tree
  | 0 => failure
  | fuel + 1 => do
    match ← groupStart with
    | .flags changes =>
      modify fun state =>
        { state with ignoreBlanks := ignoreBlanksAfter changes state.ignoreBlanks }
      return .flags changes
    | .scope changes => return .scope changes (← groupBody fuel changes)
    | .group index => return .group index (← groupBody fuel [])

/-- The body of a group with flags of its own, up to the closing parenthesis. -/
def groupBody : Nat → FlagChanges → Reader Tree
  | 0, _ => failure
  | fuel + 1, changes => do
    let outside := (← get).ignoreBlanks
    modify fun state => { state with ignoreBlanks := ignoreBlanksAfter changes outside }
    let body ← branches fuel [] []
    modify fun state => { state with ignoreBlanks := outside }
    if ← accept [')'] then return body else failure

end

end Reader

/-- The tree of a pattern that is well formed and not nested too deep. -/
def Tree.parse? (text : String) : Option Tree := do
  let chars := text.toList
  let (tree, state) ← (Reader.branches (3 * chars.length + 3) [] []).run ⟨chars, false, 0, []⟩
  if state.rest.isEmpty && tree.depth ≤ depthLimit then some tree else none

end RecordFilter.Regex
