import RecordFilter.Url.Host

set_option autoImplicit false

/-!
# URLs

Reading absolute URLs as far as filtering needs them: whether a text is one, its scheme and its
query. Blanks and control characters around a URL do not count, tabs and line ends inside it do
not either.
-/

namespace RecordFilter

/-- A URL: its scheme in lowercase and its query as it is written in the URL, if it has one. -/
structure Url where
  scheme : String
  query : Option String
deriving DecidableEq

namespace Url

/-! ## Parts -/

/-- The characters of a URL that count. -/
def relevant (text : String) : List Char :=
  let isEdge (c : Char) : Bool := c.toNat ≤ 0x20
  let trimmed := ((text.toList.dropWhile isEdge).reverse.dropWhile isEdge).reverse
  trimmed.filter fun c => c ≠ '\t' && c ≠ '\n' && c ≠ '\r'

/-- The scheme up to its colon, in lowercase, and the text after the colon. -/
def scheme? (text : List Char) : Option (List Char × List Char) :=
  let isSchemeChar (c : Char) : Bool := c.isAlphanum || c = '+' || c = '-' || c = '.'
  let scheme := text.takeWhile isSchemeChar
  match scheme, text.dropWhile isSchemeChar with
  | c :: _, ':' :: rest => if c.isAlpha then some (scheme.map Char.toLower, rest) else none
  | _, _ => none

/-- How a scheme treats hosts. -/
inductive SchemeKind where
  /-- Hosts are names or addresses, and there has to be one. -/
  | web
  /-- There may be a host. -/
  | file
  /-- Nothing is known of hosts. -/
  | other
deriving DecidableEq

/-- The kind of a scheme. -/
def SchemeKind.of (scheme : List Char) : SchemeKind :=
  let name := String.ofList scheme
  if name = "file" then .file
  else if ["http", "https", "ws", "wss", "ftp"].contains name then .web
  else .other

/-- Whether a character ends the part of a URL before the path. A backslash is a slash where the
scheme is known. -/
def endsAuthority (kind : SchemeKind) (c : Char) : Bool :=
  c = '/' || c = '?' || c = '#' || (kind ≠ .other && c = '\\')

/-- The parts before and after the last place where a character stands. -/
def cutLast? (separator : Char) (text : List Char) : Option (List Char × List Char) :=
  let after := (text.reverse.takeWhile (· ≠ separator)).reverse
  if after.length = text.length then none
  else some ((text.take (text.length - after.length)).dropLast, after)

/-- The host and what follows it up to the path: a colon inside brackets is part of the host. -/
def cutHost (inBrackets : Bool) : List Char → List Char × List Char
  | [] => ([], [])
  | c :: rest =>
    if c = ':' ∧ !inBrackets then ([], c :: rest)
    else
      let (host, after) := cutHost (if c = '[' then true else if c = ']' then false else inBrackets)
        rest
      (c :: host, after)

/-- Whether what follows a host is nothing or a colon and a port. -/
def isPort (kind : SchemeKind) : List Char → Bool
  | [] => true
  | _ :: digits =>
    let number := digits.takeWhile Char.isDigit
    let rest := digits.dropWhile Char.isDigit
    (rest.isEmpty || (kind = .other && rest.head? = some '\\')) &&
      (natural? 10 number).any (· < 0x10000)

/-- Whether the part of a URL after two slashes is well formed. -/
def isAuthority (kind : SchemeKind) (text : List Char) : Bool :=
  let authority := text.takeWhile fun c => !endsAuthority kind c
  let (user, address) := match cutLast? '@' authority with
    | some (user, address) => (some user, address)
    | none => (none, authority)
  let (host, port) := cutHost false address
  if host.isEmpty then
    kind = .other && port.isEmpty &&
      (user = none || user = some [':'] || (user = some [] && authority.length = text.length))
  else (if kind = .other then isOpaqueHost host else isHost host) && isPort kind port

/-- Whether a text is the letter of a drive. -/
def isDriveLetter : List Char → Bool
  | [c, mark] => c.isAlpha && (mark = ':' || mark = '|')
  | _ => false

/-- Whether the part of a file's URL after its scheme is well formed. -/
def isFilePart : List Char → Bool
  | a :: b :: rest =>
    let isSlash (c : Char) : Bool := c = '/' || c = '\\'
    let host := rest.takeWhile fun c => !endsAuthority .file c
    !(isSlash a && isSlash b) || isDriveLetter host || host.isEmpty || isHost host
  | _ => true

/-- Whether the part of a URL after its scheme is well formed. -/
def isWellFormed (kind : SchemeKind) (rest : List Char) : Bool :=
  match kind with
  | .web => isAuthority kind (rest.dropWhile fun c => c = '/' || c = '\\')
  | .file => isFilePart rest
  | .other =>
    match rest with
    | '/' :: '/' :: text => isAuthority kind text
    | _ => true

/-! ## Queries -/

/-- Whether a byte of a query is written by its number. -/
def isQueryEscaped (kind : SchemeKind) (b : UInt8) : Bool :=
  let n := b.toNat
  n ≤ 0x20 || 0x7f ≤ n || n = '"'.toNat || n = '#'.toNat || n = '<'.toNat || n = '>'.toNat ||
    (kind ≠ .other && n = '\x27'.toNat)

/-- A query as it is written in a URL. -/
def encodeQuery (kind : SchemeKind) (text : List Char) : String :=
  String.ofList (Utf8.decode ((Utf8.encode text).flatMap fun b =>
    if isQueryEscaped kind b then Form.percentByte b else [b]))

/-- The query of a URL, from the question mark to the fragment. -/
def queryOf (kind : SchemeKind) (rest : List Char) : Option String :=
  match (rest.takeWhile (· ≠ '#')).dropWhile (· ≠ '?') with
  | _ :: query => some (encodeQuery kind query)
  | [] => none

/-- The URL that a text is. -/
def parse? (text : String) : Option Url := do
  let (scheme, rest) ← scheme? (relevant text)
  let kind := SchemeKind.of scheme
  if isWellFormed kind rest then some ⟨String.ofList scheme, queryOf kind rest⟩ else none

end Url

end RecordFilter
