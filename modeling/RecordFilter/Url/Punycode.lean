set_option autoImplicit false

/-!
# Labels beyond ASCII

The reading of labels that write characters beyond ASCII in ASCII: the characters of ASCII come
first, then, after the last hyphen, numbers in a code of varying length that say which character
comes next and where it goes.
-/

namespace RecordFilter.Url.Punycode

/-- The value of a letter or digit of the code. -/
def digit? (c : Char) : Option Nat :=
  if 'a' ≤ c ∧ c ≤ 'z' then some (c.toNat - 'a'.toNat)
  else if c.isDigit then some (c.toNat - '0'.toNat + 26)
  else none

/-- The greatest final digit at position `k` of a number. -/
def threshold (k bias : Nat) : Nat :=
  if k ≤ bias then 1 else if bias + 26 ≤ k then 26 else k - bias

/-- A number of the code added to `i`, and the text after it. Weights stay below `2^32`. -/
def number (bias : Nat) : Nat → Nat → Nat → List Char → Option (Nat × List Char)
  | _, _, _, [] => none
  | i, weight, k, c :: rest =>
    match digit? c with
    | none => none
    | some d =>
      let t := threshold k bias
      if d < t then some (i + d * weight, rest)
      else if weight * (36 - t) < 0x100000000 then
        number bias (i + d * weight) (weight * (36 - t)) (k + 36) rest
      else none

/-- The bias once a delta is spread over `steps` steps, at most as many as the first argument. -/
def spread : Nat → Nat → Nat → Nat
  | 0, delta, k => k + 36 * delta / (delta + 38)
  | bound + 1, delta, k =>
    if 455 < delta then spread bound (delta / 35) (k + 36) else k + 36 * delta / (delta + 38)

/-- The bias after a number. -/
def adapt (delta points : Nat) (first : Bool) : Nat :=
  let delta := if first then delta / 700 else delta / 2
  spread 32 (delta + delta / points) 0

/-- The characters of a label from those read so far, the last code, the last position and the
text to come; at most as many as the first argument says. -/
def insertAll : Nat → List Char → Nat → Nat → Nat → Bool → List Char → Option (List Char)
  | _, label, _, _, _, _, [] => some label
  | 0, _, _, _, _, _, _ :: _ => none
  | bound + 1, label, n, i, bias, first, text => do
    let (next, rest) ← number bias i 1 36 text
    let points := label.length + 1
    let code := n + next / points
    let place := next % points
    if code.isValidChar then
      let extended := label.take place ++ Char.ofNat code :: label.drop place
      insertAll bound extended code (place + 1) (adapt (next - i) points first) false rest
    else none

/-- The label that a text in the code stands for. A hyphen comes after characters of ASCII only. -/
def decode? (text : List Char) : Option (List Char) :=
  let coded := (text.reverse.takeWhile (· ≠ '-')).reverse
  let plain := text.take (text.length - coded.length)
  if plain = ['-'] then none else insertAll text.length plain.dropLast 128 0 72 true coded

end RecordFilter.Url.Punycode
