import RecordFilter.Json.Printer
import RecordFilter.Proofs.Json.Decoding
import RecordFilter.Proofs.Json.Recognition

set_option autoImplicit false

/-!
# Written numbers

A number reads back (`JsonNumber.ReadsBack`) if its written form, as a text of its own, is read as
that number. Every integer does (`readsBack_integer`); a double does if its shortest digits denote
it in the reader's double arithmetic, which is a fact about the double and not about the text
around it: the written form of a number that reads back is a number of the grammar
(`exists_literal`), and so it is read wherever a number may stand.
-/

namespace RecordFilter

open Grammar

namespace Json

open Source

/-! ## Integers -/

theorem head_toDigits_ne {n : Nat} (positive : 0 < n) : (Nat.toDigits 10 n).head? ≠ some '0' := by
  -- The first digit is that of the number without its last digit, unless it has only one.
  induction n using Nat.strongRecOn with
  | ind n ih =>
    rcases Nat.lt_or_ge n 10 with small | large
    · rw [Nat.toDigits_of_lt_base small]
      have nonzero : ∀ d, d < 10 → 0 < d → Nat.digitChar d ≠ '0' := by decide
      simpa using nonzero n small positive
    · have shorter := ih (n / 10) (by omega) (by omega)
      rw [Nat.toDigits_of_base_le (by omega) large, List.head?_append]
      cases front : Nat.toDigits 10 (n / 10) with
      | nil => exact absurd front Nat.toDigits_ne_nil
      | cons d ds =>
        rw [front] at shorter
        exact shorter

theorem toDigits_plain (n : Nat) :
    ¬((Nat.toDigits 10 n).head? = some '0' ∧ (Nat.toDigits 10 n).length ≠ 1) := by
  rintro ⟨zero, long⟩
  rcases Nat.eq_zero_or_pos n with rfl | positive
  · exact long rfl
  · exact head_toDigits_ne positive zero

theorem isDigit_toDigits (n : Nat) : ∀ c ∈ Nat.toDigits 10 n, c.isDigit = true :=
  fun _ mem => Nat.isDigit_of_mem_toDigits (by decide) (by decide) mem

theorem natural_toDigits (n : Nat) : NumberLiteral.natural (Nat.toDigits 10 n) = n := by
  have value := Nat.ofDigitChars_ten_toDigits (n := n)
  rwa [Nat.ofDigitChars_eq_foldl] at value

/-- The written form of an integer is a number of the grammar. -/
theorem number_renderInteger (i : Int) :
    Grammar.Number ⟨i < 0, Nat.toDigits 10 i.natAbs, none, none⟩ (renderInteger i) := by
  have digits : Digits (Nat.toDigits 10 i.natAbs) := ⟨Nat.toDigits_ne_nil, isDigit_toDigits _⟩
  have zero : (Nat.toDigits 10 i.natAbs).head? = some '0' → (Nat.toDigits 10 i.natAbs).length = 1 :=
    fun leading => Decidable.byContradiction fun long => toDigits_plain i.natAbs ⟨leading, long⟩
  have magnitude (negative : Bool) : Magnitude negative
      ⟨negative, Nat.toDigits 10 i.natAbs, none, none⟩ (Nat.toDigits 10 i.natAbs) := by
    have parts : Magnitude negative _ _ := .parts digits zero .absent .absent
    rwa [List.append_nil, List.append_nil] at parts
  rw [renderInteger]
  split
  case isTrue negative =>
    rw [decide_eq_true negative]
    exact .minus (magnitude true)
  case isFalse nonnegative =>
    rw [decide_eq_false nonnegative]
    exact .plain (magnitude false)

end Json

theorem NumberLiteral.value_integer (i : WordInteger) :
    (NumberLiteral.mk (i.value < 0) (Nat.toDigits 10 i.value.natAbs) none none).value? =
      some (.integer i) := by
  have natural := Json.natural_toDigits i.value.natAbs
  have value : (if i.value < 0 then -(i.value.natAbs : Int) else i.value.natAbs) = i.value := by
    split <;> omega
  have inRange := i.inRange
  -- Minus zero would be read as a double, but no integer is written so.
  have no_minus_zero : ¬(i.value < 0 ∧ i.value.natAbs = 0) := by omega
  simp only [value?, natural, decide_eq_true_eq, value]
  rw [dif_pos ⟨trivial, trivial, no_minus_zero, inRange⟩]

/-! ## Numbers that read back -/

namespace Json

open Source

theorem isBlank_toDigits (n : Nat) : ∀ c ∈ Nat.toDigits 10 n, isBlank c = false :=
  fun c mem => isBlank_of_isDigit (isDigit_toDigits n c mem)

theorem isBlank_positional {ds : List Char} (plain : ∀ c ∈ ds, isBlank c = false) (whole : Int) :
    ∀ c ∈ DecimalLayout.positional ds whole, isBlank c = false := by
  have zeros : ∀ n, ∀ c ∈ List.replicate n '0', isBlank c = false := by
    intro n c mem
    rw [List.eq_of_mem_replicate mem]
    rfl
  have front : ∀ c ∈ ds.take whole.toNat, isBlank c = false :=
    fun c mem => plain c (List.mem_of_mem_take mem)
  have back : ∀ c ∈ ds.drop whole.toNat, isBlank c = false :=
    fun c mem => plain c (List.mem_of_mem_drop mem)
  rw [DecimalLayout.positional]
  split
  · simp only [List.forall_mem_cons, List.forall_mem_append]
    exact ⟨rfl, rfl, zeros _, plain⟩
  · simp only [List.forall_mem_cons, List.forall_mem_append]
    refine ⟨⟨front, zeros _⟩, rfl, ?_⟩
    split
    · simp only [List.forall_mem_singleton]
      rfl
    · exact back

theorem isBlank_withExponent {ds : List Char} (plain : ∀ c ∈ ds, isBlank c = false)
    (exponent : Int) : ∀ c ∈ DecimalLayout.withExponent ds exponent, isBlank c = false := by
  have front : ∀ c ∈ ds.take 1, isBlank c = false :=
    fun c mem => plain c (List.mem_of_mem_take mem)
  have back : ∀ c ∈ ds.drop 1, isBlank c = false :=
    fun c mem => plain c (List.mem_of_mem_drop mem)
  rw [DecimalLayout.withExponent]
  simp only [List.forall_mem_cons, List.forall_mem_append]
  refine ⟨⟨front, ?_⟩, rfl, ?_, isBlank_toDigits _⟩
  · split
    · exact fun _ mem => absurd mem List.not_mem_nil
    · simp only [List.forall_mem_cons]
      exact ⟨rfl, back⟩
  · split
    · rfl
    · rfl

theorem isBlank_renderNumber (n : JsonNumber) : ∀ c ∈ renderNumber n, isBlank c = false := by
  cases n with
  | integer i =>
    rw [renderNumber, renderInteger]
    split
    · simp only [List.forall_mem_cons]
      exact ⟨rfl, isBlank_toDigits _⟩
    · exact isBlank_toDigits _
  | real x finite =>
    have layout : ∀ s, ∀ c ∈ realLayout.render s, isBlank c = false := by
      intro s
      have plain : ∀ c ∈ ((Nat.toDigits 10 s.digits).reverse.dropWhile (· == '0')).reverse,
          isBlank c = false := by
        intro c mem
        have mem := (List.dropWhile_sublist _).subset (List.mem_reverse.1 mem)
        exact isBlank_toDigits _ c (List.mem_reverse.1 mem)
      rw [DecimalLayout.render]
      split
      · exact isBlank_positional plain _
      · exact isBlank_withExponent plain _
    have unsigned : ∀ c ∈ (if x.magnitude = 0 then ['0', '.', '0']
        else realLayout.render (Binary64.shortest x.magnitude)), isBlank c = false := by
      split
      · simp only [List.forall_mem_cons]
        exact ⟨rfl, rfl, rfl, fun _ mem => absurd mem List.not_mem_nil⟩
      · exact layout _
    rw [renderNumber, DecimalLayout.renderBinary64]
    split
    · simp only [List.forall_mem_cons]
      exact ⟨rfl, unsigned⟩
    · exact unsigned

end Json

namespace JsonNumber

open Source

/-- The written form of a number, as a text of its own, is read as that number. -/
def ReadsBack (n : JsonNumber) : Prop := Json.parse (Json.number n).text = .ok (.number n)

instance decidableReadsBack (n : JsonNumber) : Decidable n.ReadsBack :=
  match found : Json.parse (Json.number n).text with
  | .ok (.number m) => decidable_of_iff (m = n) (by simp [ReadsBack, found])
  | .ok .null | .ok (.bool _) | .ok (.string _) | .ok (.array _) | .ok (.object _) =>
    isFalse (by simp [ReadsBack, found])
  | .error _ => isFalse (by simp [ReadsBack, found])

/-- Every integer reads back. -/
theorem readsBack_integer (i : WordInteger) : (JsonNumber.integer i).ReadsBack := by
  have found := ofText_value (.number (Json.number_renderInteger i.value))
  refine Json.parse_eq_ok_iff.2 ⟨_, [], found, ?_, rfl⟩
  rw [toJson, NumberLiteral.value_integer]

theorem number_of_toJson {depth : Nat} {tree : Source} {n : JsonNumber}
    (number : tree.toJson depth = .ok (.number n)) :
    ∃ literal, tree = .number literal ∧ literal.value? = some n := by
  cases tree with
  | number literal =>
    rw [toJson] at number
    split at number
    case h_1 found value =>
      cases number
      exact ⟨literal, rfl, value⟩
    case h_2 => cases number
  | array items stop =>
    obtain ⟨-, inner, docs, -, -, other⟩ := toJson_array_eq_ok_iff.1 number
    cases other
  | object members stop =>
    obtain ⟨-, inner, docs, -, -, other⟩ := toJson_object_eq_ok_iff.1 number
    cases other
  | string content =>
    rw [toJson] at number
    cases content with
    | none => cases number
    | some s => cases number
  | null | bool | broken =>
    rw [toJson] at number
    cases number

/-- The written form of a number that reads back is a literal that denotes the number. -/
theorem exists_literal {n : JsonNumber} (readsBack : n.ReadsBack) :
    ∃ literal : NumberLiteral,
      literal.value? = some n ∧ Grammar.Number literal (Json.renderNumber n) := by
  obtain ⟨tree, rest, found, number, blank⟩ := Json.parse_eq_ok_iff.1 readsBack
  obtain ⟨literal, rfl, value⟩ := number_of_toJson number
  refine ⟨literal, value, ?_⟩
  have document := document_of_ofText found ⟨_, number⟩ blank
  have plain := Json.isBlank_renderNumber n
  rw [Json.text, String.toList_ofList, Json.render] at document
  generalize Json.renderNumber n = text at document plain
  obtain @⟨before, written, behind, blank, value, blank_behind⟩ := document
  -- A written number has no blanks, so there are none around the literal.
  have nothing {blanks : List Char} (blank : Blanks blanks)
      (inside : ∀ c ∈ blanks, c ∈ before ++ (written ++ behind)) : blanks = [] := by
    refine List.eq_nil_iff_forall_not_mem.2 fun c mem => ?_
    have no_blank := plain c (inside c mem)
    rw [blank c mem] at no_blank
    cases no_blank
  obtain rfl : before = [] := nothing blank fun c mem => List.mem_append_left _ mem
  obtain rfl : behind = [] := nothing blank_behind fun c mem =>
    List.mem_append_right _ (List.mem_append_right _ mem)
  cases value with
  | number number =>
    rwa [List.append_nil, List.nil_append]

end JsonNumber

end RecordFilter
