import Mathlib.Data.List.Forall2
import RecordFilter.Unicode.CaseMap

set_option autoImplicit false

/-!
# Texts that differ in case

Two characters are variants if they differ in case and in nothing else: they have the same folding,
or one is the uppercase or the lowercase form of the other (`CaseVariants`). Writing texts in
lowercase takes most of these differences away, but not all. Some lowercase letters share their
folding or their capital with another lowercase letter, as the two small sigmas do, and remain apart
from it (`strays`). Two texts of variants have the same lowercase form exactly if no stray stands
where they differ (`lowercaseText_eq_iff`).

The forms are stored as runs of characters. All that is needed of the lowercase forms is that they
have none other than themselves. It is decided run by run, and character by character only where two
runs overlap (`CaseRun.misses`).
-/

namespace RecordFilter.Unicode

/-! ## Runs -/

namespace CaseRun

/-- The code that a run maps a code to. -/
def imageOf (run : CaseRun) (code : Nat) : Nat := run.image + (code - run.first)

/-- The greatest code that a run maps to. -/
def lastImage (run : CaseRun) : Nat := run.imageOf run.last

/-- The run with one character only. -/
def point (c : Char) : CaseRun := ⟨c.toNat, c.toNat, 1, c.toNat⟩

/-- No code is mapped by the other run that this one maps to. -/
def misses (run other : CaseRun) : Bool :=
  Nat.blt run.lastImage other.first || Nat.blt other.last run.image ||
    run.sources.all fun code => !other.covers (run.imageOf code)

/-- All codes that the run maps to are those of characters. -/
def isScalar (run : CaseRun) : Bool :=
  Nat.blt run.lastImage 0xD800 || Nat.blt 0xDFFF run.image && Nat.blt run.lastImage 0x110000

variable {run other : CaseRun} {runs : List CaseRun} {code : Nat} {c d : Char}

theorem covers_iff :
    run.covers code = true ↔
      (run.first ≤ code ∧ code ≤ run.last) ∧ (code - run.first) % run.step = 0 := by
  simp [covers]

theorem covers_point (c : Char) : (point c).covers c.toNat = true := by
  simp [covers_iff, point]

theorem mem_sources (covered : run.covers code = true) : code ∈ run.sources := by
  obtain ⟨⟨low, high⟩, steps⟩ := covers_iff.1 covered
  have whole := Nat.div_add_mod (code - run.first) run.step
  have few : (code - run.first) / run.step ≤ (run.last - run.first) / run.step :=
    Nat.div_le_div_right (Nat.sub_le_sub_right high run.first)
  rw [sources, List.mem_range']
  exact ⟨(code - run.first) / run.step, by omega, by omega⟩

theorem imageOf_bounds (covered : run.covers code = true) :
    run.image ≤ run.imageOf code ∧ run.imageOf code ≤ run.lastImage := by
  obtain ⟨⟨low, high⟩, -⟩ := covers_iff.1 covered
  simp only [lastImage, imageOf]
  omega

theorem not_covers_imageOf (misses : run.misses other = true) (covered : run.covers code = true) :
    other.covers (run.imageOf code) = false := by
  obtain ⟨low, high⟩ := imageOf_bounds covered
  simp only [CaseRun.misses, Bool.or_eq_true, Nat.blt_eq, List.all_eq_true, Bool.not_eq_true']
    at misses
  rcases misses with outside | apart
  · -- The images lie all below the other run or all above it.
    rw [Bool.eq_false_iff, ne_eq, covers_iff]
    omega
  · exact apart code (mem_sources covered)

theorem toNat_imageOf (scalar : run.isScalar = true) (covered : run.covers code = true) :
    (Char.ofNat (run.imageOf code)).toNat = run.imageOf code := by
  obtain ⟨low, high⟩ := imageOf_bounds covered
  simp only [isScalar, Bool.or_eq_true, Bool.and_eq_true, Nat.blt_eq] at scalar
  have valid : (run.imageOf code).isValidChar := by
    rw [Nat.isValidChar]
    omega
  rw [Char.ofNat, dif_pos valid]
  rfl

/-- A character is mapped by a run of the list, if by any. -/
theorem exists_of_map? (mapped : map? runs c = some d) :
    ∃ run ∈ runs, run.covers c.toNat = true ∧ d = Char.ofNat (run.imageOf c.toNat) := by
  obtain ⟨run, found, rfl⟩ := Option.map_eq_some_iff.1 mapped
  have covered := List.find?_some found
  exact ⟨run, List.mem_of_find?_eq_some found, covered, rfl⟩

theorem map?_eq_none (uncovered : ∀ run ∈ runs, run.covers c.toNat = false) :
    map? runs c = none := by
  rw [map?, Option.map_eq_none_iff, List.find?_eq_none]
  intro run mem
  rw [uncovered run mem]
  exact Bool.false_ne_true

end CaseRun

/-! ## Forms of characters -/

/-- The simple case folding of a character in Unicode 17.0. -/
def Current.simpleFold (c : Char) : Char :=
  (CaseRun.map? foldExceptions c).getD
    ((CaseRun.map? (lowercaseRuns ++ newLowercaseRuns) c).getD c)

/-- The characters with an uppercase form, of one character, whose lowercase form they are not. -/
def uppercaseExceptions : List CaseRun :=
  [⟨0xB5, 0xB5, 1, 0x39C⟩, ⟨0x131, 0x131, 1, 0x49⟩, ⟨0x17F, 0x17F, 1, 0x53⟩,
   ⟨0x1C5, 0x1C5, 1, 0x1C4⟩, ⟨0x1C8, 0x1C8, 1, 0x1C7⟩, ⟨0x1CB, 0x1CB, 1, 0x1CA⟩,
   ⟨0x1F2, 0x1F2, 1, 0x1F1⟩, ⟨0x345, 0x345, 1, 0x399⟩, ⟨0x3C2, 0x3C2, 1, 0x3A3⟩,
   ⟨0x3D0, 0x3D0, 1, 0x392⟩, ⟨0x3D1, 0x3D1, 1, 0x398⟩, ⟨0x3D5, 0x3D5, 1, 0x3A6⟩,
   ⟨0x3D6, 0x3D6, 1, 0x3A0⟩, ⟨0x3F0, 0x3F0, 1, 0x39A⟩, ⟨0x3F1, 0x3F1, 1, 0x3A1⟩,
   ⟨0x3F5, 0x3F5, 1, 0x395⟩, ⟨0x1C80, 0x1C80, 1, 0x412⟩, ⟨0x1C81, 0x1C81, 1, 0x414⟩,
   ⟨0x1C82, 0x1C82, 1, 0x41E⟩, ⟨0x1C83, 0x1C84, 1, 0x421⟩, ⟨0x1C85, 0x1C85, 1, 0x422⟩,
   ⟨0x1C86, 0x1C86, 1, 0x42A⟩, ⟨0x1C87, 0x1C87, 1, 0x462⟩, ⟨0x1C88, 0x1C88, 1, 0xA64A⟩,
   ⟨0x1E9B, 0x1E9B, 1, 0x1E60⟩, ⟨0x1FBE, 0x1FBE, 1, 0x399⟩]

/-- The second character is an uppercase form of the first: it has the first for its lowercase form,
or it is the uppercase form of an exception. -/
def IsUppercase (c d : Char) : Prop :=
  lowercase d = [c] ∨ CaseRun.map? uppercaseExceptions c = some d

instance (c d : Char) : Decidable (IsUppercase c d) :=
  inferInstanceAs (Decidable (lowercase d = [c] ∨ CaseRun.map? uppercaseExceptions c = some d))

/-- Two characters differ in case only: they have the same folding, or one is a form of the
other. -/
inductive CaseVariants : Char → Char → Prop where
  | folding {c d : Char} (same : Current.simpleFold c = Current.simpleFold d) : CaseVariants c d
  | lower {c d : Char} (form : lowercase c = [d]) : CaseVariants c d
  | upper {c d : Char} (form : IsUppercase c d) : CaseVariants c d
  | symm {c d : Char} (variants : CaseVariants c d) : CaseVariants d c

/-- The characters that are their own lowercase forms, though their folding or their uppercase form
has another one. -/
def strays : List Char :=
  ['µ', 'ı', 'ſ', '\u0345', 'ς', 'ϐ', 'ϑ', 'ϕ', 'ϖ', 'ϰ', 'ϱ', 'ϵ', '\u1C80', '\u1C81', '\u1C82',
   '\u1C83', '\u1C84', '\u1C85', '\u1C86', '\u1C87', '\u1C88', 'ẛ', '\u1FBE', '\u1FD3', '\u1FE3',
   '\uFB05']

/-! ## Lowercase forms -/

variable {c d : Char}

theorem lowercase_of_ne (other : c ≠ 'İ') :
    lowercase c = [(CaseRun.map? (lowercaseRuns ++ newLowercaseRuns) c).getD c] :=
  if_neg other

/-- What the run maps to has no other lowercase form and is no stray. -/
def CaseRun.isFinal (run : CaseRun) : Bool :=
  run.isScalar && lowercaseRuns.all run.misses && newLowercaseRuns.all run.misses &&
    ('İ' :: strays).all fun c => run.misses (.point c)

theorem lowercaseRuns_final : (lowercaseRuns ++ newLowercaseRuns).all CaseRun.isFinal = true := by
  decide +kernel

/-- What a run of the lowercase mapping maps to is its own lowercase form, and no stray. -/
theorem lowercase_imageOf {run : CaseRun} {code : Nat}
    (mem : run ∈ lowercaseRuns ++ newLowercaseRuns) (covered : run.covers code = true) :
    lowercase (Char.ofNat (run.imageOf code)) = [Char.ofNat (run.imageOf code)] ∧
      Char.ofNat (run.imageOf code) ∉ strays := by
  have final := List.all_eq_true.1 lowercaseRuns_final run mem
  simp only [CaseRun.isFinal, Bool.and_eq_true, List.all_eq_true] at final
  obtain ⟨⟨⟨scalar, missed⟩, missed_new⟩, missed_points⟩ := final
  have toNat := CaseRun.toNat_imageOf scalar covered
  -- A point that is an image of the run would cover the image.
  have ne : ∀ point ∈ 'İ' :: strays, Char.ofNat (run.imageOf code) ≠ point := by
    intro point listed same
    have apart := CaseRun.not_covers_imageOf (missed_points point listed) covered
    rw [← toNat, same, CaseRun.covers_point] at apart
    cases apart
  have unmapped : CaseRun.map? (lowercaseRuns ++ newLowercaseRuns)
      (Char.ofNat (run.imageOf code)) = none := by
    apply CaseRun.map?_eq_none
    intro other among
    rw [toNat]
    apply CaseRun.not_covers_imageOf _ covered
    rcases List.mem_append.1 among with old | new
    · exact missed other old
    · exact missed_new other new
  constructor
  · rw [lowercase_of_ne (ne _ (.head _)), unmapped]
    rfl
  · exact fun stray => ne _ (.tail _ stray) rfl

/-- A character is its own lowercase form or has one that is final. Only the capital I with a dot
above has a longer one. -/
theorem lowercase_cases (c : Char) :
    c = 'İ' ∨ lowercase c = [c] ∨ ∃ d, lowercase c = [d] ∧ lowercase d = [d] ∧ d ∉ strays := by
  by_cases dotted : c = 'İ'
  · exact .inl dotted
  · right
    rw [lowercase_of_ne dotted]
    rcases mapped : CaseRun.map? (lowercaseRuns ++ newLowercaseRuns) c with - | d
    · exact .inl rfl
    · obtain ⟨run, mem, covered, rfl⟩ := CaseRun.exists_of_map? mapped
      exact .inr ⟨_, rfl, lowercase_imageOf mem covered⟩

theorem length_lowercase (other : c ≠ 'İ') : (lowercase c).length = 1 := by
  rw [lowercase_of_ne other]
  rfl

theorem ne_dotted_of_lowercase (form : lowercase c = [d]) : c ≠ 'İ' := by
  rintro rfl
  cases form

/-- A lowercase form is its own, and it is no stray unless it is the character itself. -/
theorem facts_of_lowercase (form : lowercase c = [d]) :
    lowercase d = [d] ∧ (c = d ∨ d ∉ strays) := by
  rcases lowercase_cases c with dotted | same | ⟨e, found, final, apart⟩
  · exact absurd dotted (ne_dotted_of_lowercase form)
  · rw [same] at form
    cases form
    exact ⟨same, .inl rfl⟩
  · rw [found] at form
    cases form
    exact ⟨final, .inr apart⟩

theorem lowercase_of_lowercase (form : lowercase c = [d]) : lowercase d = [d] :=
  (facts_of_lowercase form).1

theorem eq_of_lowercase_stray (form : lowercase c = [d]) (stray : d ∈ strays) : c = d :=
  (facts_of_lowercase form).2.resolve_right fun apart => apart stray

/-! ## Strays -/

theorem strays_lowercase : strays.all (fun c => lowercase c == [c]) = true := by decide +kernel

theorem lowercase_of_stray (stray : c ∈ strays) : lowercase c = [c] :=
  eq_of_beq (List.all_eq_true.1 strays_lowercase c stray)

/-- Strays have no other character's lowercase form. -/
theorem eq_of_lowercase_eq (same : lowercase c = lowercase d) (stray : c ∈ strays ∨ d ∈ strays) :
    c = d := by
  rcases stray with stray | stray
  · rw [lowercase_of_stray stray] at same
    exact (eq_of_lowercase_stray same.symm stray).symm
  · rw [lowercase_of_stray stray] at same
    exact eq_of_lowercase_stray same stray

theorem ne_dotted_of_stray (stray : c ∈ strays) : c ≠ 'İ' :=
  ne_dotted_of_lowercase (lowercase_of_stray stray)

/-! ## Foldings and uppercase forms -/

/-- The run maps a character to one with the same lowercase form, unless the character is a
stray. -/
def CaseRun.keepsLowercase (run : CaseRun) : Bool :=
  run.first == run.image || run.sources.all fun code =>
    -- A capital that is turned back into the character is found sooner than both lowercase forms.
    strays.contains (Char.ofNat code) && Char.ofNat (run.imageOf code) != 'İ' ||
      lowercase (Char.ofNat (run.imageOf code)) == [Char.ofNat code] ||
        lowercase (Char.ofNat (run.imageOf code)) == lowercase (Char.ofNat code)

theorem foldExceptions_keep : foldExceptions.all CaseRun.keepsLowercase = true := by decide +kernel

theorem uppercaseExceptions_keep : uppercaseExceptions.all CaseRun.keepsLowercase = true := by
  decide +kernel

theorem lowercase_of_map? {runs : List CaseRun} (keep : runs.all CaseRun.keepsLowercase = true)
    (mapped : CaseRun.map? runs c = some d) :
    (c ∈ strays ∧ d ≠ 'İ') ∨ lowercase d = lowercase c := by
  obtain ⟨run, mem, covered, rfl⟩ := CaseRun.exists_of_map? mapped
  have kept := List.all_eq_true.1 keep run mem
  rw [CaseRun.keepsLowercase, Bool.or_eq_true, beq_iff_eq, List.all_eq_true] at kept
  rcases kept with same | kept
  · -- The run leaves its characters as they are.
    have low := (CaseRun.covers_iff.1 covered).1.1
    have code : run.imageOf c.toNat = c.toNat := by
      rw [CaseRun.imageOf]
      omega
    rw [code, Char.ofNat_toNat]
    exact .inr rfl
  · have fact := kept c.toNat (CaseRun.mem_sources covered)
    simp only [Bool.or_eq_true, Bool.and_eq_true, List.contains_iff_mem, bne_iff_ne, beq_iff_eq,
      Char.ofNat_toNat] at fact
    rcases fact with (stray | form) | same
    · exact .inl stray
    · rw [form, lowercase_of_lowercase form]
      exact .inr rfl
    · exact .inr same

theorem simpleFold_dotted : Current.simpleFold 'İ' = 'İ' := by decide +kernel

/-- A character and its folding have the same lowercase form, unless the character is a stray. -/
theorem simpleFold_cases (c : Char) :
    (c ∈ strays ∧ Current.simpleFold c ≠ 'İ') ∨ lowercase (Current.simpleFold c) = lowercase c := by
  rcases mapped : CaseRun.map? foldExceptions c with - | d
  case some =>
    rw [Current.simpleFold, mapped, Option.getD_some]
    exact lowercase_of_map? foldExceptions_keep mapped
  case none =>
    right
    have folding : Current.simpleFold c =
        (CaseRun.map? (lowercaseRuns ++ newLowercaseRuns) c).getD c := by
      rw [Current.simpleFold, mapped, Option.getD_none]
    by_cases dotted : c = 'İ'
    case pos =>
      rw [dotted, simpleFold_dotted]
    case neg =>
      -- The folding is the lowercase form.
      have form := lowercase_of_ne dotted
      rw [← folding] at form
      rw [lowercase_of_lowercase form, form]

/-- A character and its uppercase form have the same lowercase form, unless the character is a
stray. -/
theorem uppercase_cases (form : IsUppercase c d) :
    (c ∈ strays ∧ d ≠ 'İ') ∨ lowercase d = lowercase c := by
  rcases form with form | mapped
  · rw [form, lowercase_of_lowercase form]
    exact .inr rfl
  · exact lowercase_of_map? uppercaseExceptions_keep mapped

/-! ## Variants -/

/-- Of two variants with different lowercase forms one is a stray, and neither is the one character
with a longer form. -/
theorem CaseVariants.cases (variants : CaseVariants c d) :
    lowercase c = lowercase d ∨ (c ∈ strays ∨ d ∈ strays) ∧ c ≠ 'İ' ∧ d ≠ 'İ' := by
  induction variants with
  | @folding c d same =>
    have undotted {c d : Char} (same : Current.simpleFold c = Current.simpleFold d)
        (other : Current.simpleFold c ≠ 'İ') : d ≠ 'İ' := by
      rintro rfl
      exact other (same.trans simpleFold_dotted)
    rcases simpleFold_cases c with ⟨stray, other⟩ | left
    · exact .inr ⟨.inl stray, ne_dotted_of_stray stray, undotted same other⟩
    · rcases simpleFold_cases d with ⟨stray, other⟩ | right
      · exact .inr ⟨.inr stray, undotted same.symm other, ne_dotted_of_stray stray⟩
      · rw [← left, ← right, same]
        exact .inl rfl
  | lower form =>
    rw [form, lowercase_of_lowercase form]
    exact .inl rfl
  | upper form =>
    rcases uppercase_cases form with ⟨stray, other⟩ | same
    · exact .inr ⟨.inl stray, ne_dotted_of_stray stray, other⟩
    · exact .inl same.symm
  | symm variants ih =>
    rcases ih with same | ⟨stray, left, right⟩
    · exact .inl same.symm
    · exact .inr ⟨stray.symm, right, left⟩

/-- Two characters that differ in case only have the same lowercase form exactly if none of them is
a stray, or they are the same. -/
theorem CaseVariants.lowercase_eq_iff (variants : CaseVariants c d) :
    lowercase c = lowercase d ↔ c = d ∨ c ∉ strays ∧ d ∉ strays := by
  constructor
  · intro same
    by_cases stray : c ∈ strays ∨ d ∈ strays
    · exact .inl (eq_of_lowercase_eq same stray)
    · exact .inr (not_or.1 stray)
  · rintro (rfl | ⟨left, right⟩)
    · rfl
    · rcases variants.cases with same | ⟨stray, -⟩
      · exact same
      · exact absurd stray (not_or.2 ⟨left, right⟩)

theorem CaseVariants.length_lowercase_eq (variants : CaseVariants c d) :
    (lowercase c).length = (lowercase d).length := by
  rcases variants.cases with same | ⟨-, left, right⟩
  · rw [same]
  · rw [length_lowercase left, length_lowercase right]

theorem strays_folded : (strays.all fun c => c == 'ı' ||
    Current.simpleFold (Current.simpleFold c) == Current.simpleFold c &&
      c != Current.simpleFold c) = true := by
  decide +kernel

/-- Every stray has a variant that is another character. -/
theorem exists_variant_of_stray (stray : c ∈ strays) : ∃ d, CaseVariants c d ∧ c ≠ d := by
  have fact := List.all_eq_true.1 strays_folded c stray
  simp only [Bool.or_eq_true, Bool.and_eq_true, beq_iff_eq, bne_iff_ne] at fact
  rcases fact with rfl | ⟨same, other⟩
  · -- The small i without a dot is its own folding, but its capital is another letter's, too.
    exact ⟨'I', .upper (.inr rfl), by decide⟩
  · exact ⟨_, .folding same.symm, other⟩

/-! ## Texts -/

/-- Pieces of the same lengths make the same whole exactly if they are the same. -/
theorem flatMap_eq_iff {α β : Type} {f : α → List β} {xs ys : List α}
    (lengths : List.Forall₂ (fun x y => (f x).length = (f y).length) xs ys) :
    xs.flatMap f = ys.flatMap f ↔ List.Forall₂ (fun x y => f x = f y) xs ys := by
  induction lengths with
  | nil => exact iff_of_true rfl .nil
  | cons head tail ih =>
    rw [List.flatMap_cons, List.flatMap_cons, List.append_eq_append_iff_of_size_eq_left head, ih,
      List.forall₂_cons]

theorem forall₂_iff_of_forall₂ {α β : Type} {related p q : α → β → Prop} {xs : List α} {ys : List β}
    (pairs : List.Forall₂ related xs ys) (iff : ∀ {x y}, related x y → (p x y ↔ q x y)) :
    List.Forall₂ p xs ys ↔ List.Forall₂ q xs ys := by
  induction pairs with
  | nil => exact iff_of_true .nil .nil
  | cons head tail ih => rw [List.forall₂_cons, List.forall₂_cons, iff head, ih]

/-- Texts that differ in case only have the same lowercase form exactly if no stray stands where
they differ. -/
theorem lowercaseText_eq_iff {s t : String}
    (variants : List.Forall₂ CaseVariants s.toList t.toList) :
    lowercaseText s = lowercaseText t ↔
      List.Forall₂ (fun c d => c = d ∨ c ∉ strays ∧ d ∉ strays) s.toList t.toList := by
  rw [lowercaseText, lowercaseText,
    flatMap_eq_iff (variants.imp fun c d => CaseVariants.length_lowercase_eq)]
  exact forall₂_iff_of_forall₂ variants CaseVariants.lowercase_eq_iff

end RecordFilter.Unicode
