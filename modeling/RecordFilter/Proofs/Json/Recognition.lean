import RecordFilter.Proofs.Json.Numeral
import RecordFilter.Proofs.Json.Quoting
import RecordFilter.Proofs.Json.Readable

set_option autoImplicit false

/-!
# Texts in the grammar

The reader finds the tree of every text in the grammar (`ofText_document`), and where a tree that is
read can be read as a document, its text is in the grammar (`document_of_ofText`).

Both directions are inductions on the fuel of the readers, since the reader of a list asks the
reader of values with less fuel than it has itself. For the first, fuel for as many steps as a value
has characters is enough to read it (`ReadsBelow`); for the second, what each of the readers takes
is proved in one step for all of them (`FindsWritten`).
-/

namespace RecordFilter

namespace Grammar

open Source

/-! ## Blanks -/

theorem skipBlanks_append {blanks : List Char} (blank : Blanks blanks) (text : List Char) :
    skipBlanks (blanks ++ text) = skipBlanks text :=
  List.dropWhile_append_of_pos blank

/-- The blanks in front of a text, and the text without them. -/
theorem exists_blanks (text : List Char) :
    ∃ blanks, Blanks blanks ∧ text = blanks ++ skipBlanks text :=
  ⟨text.takeWhile isBlank, fun c mem => List.all_eq_true.1 List.all_takeWhile c mem,
    List.takeWhile_append_dropWhile.symm⟩

theorem skipBlanks_eq_nil_iff {text : List Char} : skipBlanks text = [] ↔ Blanks text := by
  constructor
  · intro nothing
    obtain ⟨blanks, blank, parts⟩ := exists_blanks text
    rwa [parts, nothing, List.append_nil]
  · intro blank
    have skipped := skipBlanks_append blank []
    rwa [List.append_nil] at skipped

theorem Blanks.append {blanks more : List Char} (blank : Blanks blanks) (blank_more : Blanks more) :
    Blanks (blanks ++ more) :=
  List.forall_mem_append.2 ⟨blank, blank_more⟩

theorem read_blanks {blanks : List Char} (blank : Blanks blanks) (fuel : Nat) (text : List Char) :
    Source.read fuel (blanks ++ text) = Source.read fuel text := by
  cases fuel with
  | zero => rfl
  | succ fuel => rw [Source.read, Source.read, skipBlanks_append blank]

theorem readItems_blanks {blanks : List Char} (blank : Blanks blanks) (fuel : Nat) (first : Bool)
    (text : List Char) : readItems fuel first (blanks ++ text) = readItems fuel first text := by
  cases fuel with
  | zero => rfl
  | succ fuel => rw [readItems, readItems, skipBlanks_append blank]

theorem readMembers_blanks {blanks : List Char} (blank : Blanks blanks) (fuel : Nat) (first : Bool)
    (text : List Char) : readMembers fuel first (blanks ++ text) = readMembers fuel first text := by
  cases fuel with
  | zero => rfl
  | succ fuel => rw [readMembers, readMembers, skipBlanks_append blank]

/-! ## Reading written values -/

theorem Magnitude.head {negative : Bool} {literal : NumberLiteral} {text : List Char}
    (written : Magnitude negative literal text) :
    ∃ c tail, text = c :: tail ∧ c.isDigit = true := by
  obtain @⟨whole, _, _, _, _, digits, -, -, -⟩ := written
  cases whole with
  | nil => exact absurd rfl digits.1
  | cons d ds => exact ⟨d, _, rfl, digits.2 d (.head _)⟩

/-- A value starts with a character that is no blank and closes no array. -/
theorem Value.head {tree : Source} {text : List Char} (written : Value tree text) :
    ∃ c tail, text = c :: tail ∧ isBlank c = false ∧ c ≠ ']' := by
  cases written with
  | null | yes | no | array | object => exact ⟨_, _, rfl, rfl, by decide⟩
  | string quoted =>
    cases quoted
    exact ⟨_, _, rfl, rfl, by decide⟩
  | number number =>
    cases number with
    | plain magnitude =>
      obtain ⟨c, tail, rfl, digit⟩ := magnitude.head
      exact ⟨c, tail, rfl, isBlank_of_isDigit digit, digit_ne digit rfl⟩
    | minus => exact ⟨_, _, rfl, rfl, by decide⟩

theorem Value.length_pos {tree : Source} {text : List Char} (written : Value tree text) :
    0 < text.length := by
  obtain ⟨c, tail, rfl, -⟩ := written.head
  exact Nat.succ_pos _

theorem read_number {literal : NumberLiteral} {text rest : List Char}
    (written : Number literal text) (stops : Stops rest) (fuel : Nat) :
    Source.read (fuel + 1) (text ++ rest) = (.number literal, some rest) := by
  cases written with
  | plain magnitude =>
    have found := readNumber_written magnitude stops
    obtain ⟨c, tail, rfl, digit⟩ := magnitude.head
    rw [List.cons_append, read_digit fuel digit, afterSign_eq_number_iff]
    exact ⟨rest, rfl, found⟩
  | minus magnitude =>
    rw [List.cons_append, read_minus, afterSign_eq_number_iff]
    exact ⟨rest, rfl, readNumber_written magnitude stops⟩

theorem read_text {s : String} {text : List Char} (written : Text s text) (rest : List Char)
    (fuel : Nat) : Source.read (fuel + 1) (text ++ rest) = (.string (some s), some rest) := by
  obtain ⟨characters⟩ := written
  rw [List.cons_append, List.append_assoc, List.singleton_append, Source.read, skipBlanks_cons rfl]
  simp only [if_true, readText_written characters]

theorem readName_written {key : String} {name : List Char} (written : Text key name)
    (rest : List Char) : readName (name ++ rest) = (.ok (some key), some rest) := by
  obtain ⟨characters⟩ := written
  rw [List.cons_append, List.append_assoc, List.singleton_append, readName, skipBlanks_cons rfl]
  simp only [if_true, readText_written characters]

theorem readName_blanks {blanks : List Char} (blank : Blanks blanks) (text : List Char) :
    readName (blanks ++ text) = readName text := by
  rw [readName, readName, skipBlanks_append blank]

/-! ### Steps of the readers -/

theorem read_bracket (fuel : Nat) (text : List Char) :
    Source.read (fuel + 1) ('[' :: text) =
      let (items, stop, rest) := readItems fuel true text
      (.array items stop, rest) :=
  rfl

theorem read_brace (fuel : Nat) (text : List Char) :
    Source.read (fuel + 1) ('\x7b' :: text) =
      let (members, stop, rest) := readMembers fuel true text
      (.object members stop, rest) :=
  rfl

theorem readItems_close (fuel : Nat) (first : Bool) (rest : List Char) :
    readItems (fuel + 1) first (']' :: rest) = ([], none, some rest) :=
  rfl

theorem readItems_first {fuel : Nat} {c : Char} {text rest : List Char} {item : Source}
    (not_blank : isBlank c = false) (not_close : c ≠ ']')
    (found : Source.read fuel (c :: text) = (item, some rest)) :
    readItems (fuel + 1) true (c :: text) =
      let (items, stop, rest) := readItems fuel false rest
      (item :: items, stop, rest) := by
  rw [readItems, skipBlanks_cons not_blank]
  simp only [if_neg not_close, true_or, if_true, found]

theorem readItems_comma {fuel : Nat} {text rest : List Char} {item : Source}
    (found : Source.read fuel text = (item, some rest)) :
    readItems (fuel + 1) false (',' :: text) =
      let (items, stop, rest) := readItems fuel false rest
      (item :: items, stop, rest) := by
  rw [readItems, skipBlanks_cons rfl]
  simp [found]

theorem readMembers_close (fuel : Nat) (first : Bool) (rest : List Char) :
    readMembers (fuel + 1) first ('\x7d' :: rest) = ([], none, some rest) :=
  rfl

theorem readMembers_first {fuel : Nat} {name : MemberName} {value : Source}
    {text behind valueText rest : List Char} (named : readName ('"' :: text) = (name, some behind))
    (colon : skipBlanks behind = ':' :: valueText)
    (found : Source.read fuel valueText = (value, some rest)) :
    readMembers (fuel + 1) true ('"' :: text) =
      let (members, stop, rest) := readMembers fuel false rest
      ((name, value) :: members, stop, rest) := by
  rw [readMembers, skipBlanks_cons rfl]
  simp [named, colon, found]

theorem readMembers_comma {fuel : Nat} {name : MemberName} {value : Source}
    {text behind valueText rest : List Char} (named : readName text = (name, some behind))
    (colon : skipBlanks behind = ':' :: valueText)
    (found : Source.read fuel valueText = (value, some rest)) :
    readMembers (fuel + 1) false (',' :: text) =
      let (members, stop, rest) := readMembers fuel false rest
      ((name, value) :: members, stop, rest) := by
  rw [readMembers, skipBlanks_cons rfl]
  simp [named, colon, found]

/-! ### Lists and values -/

/-- With fuel below a bound, values of no more characters than that are read. -/
def ReadsBelow (bound : Nat) : Prop :=
  ∀ (fuel : Nat) {tree : Source} {text rest : List Char}, fuel < bound → text.length ≤ fuel →
    Value tree text → Stops rest → Source.read fuel (text ++ rest) = (tree, some rest)

/-- Behind an entry come blanks and then a comma or the bracket that closes the list. -/
theorem stops_following {α : Type} {Entry : α → List Char → Prop} {entries : List α}
    {behind more : List Char} (blank : Blanks behind) (written : Following Entry entries more)
    {close : Char} (closes : close = ']' ∨ close = '\x7d') (rest : List Char) :
    Stops (behind ++ (more ++ close :: rest)) := by
  refine Stops.blanks blank ?_
  cases written with
  | nil => exact stops_cons rest (.inr (.inr closes))
  | cons => exact stops_cons _ (.inr (.inl rfl))

theorem readItems_following {bound : Nat} (reads : ReadsBelow bound) {items : List Source}
    {more : List Char} (written : Following Value items more) (rest : List Char) {fuel : Nat}
    (below : fuel ≤ bound) (enough : more.length < fuel) :
    readItems fuel false (more ++ ']' :: rest) = (items, none, some rest) := by
  -- Each item takes a step and, with its comma, at least two characters.
  induction written generalizing fuel with
  | nil =>
    obtain ⟨fuel, rfl⟩ : ∃ n, fuel = n + 1 := ⟨fuel - 1, by omega⟩
    exact readItems_close fuel false rest
  | @cons item items before text behind more blank value blank_behind following ih =>
    obtain ⟨fuel, rfl⟩ : ∃ n, fuel = n + 1 := ⟨fuel - 1, by omega⟩
    simp only [List.length_cons, List.length_append] at enough
    have some_char := value.length_pos
    have found := reads fuel (by omega) (by omega) value
      (stops_following blank_behind following (.inl rfl) rest)
    have found_blanks := (read_blanks blank fuel _).trans found
    simp only [List.cons_append, List.append_assoc]
    rw [readItems_comma found_blanks, readItems_blanks blank_behind,
      ih (by omega) (by omega)]

theorem readItems_listed {bound : Nat} (reads : ReadsBelow bound) {items : List Source}
    {body : List Char} (written : Listed Value items body) (rest : List Char) {fuel : Nat}
    (below : fuel ≤ bound) (enough : body.length < fuel) :
    readItems fuel true (body ++ ']' :: rest) = (items, none, some rest) := by
  obtain ⟨fuel, rfl⟩ : ∃ n, fuel = n + 1 := ⟨fuel - 1, by omega⟩
  cases written with
  | empty blank =>
    rw [readItems_blanks blank]
    exact readItems_close fuel true rest
  | @cons item items before text behind more blank value blank_behind following =>
    simp only [List.length_append] at enough
    have some_char := value.length_pos
    have found := reads fuel (by omega) (by omega) value
      (stops_following blank_behind following (.inl rfl) rest)
    -- The reader looks at the first character of an item to see that the list is not closed.
    obtain ⟨c, tail, rfl, not_blank, not_close⟩ := value.head
    simp only [List.append_assoc, List.cons_append] at found ⊢
    rw [readItems_blanks blank, readItems_first not_blank not_close found,
      readItems_blanks blank_behind,
      readItems_following reads following rest (by omega) (by omega)]

/-- The name of a member is read, and then, behind the colon, its value. -/
theorem read_member {bound : Nat} (reads : ReadsBelow bound) {member : MemberName × Source}
    {text rest : List Char} (written : Member Value member text) (fuel : Nat) (below : fuel < bound)
    (enough : text.length ≤ fuel) (stops : Stops rest) :
    ∃ body behind valueText, text ++ rest = '"' :: body ∧
      readName (text ++ rest) = (member.1, some behind) ∧
      skipBlanks behind = ':' :: valueText ∧
      Source.read fuel valueText = (member.2, some rest) := by
  obtain @⟨key, value, name, behind, before, text, named, blank_behind, blank, value⟩ := written
  simp only [List.length_append, List.length_cons] at enough
  have found := reads fuel below (by omega) value stops
  have found_blanks := (read_blanks blank fuel _).trans found
  obtain ⟨body, starts⟩ : ∃ body, name = '"' :: body := by
    cases named
    exact ⟨_, rfl⟩
  simp only [List.append_assoc, List.cons_append]
  refine ⟨body ++ (behind ++ ':' :: (before ++ (text ++ rest))), _, _, ?_,
    readName_written named _, ?_, found_blanks⟩
  · rw [starts, List.cons_append]
  · rw [skipBlanks_append blank_behind, skipBlanks_cons rfl]

theorem Member.length_pos {member : MemberName × Source} {text : List Char}
    (written : Member Value member text) : 0 < text.length := by
  obtain ⟨named, -, -, -⟩ := written
  cases named
  exact Nat.succ_pos _

theorem readMembers_following {bound : Nat} (reads : ReadsBelow bound)
    {members : List (MemberName × Source)} {more : List Char}
    (written : Following (Member Value) members more) (rest : List Char) {fuel : Nat}
    (below : fuel ≤ bound) (enough : more.length < fuel) :
    readMembers fuel false (more ++ '\x7d' :: rest) = (members, none, some rest) := by
  induction written generalizing fuel with
  | nil =>
    obtain ⟨fuel, rfl⟩ : ∃ n, fuel = n + 1 := ⟨fuel - 1, by omega⟩
    exact readMembers_close fuel false rest
  | @cons member members before text behind more blank written blank_behind following ih =>
    obtain ⟨fuel, rfl⟩ : ∃ n, fuel = n + 1 := ⟨fuel - 1, by omega⟩
    simp only [List.length_cons, List.length_append] at enough
    have some_char := written.length_pos
    obtain ⟨_, _, _, -, named, colon, found⟩ := read_member reads written fuel (by omega)
      (by omega) (stops_following blank_behind following (.inr rfl) rest)
    have named_blanks := (readName_blanks blank _).trans named
    simp only [List.cons_append, List.append_assoc]
    rw [readMembers_comma named_blanks colon found, readMembers_blanks blank_behind,
      ih (by omega) (by omega)]

theorem readMembers_listed {bound : Nat} (reads : ReadsBelow bound)
    {members : List (MemberName × Source)} {body : List Char}
    (written : Listed (Member Value) members body) (rest : List Char) {fuel : Nat}
    (below : fuel ≤ bound) (enough : body.length < fuel) :
    readMembers fuel true (body ++ '\x7d' :: rest) = (members, none, some rest) := by
  obtain ⟨fuel, rfl⟩ : ∃ n, fuel = n + 1 := ⟨fuel - 1, by omega⟩
  cases written with
  | empty blank =>
    rw [readMembers_blanks blank]
    exact readMembers_close fuel true rest
  | @cons member members before text behind more blank written blank_behind following =>
    simp only [List.length_append] at enough
    have some_char := written.length_pos
    obtain ⟨_, _, _, starts, named, colon, found⟩ := read_member reads written fuel (by omega)
      (by omega) (stops_following blank_behind following (.inr rfl) rest)
    simp only [List.append_assoc]
    rw [readMembers_blanks blank]
    rw [starts] at named ⊢
    rw [readMembers_first named colon found, readMembers_blanks blank_behind,
      readMembers_following reads following rest (by omega) (by omega)]

theorem readsBelow (bound : Nat) : ReadsBelow bound := by
  induction bound with
  | zero => exact fun fuel _ _ _ below => absurd below (Nat.not_lt_zero fuel)
  | succ bound ih =>
    intro fuel tree text rest below enough written stops
    have some_char := written.length_pos
    obtain ⟨fuel, rfl⟩ : ∃ n, fuel = n + 1 := ⟨fuel - 1, by omega⟩
    -- Only lists look further; what is inside the brackets is two characters shorter.
    cases written with
    | null | yes | no => rfl
    | number number => exact read_number number stops fuel
    | string quoted => exact read_text quoted rest fuel
    | array listed =>
      rw [List.length_cons, List.length_append, List.length_singleton] at enough
      rw [List.cons_append, List.append_assoc, List.singleton_append, read_bracket,
        readItems_listed ih listed rest (by omega) (by omega)]
    | object listed =>
      rw [List.length_cons, List.length_append, List.length_singleton] at enough
      rw [List.cons_append, List.append_assoc, List.singleton_append, read_brace,
        readMembers_listed ih listed rest (by omega) (by omega)]

/-- The reader finds the tree of a value that is a text of its own, with nothing behind it. -/
theorem ofText_value {tree : Source} {text : List Char} (value : Value tree text) :
    ofText (String.ofList text) = (tree, some []) := by
  have found := readsBelow _ (3 * text.length + 1) (Nat.lt_succ_self _) (by omega) value stops_nil
  rw [List.append_nil] at found
  rw [ofText, String.toList_ofList]
  exact found

/-- The reader finds the tree of a text in the grammar, and only blanks behind it. -/
theorem ofText_document {tree : Source} {text : String} (document : Document tree text.toList) :
    ∃ blanks, ofText text = (tree, some blanks) ∧ skipBlanks blanks = [] := by
  rw [ofText]
  generalize text.toList = text at document
  obtain @⟨before, written, behind, blank, value, blank_behind⟩ := document
  have stops : Stops behind := by
    have := Stops.blanks blank_behind stops_nil
    rwa [List.append_nil] at this
  refine ⟨behind, ?_, skipBlanks_eq_nil_iff.2 blank_behind⟩
  rw [read_blanks blank]
  refine readsBelow _ _ (Nat.lt_succ_self _) ?_ value stops
  simp only [List.length_append]
  omega

/-! ## Values that were read -/

theorem word_of_readWord {word text rest : List Char} (taken : readWord word text = .ok rest) :
    text = word ++ rest := by
  induction word generalizing text with
  | nil =>
    cases taken
    rfl
  | cons w word ih =>
    cases text with
    | nil => cases taken
    | cons c text =>
      rw [readWord] at taken
      split at taken
      case isTrue same => rw [same, List.cons_append, ih taken]
      case isFalse => cases taken

theorem word_of_afterWord {value tree : Source} {word text rest : List Char}
    (found : afterWord value word text = (tree, some rest)) :
    tree = value ∧ text = word ++ rest := by
  rw [afterWord] at found
  split at found
  case h_1 behind taken =>
    cases found
    exact ⟨rfl, word_of_readWord taken⟩
  case h_2 => cases found

theorem number_of_afterSign {negative : Bool} {tree : Source} {text rest : List Char}
    (found : afterSign negative text = (tree, some rest)) :
    ∃ literal written, tree = .number literal ∧ Magnitude negative literal written ∧
      text = written ++ rest := by
  rw [afterSign] at found
  split at found
  case h_1 literal behind taken =>
    cases found
    obtain ⟨written, magnitude, parts⟩ := written_of_readNumber taken
    exact ⟨literal, written, rfl, magnitude, parts⟩
  case h_2 => cases found

theorem written_of_readName {key : String} {text rest : List Char}
    (found : readName text = (.ok (some key), some rest)) :
    ∃ before name, Blanks before ∧ Text key name ∧ text = before ++ (name ++ rest) := by
  obtain ⟨before, blank, parts⟩ := exists_blanks text
  rw [readName] at found
  cases starts : skipBlanks text with
  | nil =>
    rw [starts] at found
    cases found
  | cons c tail =>
    rw [starts] at found parts
    dsimp only at found
    split at found
    case isTrue quote =>
      split at found
      case h_1 content behind taken =>
        cases found
        obtain ⟨name, named, written⟩ := written_of_readText taken
        exact ⟨before, name, blank, named, by rw [parts, quote, written]⟩
      case h_2 => cases found
    case isFalse => cases found

/-- The readers with the given fuel take only what is in the grammar, if it can be read as a
document: values, and lists at their start and behind an entry. -/
structure FindsWritten (fuel : Nat) : Prop where
  value : ∀ {text rest : List Char} {tree : Source} {depth : Nat},
    Source.read fuel text = (tree, some rest) → tree.Readable depth →
      ∃ before written, Blanks before ∧ Value tree written ∧ text = before ++ (written ++ rest)
  listed : ∀ {text rest : List Char} {items : List Source} {stop : Option Fault} {depth : Nat},
    readItems fuel true text = (items, stop, some rest) → (∀ item ∈ items, item.Readable depth) →
      ∃ body, Listed Value items body ∧ text = body ++ ']' :: rest
  following : ∀ {text rest : List Char} {items : List Source} {stop : Option Fault} {depth : Nat},
    readItems fuel false text = (items, stop, some rest) → (∀ item ∈ items, item.Readable depth) →
      ∃ blanks more, Blanks blanks ∧ Following Value items more ∧
        text = blanks ++ (more ++ ']' :: rest)
  listedMembers : ∀ {text rest : List Char} {members : List (MemberName × Source)}
    {stop : Option Fault} {depth : Nat}, readMembers fuel true text = (members, stop, some rest) →
      (∀ member ∈ members, (∃ key, member.1 = .ok (some key)) ∧ member.2.Readable depth) →
        ∃ body, Listed (Member Value) members body ∧ text = body ++ '\x7d' :: rest
  followingMembers : ∀ {text rest : List Char} {members : List (MemberName × Source)}
    {stop : Option Fault} {depth : Nat}, readMembers fuel false text = (members, stop, some rest) →
      (∀ member ∈ members, (∃ key, member.1 = .ok (some key)) ∧ member.2.Readable depth) →
        ∃ blanks more, Blanks blanks ∧ Following (Member Value) members more ∧
          text = blanks ++ (more ++ '\x7d' :: rest)

theorem written_of_read {fuel : Nat} (finds : FindsWritten fuel) {text rest : List Char}
    {tree : Source} {depth : Nat} (found : Source.read (fuel + 1) text = (tree, some rest))
    (readable : tree.Readable depth) :
    ∃ before written, Blanks before ∧ Value tree written ∧ text = before ++ (written ++ rest) := by
  obtain ⟨before, blank, parts⟩ := exists_blanks text
  rw [Source.read] at found
  cases starts : skipBlanks text with
  | nil =>
    rw [starts] at found
    cases found
  | cons c tail =>
    rw [starts] at found parts
    -- The first character says which kind of value it is.
    suffices ∃ written, Value tree written ∧ c :: tail = written ++ rest by
      obtain ⟨written, value, same⟩ := this
      exact ⟨before, written, blank, value, by rw [parts, same]⟩
    dsimp only at found
    split at found
    case isTrue quote =>
      split at found
      case h_1 content behind taken =>
        cases found
        obtain ⟨s, rfl⟩ := readable_string_iff.1 readable
        obtain ⟨written, quoted, same⟩ := written_of_readText taken
        exact ⟨written, .string quoted, by rw [quote, same]⟩
      case h_2 => cases found
    split at found
    case isTrue bracket =>
      generalize list : readItems fuel true tail = result at found
      obtain ⟨items, stop, behind⟩ := result
      cases found
      obtain ⟨rfl, inner, -, each⟩ := readable_array_iff.1 readable
      obtain ⟨body, listed, rfl⟩ := finds.listed list each
      exact ⟨_, .array listed, by simp [bracket]⟩
    split at found
    case isTrue brace =>
      generalize list : readMembers fuel true tail = result at found
      obtain ⟨members, stop, behind⟩ := result
      cases found
      obtain ⟨rfl, inner, -, each⟩ := readable_object_iff.1 readable
      obtain ⟨body, listed, rfl⟩ := finds.listedMembers list each
      exact ⟨_, .object listed, by simp [brace]⟩
    split at found
    case isTrue first =>
      obtain ⟨rfl, rfl⟩ := word_of_afterWord found
      exact ⟨_, .null, by rw [first]; rfl⟩
    split at found
    case isTrue first =>
      obtain ⟨rfl, rfl⟩ := word_of_afterWord found
      exact ⟨_, .yes, by rw [first]; rfl⟩
    split at found
    case isTrue first =>
      obtain ⟨rfl, rfl⟩ := word_of_afterWord found
      exact ⟨_, .no, by rw [first]; rfl⟩
    split at found
    case isTrue sign =>
      obtain ⟨literal, written, rfl, magnitude, rfl⟩ := number_of_afterSign found
      exact ⟨_, .number (.minus magnitude), by rw [sign]; rfl⟩
    split at found
    case isTrue =>
      obtain ⟨literal, written, rfl, magnitude, same⟩ := number_of_afterSign found
      exact ⟨_, .number (.plain magnitude), same⟩
    case isFalse => cases found

/-- A list of items ends, or goes on with an item. -/
theorem readItems_cases {fuel : Nat} {first : Bool} {text rest : List Char} {items : List Source}
    {stop : Option Fault} (found : readItems (fuel + 1) first text = (items, stop, some rest)) :
    ∃ blanks c tail, Blanks blanks ∧ text = blanks ++ c :: tail ∧
      (c = ']' ∧ items = [] ∧ tail = rest ∨
        (first = true ∨ c = ',') ∧ ∃ item others behind, items = item :: others ∧
          Source.read fuel (if first then c :: tail else tail) = (item, some behind) ∧
          readItems fuel false behind = (others, stop, some rest)) := by
  obtain ⟨blanks, blank, parts⟩ := exists_blanks text
  rw [readItems] at found
  cases starts : skipBlanks text with
  | nil =>
    rw [starts] at found
    cases found
  | cons c tail =>
    rw [starts] at found parts
    refine ⟨blanks, c, tail, blank, parts, ?_⟩
    dsimp only at found
    split at found
    case isTrue close =>
      cases found
      exact .inl ⟨close, rfl, rfl⟩
    split at found
    case isTrue goes_on =>
      split at found
      case h_1 => cases found
      case h_2 item behind taken =>
        generalize others_found : readItems fuel false behind = result at found
        obtain ⟨others, stop', rest'⟩ := result
        cases found
        exact .inr ⟨goes_on, item, others, behind, rfl, taken, others_found⟩
    case isFalse => cases found

/-- A list of members ends, or goes on with a member. -/
theorem readMembers_cases {fuel : Nat} {first : Bool} {text rest : List Char}
    {members : List (MemberName × Source)} {stop : Option Fault}
    (found : readMembers (fuel + 1) first text = (members, stop, some rest)) :
    ∃ blanks c tail, Blanks blanks ∧ text = blanks ++ c :: tail ∧
      (c = '\x7d' ∧ members = [] ∧ tail = rest ∨
        (first = true ∨ c = ',') ∧ ∃ name value others nameEnd valueText behind,
          members = (name, value) :: others ∧
          readName (if first then c :: tail else tail) = (name, some nameEnd) ∧
          skipBlanks nameEnd = ':' :: valueText ∧
          Source.read fuel valueText = (value, some behind) ∧
          readMembers fuel false behind = (others, stop, some rest)) := by
  obtain ⟨blanks, blank, parts⟩ := exists_blanks text
  rw [readMembers] at found
  cases starts : skipBlanks text with
  | nil =>
    rw [starts] at found
    cases found
  | cons c tail =>
    rw [starts] at found parts
    refine ⟨blanks, c, tail, blank, parts, ?_⟩
    dsimp only at found
    split at found
    case isTrue close =>
      cases found
      exact .inl ⟨close, rfl, rfl⟩
    split at found
    case isTrue goes_on =>
      split at found
      case h_1 => cases found
      case h_2 name nameEnd named =>
        split at found
        case h_1 valueText colon =>
          split at found
          case h_1 => cases found
          case h_2 value behind taken =>
            generalize others_found : readMembers fuel false behind = result at found
            obtain ⟨others, stop', rest'⟩ := result
            cases found
            exact .inr ⟨goes_on, name, value, others, nameEnd, valueText, behind, rfl, named, colon,
              taken, others_found⟩
        case h_2 => cases found
        case h_3 => cases found
    case isFalse => cases found

/-- A name, a colon and a value that were read are a written member. -/
theorem member_of_read {fuel : Nat} (finds : FindsWritten fuel) {name : MemberName} {value : Source}
    {text nameEnd valueText behind : List Char} {depth : Nat}
    (named : readName text = (name, some nameEnd)) (colon : skipBlanks nameEnd = ':' :: valueText)
    (found : Source.read fuel valueText = (value, some behind))
    (readable : (∃ key, name = .ok (some key)) ∧ value.Readable depth) :
    ∃ before written, Blanks before ∧ Member Value (name, value) written ∧
      text = before ++ (written ++ behind) := by
  obtain ⟨⟨key, rfl⟩, readable⟩ := readable
  obtain ⟨before, nameText, blank, quoted, rfl⟩ := written_of_readName named
  obtain ⟨blanks, blank_end, parts⟩ := exists_blanks nameEnd
  obtain ⟨blanks', written, blank_value, value_written, rfl⟩ := finds.value found readable
  refine ⟨before, _, blank, .named quoted blank_end blank_value value_written, ?_⟩
  rw [parts, colon]
  simp only [List.append_assoc, List.cons_append]

section

variable {fuel depth : Nat} {text rest : List Char} {stop : Option Fault}

theorem listed_of_readItems (finds : FindsWritten fuel) {items : List Source}
    (found : readItems (fuel + 1) true text = (items, stop, some rest))
    (each : ∀ item ∈ items, item.Readable depth) :
    ∃ body, Listed Value items body ∧ text = body ++ ']' :: rest := by
  obtain ⟨blanks, c, tail, blank, rfl, ⟨rfl, rfl, rfl⟩ | ⟨-, item, others, behind, rfl, taken,
    goes_on⟩⟩ := readItems_cases found
  · exact ⟨blanks, .empty blank, rfl⟩
  obtain ⟨readable, each⟩ := List.forall_mem_cons.1 each
  obtain ⟨before, written, blank_before, value, same⟩ := finds.value taken readable
  obtain ⟨behind, more, blank_behind, following, rfl⟩ := finds.following goes_on each
  -- The blanks in front are skipped twice, for the list and for its first item.
  refine ⟨_, .cons (blank.append blank_before) value blank_behind following, ?_⟩
  rw [if_pos rfl] at same
  simp only [same, List.append_assoc]

theorem following_of_readItems (finds : FindsWritten fuel) {items : List Source}
    (found : readItems (fuel + 1) false text = (items, stop, some rest))
    (each : ∀ item ∈ items, item.Readable depth) :
    ∃ blanks more, Blanks blanks ∧ Following Value items more ∧
      text = blanks ++ (more ++ ']' :: rest) := by
  obtain ⟨blanks, c, tail, blank, rfl, ⟨rfl, rfl, rfl⟩ | ⟨comma, item, others, behind, rfl, taken,
    goes_on⟩⟩ := readItems_cases found
  · exact ⟨blanks, [], blank, .nil, rfl⟩
  obtain ⟨readable, each⟩ := List.forall_mem_cons.1 each
  obtain ⟨before, written, blank_before, value, same⟩ := finds.value taken readable
  obtain ⟨behind, more, blank_behind, following, rfl⟩ := finds.following goes_on each
  obtain rfl : c = ',' := comma.resolve_left Bool.false_ne_true
  refine ⟨blanks, _, blank, .cons blank_before value blank_behind following, ?_⟩
  rw [if_neg Bool.false_ne_true] at same
  simp only [same, List.append_assoc, List.cons_append]

theorem listed_of_readMembers (finds : FindsWritten fuel) {members : List (MemberName × Source)}
    (found : readMembers (fuel + 1) true text = (members, stop, some rest))
    (each : ∀ member ∈ members, (∃ key, member.1 = .ok (some key)) ∧ member.2.Readable depth) :
    ∃ body, Listed (Member Value) members body ∧ text = body ++ '\x7d' :: rest := by
  obtain ⟨blanks, c, tail, blank, rfl, ⟨rfl, rfl, rfl⟩ | ⟨-, name, value, others, nameEnd,
    valueText, behind, rfl, named, colon, taken, goes_on⟩⟩ := readMembers_cases found
  · exact ⟨blanks, .empty blank, rfl⟩
  obtain ⟨readable, each⟩ := List.forall_mem_cons.1 each
  obtain ⟨before, written, blank_before, member, same⟩ :=
    member_of_read finds named colon taken readable
  obtain ⟨behind, more, blank_behind, following, rfl⟩ := finds.followingMembers goes_on each
  refine ⟨_, .cons (blank.append blank_before) member blank_behind following, ?_⟩
  rw [if_pos rfl] at same
  simp only [same, List.append_assoc]

theorem following_of_readMembers (finds : FindsWritten fuel) {members : List (MemberName × Source)}
    (found : readMembers (fuel + 1) false text = (members, stop, some rest))
    (each : ∀ member ∈ members, (∃ key, member.1 = .ok (some key)) ∧ member.2.Readable depth) :
    ∃ blanks more, Blanks blanks ∧ Following (Member Value) members more ∧
      text = blanks ++ (more ++ '\x7d' :: rest) := by
  obtain ⟨blanks, c, tail, blank, rfl, ⟨rfl, rfl, rfl⟩ | ⟨comma, name, value, others, nameEnd,
    valueText, behind, rfl, named, colon, taken, goes_on⟩⟩ := readMembers_cases found
  · exact ⟨blanks, [], blank, .nil, rfl⟩
  obtain ⟨readable, each⟩ := List.forall_mem_cons.1 each
  obtain ⟨before, written, blank_before, member, same⟩ :=
    member_of_read finds named colon taken readable
  obtain ⟨behind, more, blank_behind, following, rfl⟩ := finds.followingMembers goes_on each
  obtain rfl : c = ',' := comma.resolve_left Bool.false_ne_true
  refine ⟨blanks, _, blank, .cons blank_before member blank_behind following, ?_⟩
  rw [if_neg Bool.false_ne_true] at same
  simp only [same, List.append_assoc, List.cons_append]

end

/-- Without fuel nothing is read; with one step more, each reader asks those with less. -/
theorem findsWritten (fuel : Nat) : FindsWritten fuel := by
  induction fuel with
  | zero =>
    constructor
    case value =>
      intro _ _ _ _ found
      cases found
    all_goals
      intro _ _ _ _ _ found
      cases found
  | succ fuel ih =>
    constructor
    · exact written_of_read ih
    · exact listed_of_readItems ih
    · exact following_of_readItems ih
    · exact listed_of_readMembers ih
    · exact following_of_readMembers ih

/-- A text whose tree can be read as a document, with nothing but blanks behind it, is in the
grammar. -/
theorem document_of_ofText {text : String} {tree : Source} {blanks : List Char} {depth : Nat}
    (found : ofText text = (tree, some blanks)) (readable : tree.Readable depth)
    (blank : skipBlanks blanks = []) : Document tree text.toList := by
  obtain ⟨before, written, blank_before, value, parts⟩ := (findsWritten _).value found readable
  rw [parts]
  exact .padded blank_before value (skipBlanks_eq_nil_iff.1 blank)

end Grammar

end RecordFilter
