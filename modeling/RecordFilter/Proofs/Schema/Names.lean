import RecordFilter.Example.Task
import RecordFilter.Proofs.Record.Descent
import RecordFilter.Proofs.Schema.Acceptance

set_option autoImplicit false

/-!
# Names of fields

The first segment of a path chooses the line of the table of values that answers. In the table of an
accepted declaration no two fields have a name in common, so no line hides another one: a field
answers for every path that begins with its name (`Expansion.fieldValue_of_mem`), and a path that
begins with no field's name is not found (`Expansion.fieldValue_of_absent`).

The main result is `Declaration.names_resolve`: the constants stand for paths to their own fields, a
nested field answers for what stands behind its name, and no path leads to a hidden field. It is
about whatever the fields offer to the table; what a record's fields offer is of the right kind
(`Expansion.isRecord_of_holds`).
-/

namespace RecordFilter

open Outcome

/-! ## Single fields -/

namespace Held

/-- Whether the field holds a record of its own. -/
def isRecord : Held → Bool
  | .content _ => false
  | .record _ _ => true

/-- The value of the field as a whole. -/
def whole : Held → Value
  | .content value => value
  | .record _ selfValue => selfValue

/-- What the field answers for the path behind its name; there is nothing behind a plain one. -/
def behind : Held → String → Except Error (Option Value)
  | .content _, _ => .ok none
  | .record fieldValue _, rest => fieldValue rest

/-- What the field answers for its name and the path behind it, if there is one. -/
def reached (held : Held) : Option String → Except Error (Option Value)
  | none => .ok (some held.whole)
  | some rest => held.behind rest

end Held

/-! ## Paths that begin with a name -/

namespace Path

theorem join_cons (first next : String) (more : List String) :
    join first (next :: more) = first ++ "." ++ join next more := by
  apply String.toList_injective
  rw [toList_join_cons, String.toList_append, String.toList_append, List.append_assoc]
  rfl

variable {name : String}

theorem split_segment (plain : IsSegment name) : split name = .ok (name, none) := by
  have found : segments name = .ok (name, []) :=
    segments_eq_ok_iff.2 ⟨List.forall_mem_singleton.2 plain, rfl⟩
  rw [Schema.split_eq, found]
  rfl

/-- A well-formed path behind a name is what is left when the name is cut off. -/
theorem split_dot (plain : IsSegment name) {rest : String} (wellFormed : ¬HasEmptySegment rest) :
    split (name ++ "." ++ rest) = .ok (name, some rest) := by
  cases found : segments rest with
  | error error => exact absurd (segments_eq_error_iff.1 found).1 wellFormed
  | ok segments =>
    obtain ⟨next, more⟩ := segments
    obtain ⟨others, rfl⟩ := segments_eq_ok_iff.1 found
    rw [← join_cons]
    apply split_eq_ok_some_iff.2
    exact ⟨next, more, segments_eq_ok_iff.2 ⟨List.forall_mem_cons.2 ⟨plain, others⟩, rfl⟩, rfl⟩

theorem not_hasEmptySegment_of_split {path first : String} {rest : Option String}
    (cut : split path = .ok (first, rest)) : ¬HasEmptySegment path := by
  intro empty
  have refused : segments path = .error (.malformedPath path) :=
    segments_eq_error_iff.2 ⟨empty, rfl⟩
  rw [Schema.split_eq, refused] at cut
  cases cut

end Path

namespace Schema

/-! ## Lines of a table -/

section Reply

variable {β : Type} {line line' : Arm → Option String → Except Error β} {otherwise : β}
variable {head : String} {rest : Option String} {table : List Arm}

/-- Lines with other names are passed over. -/
theorem reply_skip {before : List Arm} (others : ∀ arm ∈ before, arm.name ≠ head) :
    reply line otherwise head rest (before ++ table) = reply line otherwise head rest table := by
  induction before with
  | nil => rfl
  | cons arm before ih =>
    obtain ⟨other, others⟩ := List.forall_mem_cons.1 others
    rw [List.cons_append, reply, if_neg fun fits => other fits.1]
    exact ih others

theorem reply_of_absent (others : ∀ arm ∈ table, arm.name ≠ head) :
    reply line otherwise head rest table = .ok otherwise := by
  rw [← List.append_nil table, reply_skip others]
  rfl

/-- Only the lines with the name are asked. -/
theorem reply_congr (same : ∀ arm ∈ table, arm.name = head → line arm rest = line' arm rest) :
    reply line otherwise head rest table = reply line' otherwise head rest table := by
  induction table with
  | nil => rfl
  | cons arm table ih =>
    obtain ⟨first, others⟩ := List.forall_mem_cons.1 same
    rw [reply, reply, ih others]
    split
    case isTrue fits => exact first fits.1
    case isFalse => rfl

end Reply

/-- The lines of a field have its name and ask for it. -/
theorem valueArms_facts {e : ExposedField} : ∀ arm ∈ e.valueArms, arm.name = e.name ∧
    arm.asked = e.field := by
  rw [ExposedField.valueArms]
  split
  case isTrue => simp
  case isFalse => simp

/-- The lines of a field answer as the field does. A plain field leaves what stands behind its name
to the lines behind it, which do not have its name. -/
theorem reply_valueArms_self {held : String → Held} {e : ExposedField} {rest : Option String}
    {table : List Arm} (fits : (held e.field).isRecord = e.nested)
    (others : ∀ arm ∈ table, arm.name ≠ e.name) :
    reply (Arm.value held) none e.name rest (e.valueArms ++ table) =
      (held e.field).reached rest := by
  rw [ExposedField.valueArms]
  cases holds : held e.field with
  | content value =>
    have plain : ¬e.nested = true := by
      rw [← fits, holds]
      exact Bool.false_ne_true
    rw [if_neg plain]
    cases rest with
    | none => simp [reply, Arm.value, holds, Held.reached, Held.whole]
    | some rest =>
      have behind : reply (Arm.value held) none e.name (some rest) table = .ok none :=
        reply_of_absent others
      simp [reply, behind, Held.reached, Held.behind]
  | record fieldValue selfValue =>
    have nested : e.nested = true := by
      rw [← fits, holds]
      rfl
    rw [if_pos nested]
    cases rest with
    | none => simp [reply, Arm.value, holds, Held.reached, Held.whole]
    | some rest => simp [reply, Arm.value, holds, Held.reached, Held.behind]

/-! ## Whole tables -/

namespace Expansion

variable {expansion : Expansion} {held other : String → Held} {path first : String}
  {rest : Option String}

/-- What the table of values answers for a path, where the fields of a record are found under their
declared names. -/
def fieldValue (expansion : Expansion) (held : String → Held) (path : String) :
    Except Error (Option Value) :=
  answer (Arm.value held) none expansion.valueArms path

theorem fieldValue_of_split (cut : Path.split path = .ok (first, rest)) :
    expansion.fieldValue held path =
      reply (Arm.value held) none first rest expansion.valueArms := by
  rw [fieldValue, answer, cut]
  rfl

theorem mem_valueArms {arm : Arm} :
    arm ∈ expansion.valueArms →
      ∃ e ∈ expansion.exposed, arm.name = e.name ∧ arm.asked = e.field := by
  intro mem
  obtain ⟨e, exposed, line⟩ := List.mem_flatMap.1 mem
  exact ⟨e, exposed, valueArms_facts arm line⟩

/-- No line of the table has the name, so the path is not found. -/
theorem fieldValue_of_absent (cut : Path.split path = .ok (first, rest))
    (absent : ∀ e ∈ expansion.exposed, e.name ≠ first) :
    expansion.fieldValue held path = .ok none := by
  rw [fieldValue_of_split cut]
  apply reply_of_absent
  intro arm mem
  obtain ⟨e, exposed, name, -⟩ := mem_valueArms mem
  rw [name]
  exact absent e exposed

/-- Where no two fields have a name in common, a field answers for every path that begins with its
name. -/
theorem fieldValue_of_mem (apart : expansion.exposed.Pairwise ExposedField.Apart) {e : ExposedField}
    (mem : e ∈ expansion.exposed) (fits : (held e.field).isRecord = e.nested)
    (cut : Path.split path = .ok (e.name, rest)) :
    expansion.fieldValue held path = (held e.field).reached rest := by
  obtain ⟨before, after, parts⟩ := List.append_of_mem mem
  rw [parts, List.pairwise_append, List.pairwise_cons] at apart
  obtain ⟨-, ⟨apart_after, -⟩, apart_before⟩ := apart
  -- Lines of fields before this one are passed over, and those behind it do not have its name.
  rw [fieldValue_of_split cut, valueArms, parts, List.flatMap_append, List.flatMap_cons, reply_skip]
  · apply reply_valueArms_self fits
    intro arm line same
    obtain ⟨later, inside, line⟩ := List.mem_flatMap.1 line
    rw [(valueArms_facts arm line).1] at same
    exact (apart_after later inside).1 same.symm
  · intro arm line same
    obtain ⟨earlier, inside, line⟩ := List.mem_flatMap.1 line
    rw [(valueArms_facts arm line).1] at same
    exact (apart_before earlier inside e (.head _)).1 same

/-- A path reads no field but those with its first segment for a name. -/
theorem fieldValue_congr (cut : Path.split path = .ok (first, rest))
    (same : ∀ e ∈ expansion.exposed, e.name = first → other e.field = held e.field) :
    expansion.fieldValue other path = expansion.fieldValue held path := by
  rw [fieldValue_of_split cut, fieldValue_of_split cut]
  apply reply_congr
  intro arm mem name
  obtain ⟨e, exposed, line_name, asked⟩ := mem_valueArms mem
  have found : other arm.asked = held arm.asked := by
    rw [asked]
    exact same e exposed (line_name.symm.trans name)
  simp only [Arm.value, found]

/-- A record holds a record of its own in every nested field that rules see, and a value in every
plain one. -/
theorem exists_held_of_mem {shapeOf : String → Shape} {slots : List (Option ExposedField)} :
    ∀ (row : (fieldsOf shapeOf slots).Row) (e : ExposedField), some e ∈ slots →
      ∃ content, (some e, content) ∈ slots.zip ((fieldsOf shapeOf slots).held row) ∧
        content.isRecord = e.nested := by
  induction slots with
  | nil => exact fun _ _ mem => nomatch mem
  | cons slot slots ih =>
    -- The first field is found in front, all others by the rest of the row.
    rcases slot with - | first
    · rintro ⟨value, row⟩ e mem
      obtain ⟨content, inside, kind⟩ := ih row e (List.mem_of_ne_of_mem (by simp) mem)
      exact ⟨content, .tail _ inside, kind⟩
    · cases kind : first.nested with
      | true =>
        rw [fieldsOf, if_pos kind]
        rintro ⟨record, row⟩ e mem
        rcases List.mem_cons.1 mem with found | mem
        · cases found
          exact ⟨_, .head _, kind.symm⟩
        · obtain ⟨content, inside, kind⟩ := ih row e mem
          exact ⟨content, .tail _ inside, kind⟩
      | false =>
        rw [fieldsOf, if_neg (Bool.eq_false_iff.1 kind)]
        rintro ⟨value, row⟩ e mem
        rcases List.mem_cons.1 mem with found | mem
        · cases found
          exact ⟨_, .head _, kind.symm⟩
        · obtain ⟨content, inside, kind⟩ := ih row e mem
          exact ⟨content, .tail _ inside, kind⟩

/-- What the fields of a record hold is of the kind that its declaration says. -/
theorem isRecord_of_holds {shapeOf : String → Shape} (record : (expansion.shape shapeOf).Record)
    (holds : ∀ e content,
      (some e, content) ∈ expansion.slots.zip ((fieldsOf shapeOf expansion.slots).held record) →
        held e.field = content) :
    ∀ e ∈ expansion.exposed, (held e.field).isRecord = e.nested := by
  intro e mem
  obtain ⟨slot, inside, rfl⟩ := List.mem_filterMap.1 mem
  obtain ⟨content, pair, kind⟩ := exists_held_of_mem record e inside
  rw [holds e content pair, kind]

end Expansion

/-! ## Accepted declarations -/

/-- What the names of a declaration lead to in a record whose fields hold what `held` says of their
declared names. -/
structure NamesResolve (declaration : Declaration) (expansion : Expansion)
    (held : String → Held) : Prop where
  /-- All attributes can be read, so a field has no slot only if they hide it. -/
  readable : ∀ field ∈ declaration.fields, ∃ filter, field.filter = .ok filter
  /-- A field that rules see has a constant, whose text is the path to the field as a whole. -/
  own : ∀ field ∈ declaration.fields, ∀ e, field.slot = some e →
    (e.constant, e.name) ∈ expansion.constants ∧ ¬Path.HasEmptySegment e.name ∧
      expansion.fieldValue held e.name = .ok (some (held field.name).whole)
  /-- There are no other constants. -/
  of_constant : ∀ pair ∈ expansion.constants, ∃ field ∈ declaration.fields, ∃ e,
    field.slot = some e ∧ pair = (e.constant, e.name)
  /-- No constant is declared twice. -/
  constants_nodup : (expansion.constants.map Prod.fst).Nodup
  /-- No two constants have the same text. -/
  texts_nodup : (expansion.constants.map Prod.snd).Nodup
  /-- A nested field answers for the path behind its name, and there is nothing behind a plain
  one. -/
  behind : ∀ field ∈ declaration.fields, ∀ e, field.slot = some e →
    ∀ rest, ¬Path.HasEmptySegment rest →
      expansion.fieldValue held (e.name ++ "." ++ rest) = (held field.name).behind rest
  /-- A path reads only the field that rules see under its first segment. -/
  reads_named : ∀ (other : String → Held) (path first : String) (rest : Option String),
    Path.split path = .ok (first, rest) →
      (∀ field ∈ declaration.fields, ∀ e, field.slot = some e → e.name = first →
        other field.name = held field.name) →
      expansion.fieldValue other path = expansion.fieldValue held path
  /-- No path reads a hidden field. -/
  hidden_unread : ∀ other : String → Held,
    (∀ field ∈ declaration.fields, field.slot ≠ none → other field.name = held field.name) →
      ∀ path, expansion.fieldValue other path = expansion.fieldValue held path
  /-- A path that begins with no name in rules is not found, be it the declared name of a hidden or
  a renamed field. -/
  not_found : ∀ (path first : String) (rest : Option String),
    Path.split path = .ok (first, rest) →
      (∀ field ∈ declaration.fields, ∀ e, field.slot = some e → e.name ≠ first) →
      expansion.fieldValue held path = .ok none
  /-- The records of a shape of the declaration answer so, if they hold what `held` says. -/
  records : ∀ (shapeOf : String → Shape) (record : (expansion.shape shapeOf).Record),
    (∀ e content,
      (some e, content) ∈ expansion.slots.zip ((fieldsOf shapeOf expansion.slots).held record) →
        held e.field = content) →
      ∀ path, (expansion.shape shapeOf).fieldValue record path = expansion.fieldValue held path

section Accepted

variable {declaration : Declaration} {expansion : Expansion} {held other : String → Held}
  {path first : String} {rest : Option String}

/-- A field answers for every path that begins with its name in rules. -/
theorem fieldValue_of_slot (accepted : declaration.expand = .ok expansion)
    (fits : ∀ e ∈ expansion.exposed, (held e.field).isRecord = e.nested)
    {field : FieldDeclaration} (mem : field ∈ declaration.fields) {e : ExposedField}
    (slot : field.slot = some e) (cut : Path.split path = .ok (e.name, rest)) :
    expansion.fieldValue held path = (held field.name).reached rest := by
  have inside := (mem_exposed_iff accepted).2 ⟨field, mem, slot⟩
  obtain ⟨-, -, -, apart⟩ := expand_facts accepted
  rw [← (slot_facts slot).2]
  exact Expansion.fieldValue_of_mem apart inside (fits e inside) cut

/-- A path reads only the field with its first segment for a name in rules. -/
theorem fieldValue_congr_of_slot (accepted : declaration.expand = .ok expansion)
    (cut : Path.split path = .ok (first, rest))
    (same : ∀ field ∈ declaration.fields, ∀ e, field.slot = some e → e.name = first →
      other field.name = held field.name) :
    expansion.fieldValue other path = expansion.fieldValue held path := by
  apply Expansion.fieldValue_congr cut
  intro e inside name
  obtain ⟨field, mem, slot⟩ := (mem_exposed_iff accepted).1 inside
  rw [(slot_facts slot).2]
  exact same field mem e slot name

/-- A malformed path is refused before any field is asked. -/
theorem fieldValue_of_malformed {error : Error} (cut : Path.split path = .error error) :
    expansion.fieldValue held path = .error error := by
  rw [Expansion.fieldValue, answer, cut]
  rfl

end Accepted

/-- The names of an accepted declaration resolve in every record whose nested fields hold records
and whose plain ones hold values. -/
theorem Declaration.names_resolve {declaration : Declaration} {expansion : Expansion}
    (accepted : declaration.expand = .ok expansion) (held : String → Held)
    (fits : ∀ e ∈ expansion.exposed, (held e.field).isRecord = e.nested) :
    NamesResolve declaration expansion held := by
  obtain ⟨readable, -, -, apart⟩ := expand_facts accepted
  have inside : ∀ field ∈ declaration.fields, ∀ e, field.slot = some e → e ∈ expansion.exposed :=
    fun field mem e slot => (mem_exposed_iff accepted).2 ⟨field, mem, slot⟩
  constructor
  case readable => exact readable
  case own =>
    intro field mem e slot
    have cut := Path.split_segment (isSegment_of_mem_exposed accepted (inside field mem e slot))
    refine ⟨?_, Path.not_hasEmptySegment_of_split cut, ?_⟩
    · exact List.mem_map.2 ⟨e, inside field mem e slot, rfl⟩
    · exact fieldValue_of_slot accepted fits mem slot cut
  case of_constant =>
    intro pair mem
    obtain ⟨e, exposed, rfl⟩ := List.mem_map.1 mem
    obtain ⟨field, mem, slot⟩ := (mem_exposed_iff accepted).1 exposed
    exact ⟨field, mem, e, slot, rfl⟩
  -- The exposed fields are apart in both of the texts that make a constant.
  case constants_nodup =>
    rw [Expansion.constants, List.map_map]
    exact List.pairwise_map.2 (apart.imp fun different => different.2)
  case texts_nodup =>
    rw [Expansion.constants, List.map_map]
    exact List.pairwise_map.2 (apart.imp fun different => different.1)
  case behind =>
    intro field mem e slot rest wellFormed
    have plain := isSegment_of_mem_exposed accepted (inside field mem e slot)
    exact fieldValue_of_slot accepted fits mem slot (Path.split_dot plain wellFormed)
  case reads_named =>
    intro other path first rest cut same
    exact fieldValue_congr_of_slot accepted cut same
  case hidden_unread =>
    intro other same path
    cases cut : Path.split path with
    | error error => rw [fieldValue_of_malformed cut, fieldValue_of_malformed cut]
    | ok parts =>
      obtain ⟨first, rest⟩ := parts
      apply fieldValue_congr_of_slot accepted cut
      intro field mem e slot name
      apply same field mem
      rw [slot]
      exact Option.some_ne_none e
  case not_found =>
    intro path first rest cut missing
    apply Expansion.fieldValue_of_absent cut
    intro e exposed
    obtain ⟨field, mem, slot⟩ := (mem_exposed_iff accepted).1 exposed
    exact missing field mem e slot
  case records =>
    intro shapeOf record holds path
    exact fieldValue_eq_value expansion shapeOf record held holds path

/-! ## Fields with each other's names -/

/-- Members of a club: two fields have each other's declared names in rules, one is renamed and
nested, and one is hidden. -/
def member : Declaration :=
  Example.record "Member"
    [Example.declared "first" "String" [Example.renamed "last"],
     Example.declared "last" "String" [Example.renamed "first"],
     Example.declared "r#type" "Char" [],
     Example.declared "team" "Team" [Example.nested, Example.renamed "homeTeam"],
     Example.declared "secret" "UInt64" [.word "skip"]]

/-- The expansion of members. -/
def memberExpansion : Expansion :=
  ⟨"Member", [some ⟨"last", "LAST", "first", "String", false⟩,
    some ⟨"first", "FIRST", "last", "String", false⟩,
    some ⟨"type", "TYPE", "r#type", "Char", false⟩,
    some ⟨"homeTeam", "HOME_TEAM", "team", "Team", true⟩, none]⟩

/-- How members answer. -/
def memberShape : Shape := memberExpansion.shape fun _ => Example.Team.shape

/-- A member as a record. -/
def memberRecord (team : Example.Team) : memberShape.Record :=
  (.text "Ada", .text "Byron", .text "a", team.toRecord, .text "secret", ())

/-- What the fields of a member hold. -/
def memberHeld (team : Example.Team) : String → Held
  | "first" => .content (.text "Ada")
  | "last" => .content (.text "Byron")
  | "r#type" => .content (.text "a")
  | "team" => .record (Example.Team.shape.fieldValue team.toRecord) .unsupported
  | _ => .content (.text "secret")

theorem memberHeld_eq {team : Example.Team} {e : ExposedField} {content : Held}
    (mem : (some e, content) ∈ memberExpansion.slots.zip
      ((fieldsOf (fun _ => Example.Team.shape) memberExpansion.slots).held (memberRecord team))) :
    memberHeld team e.field = content := by
  rcases mem with - | ⟨-, - | ⟨-, - | ⟨-, - | ⟨-, - | ⟨-, ⟨⟩⟩⟩⟩⟩⟩
  all_goals rfl

/-- The path "last" leads to the first name, and the team is found only under its name in rules. -/
theorem names_resolve_member :
    member.expand = .ok memberExpansion ∧
      memberShape.fieldValue (memberRecord ⟨"Engines", none⟩) "last" = .ok (some (.text "Ada")) ∧
      memberShape.fieldValue (memberRecord ⟨"Engines", none⟩) "homeTeam.title" =
        .ok (some (.text "Engines")) ∧
      memberShape.fieldValue (memberRecord ⟨"Engines", none⟩) "team.title" = .ok none := by
  have accepted : member.expand = .ok memberExpansion := rfl
  have fits := Expansion.isRecord_of_holds (memberRecord ⟨"Engines", none⟩) fun _ _ => memberHeld_eq
  have resolve := Declaration.names_resolve accepted (memberHeld ⟨"Engines", none⟩) fits
  have answers := resolve.records _ (memberRecord ⟨"Engines", none⟩) fun _ _ => memberHeld_eq
  refine ⟨accepted, ?renamed, ?nested, ?declared⟩
  case renamed => exact (answers "last").trans (resolve.own _ (.head _) _ rfl).2.2
  case nested =>
    have wellFormed : ¬Path.HasEmptySegment "title" := by
      rw [Path.HasEmptySegment]
      decide
    have behind := resolve.behind _ (.tail _ (.tail _ (.tail _ (.head _)))) _ rfl "title" wellFormed
    exact (answers "homeTeam.title").trans behind
  case declared =>
    apply (answers "team.title").trans
    apply resolve.not_found "team.title" "team" (some "title") rfl
    intro field mem e slot
    have other : ∀ e ∈ memberExpansion.exposed, e.name ≠ "team" := by
      simp [memberExpansion, Expansion.exposed]
    exact other e ((mem_exposed_iff accepted).2 ⟨field, mem, slot⟩)

end Schema

end RecordFilter
