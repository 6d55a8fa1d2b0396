import RecordFilter.Schema.Expansion
import RecordFilter.Value.Conversion

set_option autoImplicit false

/-!
# Example records: tasks

A small family of record types that uses every way in which rules can see a field: tasks have
owners, owners have teams, and some fields are renamed, nested, optional, documents or hidden. Each
type has its declaration, its shape, which is the one that the declaration expands to, and the
document it is serialized to, in which the names differ from those in rules.
-/

namespace RecordFilter.Example

open Schema

/-! ## Writing declarations -/

/-- The attribute that renames a field. -/
def renamed (name : String) : FilterOption := .assigned "rename" (.text name)

/-- The option that makes a field a record of its own. -/
def nested : FilterOption := .word "nested"

/-- A declared field with filter options. -/
def declared (name type : String) (options : List FilterOption) : FieldDeclaration :=
  ⟨name, type, if options.isEmpty then [] else [.filter options]⟩

/-- A declared record type. -/
def record (name : String) (fields : List FieldDeclaration) : Declaration :=
  ⟨name, "", .namedFields, fields⟩

/-- The document of an optional value. -/
def orNull {α : Type} (write : α → Json) : Option α → Json
  | none => .null
  | some x => write x

/-- The document of an integer in range. -/
def integer (i : Int) : Json :=
  if h : -0x8000000000000000 ≤ i ∧ i < 0x10000000000000000 then .number (.integer ⟨i, h⟩) else .null

/-! ## Teams -/

/-- A team. -/
structure Team where
  title : String
  size : Option UInt32

namespace Team

/-- The declaration of teams. -/
def declaration : Declaration :=
  record "Team" [declared "title" "String" [], declared "size" "Option UInt32" []]

/-- The fields of teams. -/
def fields : Fields := .plain "title" (.plain "size" .nil)

/-- How teams answer. -/
def shape : Shape := .struct fields

theorem shape_expand (shapeOf : String → Shape) :
    declaration.expand.map (·.shape shapeOf) = .ok shape := rfl

/-- A team as a record. -/
def toRecord (team : Team) : shape.Record :=
  (ToValue.toValue team.title, ToValue.toValue team.size, ())

/-- The document of a team. -/
def toJson (team : Team) : Json :=
  .ofMembers [("title", .string team.title),
    ("size", orNull (fun n : UInt32 => integer n.toNat) team.size)]

end Team

/-! ## Owners -/

/-- The owner of a task. -/
structure Owner where
  name : String
  email : Option String
  team : Option Team
  guild : Option Team

namespace Owner

/-- The declaration of owners. -/
def declaration : Declaration :=
  record "Owner"
    [declared "name" "String" [], declared "email" "Option String" [renamed "emailAddress"],
     declared "team" "Option Team" [nested], declared "guild" "Option (Pointer Team)" [nested]]

/-- The fields of owners; the guild is behind a pointer. -/
def fields : Fields :=
  .plain "name" <| .plain "emailAddress" <| .nested "team" (.optional Team.shape) <|
    .nested "guild" (.optional (.pointer Team.shape)) .nil

/-- How owners answer. -/
def shape : Shape := .struct fields

theorem shape_expand {shapeOf : String → Shape}
    (team : shapeOf "Option Team" = .optional Team.shape)
    (guild : shapeOf "Option (Pointer Team)" = .optional (.pointer Team.shape)) :
    declaration.expand.map (·.shape shapeOf) = .ok shape := by
  rw [shape, fields, ← guild, ← team]
  rfl

/-- An owner as a record. -/
def toRecord (owner : Owner) : shape.Record :=
  (ToValue.toValue owner.name, ToValue.toValue owner.email, owner.team.map Team.toRecord,
    owner.guild.map Team.toRecord, ())

/-- The document of an owner. -/
def toJson (owner : Owner) : Json :=
  .ofMembers [("name", .string owner.name), ("email", orNull .string owner.email),
    ("team", orNull Team.toJson owner.team), ("guild", orNull Team.toJson owner.guild)]

end Owner

/-! ## Tasks -/

/-- A task. -/
structure Task where
  name : String
  priority : UInt8
  done : Bool
  tags : List String
  created : Int64
  ratio : Option Binary64
  owner : Owner
  reviewer : Option Owner
  extra : Json
  more : Option Json
  labels : Std.HashMap String String
  type : Char
  internalId : UInt64

namespace Task

/-- The declaration of tasks. -/
def declaration : Declaration :=
  record "Task"
    [declared "name" "String" [], declared "priority" "UInt8" [], declared "done" "Bool" [],
     declared "tags" "List String" [], declared "created" "Int64" [renamed "createdAt"],
     declared "ratio" "Option Binary64" [], declared "owner" "Owner" [nested],
     declared "reviewer" "Option Owner" [nested],
     declared "extra" "Json" [nested, renamed "extra-data"],
     declared "more" "Option Json" [nested],
     declared "labels" "HashMap String String" [], declared "r#type" "Char" [],
     declared "internal_id" "UInt64" [.word "skip"]]

/-- The fields of tasks. -/
def fields : Fields :=
  .plain "name" <| .plain "priority" <| .plain "done" <| .plain "tags" <| .plain "createdAt" <|
    .plain "ratio" <| .nested "owner" Owner.shape <| .nested "reviewer" (.optional Owner.shape) <|
    .nested "extra-data" .document <| .nested "more" (.optional .document) <| .plain "labels" <|
    .plain "type" <| .hidden .nil

/-- How tasks answer. -/
def shape : Shape := .struct fields

theorem shape_expand {shapeOf : String → Shape} (owner : shapeOf "Owner" = Owner.shape)
    (reviewer : shapeOf "Option Owner" = .optional Owner.shape)
    (extra : shapeOf "Json" = .document) (more : shapeOf "Option Json" = .optional .document) :
    declaration.expand.map (·.shape shapeOf) = .ok shape := by
  rw [shape, fields, ← reviewer, ← owner, ← more, ← extra]
  rfl

/-- A task as a record. -/
def toRecord (task : Task) : shape.Record :=
  (ToValue.toValue task.name, ToValue.toValue task.priority, ToValue.toValue task.done,
    ToValue.toValue task.tags, ToValue.toValue task.created, ToValue.toValue task.ratio,
    task.owner.toRecord, task.reviewer.map Owner.toRecord, task.extra, task.more,
    ToValue.toValue task.labels, ToValue.toValue task.type, ToValue.toValue task.internalId, ())

/-- The document of a task, with the hidden field. -/
def toJson (task : Task) : Json :=
  .ofMembers [("name", .string task.name), ("priority", integer task.priority.toNat),
    ("done", .bool task.done), ("tags", .array (task.tags.map .string)),
    ("ctime", integer task.created.toInt), ("ratio", orNull .ofBinary64 task.ratio),
    ("owner", task.owner.toJson), ("reviewer", orNull Owner.toJson task.reviewer),
    ("extra", task.extra), ("more", orNull id task.more),
    ("labels", .ofMembers (task.labels.toList.map fun (key, label) => (key, .string label))),
    ("type", .string (String.singleton task.type)), ("internal_id", integer task.internalId.toNat)]

end Task

end RecordFilter.Example
