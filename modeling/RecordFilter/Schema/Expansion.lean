import RecordFilter.Record.Shape
import RecordFilter.Schema.Declaration
import RecordFilter.Unicode.Current

set_option autoImplicit false

/-!
# What a declaration expands to

An accepted declaration gives every field that rules see its name, a constant to write it by and
its place in two tables: how to answer for the field, and whether the type has it. The same
fields make a `Shape`, with which records answer.
-/

namespace RecordFilter.Schema

/-! ## Constants -/

/-- The characters of a constant: capitals, with an underscore where a word ends. The first
argument says whether the character before was a small one. -/
def constantChars : Bool → List Char → List Char
  | _, [] => []
  | afterSmall, c :: rest =>
    if Unicode.Current.isUppercase c then
      (if afterSmall then ['_', c] else [c]) ++ constantChars false rest
    else if c = '_' ∨ c = '-' then '_' :: constantChars false rest
    else c.toUpper :: constantChars true rest

/-- The constant for a name in rules. -/
def constantOf (name : String) : String := String.ofList (constantChars false name.toList)

/-- Whether a text can be declared as a name. -/
def isIdentifier (text : String) : Bool :=
  match text.toList with
  | [] => false
  | c :: rest =>
    Unicode.Current.startsIdentifier c && rest.all Unicode.Current.continuesIdentifier

/-! ## Fields -/

/-- A field that rules see. -/
structure ExposedField where
  /-- The name in rules. -/
  name : String
  /-- The constant for this name. -/
  constant : String
  /-- The declared name. -/
  field : String
  type : String
  nested : Bool

/-- What keeps a declaration from expanding. -/
inductive Failure where
  /-- The declaration is refused. -/
  | refused (error : DeclarationError)
  /-- A constant cannot be declared; there is no error for this, the expansion breaks off. -/
  | badConstant (constant : String)

/-- Refuses a name in rules or a constant that an earlier field has. -/
def checkNew (name constant : String) : List ExposedField → Except DeclarationError Unit
  | [] => .ok ()
  | seen :: others =>
    if seen.name = name then .error (.duplicateName name)
    else if seen.constant = constant then .error (.constantClash name seen.name constant)
    else checkNew name constant others

/-- A field as rules see it, none if they do not, after the fields seen so far. -/
def expose (seen : List ExposedField) (field : FieldDeclaration) :
    Except Failure (Option ExposedField) := do
  let filter ← field.filter.mapError .refused
  if filter.hidden then return none
  let name := filter.name.getD field.plainName
  let constant := constantOf name
  (checkNew name constant seen).mapError .refused
  if isIdentifier constant then
    return some ⟨name, constant, field.name, field.type, filter.nested⟩
  else throw (.badConstant constant)

/-- The fields as rules see them, in their order, after the fields seen so far. -/
def exposeAll : List ExposedField → List FieldDeclaration →
    Except Failure (List (Option ExposedField))
  | _, [] => .ok []
  | seen, field :: rest => do
    let slot ← expose seen field
    return slot :: (← exposeAll (seen ++ slot.toList) rest)

/-! ## Types -/

/-- A text without blanks. -/
def withoutBlanks (text : List Char) : List Char :=
  text.filter fun c => !Unicode.whiteSpace.contains c

/-- The parameters of a list between angles, each with whether a comma follows it. The first
argument counts the brackets that are open, the second holds the parameter so far. -/
def splitParameters : Nat → List Char → List Char → List (List Char × Bool)
  | _, [], [] => []
  | _, soFar, [] => [(soFar.reverse, false)]
  | depth, soFar, c :: rest =>
    if c = ',' ∧ depth = 0 then (soFar.reverse, true) :: splitParameters 0 [] rest
    else if c = '<' ∨ c = '(' ∨ c = '[' then splitParameters (depth + 1) (c :: soFar) rest
    else if c = '>' ∧ (soFar.head? = some '-' ∨ soFar.head? = some '=') then
      splitParameters depth (c :: soFar) rest
    else if c = '>' ∨ c = ')' ∨ c = ']' then splitParameters (depth - 1) (c :: soFar) rest
    else splitParameters depth (c :: soFar) rest

/-- The name of a parameter, without the word before it, its bounds and its default. -/
def parameterName (parameter : List Char) : List Char :=
  let trimmed := parameter.dropWhile Unicode.whiteSpace.contains
  let named := trimmed.takeWhile fun c => c ≠ ':' && c ≠ '='
  match named with
  | 'c' :: 'o' :: 'n' :: 's' :: 't' :: c :: rest =>
    if Unicode.whiteSpace.contains c then withoutBlanks rest else withoutBlanks named
  | _ => withoutBlanks named

/-- The arguments of a type, each with whether a comma follows it, written one after the other; a
missing comma is put between two. -/
def writeArguments : List (List Char × Bool) → List Char
  | [] => []
  | [(name, comma)] => name ++ (if comma then [','] else [])
  | (name, _) :: rest => name ++ ',' :: writeArguments rest

/-- The parameters of a type as arguments: lifetimes come first. -/
def typeArguments (parameters : String) : List Char :=
  let text := parameters.toList.dropWhile Unicode.whiteSpace.contains
  let inside := (text.drop 1).reverse.dropWhile Unicode.whiteSpace.contains |>.drop 1 |>.reverse
  let named := (splitParameters 0 [] inside).map fun (parameter, comma) =>
    (parameterName parameter, comma)
  let real := named.filter fun (name, _) => !name.isEmpty
  let isLifetime (parameter : List Char × Bool) : Bool := parameter.1.head? = some '\x27'
  let ordered := real.filter isLifetime ++ real.filter fun parameter => !isLifetime parameter
  if ordered.isEmpty then [] else '<' :: writeArguments ordered ++ ['>']

/-! ## Expansions -/

/-- What a declaration expands to: the type and its fields, none for those that are hidden. -/
structure Expansion where
  type : String
  slots : List (Option ExposedField)

/-- The expansion of a declaration. -/
def Declaration.expand (declaration : Declaration) : Except Failure Expansion :=
  match declaration.form with
  | .namedFields => do
    let slots ← exposeAll [] declaration.fields
    return ⟨declaration.name ++ String.ofList (typeArguments declaration.parameters), slots⟩
  | .tuple | .unit => .error (.refused .unnamedFields)
  | .alternatives | .overlay => .error (.refused .notStruct)

/-- How a table answers for a field. -/
inductive Answer where
  /-- The field is asked for the rest of the path. -/
  | fieldValue
  /-- The record that the field holds, as a whole. -/
  | selfValue
  /-- The field's content. -/
  | content
  /-- The field's type is asked for the rest of the path. -/
  | typeHasField
  /-- The type has the field. -/
  | known
deriving DecidableEq

/-- A line of a table: the name, whether the path goes on after it, the answer, and the field or
the type that is asked. -/
structure Arm where
  name : String
  goesOn : Bool
  answer : Answer
  asked : String

namespace ExposedField

/-- The lines of the table of values. -/
def valueArms (e : ExposedField) : List Arm :=
  if e.nested then
    [⟨e.name, true, .fieldValue, e.field⟩, ⟨e.name, false, .selfValue, e.field⟩]
  else [⟨e.name, false, .content, e.field⟩]

/-- The lines of the table of known fields. -/
def knownArms (e : ExposedField) : List Arm :=
  let here : Arm := ⟨e.name, false, .known, ""⟩
  if e.nested then
    [⟨e.name, true, .typeHasField, String.ofList (withoutBlanks e.type.toList)⟩, here]
  else [here]

end ExposedField

namespace Expansion

/-- The fields that rules see. -/
def exposed (expansion : Expansion) : List ExposedField := expansion.slots.filterMap id

/-- The constants, each with the name that it stands for. -/
def constants (expansion : Expansion) : List (String × String) :=
  expansion.exposed.map fun e => (e.constant, e.name)

/-- The table of values. -/
def valueArms (expansion : Expansion) : List Arm :=
  expansion.exposed.flatMap ExposedField.valueArms

/-- The table of known fields. -/
def knownArms (expansion : Expansion) : List Arm :=
  expansion.exposed.flatMap ExposedField.knownArms

end Expansion

/-! ## Shapes -/

/-- The fields of a shape, where `shapeOf` says how the records of a nested field's type answer. -/
def fieldsOf (shapeOf : String → Shape) : List (Option ExposedField) → Fields
  | [] => .nil
  | none :: rest => .hidden (fieldsOf shapeOf rest)
  | some e :: rest =>
    if e.nested then .nested e.name (shapeOf e.type) (fieldsOf shapeOf rest)
    else .plain e.name (fieldsOf shapeOf rest)

/-- The shape of the records of a declared type. -/
def Expansion.shape (expansion : Expansion) (shapeOf : String → Shape) : Shape :=
  .struct (fieldsOf shapeOf expansion.slots)

end RecordFilter.Schema
