set_option autoImplicit false

/-!
# Declarations of record types

A record type is declared by its name, its parameters and its fields. Attributes of a field say how
rules see it: under another name, as a record of its own, or not at all. `FieldDeclaration.filter`
reads them.
-/

namespace RecordFilter.Schema

/-! ## Declarations -/

/-- The value that an option is set to. Only texts have a use. -/
inductive Literal where
  | text (value : String)
  | other
deriving DecidableEq

/-- An option of a filter attribute, as it is written. -/
inductive FilterOption where
  /-- A word by itself. -/
  | word (path : String)
  /-- A word that is set to a value. -/
  | assigned (path : String) (value : Literal)
  /-- A word with a value in parentheses. -/
  | called (path : String)
deriving DecidableEq

/-- An attribute of a field. -/
inductive FieldAttribute where
  /-- A filter attribute with its options. -/
  | filter (options : List FilterOption)
  /-- A filter attribute without parentheses. -/
  | bareFilter
  /-- A filter attribute with anything but a list of options in its parentheses, or one that is set
  to a value. The parser of attributes gives the reason. -/
  | unreadableFilter (reason : String)
  /-- An attribute that is about something else. -/
  | other
deriving DecidableEq

/-- A declared field. Its name may be marked as no keyword. -/
structure FieldDeclaration where
  name : String
  type : String
  attributes : List FieldAttribute

/-- The form of a declaration. -/
inductive Form where
  | namedFields
  | tuple
  | unit
  | alternatives
  | overlay
deriving DecidableEq

/-- A declared record type. -/
structure Declaration where
  name : String
  parameters : String
  form : Form
  fields : List FieldDeclaration

/-! ## Errors -/

/-- Why a declaration is refused. -/
inductive DeclarationError where
  | notStruct
  | unnamedFields
  | repeatedFilter
  | bareFilter
  | unreadableFilter (reason : String)
  | unknownOption
  | nameNotText
  | nameUnusable
  | hiddenWithOptions
  | duplicateName (name : String)
  | constantClash (name other constant : String)
deriving DecidableEq

/-- The text of an error. -/
def DeclarationError.message : DeclarationError → String
  | .notStruct => "FieldAccessor can only be derived for structs"
  | .unnamedFields => "FieldAccessor can only be derived for structs with named fields"
  | .repeatedFilter => "duplicate #[filter] attribute, combine the options as #[filter(a, b)]"
  | .bareFilter => "expected attribute arguments in parentheses: #[filter(...)]"
  | .unreadableFilter reason => reason
  | .unknownOption => "unknown filter attribute. Expected: skip, nested, or rename = \"...\""
  | .nameNotText => "rename must be a string literal"
  | .nameUnusable => "rename must be a non-empty name without '.'"
  | .hiddenWithOptions => "skip cannot be combined with other filter attributes"
  | .duplicateName name => "duplicate filter field name '" ++ name ++ "'"
  | .constantClash name other constant =>
    "filter field name '" ++ name ++ "' clashes with '" ++ other ++ "' on constant " ++ constant

/-! ## Attributes of a field -/

/-- How rules see a field. -/
structure FieldFilter where
  hidden : Bool
  nested : Bool
  name : Option String
deriving DecidableEq

namespace FieldFilter

/-- How rules see a field that says nothing. -/
def plain : FieldFilter := ⟨false, false, none⟩

/-- Whether a text can be the name of a field in rules. -/
def isUsableName (name : String) : Bool := name ≠ "" && !name.toList.contains '.'

/-- The filter with one more option. -/
def add (seen : FieldFilter) : FilterOption → Except DeclarationError FieldFilter
  | .word path =>
    if path = "skip" then .ok { seen with hidden := true }
    else if path = "nested" then .ok { seen with nested := true }
    else .error .unknownOption
  | .assigned path value =>
    if path = "rename" then
      match value with
      | .text name =>
        if isUsableName name then .ok { seen with name := some name } else .error .nameUnusable
      | .other => .error .nameNotText
    else .error .unknownOption
  | .called _ => .error .unknownOption

/-- The filter that options say. A hidden field has no other option. -/
def ofOptions (options : List FilterOption) : Except DeclarationError FieldFilter := do
  let seen ← options.foldlM add plain
  if seen.hidden && (seen.nested || seen.name.isSome) then throw .hiddenWithOptions
  return seen

end FieldFilter

namespace FieldAttribute

/-- Whether the attribute is about filtering. -/
def isFilter : FieldAttribute → Bool
  | .other => false
  | _ => true

/-- The filter that one attribute says. -/
def toFilter : FieldAttribute → Except DeclarationError FieldFilter
  | .filter options => FieldFilter.ofOptions options
  | .bareFilter => .error .bareFilter
  | .unreadableFilter reason => .error (.unreadableFilter reason)
  | .other => .ok .plain

end FieldAttribute

namespace FieldDeclaration

/-- How rules see the field. It has at most one filter attribute. -/
def filter (field : FieldDeclaration) : Except DeclarationError FieldFilter :=
  match field.attributes.filter FieldAttribute.isFilter with
  | [] => .ok .plain
  | [only] => only.toFilter
  | _ => .error .repeatedFilter

/-- The name of the field without the mark that it is no keyword. -/
def plainName (field : FieldDeclaration) : String :=
  match field.name.toList with
  | 'r' :: '#' :: name => String.ofList name
  | _ => field.name

end FieldDeclaration

end RecordFilter.Schema
