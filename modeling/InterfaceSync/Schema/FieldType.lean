import InterfaceSync.Text.Blank

/-!
# The types of fields

What a model says about the type of one of its fields.  The backend has many names for its types and
only a few of them matter here: the numbers, the truth values and the references to other models.
Every other name is kept as it was written.
-/

namespace InterfaceSync

/-- The type of a field of a model. -/
inductive FieldType where
  | integer
  | float
  | decimal
  | boolean
  | reference
  | other (spelling : String)
  deriving DecidableEq, Repr, Inhabited

namespace FieldType

/-- The type of a field that says nothing about it. -/
def unspecified : FieldType := .other "string"

/-- Reads the name of a type.  White space around it and the case of ASCII letters do not matter for
the names that are known, and any other name is kept without the white space; no name at all is
`unspecified`. -/
def ofText (s : String) : FieldType :=
  let name := Text.trim s.toList
  match String.ofList (name.map Char.toLower) with
  | "integer" | "int" | "bigint" => .integer
  | "float" => .float
  | "decimal" | "numeric" => .decimal
  | "boolean" | "bool" => .boolean
  | "references" | "reference" | "belongs_to" => .reference
  | "" => unspecified
  | _ => .other (String.ofList name)

/-- The name under which a type is written back. -/
def spelling : FieldType → String
  | integer => "integer"
  | float => "float"
  | decimal => "decimal"
  | boolean => "boolean"
  | reference => "references"
  | other s => s

/-- The TypeScript type of a field that is not a reference: numbers are numbers, truth values are
truth values, and everything else travels as a string. -/
def typeScript : FieldType → String
  | integer | float | decimal => "number"
  | boolean => "boolean"
  | reference | other _ => "string"

end FieldType
end InterfaceSync
