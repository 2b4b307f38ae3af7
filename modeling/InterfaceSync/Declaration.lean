import InterfaceSync.Schema.Model

/-!
# Declarations

What becomes of the fields of a model in the definitions document.  An ordinary field becomes one
declaration.  A reference becomes two: the number that refers to the other object, which is always
there, and behind it the object itself.

A block declares the interface of one model; the declarations of a migration are written without a
block around them, under a comment that names the migration.
-/

namespace InterfaceSync

/-- A line of the document that declares a field of an interface. -/
structure Declaration where
  name : String
  type : String
  alwaysPresent : Bool
  deriving DecidableEq, Repr

namespace Declaration

/-- The declarations that a field becomes. -/
def ofField (f : Field) : List Declaration :=
  if f.type = .reference then
    [⟨f.name ++ "_id", "number", true⟩, ⟨f.name, f.objectType, false⟩]
  else [⟨f.name, f.type.typeScript, false⟩]

/-- The declarations of a list of fields, in order. -/
def ofFields (fields : List Field) : List Declaration :=
  fields.flatMap ofField

/-- A declaration as it is first written: optional unless the field is always present. -/
def line (d : Declaration) : String :=
  "  " ++ d.name ++ (if d.alwaysPresent then "" else "?") ++ ": " ++ d.type ++ ";"

/-- Declarations on lines of their own. -/
def lines (declarations : List Declaration) : String :=
  String.join (declarations.map fun d => d.line ++ "\n")

end Declaration

namespace Definitions

/-- The text that declares the interface of a model. -/
def interfaceText (modelName : String) (declarations : List Declaration) (exported : Bool) :
    String :=
  "// AUTO-GENERATED for " ++ modelName ++ "\n"
    ++ (if exported then "export " else "")
    ++ "interface " ++ Naming.pascal modelName ++ " \x7b\n"
    ++ Declaration.lines declarations ++ "\x7d\n"

/-- The text that declares the fields added by a migration. -/
def migrationText (label : String) (fields : List Field) : String :=
  "// AUTO-GENERATED from migration " ++ label ++ "\n"
    ++ Declaration.lines (Declaration.ofFields fields)

end Definitions
end InterfaceSync
