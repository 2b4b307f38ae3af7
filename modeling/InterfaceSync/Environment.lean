/-!
# Environment variables

The environment is a list of lines `NAME=VALUE`.  The value of a name is what stands behind `NAME=` on
the first line that begins so.  For a name without an equals sign this is the value the name was given;
a name with one can still find the end of some other variable's line.
-/

namespace InterfaceSync

/-- Variables and their values, each variable once. -/
structure Environment where
  bindings : List (String × String)

namespace Environment

/-- The environment without variables. -/
def empty : Environment := ⟨[]⟩

/-- The line of a variable. -/
def line (v : String × String) : List Char :=
  v.1.toList ++ '=' :: v.2.toList

/-- The value of a name.  The empty name has none. -/
def get? (env : Environment) (name : String) : Option String :=
  if name.isEmpty then none
  else
    (env.bindings.findSome? fun v => (name.toList ++ ['=']).isPrefixOf? (line v)).map String.ofList

/-- The environment with a variable set. -/
def set (env : Environment) (name value : String) : Environment :=
  ⟨(name, value) :: env.bindings.filter fun v => v.1 != name⟩

/-- The environment with a variable set, unless it has a value already. -/
def setIfUnset (env : Environment) (name value : String) : Environment :=
  match env.get? name with
  | some _ => env
  | none => env.set name value

end Environment
end InterfaceSync
