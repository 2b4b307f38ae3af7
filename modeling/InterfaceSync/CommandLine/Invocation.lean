/-!
# Invocations

What a command line asks for: one of five commands, the paths that are to be used in place of those in
the settings, and whether only errors are to be reported.  A command line that asks for none of this is
told off for one of the reasons in `Refusal`, two of which are no mistakes.
-/

namespace InterfaceSync

/-- How the command `info` writes what it has to tell. -/
inductive InfoFormat where
  | pretty
  | json
  deriving DecidableEq, Repr

/-- A command with its arguments. -/
inductive Command where
  /-- Appends the interface of a model; without attributes the model is looked up. -/
  | model (name : String) (attributes : List String)
  /-- Appends the fields that a migration adds. -/
  | migration (label : String) (attributes : List String)
  /-- Settles the question marks in the interfaces of models. -/
  | validations (names : List String)
  /-- Makes a settings file and a manifest. -/
  | init (force minimal : Bool)
  /-- Shows the settings and the models. -/
  | info (format : InfoFormat)
  deriving DecidableEq, Repr

/-- A command line that can be carried out. -/
structure Invocation where
  settingsPath : Option String
  documentPath : Option String
  modelsPath : Option String
  quiet : Bool
  command : Command
  deriving DecidableEq, Repr

/-- Why a command line cannot be carried out. -/
inductive Refusal where
  | helpAsked
  | versionAsked (program : String)
  | nothingGiven
  | missingCommand
  | unknownCommand
  | unknownArgument
  | badValue
  | unwantedValue
  | repeatedOption
  | missingArgument
  deriving DecidableEq, Repr

namespace Refusal

/-- The code with which the program ends. -/
def exitCode : Refusal → Nat
  | helpAsked | versionAsked _ => 0
  | _ => 2

/-- The version of the program. -/
def programVersion : String := "0.1.0"

/-- What is printed about a version. -/
def versionText (program : String) : String := program ++ " " ++ programVersion ++ "\n"

end Refusal
end InterfaceSync
