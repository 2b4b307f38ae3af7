import InterfaceSync.CommandLine.Invocation

/-!
# Names on the command line

The names of the commands and of the options.  An option is a switch or takes a value.  Some options
may stand in front of the command and behind it, others belong to one command.
-/

namespace InterfaceSync.CommandLine

/-- The commands without their arguments. -/
inductive Verb where
  | model
  | migration
  | validations
  | init
  | info
  deriving DecidableEq, Repr

namespace Verb

/-- All commands. -/
def all : List Verb := [model, migration, validations, init, info]

/-- The name of a command. -/
def name : Verb → String
  | model => "model"
  | migration => "migration"
  | validations => "validations"
  | init => "init"
  | info => "info"

/-- The command with a given name. -/
def ofName? (s : String) : Option Verb := all.find? fun v => v.name == s

/-- Whether a command takes arguments that are no options. -/
def takesArguments : Verb → Bool
  | model | migration | validations => true
  | init | info => false

end Verb

/-- The word that asks for help in the place of a command. -/
def helpWord : String := "help"

/-- The name of the program. -/
def programName : String := "modelsync"

/-- A switch. -/
inductive Flag where
  | verbose
  | quiet
  | help
  | version
  | force
  | minimal
  deriving DecidableEq, Repr

/-- An option that takes a value. -/
inductive Setting where
  | settingsPath
  | documentPath
  | modelsPath
  | format
  deriving DecidableEq, Repr

/-- An option. -/
inductive Parameter where
  | flag (f : Flag)
  | setting (s : Setting)
  deriving DecidableEq, Repr

/-- How an option is written, with one letter behind a single dash or with its name behind two, and
the command it belongs to, if it belongs to one. -/
structure Spelling where
  parameter : Parameter
  name : String
  letter : Option Char
  verb : Option Verb

/-- All options. -/
def spellings : List Spelling :=
  [⟨.setting .settingsPath, "config", some 'c', none⟩,
    ⟨.setting .documentPath, "output", some 'o', none⟩,
    ⟨.setting .modelsPath, "models", some 'm', none⟩,
    ⟨.flag .verbose, "verbose", some 'v', none⟩,
    ⟨.flag .quiet, "quiet", some 'q', none⟩,
    ⟨.flag .help, "help", some 'h', none⟩,
    ⟨.flag .version, "version", some 'V', none⟩,
    ⟨.flag .force, "force", some 'f', some .init⟩,
    ⟨.flag .minimal, "minimal", none, some .init⟩,
    ⟨.setting .format, "format", none, some .info⟩]

namespace Spelling

/-- Whether an option may stand in front of the command (`none`) or behind a given one. -/
def isAllowed (s : Spelling) (place : Option Verb) : Bool :=
  s.verb == none || s.verb == place

end Spelling

/-- The option with a given name. -/
def named? (place : Option Verb) (name : String) : Option Parameter :=
  (spellings.find? fun s => s.name == name && s.isAllowed place).map (·.parameter)

/-- The option with a given letter. -/
def lettered? (place : Option Verb) (letter : Char) : Option Parameter :=
  (spellings.find? fun s => s.letter == some letter && s.isAllowed place).map (·.parameter)

/-- The format with a given name. -/
def formatOfName? (s : String) : Option InfoFormat :=
  if s = "pretty" then some .pretty else if s = "json" then some .json else none

end InterfaceSync.CommandLine
