import InterfaceSync.CommandLine.Parameter

/-!
# What has been given so far

A command line has two levels, what stands in front of the command and what stands behind its name.
Each is read from left to right and on each an option may be given once; only the switch for more
messages may be repeated.

An option whose value is the next argument waits for it, and even once it has got it, it is entered
only when something else is entered or the level is over.  So a value that is no good is not complained
about if something unknown follows it.
-/

namespace InterfaceSync.CommandLine

/-- What has been given on one level. -/
structure Level where
  verbose : Bool
  quiet : Bool
  force : Bool
  minimal : Bool
  settingsPath : Option String
  documentPath : Option String
  modelsPath : Option String
  format : Option InfoFormat
  arguments : List String
  deriving DecidableEq, Repr

namespace Level

/-- Nothing. -/
def empty : Level := ⟨false, false, false, false, none, none, none, none, []⟩

/-- Puts a value where there is none yet. -/
def fill {α : Type} (present : Option α) (value : Except Refusal α) : Except Refusal (Option α) :=
  match present with
  | some _ => .error .repeatedOption
  | none => value.map some

/-- Turns on what is not on yet. -/
def turnOn (present : Bool) : Except Refusal Bool :=
  if present then .error .repeatedOption else .ok true

/-- A path, which must not be empty. -/
def path (value : String) : Except Refusal String :=
  if value.isEmpty then .error .badValue else .ok value

/-- A format, by its name. -/
def formatNamed (value : String) : Except Refusal InfoFormat :=
  match formatOfName? value with
  | some f => .ok f
  | none => .error .badValue

/-- The name under which the program gives its version. -/
def versionName (place : Option Verb) : String :=
  match place with
  | none => programName
  | some v => programName ++ "-" ++ v.name

/-- Enters a switch. -/
def enterFlag (place : Option Verb) (l : Level) : Flag → Except Refusal Level
  | .verbose => .ok { l with verbose := true }
  | .quiet => do return { l with quiet := ← turnOn l.quiet }
  | .help => .error .helpAsked
  | .version => .error (.versionAsked (versionName place))
  | .force => do return { l with force := ← turnOn l.force }
  | .minimal => do return { l with minimal := ← turnOn l.minimal }

/-- Enters an option with its value, which it must have. -/
def enterSetting (l : Level) (s : Setting) (value : Option String) : Except Refusal Level := do
  match value with
  | none => throw .badValue
  | some value =>
    match s with
    | .settingsPath => return { l with settingsPath := ← fill l.settingsPath (path value) }
    | .documentPath => return { l with documentPath := ← fill l.documentPath (path value) }
    | .modelsPath => return { l with modelsPath := ← fill l.modelsPath (path value) }
    | .format => return { l with format := ← fill l.format (formatNamed value) }

/-- Enters an argument that is no option. -/
def enterArgument (l : Level) (argument : String) : Level :=
  { l with arguments := l.arguments ++ [argument] }

end Level

/-- A level that is being read, and the option that waits for its value or to be entered. -/
structure Progress where
  level : Level
  pending : Option (Setting × Option String)
  deriving DecidableEq, Repr

namespace Progress

/-- The start of a level. -/
def start : Progress := ⟨.empty, none⟩

/-- Whether an option waits for its value. -/
def awaitsValue (p : Progress) : Bool :=
  match p.pending with
  | some (_, none) => true
  | _ => false

/-- The level with the pending option entered. -/
def settled (p : Progress) : Except Refusal Level :=
  match p.pending with
  | some (s, value) => p.level.enterSetting s value
  | none => .ok p.level

/-- Gives its value to the option that waits for it. -/
def supply (p : Progress) (value : String) : Progress :=
  { p with pending := p.pending.map fun o => (o.1, some value) }

/-- Enters a switch. -/
def enterFlag (place : Option Verb) (p : Progress) (f : Flag) : Except Refusal Progress := do
  return ⟨← (← p.settled).enterFlag place f, none⟩

/-- Enters an option whose value is given with it, or lets it wait for the value. -/
def enterSetting (p : Progress) (s : Setting) (value : Option String) : Except Refusal Progress := do
  match value with
  | some value => return ⟨← (← p.settled).enterSetting s (some value), none⟩
  | none => return ⟨← p.settled, some (s, none)⟩

/-- Enters an argument that is no option. -/
def enterArgument (p : Progress) (argument : String) : Except Refusal Progress := do
  return ⟨(← p.settled).enterArgument argument, none⟩

end Progress
end InterfaceSync.CommandLine
