import InterfaceSync.CommandLine.Level
import InterfaceSync.Environment

/-!
# Reading a command line

The arguments are read from left to right.  One that begins with two dashes names an option, perhaps
with its value behind an equals sign; one that begins with a single dash is a cluster of letters, each
of which is an option, and the rest of a cluster behind a letter that takes a value is the value.  Two
dashes alone end the options.

In front of the command an argument that is no option must be the name of a command.  Behind it the
second level is read in the same way, and what is wrong there is complained about first.
-/

namespace InterfaceSync.CommandLine

/-- Reads an option that is given by its name. -/
def readNamed (place : Option Verb) (p : Progress) (name : String) (value : Option String) :
    Except Refusal Progress :=
  match named? place name, value with
  | none, _ => .error .unknownArgument
  | some (.flag _), some _ => .error .unwantedValue
  | some (.flag f), none => p.enterFlag place f
  | some (.setting s), value => p.enterSetting s value

/-- The value in the rest of a cluster, if there is one; an equals sign in front is not part of it. -/
def clusterValue? : List Char → Option String
  | [] => none
  | '=' :: rest => some (String.ofList rest)
  | rest => some (String.ofList rest)

/-- Reads a cluster of letters. -/
def readCluster (place : Option Verb) (p : Progress) : List Char → Except Refusal Progress
  | [] => .ok p
  | c :: rest =>
    match lettered? place c with
    | none => .error .unknownArgument
    | some (.flag f) => do readCluster place (← p.enterFlag place f) rest
    | some (.setting s) => p.enterSetting s (clusterValue? rest)

/-- How an argument is read while options are still allowed. -/
inductive Reading where
  | endOfOptions
  | named (name : String) (value : Option String)
  | cluster (letters : List Char)
  | plain
  deriving DecidableEq, Repr

/-- How an argument is read.  A single dash is an ordinary argument. -/
def Reading.ofArgument (argument : String) : Reading :=
  match argument.toList with
  | ['-', '-'] => .endOfOptions
  | '-' :: '-' :: text =>
    let name := text.takeWhile (· != '=')
    .named (String.ofList name)
      (match text.drop name.length with
        | _ :: value => some (String.ofList value)
        | [] => none)
  | '-' :: c :: rest => .cluster (c :: rest)
  | _ => .plain

/-- What is answered to a request for help in the place of a command.  Commands may follow, but the
second one would have to be a command of the first, and there are none. -/
def helpOn : List String → Refusal
  | [] => .helpAsked
  | [topic] => if (Verb.ofName? topic).isSome || topic == helpWord then .helpAsked else .unknownCommand
  | _ => .unknownCommand

/-- The complaint about an argument in front of the command that is no command, `optionsOver` if it
stands behind two dashes; there even the name of a command is out of place. -/
def misplaced (optionsOver : Bool) (argument : String) : Refusal :=
  if optionsOver && ((Verb.ofName? argument).isSome || argument == helpWord) then .unknownArgument
  else .unknownCommand

/-- Reads what stands in front of the command, up to its name and with the arguments behind it. -/
def readFront (p : Progress) (optionsOver : Bool) :
    List String → Except Refusal (Progress × Option (Verb × List String))
  | [] => .ok (p, none)
  | argument :: rest =>
    if optionsOver then .error (misplaced true argument)
    else if p.awaitsValue = false ∧ argument = helpWord then .error (helpOn rest)
    else
      match if p.awaitsValue then none else Verb.ofName? argument with
      | some verb => .ok (p, some (verb, rest))
      | none =>
        match Reading.ofArgument argument with
        | .endOfOptions => readFront p true rest
        | .named name value => do readFront (← readNamed none p name value) false rest
        | .cluster letters => do readFront (← readCluster none p letters) false rest
        | .plain =>
          if p.awaitsValue then readFront (p.supply argument) false rest
          else .error (misplaced false argument)

/-- Reads what stands behind the name of a command. -/
def readBehind (verb : Verb) (p : Progress) (optionsOver : Bool) :
    List String → Except Refusal Progress
  | [] => .ok p
  | argument :: rest =>
    match if optionsOver then .plain else Reading.ofArgument argument with
    | .endOfOptions => readBehind verb p true rest
    | .named name value => do
      readBehind verb (← readNamed (some verb) p name value) optionsOver rest
    | .cluster letters => do
      readBehind verb (← readCluster (some verb) p letters) optionsOver rest
    | .plain =>
      if p.awaitsValue = true ∧ optionsOver = false then
        readBehind verb (p.supply argument) optionsOver rest
      else if verb.takesArguments then do
        readBehind verb (← p.enterArgument argument) optionsOver rest
      else .error .unknownArgument

/-- The environment variable that gives the path of the settings. -/
def settingsVariable : String := "MODELSYNC_CONFIG"

/-- A level once it is over: the pending option is entered, and the environment gives the path of the
settings if the level does not.  The flag says whether it did. -/
def finish (env : Environment) (p : Progress) : Except Refusal (Level × Bool) := do
  let level ← p.settled
  match level.settingsPath, env.get? settingsVariable with
  | none, some value => return (← level.enterSetting .settingsPath (some value), true)
  | _, _ => return (level, false)

/-- The command that a verb with its level stands for; an argument may be missing. -/
def command (verb : Verb) (level : Level) : Except Refusal Command :=
  match verb, level.arguments with
  | .model, name :: attributes => .ok (.model name attributes)
  | .migration, label :: attributes => .ok (.migration label attributes)
  | .validations, name :: names => .ok (.validations (name :: names))
  | .init, _ => .ok (.init level.force level.minimal)
  | .info, _ => .ok (.info (level.format.getD .pretty))
  | _, [] => .error .missingArgument

/-- The invocation that two levels make up.  What is given behind the command wins over what is given
in front of it, and both win over the environment. -/
def combine (front behind : Level × Bool) (command : Command) : Invocation where
  settingsPath :=
    if behind.2 && !front.2 then front.1.settingsPath.or behind.1.settingsPath
    else behind.1.settingsPath.or front.1.settingsPath
  documentPath := behind.1.documentPath.or front.1.documentPath
  modelsPath := behind.1.modelsPath.or front.1.modelsPath
  quiet := front.1.quiet || behind.1.quiet
  command := command

/-- Reads a command line. -/
def parse (env : Environment) (arguments : List String) : Except Refusal Invocation := do
  let (front, found) ← readFront .start false arguments
  match found with
  | some (verb, rest) =>
    let behind ← finish env (← readBehind verb .start false rest)
    let command ← command verb behind.1
    return combine (← finish env front) behind command
  | none =>
    let (level, _) ← finish env front
    throw (if level = .empty then .nothingGiven else .missingCommand)

end InterfaceSync.CommandLine
