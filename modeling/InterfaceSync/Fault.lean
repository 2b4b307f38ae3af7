/-!
# What can go wrong

One type for the causes of failure of every operation, and one function for their wording.  A failure
of the file system keeps its own cause, because a message states it and because some operations go on
when a file is simply not there.
-/

namespace InterfaceSync

/-- Why an operation on the file system failed. -/
inductive FileError where
  | notFound
  | notADirectory
  | isADirectory
  | alreadyExists
  | busy
  | nameTooLong
  | nulInPath
  | notText
  deriving DecidableEq, Repr

/-- The wording of a failure of the file system.  Those that the system itself reports end with their
number there. -/
def FileError.message : FileError → String
  | notFound => "No such file or directory (os error 2)"
  | notADirectory => "Not a directory (os error 20)"
  | isADirectory => "Is a directory (os error 21)"
  | alreadyExists => "File exists (os error 17)"
  | busy => "Device or resource busy (os error 16)"
  | nameTooLong => "File name too long (os error 36)"
  | nulInPath => "file name contained an unexpected NUL byte"
  | notText => "stream did not contain valid UTF-8"

/-- What is wrong with a manifest of models. -/
inductive ManifestDefect where
  | malformed
  | emptyName
  | repeatedModel (name : String)
  deriving DecidableEq, Repr

/-- What stands in a message where the text of a malformed document would be discussed.  The readers
of this library tell that a document is malformed and not where. -/
def malformedText : String := "<parser>"

/-- The complaint about a model that is defined a second time. -/
def repeatedModelText (name : String) : String :=
  "model '" ++ name ++ "' is defined more than once"

/-- The wording of a defect of a manifest. -/
def ManifestDefect.message : ManifestDefect → String
  | malformed => malformedText
  | emptyName => "model with an empty name"
  | repeatedModel name => repeatedModelText name

/-- Why an operation failed. -/
inductive Fault where
  | io (cause : FileError)
  | persist (cause : FileError)
  | malformedSettings
  | noModelSource
  | variableNotSet (name : String)
  | missingModel (name : String)
  | invalidAttribute (argument : String)
  | manifest (path : String) (defect : ManifestDefect)
  | duplicateModel (name : String)
  deriving DecidableEq, Repr

/-- The wording of a failure. -/
def Fault.message : Fault → String
  | io cause => "IO error: " ++ cause.message
  | persist cause => "Document persist error: failed to persist temporary file: " ++ cause.message
  | malformedSettings => "Configuration error: " ++ malformedText
  | noModelSource => "Configuration error: no model source configured"
  | variableNotSet name => "Environment variable not set: " ++ name
  | missingModel name => "Model not found: " ++ name
  | invalidAttribute argument =>
    "Invalid attribute: '" ++ argument ++ "' is not of the form name[:kind[\x7boptions\x7d]]"
  | manifest path defect => "Manifest error in " ++ path ++ ": " ++ defect.message
  | duplicateModel name => "Duplicate definition: " ++ repeatedModelText name

end InterfaceSync
