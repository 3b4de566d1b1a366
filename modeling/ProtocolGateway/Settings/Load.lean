import ProtocolGateway.Settings.FromToml
import ProtocolGateway.Settings.Problem
import ProtocolGateway.SystemError
import ProtocolGateway.Text.Utf8

/-!
# Loading settings

The settings of a document and of a file. A document is refused if it is no TOML, if it has the
wrong shape, or if the settings have problems; a file also if it cannot be read.
-/

namespace ProtocolGateway

/-- Why a file cannot be read. -/
inductive ReadError where
  /-- The operating system reports an error. -/
  | system (code : Nat)
  | notUtf8
deriving DecidableEq, Repr

namespace ReadError

/-- There is no such file. -/
def notFound : ReadError := .system 2

/-- A part of the path that should be a directory is none. -/
def notDirectory : ReadError := .system 20

/-- There is a directory instead of a file. -/
def isDirectory : ReadError := .system 21

/-- A part of the path is too long. -/
def nameTooLong : ReadError := .system 36

/-- The wording of a read error. -/
def message : ReadError → String
  | .system code => SystemError.message code
  | .notUtf8 => "stream did not contain valid UTF-8"

end ReadError

/-- Why no settings could be loaded. -/
inductive LoadError where
  | unreadable (cause : ReadError)
  /-- The document is no TOML. -/
  | syntaxError
  /-- The document has the wrong shape. -/
  | shape (cause : ShapeError)
  /-- The settings have problems. -/
  | invalid (problems : List Problem)
deriving DecidableEq, Repr

/-- The problems as one line. -/
def joinProblems (problems : List Problem) : String :=
  ", ".intercalate (problems.map Problem.message)

/-- The wording of a load error. The part of a syntax error that shows the place is left out. -/
def LoadError.message : LoadError → String
  | .unreadable cause => "IO error: " ++ cause.message
  | .syntaxError => "Parse error:"
  | .shape cause => "Parse error: " ++ cause.message
  | .invalid problems => "Validation failed: " ++ joinProblems problems

/-- Whether the reader of log levels has crashed. Nobody gets to see the problems then. -/
def LoadError.crashes : LoadError → Bool
  | .invalid problems => problems.any fun p =>
    match p.fault with
    | .notLogLevel _ cause => cause = .crashed
    | _ => false
  | .unreadable _ | .syntaxError | .shape _ => false

/-- What a path on the file system leads to. -/
inductive FileContent where
  | unreadable (cause : ReadError)
  | file (bytes : Bytes)
deriving DecidableEq, Repr

namespace Settings

/-- Accepts settings without problems. -/
def validated [Log.Patterns] (s : Settings) : Except LoadError Settings :=
  if s.problems.isEmpty then .ok s else .error (.invalid s.problems)

/-- The settings of a document. -/
def parse [Log.Patterns] (text : List Char) : Except LoadError Settings :=
  match Toml.parse? text with
  | none => .error .syntaxError
  | some items =>
    match ofValue (.table items) with
    | .error cause => .error (.shape cause)
    | .ok s => s.validated

/-- The settings of a file. -/
def load [Log.Patterns] : FileContent → Except LoadError Settings
  | .unreadable cause => .error (.unreadable cause)
  | .file bytes =>
    match Utf8.decode? bytes with
    | none => .error (.unreadable .notUtf8)
    | some text => parse text

end Settings

end ProtocolGateway
