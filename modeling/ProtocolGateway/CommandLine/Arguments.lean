/-!
# Arguments

The commands of the program as they are typed. `server` and `check` take the path of a settings
file; a request for help is recognized in front of and after every command.

## Main definitions

* `Command`: what the program is asked to do.
* `Command.parse`: reads the arguments.
-/

namespace ProtocolGateway

/-- What the program is asked to do. -/
inductive Command where
  /-- To serve with the settings of a file. -/
  | server (path : String)
  /-- To check the settings of a file. -/
  | check (path : String)
  /-- To tell its version. -/
  | version
deriving DecidableEq, Repr

/-- Why the arguments are no command. -/
inductive Usage where
  /-- Help was asked for. -/
  | help
  /-- The arguments make no sense. -/
  | misuse
deriving DecidableEq, Repr

namespace Command

/-- The path of the settings file if none is given. -/
def defaultPath : String := "config/config.toml"

/-- What an argument is after a command. -/
inductive Word where
  | help
  /-- The path option with its value, if that is attached. -/
  | path (value : Option (List Char))
  /-- The end of the options. -/
  | endOfOptions
  /-- An option that does not exist. -/
  | unknown
  /-- Anything else. -/
  | plain

/-- What an argument is. -/
def Word.of (text : List Char) : Word :=
  match text with
  | ['-', '-'] => .endOfOptions
  | '-' :: '-' :: option =>
    if option = "help".toList then .help
    else if option = "config".toList then .path none
    else if "config=".toList.isPrefixOf option then .path (some (option.drop 7))
    else .unknown
  | ['-'] => .plain
  | '-' :: 'h' :: _ => .help
  | ['-', 'c'] => .path none
  | '-' :: 'c' :: '=' :: value => .path (some value)
  | '-' :: 'c' :: value => .path (some value)
  | '-' :: _ => .unknown
  | _ => .plain

/-- Takes a value of the path option, which must not be empty and is given once only. -/
def takePath (before : Option String) (value : List Char) : Except Usage (Option String) :=
  if before.isSome || value.isEmpty then .error .misuse else .ok (some (String.ofList value))

/-- Reads the arguments after a command that takes a path. -/
def parsePath (path : Option String) : List String → Except Usage (Option String)
  | [] => .ok path
  | arg :: rest =>
    match Word.of arg.toList with
    | .help => .error .help
    | .endOfOptions => if rest.isEmpty then .ok path else .error .misuse
    | .path (some value) => do parsePath (← takePath path value) rest
    | .path none =>
      match rest with
      | [] => .error .misuse
      | value :: rest =>
        match Word.of value.toList with
        | .plain => do parsePath (← takePath path value.toList) rest
        | _ => .error .misuse
    | _ => .error .misuse

/-- Reads the arguments after a command that takes none. -/
def parseNone : List String → Except Usage Unit
  | [] => .ok ()
  | arg :: rest =>
    match Word.of arg.toList with
    | .help => .error .help
    | .endOfOptions => if rest.isEmpty then .ok () else .error .misuse
    | _ => .error .misuse

/-- The names of the commands. -/
def names : List String := ["server", "check", "version", "help"]

/-- Reads the arguments after a request for help, which may name a command. -/
def parseHelp : List String → Usage
  | [] => .help
  | [name] => if names.contains name then .help else .misuse
  | _ => .misuse

/-- Reads the arguments. -/
def parse : List String → Except Usage Command
  | [] => .error .misuse
  | "server" :: rest => (parsePath none rest).map fun path => .server (path.getD defaultPath)
  | "check" :: rest => (parsePath none rest).map fun path => .check (path.getD defaultPath)
  | "version" :: rest => (parseNone rest).map fun _ => .version
  | "help" :: rest => .error (parseHelp rest)
  | arg :: _ =>
    match Word.of arg.toList with
    | .help => .error .help
    | _ => .error .misuse

end Command

end ProtocolGateway
