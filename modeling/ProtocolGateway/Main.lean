import ProtocolGateway.CommandLine.Run

/-!
# The program

Reads the arguments, the settings file and the environment, and prints what the command has to say.
A process that serves does so until the standard input ends, which stands for the signal.
-/

namespace ProtocolGateway

/-- Why a file could not be read. -/
def readErrorOf : IO.Error → ReadError
  | .noFileOrDirectory _ code _ => .system code.toNat
  | .inappropriateType _ code _ => .system code.toNat
  | .permissionDenied _ code _ => .system code.toNat
  | .invalidArgument _ code _ => .system code.toNat
  | .resourceExhausted _ code _ => .system code.toNat
  | .otherError code _ => .system code.toNat
  | _ => .system 5

/-- What a path leads to. -/
def readContent (path : String) : IO FileContent := do
  try
    let bytes ← IO.FS.readBinFile path
    return .file bytes.toList
  catch e => return .unreadable (readErrorOf e)

/-- The path that a command reads. -/
def Command.path? : Command → Option String
  | .server path => some path
  | .check path => some path
  | .version => none

/-- Waits until the standard input ends. -/
partial def awaitEnd (input : IO.FS.Stream) : IO Unit := do
  let line ← input.getLine
  if line.isEmpty then return else awaitEnd input

end ProtocolGateway

open ProtocolGateway in
/-- The program. -/
def main (arguments : List String) : IO UInt32 := do
  match Command.parse arguments with
  | .error usage => return (Exit.ofUsage usage).code.toUInt32
  | .ok command =>
    let content ← match command.path? with
      | none => pure (.unreadable .notFound)
      | some path => readContent path
    let environment ← IO.getEnv "RUST_LOG"
    let around : Surroundings :=
      { read := fun _ => content, environment, signal := some .terminate }
    let exit := command.run around
    if let .server _ := command then
      if exit.code = Exit.success then awaitEnd (← IO.getStdin)
    for line in exit.output do IO.println line
    for line in exit.errors do IO.eprintln line
    return exit.code.toUInt32
