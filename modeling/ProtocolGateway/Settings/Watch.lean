import ProtocolGateway.Log.Event
import ProtocolGateway.Settings.Load

/-!
# Watching a settings file

Changes are noticed in the directory of the file and not on the file itself, because a file is often
replaced as a whole. An event concerns the file if it has its name, and something was created or
written; then the file is loaded. What cannot be loaded is passed over, unless the watcher crashes.

## Main definitions

* `WatchedFile`: the file.
* `FileEvent`: what is noticed in its directory.
* `WatchedFile.accepts?`: the settings that an event brings.
* `WatchedFile.breaksOn`: whether an event crashes the watcher.
-/

namespace ProtocolGateway

/-- A settings file that is watched. -/
structure WatchedFile where
  /-- Its directory, as far as it was given. -/
  directory : String := ""
  /-- Its name in the directory. -/
  name : String
  /-- Whether the directory exists. -/
  directoryExists : Bool := true
deriving DecidableEq, Repr

/-- What is done to a file. -/
inductive FileChange where
  | created
  | modified
  | removed
  | accessed
deriving DecidableEq, Repr

/-- What is noticed in a directory, with what the file holds then. -/
structure FileEvent where
  name : String
  change : FileChange
  content : FileContent

/-- The part of the program that watches the file. -/
def watcherPart : String := "config::watcher"

namespace WatchedFile

/-- The path of the file. -/
def path (f : WatchedFile) : String := f.directory ++ f.name

/-- Whether the file has to be loaded again. -/
def concerns (f : WatchedFile) (e : FileEvent) : Bool :=
  (e.change = .created || e.change = .modified) && e.name = f.name

/-- The settings that an event brings, if it brings any. -/
def accepts? [Log.Patterns] (f : WatchedFile) (e : FileEvent) : Option Settings :=
  if f.concerns e then (Settings.load e.content).toOption else none

/-- Whether the watcher crashes on an event. -/
def breaksOn [Log.Patterns] (f : WatchedFile) (e : FileEvent) : Bool :=
  f.concerns e && match Settings.load e.content with
    | .ok _ => false
    | .error cause => cause.crashes

/-- What is logged of an event before its settings are delivered. -/
def notices [Log.Patterns] (f : WatchedFile) (e : FileEvent) : List Log.Event :=
  if f.concerns e then
    .of .info watcherPart "Config file change detected, reloading" [("path", .plain f.path)] ::
      match Settings.load e.content with
      | .ok _ => []
      | .error cause =>
        if cause.crashes then []
        else [.of .error watcherPart "Failed to reload config, keeping current configuration"
          [("error", .plain cause.message)]]
  else []

end WatchedFile

end ProtocolGateway
