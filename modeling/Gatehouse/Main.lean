import Gatehouse.Config.Layers

/-!
# Command line

`gatehouse [--env NAME]` loads the configuration of an environment from `config/`
and from the variables, and says under which address the service listens; a
configuration that cannot be used is reported and ends with status 1.
-/

set_option autoImplicit false

namespace Gatehouse.CommandLine

open Gatehouse

/-- The environment that the arguments name, if they are understood. -/
def environment? (preset : Option String) : List String → Option String
  | [] => some (preset.getD "development")
  | ["--env", name] => some name
  | _ => none

/-- The text of a file, if it is there. -/
def textOf? (path : String) : IO (Option String) := do
  try
    pure (some (← IO.FS.readFile path))
  catch _ => pure none

/-- The variables that the process was started with, between zero bytes. -/
def startVariables : IO (List (String × String)) := do
  let all := (← textOf? "/proc/self/environ").getD ""
  pure ((all.splitOn "\x00").filterMap fun entry =>
    match entry.splitOn "=" with
    | name :: first :: rest => some (name, String.intercalate "=" (first :: rest))
    | _ => none)

def summary (settings : Config.Settings) : String :=
  "Listening address " ++ settings.server.host ++ ":" ++ toString settings.server.port ++
    ", cache " ++ settings.cache.provider ++ ", throttle " ++ settings.rateLimit.backend.name

def run (arguments : List String) : IO UInt32 := do
  match environment? (← IO.getEnv "TOLLGATE_ENV") arguments with
  | none =>
    IO.eprintln "usage: gatehouse [--env NAME]"
    pure 2
  | some name =>
    let common ← textOf? "config/default.toml"
    let own ← textOf? ("config/" ++ name ++ ".toml")
    match Config.load common own (← startVariables) with
    | .error failure =>
      IO.eprintln ("Failed to load configuration: " ++ failure.display)
      pure 1
    | .ok settings =>
      IO.println (summary settings)
      pure 0

end Gatehouse.CommandLine

def main (arguments : List String) : IO UInt32 :=
  Gatehouse.CommandLine.run arguments
