/-
  RoomSync.Main
  ─────────────
  **THE PROGRAM.**

  Follows an account through the answers of a homeserver that stand on
  standard input, one a line, and prints every signal on a line of its own.
  The configuration comes from a file, the environment and the arguments;
  the storage file is read before and written after.
-/
import RoomSync.CommandLine
import RoomSync.Configuration.Load
import RoomSync.Replay

namespace RoomSync

/-- The text of a file that can be read. -/
def readFile? (path : String) : IO (Option String) := do
  try
    return some (← IO.FS.readFile path)
  catch _ => return none

/-- The variables of the environment that set something. -/
def readVariables : IO (List (String × String)) := do
  let found ← Configuration.settingNames.mapM fun name => do
    let name := Configuration.variablePrefix ++ name.toUpper
    return (← IO.getEnv name).map (name, ·)
  return found.filterMap id

/-- The lines of standard input. -/
partial def readLines (input : IO.FS.Stream) (seen : List String) : IO (List String) := do
  let line ← input.getLine
  if line.isEmpty then return seen.reverse
  readLines input (line :: seen)

/-- The files that a configuration speaks of. -/
def readStorage (path : Option String) : IO FileSystem := do
  match path with
  | none => return {}
  | some path =>
      match ← readFile? path with
      | none => return {}
      | some text =>
          let path := Path.ofString path
          return ((FileSystem.createDirectories {} path.parent).1.write path text).1

/-- Say why nothing was done. -/
def refuse (message : String) (code : UInt32) : IO UInt32 := do
  IO.eprintln message
  return code

/-- Follow the account of a configuration. -/
def follow (c : Configuration) : IO UInt32 := do
  let files ← readStorage c.storagePath
  match ConfiguredClient.create c files with
  | .error e => refuse e.message 1
  | .ok client =>
      match client.replay (← readLines (← IO.getStdin) []) with
      | .error e => refuse e.message 1
      | .ok r =>
          for s in r.signals do
            IO.println s.encode.text
          if let some path := c.storagePath then
            IO.FS.writeFile path r.document.toText
          return 0

def runProgram (args : List String) : IO UInt32 := do
  match Arguments.parse args (← IO.getEnv (Configuration.variablePrefix ++ "CONFIG")) with
  | .error why =>
      if why.isAnswer then
        IO.println why.message
        return 0
      else refuse why.message 2
  | .ok a =>
      let file ← match a.config with
        | some path => readFile? path
        | none => pure none
      match Configuration.extract file (← readVariables) with
      | .error e => refuse e.toSyncError.message 1
      | .ok c => follow (a.override c)

end RoomSync

def main (args : List String) : IO UInt32 := RoomSync.runProgram args
