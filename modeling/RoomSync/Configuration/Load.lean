/-
  RoomSync.Configuration.Load
  ───────────────────────────
  **LOADING A CONFIGURATION.**

  The settings of a file, covered by those of the environment.
-/
import RoomSync.Configuration.Environment
import RoomSync.Toml.Reader

namespace RoomSync.Configuration

open Json

/-- Why there is no configuration. -/
inductive LoadError where
  /-- File and environment do not make a configuration. -/
  | malformed
  /-- They make one that cannot work. -/
  | unusable (fault : Fault)
  deriving DecidableEq

def LoadError.toSyncError : LoadError → SyncError
  | .malformed => .config "the settings are malformed"
  | .unusable fault => fault.toSyncError

/-- The configuration of a file, if there is one, and the variables. -/
def extract (file : Option String) (environment : List (String × String)) :
    Except LoadError Configuration :=
  match (file.map Toml.read?).getD (some (.object [])) with
  | none => .error .malformed
  | some below =>
      let settings := (cover below (ofVariables environment)).canonical
      match decodeWith Decode.settingContent settings with
      | .ok c => .ok c
      | .error _ => .error .malformed

/-- A configuration that can work. -/
def check (c : Configuration) : Except LoadError Configuration :=
  match c.fault? with
  | none => .ok c
  | some fault => .error (.unusable fault)

def load (file : Option String) (environment : List (String × String)) :
    Except LoadError Configuration := do
  check (← extract file environment)

end RoomSync.Configuration
