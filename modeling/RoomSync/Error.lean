/-
  RoomSync.Error
  ──────────────
  **WHAT CAN GO WRONG WHILE SYNCING.**

  One type for every failure the library reports, its short name (`kind`)
  and its wording (`message`).
-/

namespace RoomSync

inductive SyncError where
  /-- The homeserver was not reached. -/
  | transport (detail : String)
  /-- The homeserver refused a request. -/
  | http (status : Nat) (errcode detail : String)
  /-- The homeserver answered something that is not understood. -/
  | badResponse (detail : String)
  | storage (detail : String)
  /-- A document does not have the expected shape. -/
  | serialization (detail : String)
  | config (detail : String)
  | decryption (detail : String)
  /-- An encrypted event came where no crypto engine is set up. -/
  | cryptoNotReady
  /-- A window operation does not fit the list it names. -/
  | listConsistency (list detail : String)
  /-- An operation came at the wrong time. -/
  | invalidState (detail : String)
  | io (detail : String)
  deriving DecidableEq, Inhabited

namespace SyncError

/-- The short name of the kind of error. -/
def kind : SyncError → String
  | transport _ => "transport"
  | http _ _ _ => "http"
  | badResponse _ => "bad_response"
  | storage _ => "storage"
  | serialization _ => "serialization"
  | config _ => "config"
  | decryption _ => "decryption"
  | cryptoNotReady => "crypto_not_ready"
  | listConsistency _ _ => "list_consistency"
  | invalidState _ => "invalid_state"
  | io _ => "io"

/-- The wording of an error. -/
def message : SyncError → String
  | transport m => "Transport error: " ++ m
  | http status errcode m => "HTTP " ++ toString status ++ " (" ++ errcode ++ "): " ++ m
  | badResponse m => "Bad server response: " ++ m
  | storage m => "Storage error: " ++ m
  | serialization m => "Serialization error: " ++ m
  | config m => "Configuration error: " ++ m
  | decryption m => "Decryption error: " ++ m
  | cryptoNotReady => "Crypto engine not ready"
  | listConsistency list detail => "List " ++ list ++ " out of sync: " ++ detail
  | invalidState m => "Invalid state: " ++ m
  | io m => "IO error: " ++ m

end SyncError

end RoomSync
