/-
  RoomSync.Configuration.Basic
  ────────────────────────────
  **WHAT A CLIENT IS SET UP WITH.**

  The settings of a client, which of them have a default, and which
  combinations cannot work (`fault?`).  The options of both ways of
  following an account are read off a configuration.
-/
import RoomSync.Cursor.Loop
import RoomSync.Retry.Backoff
import RoomSync.Window.Engine

namespace RoomSync

open Json

/-! ## §1. Settings. -/

/-- The two ways of following an account. -/
inductive Mode where
  | cursor
  | windowed
  deriving DecidableEq, Inhabited

namespace Mode

def name : Mode → String
  | cursor => "cursor"
  | windowed => "windowed"

def all : List Mode := [cursor, windowed]

/-- The mode of this name. -/
def ofName? (name : String) : Option Mode := all.find? (·.name = name)

def decode : Decoder Mode := Decode.choice (all.map fun m => (m.name, m))

def encode (m : Mode) : Value := .string m.name

end Mode

structure Configuration where
  homeserver : String
  accessToken : String
  userId : String
  mode : Mode := .cursor
  /-- The file that keeps what outlives a restart; nothing does without. -/
  storagePath : Option String := none
  presence : Option Presence := none
  /-- Registered with the homeserver at the start. -/
  filter : Option Value := none
  timeoutMs : Nat := 30000
  persistAfter : Bool := false
  backoffMinMs : Nat := 5000
  backoffMaxMs : Nat := 15000
  pageSize : Nat := Window.defaultPageSize
  timelineLimit : Nat := 20
  /-- The lists to keep, all of them unless named. -/
  lists : Option (List Window.Behaviour) := none
  /-- What to log. -/
  log : String := "info"
  deriving DecidableEq

namespace Configuration

/-! ## §2. The written form. -/

/-- The names of all settings. -/
def settingNames : List String :=
  ["homeserver_url", "access_token", "user_id", "mode", "storage_path", "presence", "filter",
    "timeout_ms", "persist_token_after_sync", "backoff_min_ms", "backoff_max_ms", "page_size",
    "timeline_limit", "lists", "log"]

/-- A configuration whose filter is content of some kind; the first three
settings have no default. -/
def decodeWith (content : Decoder Value) : Decoder Configuration := fun v => do
  let ms ← Decode.membersOrValues "a configuration" settingNames 3 v
  return {
    homeserver := ← Decode.required "homeserver_url" Decode.string ms
    accessToken := ← Decode.required "access_token" Decode.string ms
    userId := ← Decode.required "user_id" Decode.string ms
    mode := ← Decode.defaulted "mode" .cursor Mode.decode ms
    storagePath := ← Decode.optional "storage_path" Decode.string ms
    presence := ← Decode.optional "presence" Presence.decode ms
    filter := ← Decode.optional "filter" content ms
    timeoutMs := ← Decode.defaulted "timeout_ms" 30000 Decode.u64 ms
    persistAfter := ← Decode.defaulted "persist_token_after_sync" false Decode.bool ms
    backoffMinMs := ← Decode.defaulted "backoff_min_ms" 5000 Decode.u64 ms
    backoffMaxMs := ← Decode.defaulted "backoff_max_ms" 15000 Decode.u64 ms
    pageSize := ← Decode.defaulted "page_size" Window.defaultPageSize Decode.u64 ms
    timelineLimit := ← Decode.defaulted "timeline_limit" 20 Decode.u32 ms
    lists := ← Decode.optional "lists" (Decode.list Window.Behaviour.decode) ms
    log := ← Decode.defaulted "log" "info" Decode.string ms }

def decode : Decoder Configuration := decodeWith Decode.opaqueValue

def encode (c : Configuration) : Value :=
  .record [
    ("homeserver_url", .string c.homeserver),
    ("access_token", .string c.accessToken),
    ("user_id", .string c.userId),
    ("mode", c.mode.encode),
    ("storage_path", .ofString? c.storagePath),
    ("presence", .ofOption Presence.encode c.presence),
    ("filter", c.filter.getD .null),
    ("timeout_ms", .ofNat c.timeoutMs),
    ("persist_token_after_sync", .bool c.persistAfter),
    ("backoff_min_ms", .ofNat c.backoffMinMs),
    ("backoff_max_ms", .ofNat c.backoffMaxMs),
    ("page_size", .ofNat c.pageSize),
    ("timeline_limit", .ofNat c.timelineLimit),
    ("lists", .ofOption (fun bs => .array (bs.map Window.Behaviour.encode)) c.lists),
    ("log", .string c.log)]

/-! ## §3. What cannot work. -/

inductive Fault where
  | noHomeserver
  | notAUserId (text : String)
  | emptyPages
  | backoffReversed (least most : Nat)
  | noLists
  deriving DecidableEq

def Fault.message : Fault → String
  | .noHomeserver => "homeserver_url must not be empty"
  | .notAUserId text => "user_id must be a full Matrix user id, got " ++ text
  | .emptyPages => "page_size must be at least 1"
  | .backoffReversed least most =>
      "backoff_min_ms (" ++ toString least ++ ") exceeds backoff_max_ms (" ++ toString most ++ ")"
  | .noLists => "lists must name at least one list"

def Fault.toSyncError (f : Fault) : SyncError := .config f.message

/-- The white space of every script. -/
def isBlank (c : Char) : Bool :=
  let n := c.toNat
  (decide (9 ≤ n) && decide (n ≤ 13)) || n == 0x20 || n == 0x85 || n == 0xA0 || n == 0x1680
    || (decide (0x2000 ≤ n) && decide (n ≤ 0x200A)) || n == 0x2028 || n == 0x2029
    || n == 0x202F || n == 0x205F || n == 0x3000

/-- The first thing that cannot work. -/
def fault? (c : Configuration) : Option Fault :=
  if c.homeserver.toList.all isBlank then some .noHomeserver
  else if c.userId.toList.head? ≠ some '@' then some (.notAUserId c.userId)
  else if c.pageSize = 0 then some .emptyPages
  else if c.backoffMaxMs < c.backoffMinMs then
    some (.backoffReversed c.backoffMinMs c.backoffMaxMs)
  else if c.lists = some [] then some .noLists
  else none

/-! ## §4. The options of each part. -/

def backoff (c : Configuration) : Backoff := .between c.backoffMinMs c.backoffMaxMs

def cursorOptions (c : Configuration) : Cursor.Options where
  filter := c.filter
  presence := c.presence
  timeoutMs := c.timeoutMs
  persistAfter := c.persistAfter

def windowOptions (c : Configuration) : Window.Options where
  pageSize := c.pageSize
  timelineLimit := c.timelineLimit
  lists := c.lists.getD Window.Behaviour.defaults

end Configuration

end RoomSync
