/-
  RoomSync.Signal.Basic
  ─────────────────────
  **SIGNALS.**

  What the client tells its consumers: account data, and news about a room.
-/
import RoomSync.Event.Codec
import RoomSync.Identifier.Codec

namespace RoomSync

open Json

/-- News about one room. -/
inductive RoomNews where
  | accountData (event : Value)
  /-- The user left, or was made to. -/
  | left (event : RoomEvent)
  | invited (event : RoomEvent)
  | joined
  | message (event : RoomEvent)
  /-- The room was replaced by another one. -/
  | archived (event : RoomEvent)
  /-- The room replaces another one. -/
  | upgraded (event : RoomEvent)
  /-- An encrypted event, as it came. -/
  | encrypted (event : RoomEvent)
  | decrypted (event : RoomEvent)
  | undecryptable (event : RoomEvent) (error : String)
  /-- Any timeline event. -/
  | event (event : RoomEvent)
  deriving DecidableEq, Inhabited

inductive Signal where
  | accountData (event : Value)
  | room (id : RoomId) (news : RoomNews)
  deriving DecidableEq, Inhabited

/-- The kinds a consumer can ask for. -/
inductive SignalKind where
  | accountData
  | roomAccountData
  | roomLeave
  | roomInvite
  | roomJoin
  | roomMessage
  | roomArchived
  | roomUpgraded
  | roomEncryptedEvent
  | roomDecryptedEvent
  | roomFailedDecryption
  | roomEvent
  deriving DecidableEq, Inhabited

namespace SignalKind

def name : SignalKind → String
  | accountData => "account_data"
  | roomAccountData => "room.account_data"
  | roomLeave => "room.leave"
  | roomInvite => "room.invite"
  | roomJoin => "room.join"
  | roomMessage => "room.message"
  | roomArchived => "room.archived"
  | roomUpgraded => "room.upgraded"
  | roomEncryptedEvent => "room.encrypted_event"
  | roomDecryptedEvent => "room.decrypted_event"
  | roomFailedDecryption => "room.failed_decryption"
  | roomEvent => "room.event"

def all : List SignalKind :=
  [accountData, roomAccountData, roomLeave, roomInvite, roomJoin, roomMessage, roomArchived,
    roomUpgraded, roomEncryptedEvent, roomDecryptedEvent, roomFailedDecryption, roomEvent]

/-- The kind of this name. -/
def ofName? (name : String) : Option SignalKind := all.find? (·.name = name)

end SignalKind

namespace Signal

def kind : Signal → SignalKind
  | accountData _ => .accountData
  | room _ news =>
      match news with
      | .accountData _ => .roomAccountData
      | .left _ => .roomLeave
      | .invited _ => .roomInvite
      | .joined => .roomJoin
      | .message _ => .roomMessage
      | .archived _ => .roomArchived
      | .upgraded _ => .roomUpgraded
      | .encrypted _ => .roomEncryptedEvent
      | .decrypted _ => .roomDecryptedEvent
      | .undecryptable _ _ => .roomFailedDecryption
      | .event _ => .roomEvent

/-- The room a signal is about. -/
def room? : Signal → Option RoomId
  | accountData _ => none
  | room id _ => some id

end Signal

/-- The event inside the news, in its written form. -/
def RoomNews.event? : RoomNews → Option Value
  | .accountData v => some v
  | .joined => none
  | .left e | .invited e | .message e | .archived e | .upgraded e | .encrypted e | .decrypted e
  | .undecryptable e _ | .event e => some e.encode

/-- A signal as a record: its name, and of room, event and error what it has. -/
def Signal.encode (s : Signal) : Value :=
  let (event, error) : Option Value × Option String :=
    match s with
    | .accountData v => (some v, none)
    | .room _ (.undecryptable e m) => (some e.encode, some m)
    | .room _ news => (news.event?, none)
  .recordSome [
    ("signal", some (.string s.kind.name)),
    ("room_id", s.room?.map RoomId.encode),
    ("event", event),
    ("error", error.map .string)]

/-! ## The signals of one timeline event. -/

/-- What a timeline event is news of besides being an event: a message, a
tombstone or an upgraded room, the latter two only as the room's own state. -/
def RoomEvent.shape? (e : RoomEvent) : Option RoomNews :=
  match e.kind with
  | .message => some (.message e)
  | .tombstone _ => if e.hasEmptyStateKey then some (.archived e) else none
  | .create (some _) => if e.hasEmptyStateKey then some (.upgraded e) else none
  | _ => none

/-- The signals of one timeline event, the plain event last. -/
def timelineSignals (room : RoomId) (e : RoomEvent) : List Signal :=
  (e.shape?.toList ++ [RoomNews.event e]).map (.room room)

end RoomSync
