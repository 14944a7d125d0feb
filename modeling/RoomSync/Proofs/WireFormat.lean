/-
  RoomSync.Proofs.WireFormat
  ──────────────────────────
  **WHAT THE HOMESERVER SAYS CAN BE SAID AGAIN.**

  The three documents that are exchanged, each of which comes back from its
  written form: an answer that follows a cursor, an answer with windows, and a
  request for windows (`documents_come_back`).  A document may be written again in
  another way, with its defaults filled in, without malformed ids, and with members
  where its records were lists of values, but it is written in that way ever after.
-/
import RoomSync.Proofs.Cursor.WrittenForm
import RoomSync.Proofs.Window.WrittenForm

namespace RoomSync

open Json Decode

/-- **Whatever is read of a document is read again from what is written of it**,
down to each event, whose kind is told anew by its type and content; so to write a
document a second time changes nothing. -/
theorem documents_come_back :
    (∀ v b, Cursor.Batch.decode v = .ok b → Cursor.Batch.decode b.encode = .ok b)
      ∧ (∀ v b, Window.Batch.decode v = .ok b → Window.Batch.decode b.encode = .ok b)
      ∧ (∀ v r, Window.Request.decode v = .ok r → Window.Request.decode r.encode = .ok r)
      ∧ (∀ v e, RoomEvent.decode v = .ok e →
          RoomEvent.decode e.encode = .ok e ∧ e.kind = .of e.type e.content)
      ∧ (∀ v w, (Cursor.Batch.decode v).map Cursor.Batch.encode = .ok w →
          (Cursor.Batch.decode w).map Cursor.Batch.encode = .ok w)
      ∧ (∀ v w, (Window.Batch.decode v).map Window.Batch.encode = .ok w →
          (Window.Batch.decode w).map Window.Batch.encode = .ok w)
      ∧ (∀ v w, (Window.Request.decode v).map Window.Request.encode = .ok w →
          (Window.Request.decode w).map Window.Request.encode = .ok w) := by
  refine ⟨Cursor.Batch.roundTrips, Window.Batch.roundTrips, Window.Request.roundTrips, ?_,
    fun _ _ => Cursor.Batch.roundTrips.rewritten, fun _ _ => Window.Batch.roundTrips.rewritten,
    fun _ _ => Window.Request.roundTrips.rewritten⟩
  intro v e he
  exact ⟨RoomEvent.roundTrips v e he, RoomEvent.consistent_of_decode he⟩

/-! ## One document of each kind. -/

namespace Exchanged

def room : RoomId := ⟨"!told:x", by decide +kernel⟩

/-- An event with members that are not interpreted, its own and the server's. -/
def message : Value := .object [
  ("type", .string "m.room.message"), ("sender", .string "@telling:x"),
  ("content", .object [("n", .integer (-1)), ("body", .string "hello")]),
  ("unsigned", .object [("txn", .string "t"), ("age", .integer 5)]), ("depth", .integer 7)]

def messageRead : RoomEvent where
  sender := "@telling:x"
  type := "m.room.message"
  content := .object [("body", .string "hello"), ("n", .integer (-1))]
  unsigned := { age := some 5, extra := [("txn", .string "t")] }
  other := [("depth", .integer 7)]

/-- An answer with a section under an id that is malformed, without most of what there
is to say, and with records that stand as lists. -/
def sinceCursor : Value := .object [
  ("next_batch", .string "s1"),
  ("to_device", .array []),
  ("rooms", .array [.object [
    ("told:x", .object []),
    ("!told:x", .object [("timeline", .array [.array [message]])])]]),
  ("device_one_time_keys_count", .object [("signed", .integer 2), ("plain", .integer 1)]),
  ("device_lists", .object [("changed", .array [.string "nobody", .string "@telling:x"])])]

def sinceCursorRead : Cursor.Batch where
  nextBatch := "s1"
  joined := .ofList [(room, { timeline := { events := [messageRead] } })]
  oneTimeKeyCounts := .ofList [("plain", 1), ("signed", 2)]
  deviceLists := { changed := [⟨"@telling:x", by decide +kernel⟩] }

/-- All five operations, one of them as a list, with a place that is not known, a room
whose id is malformed and one without an id. -/
def windows : Value := .object [
  ("ops", .array [
    .object [("op", .string "SYNC"), ("list", .integer 0),
      ("range", .array [.integer 0, .integer 2]),
      ("rooms", .array [.null,
        .object [("room_id", .string "!told:x"), ("timeline", .array [message])]])],
    .object [("op", .string "INSERT"), ("list", .integer 0), ("index", .integer 1),
      ("room", .object [("room_id", .string "told:x")])],
    .object [("op", .string "UPDATE"), ("list", .integer 0), ("index", .integer 1),
      ("room", .object [("name", .string "not read"), ("required_state", .array [message])])],
    .array [.string "DELETE", .integer 0, .integer 3],
    .object [("op", .string "INVALIDATE"), ("list", .integer 1),
      ("range", .array [.integer 4, .integer 8])]]),
  ("pos", .string "p")]

def windowsRead : Window.Batch where
  pos := "p"
  operations := [
    .sync 0 (0, 2) [none, some { roomId := some room, timeline := [messageRead] }],
    .insert 0 1 {}, .update 0 1 { requiredState := [messageRead] }, .delete 0 3,
    .invalidate 1 (4, 8)]

def request : Value := .object [("lists", .array [.object [
  ("sort", .array [.string "by_recency"]), ("timeline_limit", .integer 20),
  ("required_state", .array [.array [.string "m.room.name", .string ""]]),
  ("rooms", .array [.array [.integer 0, .integer 20]]),
  ("filters", .array [.null, .bool false])]])]

def requestRead : Window.Request where
  lists := [{
    ranges := [(0, 20)]
    sort := ["by_recency"]
    requiredState := [("m.room.name", "")]
    timelineLimit := 20
    filters := some { isInvite := some false } }]

end Exchanged

open Exchanged in
/-- None of the three is written as it was read, and all of them come back. -/
theorem documents_written_again :
    (Cursor.Batch.decode sinceCursor = .ok sinceCursorRead
        ∧ sinceCursorRead.encode ≠ sinceCursor
        ∧ Cursor.Batch.decode sinceCursorRead.encode = .ok sinceCursorRead)
      ∧ (Window.Batch.decode windows = .ok windowsRead
        ∧ windowsRead.encode ≠ windows
        ∧ Window.Batch.decode windowsRead.encode = .ok windowsRead)
      ∧ (Window.Request.decode request = .ok requestRead
        ∧ requestRead.encode ≠ request
        ∧ Window.Request.decode requestRead.encode = .ok requestRead)
      ∧ (RoomEvent.decode messageRead.encode = .ok messageRead ∧ messageRead.kind = .message)
      ∧ (Window.Batch.decode windowsRead.encode).map Window.Batch.encode =
          .ok windowsRead.encode := by
  obtain ⟨hcursor, hwindows, hrequest, hevent, -, hrewritten, -⟩ := documents_come_back
  have hsince : Cursor.Batch.decode sinceCursor = .ok sinceCursorRead := rfl
  have hwindow : Window.Batch.decode windows = .ok windowsRead := rfl
  have hasked : Window.Request.decode request = .ok requestRead := rfl
  exact ⟨⟨hsince, by decide +kernel, hcursor _ _ hsince⟩,
    ⟨hwindow, by decide +kernel, hwindows _ _ hwindow⟩,
    ⟨hasked, by decide +kernel, hrequest _ _ hasked⟩,
    hevent message messageRead rfl, hrewritten windows _ (by rw [hwindow]; rfl)⟩

end RoomSync
