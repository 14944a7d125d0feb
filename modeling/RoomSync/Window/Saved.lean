/-
  RoomSync.Window.Saved
  ─────────────────────
  **LISTS IN STORAGE.**

  What outlives a restart: the position, and of each list its total, its
  pages and the facts of the rooms in them.  Pages of another page size are
  left out when a list is restored, and will be asked for again.
-/
import RoomSync.Window.RoomList

namespace RoomSync.Window

open Json

/-! ## §1. Saving and restoring. -/

structure SavedPage where
  range : Nat × Nat
  rooms : List (Option SavedRoom)
  deriving DecidableEq

structure SavedList where
  behaviour : Behaviour
  total : Nat
  pages : List SavedPage
  deriving DecidableEq

structure SavedWindows where
  pos : Option String
  lists : List SavedList
  deriving DecidableEq

/-- The room of a slot, saved; a slot whose room is not in the table counts
as a placeholder. -/
def RoomList.saveSlot (l : RoomList) (slot : Option RoomId) : Option SavedRoom :=
  (slot.bind l.rooms.get?).map Room.save

def RoomList.save (l : RoomList) : SavedList where
  behaviour := l.behaviour
  total := l.total
  pages := l.pages.entries.map fun (start, slots) =>
    ⟨(start, saturatingAdd start slots.length), slots.map l.saveSlot⟩

/-- Whether a saved window is a page of this size. -/
def SavedPage.fits (p : SavedPage) (pageSize : Nat) : Bool :=
  decide (p.range.1 % pageSize = 0) && decide (p.range.1 ≤ p.range.2)
    && decide (p.range.2 - p.range.1 ≤ pageSize) && decide (p.range.1 + pageSize ≤ maxIndex)

/-- Take in a saved page. -/
def RoomList.restorePage (l : RoomList) (p : SavedPage) : RoomList :=
  if p.fits l.pageSize then
    { l with
      pages := l.pages.insert p.range.1 (p.rooms.map fun slot => slot.map (·.id))
      rooms := (p.rooms.filterMap id).foldl (fun rooms s => rooms.insert s.id s.restore) l.rooms }
  else l

/-- The list a saved one stands for, in pages of this size. -/
def SavedList.restore (s : SavedList) (pageSize : Nat) : RoomList :=
  s.pages.foldl RoomList.restorePage { RoomList.create s.behaviour pageSize with total := s.total }

/-! ## §2. The written form. -/

namespace SavedPage

def decode : Decoder SavedPage := fun v => do
  let ms ← Decode.membersOrValues "a saved page" ["range", "rooms"] 2 v
  return {
    range := ← Decode.required "range" decodeRange ms
    rooms := ← Decode.required "rooms" (Decode.list (Decode.nullable SavedRoom.decode)) ms }

def encode (p : SavedPage) : Value :=
  .record [
    ("range", encodeRange p.range),
    ("rooms", .array (p.rooms.map (Value.ofOption SavedRoom.encode)))]

end SavedPage

namespace SavedList

def decode : Decoder SavedList := fun v => do
  let ms ← Decode.membersOrValues "a saved list" ["behaviour", "total_count", "pages"] 3 v
  return {
    behaviour := ← Decode.required "behaviour" Behaviour.decode ms
    total := ← Decode.required "total_count" Decode.u64 ms
    pages := ← Decode.required "pages" (Decode.list SavedPage.decode) ms }

def encode (s : SavedList) : Value :=
  .record [
    ("behaviour", s.behaviour.encode),
    ("total_count", .ofNat s.total),
    ("pages", .array (s.pages.map SavedPage.encode))]

end SavedList

namespace SavedWindows

def decode : Decoder SavedWindows := fun v => do
  let ms ← Decode.membersOrValues "saved windows" ["pos", "lists"] 1 v
  return {
    pos := ← Decode.optional "pos" Decode.string ms
    lists := ← Decode.defaulted "lists" [] (Decode.list SavedList.decode) ms }

def encode (s : SavedWindows) : Value :=
  .record [
    ("pos", Value.ofString? s.pos),
    ("lists", .array (s.lists.map SavedList.encode))]

end SavedWindows

end RoomSync.Window
