/-
  RoomSync.Window.Operations
  ──────────────────────────
  **APPLYING OPERATIONS TO A LIST.**

  Each operation touches one page.  An accepted operation names the rooms
  it brought or changed (`Touched`), in order; a refused one drops the page
  that it does not fit and changes nothing else.

      SYNC        — rebuild the page from its start on
      INSERT      — put a room into a slot, moving later slots up by one
      UPDATE      — change the room in a slot
      DELETE      — turn a slot into a placeholder
      INVALIDATE  — drop the pages of a window

  A page whose slots find no room ends the program (`carryOut?`).
-/
import RoomSync.Window.RoomList

namespace RoomSync.Window

/-- A room that an operation brought or changed, with what it said. -/
structure Touched where
  room : RoomId
  payload : Payload
  deriving DecidableEq

namespace RoomList

variable (user : UserId)

/-- Put a room into the table: the one known so far, or a new one, with the
payload taken in. -/
def materialize (l : RoomList) (known : Option Room) (id : RoomId) (p : Payload) : RoomList :=
  { l with rooms := l.rooms.insert id ((known.getD { id }).apply user p) }

/-! ## §1. SYNC. -/

/-- Whether a window is part of one addressable page, from its start on. -/
def fits (l : RoomList) (range : Nat × Nat) : Bool :=
  decide (range.1 < range.2) && decide (range.1 % l.pageSize = 0)
    && decide (range.2 - range.1 ≤ l.pageSize) && decide (range.1 + l.pageSize ≤ maxIndex)

/-- A page under construction. -/
structure Rebuild where
  list : RoomList
  /-- Rooms of the old page that no other page holds. -/
  detached : Table RoomId Room
  /-- The slots built so far. -/
  slots : Page := []
  touched : List Touched := []

/-- Take the page at `start` out; its rooms stay at hand. -/
def beginRebuild (l : RoomList) (start : Nat) : Rebuild :=
  let old := ((l.pages.get? start).getD []).filterMap id
  let l := { l with pages := l.pages.erase start }
  let orphan (id : RoomId) : Bool := old.contains id && !l.holds id
  { list := { l with rooms := l.rooms.filter fun id _ => !orphan id }
    detached := l.rooms.filter fun id _ => orphan id }

/-- The next slot: a room that is named for the first time, and loses any
other slot, or a placeholder. -/
def Rebuild.place (b : Rebuild) (entry : Option Payload) : Rebuild :=
  match entry.bind fun p => p.roomId.map (·, p) with
  | none => { b with slots := b.slots ++ [none] }
  | some (id, p) =>
      if b.slots.contains (some id) then { b with slots := b.slots ++ [none] }
      else
        let known := (b.detached.get? id).or (b.list.rooms.get? id)
        { list := (b.list.clear id).materialize user known id p
          detached := b.detached.erase id
          slots := b.slots ++ [some id]
          touched := b.touched ++ [⟨id, p⟩] }

/-- Put the built page in place, `width` slots wide. -/
def Rebuild.finish (b : Rebuild) (start width : Nat) : RoomList :=
  let slots := b.slots ++ List.replicate (width - b.slots.length) none
  sweep { b.list with pages := b.list.pages.insert start slots }

def applySync (l : RoomList) (range : Nat × Nat) (rooms : List (Option Payload)) :
    RoomList × Except ListFault (List Touched) :=
  if l.fits range then
    let width := range.2 - range.1
    let built := (rooms.take width).foldl (Rebuild.place user) (l.beginRebuild range.1)
    (built.finish range.1 width, .ok built.touched)
  else (l.invalidate range, .error (.misfit range.1 range.2 l.pageSize))

/-! ## §2. INSERT, UPDATE and DELETE. -/

/-- Whether the page of an index stays within the greatest index. -/
def isAddressable (l : RoomList) (index : Nat) : Bool :=
  decide ((l.locate index).1 + l.pageSize ≤ maxIndex)

/-- An index without an addressable page drops all pages from there on. -/
def refuseIndex (l : RoomList) (index : Nat) : RoomList × Except ListFault (List Touched) :=
  (l.invalidate ((l.locate index).1, maxIndex), .error (.unaddressable index))

/-- The slots with a room put in at `offset`: placeholders fill a gap before
it, later slots move up by one, and one slot too many falls off the end. -/
def insertSlot (slots : Page) (offset pageSize : Nat) (id : RoomId) : Page :=
  let padded := slots ++ List.replicate (offset - slots.length) none
  let grown := padded.take offset ++ some id :: padded.drop offset
  if pageSize < grown.length then grown.dropLast else grown

def applyInsert (l : RoomList) (index : Nat) (p : Payload) :
    RoomList × Except ListFault (List Touched) :=
  if l.isAddressable index then
    let (start, offset) := l.locate index
    match p.roomId with
    | none => (l.invalidatePage start, .error (.insertWithoutRoom index))
    | some id =>
        let l := l.clear id
        let slots := insertSlot ((l.pages.get? start).getD []) offset l.pageSize id
        let l := { l with pages := l.pages.insert start slots }
        (sweep (l.materialize user (l.rooms.get? id) id p), .ok [⟨id, p⟩])
  else l.refuseIndex index

def applyUpdate (l : RoomList) (index : Nat) (p : Payload) :
    RoomList × Except ListFault (List Touched) :=
  if l.isAddressable index then
    let start := (l.locate index).1
    match l.roomIdAt index with
    | none => (l.invalidatePage start, .error (.updateOfUnknown index))
    | some id =>
        let claimed := p.roomId.getD id
        if claimed = id then (l.materialize user (l.rooms.get? id) id p, .ok [⟨id, p⟩])
        else (l.invalidatePage start, .error (.updateOfOther index claimed id))
  else l.refuseIndex index

def applyDelete (l : RoomList) (index : Nat) : RoomList × Except ListFault (List Touched) :=
  if l.isAddressable index then
    let (start, offset) := l.locate index
    match l.slot? index with
    | none => (l.invalidatePage start, .error (.deleteOfUnknown index))
    | some none => (l, .ok [])
    | some (some _) =>
        let slots := ((l.pages.get? start).getD []).set offset none
        (sweep { l with pages := l.pages.insert start slots }, .ok [])
  else l.refuseIndex index

/-! ## §3. All operations. -/

/-- Apply an operation; the cause of a refusal is kept. -/
def applyCausal (l : RoomList) : Operation → RoomList × Except ListFault (List Touched)
  | .sync _ range rooms => l.applySync user range rooms
  | .insert _ index p => l.applyInsert user index p
  | .update _ index p => l.applyUpdate user index p
  | .delete _ index => l.applyDelete index
  | .invalidate _ range => (l.invalidate range, .ok [])

/-- Apply an operation; a refusal is an inconsistency of this list. -/
def apply (l : RoomList) (op : Operation) : RoomList × Except SyncError (List Touched) :=
  match l.applyCausal user op with
  | (l', .ok touched) => (l', .ok touched)
  | (l', .error fault) => (l', .error (.listConsistency l.name fault.message))

/-! ## §4. Room for slots. -/

/-- The slots of the page that an index lies in. -/
def pageAt (l : RoomList) (index : Nat) : Page := (l.pages.get? (l.locate index).1).getD []

/-- How many slots an operation asks room for.  A page that is built anew has room for its
window; one that a slot is put into may grow, to twice what it holds up to that slot. -/
def slotsAsked (l : RoomList) : Operation → Nat
  | .sync _ range _ => if l.fits range then range.2 - range.1 else 0
  | .insert _ index p =>
      if l.isAddressable index && p.roomId.isSome then
        2 * max (l.pageAt index).length (l.locate index).2
      else 0
  | _ => 0

/-- Apply an operation, unless there is no room for the slots it asks for: that ends the
program. -/
def carryOut? (l : RoomList) (op : Operation) :
    Option (RoomList × Except SyncError (List Touched)) :=
  if l.slotsAsked op ≤ maxSlots then some (l.apply user op) else none

end RoomList

end RoomSync.Window
