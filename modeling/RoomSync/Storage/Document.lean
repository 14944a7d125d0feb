/-
  RoomSync.Storage.Document
  ─────────────────────────
  **WHAT THE CLIENT REMEMBERS.**

  Everything that outlives a restart stands in one document: the cursor,
  the registered filter, and texts under keys.
-/
import RoomSync.Effect
import RoomSync.Json.Reader

namespace RoomSync

open Json

/-! ## §1. Filters. -/

namespace RegisteredFilter

def decode : Decoder RegisteredFilter := fun v => do
  let ms ← Decode.membersOrValues "a registered filter" ["id", "filter"] 2 v
  return {
    id := ← Decode.required "id" Decode.string ms
    filter := ← Decode.required "filter" Decode.content ms }

def encode (f : RegisteredFilter) : Value :=
  .record [("id", .string f.id), ("filter", f.filter)]

end RegisteredFilter

/-! ## §2. Documents. -/

structure Document where
  cursor : Option String := none
  filter : Option RegisteredFilter := none
  values : Table String String := .empty
  deriving DecidableEq, Inhabited

namespace Document

/-- The document after a write. -/
def apply (d : Document) : Write → Document
  | .cursor c => { d with cursor := c }
  | .filter f => { d with filter := f }
  | .value key text => { d with values := d.values.insert key text }

def decode : Decoder Document := fun v => do
  let ms ← Decode.membersOrValues "a storage document" ["cursor", "filter", "values"] 0 v
  return {
    cursor := ← Decode.optional "cursor" Decode.string ms
    filter := ← Decode.optional "filter" RegisteredFilter.decode ms
    values := ← Decode.defaulted "values" .empty
      (fun v => (Decode.entries Decode.string v).map .ofList) ms }

def encode (d : Document) : Value :=
  .recordSome [
    ("cursor", d.cursor.map .string),
    ("filter", d.filter.map RegisteredFilter.encode),
    ("values", some (.object (d.values.entries.map fun e => (e.1, .string e.2))))]

/-- The document that a text holds. -/
def ofText? : String → Option Document := Decode.ofText? decode

def toText (d : Document) : String := d.encode.text

end Document

end RoomSync
