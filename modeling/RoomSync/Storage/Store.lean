/-
  RoomSync.Storage.Store
  ──────────────────────
  **STORAGE THAT CAN FAIL.**

  Storage is a document behind six methods, any of which may be out of
  order.  A method that fails answers its error and changes nothing.
-/
import RoomSync.Storage.Document

namespace RoomSync

/-- The methods of storage. -/
inductive StoreMethod where
  | getCursor
  | setCursor
  | getFilter
  | setFilter
  | readValue
  | storeValue
  deriving DecidableEq

namespace StoreMethod

def name : StoreMethod → String
  | getCursor => "get_cursor"
  | setCursor => "set_cursor"
  | getFilter => "get_filter"
  | setFilter => "set_filter"
  | readValue => "read_value"
  | storeValue => "store_value"

/-- The method that makes a write. -/
def ofWrite : Write → StoreMethod
  | .cursor _ => setCursor
  | .filter _ => setFilter
  | .value _ _ => storeValue

end StoreMethod

/-- A document, and the error of each method that is out of order. -/
structure Store where
  document : Document := {}
  faults : StoreMethod → Option SyncError := fun _ => none

instance : Inhabited Store := ⟨{}⟩

namespace Store

/-- Use a method: its error if it is out of order. -/
def guard (m : StoreMethod) (answer : Document → α) : Action Store α := fun s =>
  match s.faults m with
  | some e => ⟨s, [], .error e⟩
  | none => ⟨s, [], .ok (answer s.document)⟩

def getCursor : Action Store (Option String) := guard .getCursor (·.cursor)

def getFilter : Action Store (Option RegisteredFilter) := guard .getFilter (·.filter)

def readValue (key : String) : Action Store (Option String) :=
  guard .readValue (·.values.get? key)

/-- Make a write. -/
def write (w : Write) : Action Store Unit := fun s =>
  match s.faults (.ofWrite w) with
  | some e => ⟨s, [], .error e⟩
  | none => ⟨{ s with document := s.document.apply w }, [.write w], .ok ()⟩

def setCursor (cursor : Option String) : Action Store Unit := write (.cursor cursor)

def setFilter (filter : Option RegisteredFilter) : Action Store Unit := write (.filter filter)

def storeValue (key text : String) : Action Store Unit := write (.value key text)

end Store

end RoomSync
