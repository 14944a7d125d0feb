/-
  RoomSync.Storage.FileStore
  ──────────────────────────
  **STORAGE IN A FILE.**

  The document is read once, when the file is opened, and written whole on
  every change: into a temporary file beside it, which is then moved over
  it, so that a reader of the file never sees half a document.
-/
import RoomSync.Storage.Document
import RoomSync.Storage.FileSystem

namespace RoomSync

structure FileStore where
  path : Path
  /-- The document as this client sees it. -/
  document : Document := {}
  deriving DecidableEq

/-- What opening a storage file comes to. -/
inductive OpenError where
  /-- The file does not hold a document. -/
  | corrupt
  | unreadable
  deriving DecidableEq

def OpenError.toSyncError : OpenError → SyncError
  | corrupt => .storage "corrupt storage file"
  | unreadable => .io "storage file cannot be read"

namespace FileStore

/-- Open a storage file; one that does not exist yet is empty. -/
def openAt (fs : FileSystem) (path : Path) : Except OpenError FileStore :=
  match fs.read path with
  | .missing => .ok { path }
  | .failed => .error .unreadable
  | .text text =>
      match Document.ofText? text with
      | some document => .ok { path, document }
      | none => .error .corrupt

/-- Write the document to the file; the answer is whether that worked. -/
def flush (store : FileStore) (fs : FileSystem) : FileSystem × Bool :=
  match fs.createDirectories store.path.parent with
  | (fs, false) => (fs, false)
  | (fs, true) =>
      let temporary := store.path.withExtension "tmp"
      match fs.write temporary store.document.toText with
      | (fs, false) => (fs, false)
      | (fs, true) => fs.rename temporary store.path

/-- Make a write: first to the document, then to the file. -/
def write (store : FileStore) (w : Write) (fs : FileSystem) :
    FileStore × FileSystem × Except SyncError Unit :=
  let store := { store with document := store.document.apply w }
  match store.flush fs with
  | (fs, true) => (store, fs, .ok ())
  | (fs, false) => (store, fs, .error (.io "storage file cannot be written"))

end FileStore

end RoomSync
