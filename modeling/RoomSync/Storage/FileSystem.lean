/-
  RoomSync.Storage.FileSystem
  ───────────────────────────
  **FILES AND DIRECTORIES.**

  As much of a file system as a storage file needs: a top directory, and
  below it files with a text and directories.  A written path is followed
  name by name (§2), so what it leads to depends on what is there.
-/
import RoomSync.Storage.Path
import RoomSync.Table

namespace RoomSync

/-! ## §1. What is there. -/

inductive Node where
  | file (text : String)
  | directory
  deriving DecidableEq

/-- A place: the names from the top directory down to it.  The directories
above the top one have places, too, by names that lead up. -/
abbrev Place := List String

namespace Place

def key (p : Place) : String := String.intercalate "/" p

/-- Whether a place is the top directory or one above it. -/
def isTop (p : Place) : Bool := p.all (· == Path.up)

/-- The directory of a place. -/
def above (p : Place) : Place := if p.isTop then p ++ [Path.up] else p.dropLast

end Place

/-- The steps of a file system that can fail. -/
inductive FileStep where
  | createDirectories
  | write
  | rename
  deriving DecidableEq

/-- What stands at all places, and the steps that are out of order. -/
structure FileSystem where
  nodes : Table String Node := .empty
  broken : FileStep → Bool := fun _ => false

namespace FileSystem

def node? (fs : FileSystem) (p : Place) : Option Node :=
  if p.isTop then some .directory else fs.nodes.get? p.key

def put (fs : FileSystem) (p : Place) (n : Node) : FileSystem :=
  { fs with nodes := fs.nodes.insert p.key n }

/-- The paths of all files below the top directory, in order. -/
def files (fs : FileSystem) : List String :=
  fs.nodes.entries.filterMap fun
    | (key, .file _) => if (key.splitOn "/").head? = some Path.up then none else some key
    | _ => none

/-! ## §2. Following a path. -/

/-- Where a path leads to. -/
inductive Found where
  | file (place : Place) (text : String)
  | directory
  /-- Nothing is there, but its directory is. -/
  | vacant (place : Place)
  /-- A directory on the way is not there. -/
  | missing
  /-- A file stands in the way, or a name cannot be one. -/
  | barred
  deriving DecidableEq

/-- Follow names from a directory. -/
def follow (fs : FileSystem) (place : Place) : List String → Found
  | [] => .directory
  | name :: rest =>
      if name = Path.up then fs.follow place.above rest
      else if Path.isTooLong name then .barred
      else
        let next := place ++ [name]
        match fs.node? next with
        | some .directory => fs.follow next rest
        | some (.file text) => if rest.isEmpty then .file next text else .barred
        | none => if rest.isEmpty then .vacant next else .missing

/-- Where a written path leads to; nothing lies inside of a file. -/
def find (fs : FileSystem) (p : Path) : Found :=
  if !p.isWritable then .barred
  else
    match fs.follow [] p.names with
    | .file place text => if p.isInside then .barred else .file place text
    | found => found

/-! ## §3. Steps. -/

/-- What reading a file comes to. -/
inductive ReadResult where
  | text (text : String)
  | missing
  | failed
  deriving DecidableEq

def read (fs : FileSystem) (p : Path) : ReadResult :=
  match fs.find p with
  | .file _ text => .text text
  | .vacant _ | .missing => .missing
  | .directory | .barred => .failed

/-- Follow names from a directory, and make those that are not there. -/
def makeWay (fs : FileSystem) (place : Place) : List String → FileSystem × Bool
  | [] => (fs, true)
  | name :: rest =>
      if name = Path.up then fs.makeWay place.above rest
      else if Path.isTooLong name then (fs, false)
      else
        let next := place ++ [name]
        match fs.node? next with
        | some .directory => fs.makeWay next rest
        | some (.file _) => (fs, false)
        | none => (fs.put next .directory).makeWay next rest

/-- Make a path and all directories on the way to it directories; the
answer is whether that worked. -/
def createDirectories (fs : FileSystem) (p : Path) : FileSystem × Bool :=
  if fs.broken .createDirectories || !p.isWritable then (fs, false) else fs.makeWay [] p.names

/-- Write a file into a directory that exists. -/
def write (fs : FileSystem) (p : Path) (text : String) : FileSystem × Bool :=
  if fs.broken .write then (fs, false)
  else
    match fs.find p with
    | .file place _ => (fs.put place (.file text), true)
    | .vacant place => if p.isInside then (fs, false) else (fs.put place (.file text), true)
    | .directory | .missing | .barred => (fs, false)

/-- Take a file to another place. -/
def move (fs : FileSystem) (source target : Place) (text : String) : FileSystem :=
  { fs with nodes := (fs.nodes.erase source.key).insert target.key (.file text) }

/-- Move a file over another path, which is no directory. -/
def rename (fs : FileSystem) (source target : Path) : FileSystem × Bool :=
  if fs.broken .rename then (fs, false)
  else
    match fs.find source, fs.find target with
    | .file place text, .file other _ => (fs.move place other text, true)
    | .file place text, .vacant other =>
        if target.isInside then (fs, false) else (fs.move place other text, true)
    | _, _ => (fs, false)

end FileSystem

end RoomSync
