/-
  RoomSync.Storage.Path
  ─────────────────────
  **WRITTEN PATHS.**

  A path is written as names between slashes.  Two points lead back up, one
  point and nothing between slashes lead nowhere, and a path that does not
  end with its last name leads into the directory of that name.
-/

namespace RoomSync

/-- A written path, relative to the top directory. -/
structure Path where
  /-- The names on the way. -/
  names : List String
  /-- Whether it goes on into the last name. -/
  isInside : Bool := false
  deriving DecidableEq

namespace Path

/-! ## §1. Names. -/

/-- The name that leads back up. -/
def up : String := ".."

/-- Whether something between slashes leads nowhere. -/
def isIdle (part : String) : Bool := part == "" || part == "."

/-- The longest name, in bytes of its UTF-8. -/
def longestName : Nat := 255

def isTooLong (name : String) : Bool := decide (longestName < name.utf8ByteSize)

/-- A name up to its last point, and what follows it; a point in front is
part of the name. -/
def splitExtension (name : String) : String × Option String :=
  let cs := name.toList.reverse
  match cs.dropWhile (· != '.') with
  | [] => (name, none)
  | _ :: front =>
      if front.isEmpty then (name, none)
      else
        (String.ofList front.reverse, some (String.ofList (cs.takeWhile (· != '.')).reverse))

/-! ## §2. Paths. -/

def ofString (s : String) : Path :=
  let parts := s.splitOn "/"
  { names := parts.filter (!isIdle ·), isInside := parts.getLast?.any isIdle }

/-- Whether a path can be written down for the system: it holds no null
character. -/
def isWritable (p : Path) : Bool := p.names.all fun name => !name.toList.contains '\x00'

def parent (p : Path) : Path := { names := p.names.dropLast }

/-- The path of another last name beside this one's. -/
def sibling (p : Path) (name : String) : Path := { names := p.names.dropLast ++ [name] }

/-- The path with another extension on its last name.  Where the old
extension is taken from a single point, two points remain, and they are no
name to put one on. -/
def withExtension (p : Path) (extension : String) : Path :=
  match p.names.getLast? with
  | none => p
  | some name =>
      if name = up then p
      else
        let (stem, old) := splitExtension name
        if stem = "." && old.any (· != "") && !p.isInside then p.sibling up
        else p.sibling (stem ++ "." ++ extension)

end Path

end RoomSync
