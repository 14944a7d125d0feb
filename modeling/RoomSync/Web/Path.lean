/-
  RoomSync.Web.Path
  ─────────────────
  **PATHS.**

  A path is the segments before its last slash and the one behind it, each
  already percent-encoded.  A segment of one point stands for nothing, and
  one of two points takes back the segment before it; neither is ever part
  of a path.
-/
import RoomSync.Web.Percent

namespace RoomSync.Web

structure Path where
  front : List String := []
  last : String := ""
  deriving DecidableEq, Inhabited

namespace Path

/-- Whether a segment stands for nothing. -/
def isHere (segment : String) : Bool := [".", "%2e", "%2E"].contains segment

/-- Whether a segment takes back the one before it. -/
def isBack (segment : String) : Bool :=
  ["..", "%2e%2e", "%2e%2E", "%2E%2e", "%2E%2E", "%2e.", "%2E.", ".%2e", ".%2E"].contains segment

/-- Whether a segment names a drive, which is never taken back. -/
def isDrive (segment : String) : Bool :=
  match segment.toList with
  | [c, mark] => c.isAlpha && (mark == ':' || mark == '|')
  | _ => false

/-- Take back the segment before. -/
def back (front : List String) : List String :=
  if front.getLast?.any isDrive then front else front.dropLast

/-- Go into a segment. -/
def enter (front : List String) (segment : String) : List String :=
  if isBack segment then back front
  else if isHere segment then front
  else front ++ [segment]

/-- End in a segment. -/
def endIn (front : List String) (segment : String) : Path :=
  if isBack segment then ⟨back front, ""⟩
  else if isHere segment then ⟨front, ""⟩
  else ⟨front, segment⟩

/-- The path through these segments. -/
def ofSegments (segments : List String) : Path :=
  endIn (segments.dropLast.foldl enter []) (segments.getLast?.getD "")

/-- The pieces between slashes of either kind. -/
def pieces : List Char → List (List Char)
  | [] => [[]]
  | c :: cs =>
      if c = '/' ∨ c = '\\' then [] :: pieces cs
      else
        match pieces cs with
        | [] => [[c]]
        | p :: ps => (c :: p) :: ps

/-- The path that a text names, with or without a slash in front. -/
def ofChars (cs : List Char) : Path :=
  let cs := match cs with
    | '/' :: rest | '\\' :: rest => rest
    | _ => cs
  ofSegments ((pieces cs).map fun p => String.ofList (percentEncode pathReserved p))

/-- All segments before one that is to come: an empty path has none. -/
def segments (p : Path) : List String :=
  if p.front.isEmpty && p.last == "" then [] else p.front ++ [p.last]

/-- Without an empty last segment. -/
def trimmed (p : Path) : Path :=
  if p.last = "" then ⟨p.front.dropLast, p.front.getLast?.getD ""⟩ else p

/-- Go on by one segment, which is taken as it is; points alone are left
out. -/
def push (p : Path) (segment : String) : Path :=
  if segment = "." ∨ segment = ".." then p
  else
    let kept := segment.toList.filter fun c => c != '\t' && c != '\n' && c != '\r'
    endIn p.segments (String.ofList (percentEncode segmentReserved kept))

def text (p : Path) : String :=
  String.join (p.front.map fun s => "/" ++ s) ++ "/" ++ p.last

end Path

end RoomSync.Web
