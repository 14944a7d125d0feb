/-
  RoomSync.Toml.Reader
  ────────────────────
  **READING A CONFIGURATION FILE.**

  A file is a sequence of lines: headers, which say what table the lines
  below them belong to, and keys with values.  Lists and tables in braces
  are values; a list may go over several lines, a table in braces may not.
-/
import RoomSync.Toml.Document
import RoomSync.Toml.Scalar

namespace RoomSync.Toml

open Json

/-! ## §1. Values. -/

mutual

/-- A value inside so many lists and tables in braces; at most `fuel` steps
long. -/
def value : Nat → Nat → List Char → Read Value
  | 0, _, _ => none
  | fuel + 1, depth, cs =>
      match cs with
      | '[' :: rest =>
          if depth < maxNesting then
            (items fuel (depth + 1) rest).map fun (vs, rest) => (.array vs, rest)
          else none
      | '\x7b' :: rest =>
          if depth < maxNesting then
            match skipBlanks rest with
            | '\x7d' :: rest => some (.object [], rest)
            | rest => (pairs fuel (depth + 1) [] rest).map fun (ns, rest) => (ns.toValue, rest)
          else none
      | c :: _ =>
          if c == '\x22' || c == '\x27' then
            (string true cs).map fun (s, rest) => (.string s, rest)
          else scalar cs
      | [] => none

/-- The items of a list, up to its end. -/
def items : Nat → Nat → List Char → Read (List Value)
  | 0, _, _ => none
  | fuel + 1, depth, cs =>
      match skipLines false cs with
      | some (']' :: rest) => some ([], rest)
      | some cs =>
          match value fuel depth cs with
          | none => none
          | some (v, rest) =>
              match skipLines false rest with
              | some (',' :: rest) =>
                  (items fuel depth rest).map fun (vs, rest) => (v :: vs, rest)
              | some (']' :: rest) => some ([v], rest)
              | _ => none
      | none => none

/-- The members of a table in braces, up to its end. -/
def pairs : Nat → Nat → Nodes → List Char → Read Nodes
  | 0, _, _, _ => none
  | fuel + 1, depth, ns, cs =>
      match key (skipBlanks cs) with
      | none => none
      | some (path, rest) =>
          match skipBlanks rest with
          | '=' :: rest =>
              match value fuel depth (skipBlanks rest) with
              | none => none
              | some (v, rest) =>
                  match ns.putValue path v, skipBlanks rest with
                  | some ns, ',' :: rest => pairs fuel depth ns rest
                  | some ns, '\x7d' :: rest => some (ns, rest)
                  | _, _ => none
          | _ => none

end

/-! ## §2. Lines. -/

/-- A file half read: the tables so far and the header in force. -/
structure Progress where
  nodes : Nodes := []
  header : List String := []

/-- What stands between the marks of a header. -/
def headerPath (cs : List Char) : Read (List String) :=
  (key (skipBlanks cs)).map fun (path, rest) => (path, skipBlanks rest)

/-- One line that is not empty. -/
def line (p : Progress) (cs : List Char) : Read Progress :=
  match cs with
  | '[' :: '[' :: rest =>
      match headerPath rest with
      | some (path, ']' :: ']' :: rest) =>
          (p.nodes.beginItem path).map fun nodes => (⟨nodes, path⟩, rest)
      | _ => none
  | '[' :: rest =>
      match headerPath rest with
      | some (path, ']' :: rest) =>
          (p.nodes.beginTable path).map fun nodes => (⟨nodes, path⟩, rest)
      | _ => none
  | _ =>
      match key cs with
      | none => none
      | some (path, rest) =>
          match skipBlanks rest with
          | '=' :: rest =>
              match value (2 * rest.length + 2) 0 (skipBlanks rest) with
              | none => none
              | some (v, rest) =>
                  let put (_ : Origin) (ns : Nodes) : Option Nodes := ns.putValue path v
                  (p.nodes.descend false put .header p.header).map fun nodes =>
                    ({ p with nodes }, rest)
          | _ => none

/-- All lines, at most `fuel` of them. -/
def lines : Nat → Progress → List Char → Option Nodes
  | 0, _, _ => none
  | fuel + 1, p, cs =>
      match skipLines false cs with
      | none => none
      | some [] => some p.nodes
      | some cs =>
          match line p cs with
          | none => none
          | some (p, rest) =>
              match endLine rest with
              | none => none
              | some rest => lines fuel p rest

/-- The object that a file holds; a mark of the byte order in front does not
count. -/
def read? (text : String) : Option Value :=
  let cs := match text.toList with
    | '\uFEFF' :: cs => cs
    | cs => cs
  (lines (cs.length + 1) {} cs).map Nodes.toValue

end RoomSync.Toml
