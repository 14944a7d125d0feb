/-
  RoomSync.Toml.Document
  ──────────────────────
  **THE TABLES OF A CONFIGURATION FILE.**

  A file is a table of values and tables that grows line by line.  A table
  comes into being in one of three ways, and that decides how it may still
  grow:

      by its own header     — once, and not by keys of other tables
      on the way to another — until it gets its own header
      on the way of a key   — by keys of the same kind only
-/
import RoomSync.Json.Value

namespace RoomSync.Toml

open Json

/-! ## §1. Tables under construction. -/

/-- How a table came into being. -/
inductive Origin where
  | header
  | implied
  | dotted
  deriving DecidableEq

inductive Node where
  /-- A value, which is finished. -/
  | value (v : Value)
  | table (origin : Origin) (members : List (String × Node))
  /-- A list of tables, of which the last one grows. -/
  | tables (items : List (List (String × Node)))

/-- The members of a table. -/
abbrev Nodes := List (String × Node)

namespace Nodes

def get? (key : String) (ns : Nodes) : Option Node := (ns.find? (·.1 = key)).map (·.2)

/-- Put a member in the place of the one of its key, or behind all. -/
def set (key : String) (n : Node) (ns : Nodes) : Nodes :=
  if ns.any (·.1 = key) then ns.map fun m => if m.1 = key then (key, n) else m
  else ns ++ [(key, n)]

/-- Change the table at the end of a path, making the tables on the way that
are not there.  Keys lead through no table with a header. -/
def descend (dotted : Bool) (change : Origin → Nodes → Option Nodes) (origin : Origin) :
    List String → Nodes → Option Nodes
  | [], ns => change origin ns
  | key :: path, ns =>
      match get? key ns with
      | some (.value _) => none
      | some (.tables items) =>
          match items.getLast? with
          | none => none
          | some last =>
              (descend dotted change .header path last).map fun last =>
                set key (.tables (items.dropLast ++ [last])) ns
      | some (.table o members) =>
          if dotted ∧ o = .header then none
          else
            (descend dotted change o path members).map fun members =>
              set key (.table o members) ns
      | none =>
          let o : Origin := if dotted then .dotted else .implied
          (descend dotted change o path []).map fun members => set key (.table o members) ns

/-- Put in a value under a key of several parts. -/
def putValue (path : List String) (v : Value) (ns : Nodes) : Option Nodes :=
  let way := path.dropLast
  match path.getLast? with
  | none => none
  | some key =>
      descend true (fun origin ns =>
        if (!way.isEmpty && origin != .dotted) || (get? key ns).isSome then none
        else some (set key (.value v) ns)) .header way ns

/-- Begin the table of a header. -/
def beginTable (path : List String) (ns : Nodes) : Option Nodes :=
  match path.getLast? with
  | none => none
  | some key =>
      descend false (fun _ ns =>
        match get? key ns with
        | none => some (set key (.table .header []) ns)
        | some (.table .implied members) => some (set key (.table .header members) ns)
        | _ => none) .header path.dropLast ns

/-- Begin the next table of a list. -/
def beginItem (path : List String) (ns : Nodes) : Option Nodes :=
  match path.getLast? with
  | none => none
  | some key =>
      descend false (fun _ ns =>
        match get? key ns with
        | none => some (set key (.tables [[]]) ns)
        | some (.tables items) => some (set key (.tables (items ++ [[]])) ns)
        | _ => none) .header path.dropLast ns

end Nodes

/-! ## §2. Finished tables. -/

mutual

def Node.toValue : Node → Value
  | .value v => v
  | .table _ members => .object (membersToValue members)
  | .tables items => .array (itemsToValue items)

def membersToValue : List (String × Node) → List (String × Value)
  | [] => []
  | (key, n) :: rest => (key, n.toValue) :: membersToValue rest

def itemsToValue : List (List (String × Node)) → List Value
  | [] => []
  | ns :: rest => .object (membersToValue ns) :: itemsToValue rest

end

/-- The object that a file stands for. -/
def Nodes.toValue (ns : Nodes) : Value := (Value.object (membersToValue ns)).canonical

end RoomSync.Toml
