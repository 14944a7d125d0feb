/-
  RoomSync.CommandLine
  ────────────────────
  **ARGUMENTS.**

      -c, --config <file>     -l, --log <text>     -m, --mode <mode>
      -h, --help              -V, --version

  An option takes one value, behind an equals sign or as the next argument;
  behind its letter the sign may be missing.  No option stands twice, and
  there are no other arguments.  The configuration file may come from the
  environment instead.
-/
import RoomSync.Configuration.Basic

namespace RoomSync

/-! ## §1. Options. -/

/-- What the arguments say. -/
structure Arguments where
  config : Option String := none
  log : Option String := none
  mode : Option Mode := none
  deriving DecidableEq, Inhabited

/-- Why there are no arguments to go by. -/
inductive ArgumentStop where
  /-- A value is missing, empty or none of those allowed. -/
  | badValue
  | unknown
  /-- An option stands twice. -/
  | repeated
  /-- A value where none belongs. -/
  | needlessValue
  | help
  | version
  deriving DecidableEq

namespace ArgumentStop

def usage : String :=
  "Usage: room-sync [OPTIONS]\n\n" ++
  "Options:\n" ++
  "  -c, --config <CONFIG>  Path to configuration file\n" ++
  "  -l, --log <LOG>        What to log, overrides the configured one\n" ++
  "  -m, --mode <MODE>      Way of following, overrides the configured one\n" ++
  "  -h, --help             Print help\n" ++
  "  -V, --version          Print version"

/-- What is said in place of doing anything. -/
def message : ArgumentStop → String
  | badValue => "error: an option has no value that it can have"
  | unknown => "error: unexpected argument"
  | repeated => "error: an option stands twice"
  | needlessValue => "error: an option has a value that it does not take"
  | help => usage
  | version => "room-sync 0.11.0-alpha"

/-- Whether the arguments ask for it. -/
def isAnswer (why : ArgumentStop) : Bool := why = help || why = version

end ArgumentStop

/-- The options with a value. -/
inductive ValueOption where
  | config
  | log
  | mode
  deriving DecidableEq

/-- What an option does. -/
inductive Switch where
  | takes (option : ValueOption)
  | stops (why : ArgumentStop)
  deriving DecidableEq

namespace Switch

def ofName? (name : String) : Option Switch :=
  match name with
  | "config" => some (.takes .config)
  | "log" => some (.takes .log)
  | "mode" => some (.takes .mode)
  | "help" => some (.stops .help)
  | "version" => some (.stops .version)
  | _ => none

def ofLetter? (letter : Char) : Option Switch :=
  match letter with
  | 'c' => some (.takes .config)
  | 'l' => some (.takes .log)
  | 'm' => some (.takes .mode)
  | 'h' => some (.stops .help)
  | 'V' => some (.stops .version)
  | _ => none

end Switch

namespace Arguments

/-- Whether an option has its value. -/
def has (a : Arguments) : ValueOption → Bool
  | .config => a.config.isSome
  | .log => a.log.isSome
  | .mode => a.mode.isSome

/-- Give an option its value. -/
def put (a : Arguments) (o : ValueOption) (value : String) : Except ArgumentStop Arguments :=
  match o with
  | .config => if value = "" then .error .badValue else .ok { a with config := some value }
  | .log => .ok { a with log := some value }
  | .mode =>
      match Mode.ofName? value with
      | some m => .ok { a with mode := some m }
      | none => .error .badValue

/-- Give an option what the arguments say is its value. -/
def give (a : Arguments) (o : ValueOption) (value : Option String) :
    Except ArgumentStop Arguments :=
  match value with
  | none => .error .badValue
  | some v => if a.has o then .error .repeated else a.put o v

end Arguments

/-! ## §2. One argument after the other. -/

/-- Arguments half read. -/
structure Reading where
  given : Arguments := {}
  /-- The last option and its value, if it came already. -/
  pending : Option (ValueOption × Option String) := none
  /-- Behind two hyphens alone no argument is an option. -/
  plain : Bool := false

namespace Reading

/-- Give the last option its value. -/
def settle (r : Reading) : Except ArgumentStop Reading :=
  match r.pending with
  | none => .ok r
  | some (o, value) => do
      return { r with given := ← r.given.give o value, pending := none }

/-- An option with the value that belongs to it, if there is one. -/
def takeOption (r : Reading) (o : ValueOption) (value : Option String) :
    Except ArgumentStop Reading := do
  let r ← r.settle
  match value with
  | none => return { r with pending := some (o, none) }
  | some v => return { r with given := ← r.given.give o (some v) }

/-- An option without a value stops everything, after what came before. -/
def takeStop (r : Reading) (why : ArgumentStop) : Except ArgumentStop Reading := do
  let _ ← r.settle
  throw why

/-- An option by its name, with what stands behind an equals sign. -/
def takeLong (r : Reading) (name : String) (value : Option String) :
    Except ArgumentStop Reading :=
  match Switch.ofName? name with
  | none => .error .unknown
  | some (.takes o) => r.takeOption o value
  | some (.stops why) => if value.isSome then .error .needlessValue else r.takeStop why

/-- An option by its letter, with what stands behind it. -/
def takeShort (r : Reading) (letter : Char) (rest : List Char) : Except ArgumentStop Reading :=
  match Switch.ofLetter? letter with
  | none => .error .unknown
  | some (.stops why) => r.takeStop why
  | some (.takes o) =>
      match rest with
      | [] => r.takeOption o none
      | '=' :: value => r.takeOption o (some (String.ofList value))
      | value => r.takeOption o (some (String.ofList value))

/-- An argument that is no option: the value of the last one. -/
def takePlain (r : Reading) (arg : String) : Except ArgumentStop Reading :=
  match r.pending with
  | some (o, none) => .ok { r with pending := some (o, some arg) }
  | _ => .error .unknown

def step (r : Reading) (arg : String) : Except ArgumentStop Reading :=
  if r.plain then .error .unknown
  else
    match arg.toList with
    | ['-', '-'] => .ok { r with plain := true }
    | '-' :: '-' :: cs =>
        let name := String.ofList (cs.takeWhile (· != '='))
        let value := match cs.dropWhile (· != '=') with
          | [] => none
          | _ :: value => some (String.ofList value)
        r.takeLong name value
    | '-' :: letter :: rest => r.takeShort letter rest
    | _ => r.takePlain arg

end Reading

/-! ## §3. All arguments. -/

/-- What the arguments and the environment say. -/
def Arguments.parse (args : List String) (environment : Option String) :
    Except ArgumentStop Arguments := do
  let r ← args.foldlM Reading.step {}
  let r ← r.settle
  match environment with
  | some path => if r.given.config.isSome then return r.given else r.given.put .config path
  | none => return r.given

/-- A configuration with what the arguments say of it. -/
def Arguments.override (a : Arguments) (c : Configuration) : Configuration :=
  { c with log := a.log.getD c.log, mode := a.mode.getD c.mode }

end RoomSync
