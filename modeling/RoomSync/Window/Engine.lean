/-
  RoomSync.Window.Engine
  ──────────────────────
  **FOLLOWING AN ACCOUNT BY WINDOWS.**

  The session keeps room lists, asks for their windows, and classifies
  the rooms that an answer touches.  After each answer the lists are saved
  with the new position; a session that starts again takes them up, and
  tells the classifier which rooms it knows to be joined or invited.
-/
import RoomSync.Session.World
import RoomSync.Window.Operations
import RoomSync.Window.Saved

namespace RoomSync.Window

open Json

/-! ## §1. Sessions. -/

structure Options where
  pageSize : Nat := defaultPageSize
  timelineLimit : Nat := 20
  lists : List Behaviour := Behaviour.defaults
  deriving DecidableEq

structure Engine where
  options : Options := {}
  lists : List RoomList := []
  pos : Option String := none
  deriving DecidableEq

/-- The key under which the lists are saved. -/
def storageKey : String := "sync_v3"

namespace Engine

/-- The configured lists, of which nothing is known yet. -/
def freshLists (o : Options) : List RoomList := o.lists.map fun b => .create b o.pageSize

def create (options : Options) : Engine := { options, lists := freshLists options }

def list? (e : Engine) (b : Behaviour) : Option RoomList := e.lists.find? (·.behaviour = b)

def request (e : Engine) (user : UserId) : Request where
  lists := e.lists.map fun l => l.request user e.options.timelineLimit

/-- What is saved after an answer with this position. -/
def save (e : Engine) (pos : String) : SavedWindows := ⟨some pos, e.lists.map RoomList.save⟩

/-! ## §2. Taking up saved lists. -/

/-- Put a list in the place of the first one of its behaviour. -/
def replaceList (lists : List RoomList) (l : RoomList) : List RoomList :=
  match lists with
  | [] => []
  | l' :: rest => if l'.behaviour = l.behaviour then l :: rest else l' :: replaceList rest l

/-- The session that saved windows stand for. -/
def resume (o : Options) (saved : SavedWindows) : Engine where
  options := o
  pos := saved.pos
  lists := saved.lists.foldl (fun lists s => replaceList lists (s.restore o.pageSize))
    (freshLists o)

/-- The session to start with: what is saved, if that can be read. -/
def start (o : Options) (text : Option String) : Engine :=
  match text.bind (Decode.ofText? SavedWindows.decode) with
  | some saved => resume o saved
  | none => create o

/-- The membership that a list implies for its rooms. -/
def implied : Behaviour → Option Membership
  | .joined => some .join
  | .invited => some .invite
  | .direct => none

/-- The memberships known from the lists: what a room says, else what its
list implies. -/
def knownMemberships (e : Engine) : List (RoomId × Membership) :=
  e.lists.flatMap fun l => l.rooms.entries.filterMap fun (_, r) =>
    (r.facts.ownMembership.or (implied l.behaviour)).map (r.id, ·)

/-! ## §3. Taking in an answer. -/

/-- Set the totals of the lists that have one. -/
def setTotals : List RoomList → List Nat → List RoomList
  | l :: ls, n :: ns => { l with total := n } :: setTotals ls ns
  | ls, _ => ls

variable (s : Services)

/-- Classify the rooms that an operation touched. -/
def classifyTouched (b : Behaviour) (touched : List Touched) (c : Classifier) :
    Outcome Classifier Unit :=
  Outcome.forEach (fun (t : Touched) => Classifier.windowed s t.room b t.payload) touched c

/-- Apply one operation; one for an unknown list, or one that is refused,
announces nothing. -/
def applyOperation (op : Operation) (state : List RoomList × Classifier) :
    Outcome (List RoomList × Classifier) Unit :=
  let (lists, c) := state
  match lists[op.list]? with
  | none => ⟨(lists, c), [], ()⟩
  | some l =>
      match l.apply c.user op with
      | (l', .ok touched) =>
          let o := classifyTouched s l.behaviour touched c
          ⟨(lists.set op.list l', o.state), o.effects, ()⟩
      | (l', .error _) => ⟨(lists.set op.list l', c), [], ()⟩

/-- Apply an answer's totals and then its operations in order. -/
def applyBatch (b : Batch) : Action (Session Engine) Unit := fun session =>
  let start := (setTotals session.loop.lists b.counts, session.world.classifier)
  let o := Outcome.forEach (applyOperation s) b.operations start
  ⟨{ loop := { session.loop with lists := o.state.1 }
     world := { session.world with classifier := o.state.2 } }, o.effects, .ok ()⟩

end Engine

/-! ## §4. The strategy. -/

def prepare : Action (Session Engine) Unit := do
  Session.update fun e => .create e.options
  let text ← Session.onWorld (World.onStore (Store.readValue storageKey))
  Session.update fun e => .start e.options text
  let engine ← Session.own
  Session.onWorld <| World.classify fun c =>
    ⟨engine.knownMemberships.foldl (fun c (room, m) => c.restore room m) c, [], ()⟩

/-- Save the lists under a position. -/
def persist (pos : String) : Action (Session Engine) Unit := do
  let engine ← Session.own
  Session.onWorld (World.onStore (Store.storeValue storageKey (engine.save pos).encode.text))

/-- Take in an answer: apply it, save, then move to its position. -/
def process (s : Services) (b : Batch) : Action (Session Engine) Unit := do
  Engine.applyBatch s b
  persist b.pos
  Session.update ({ · with pos := some b.pos })

def strategy (s : Services) : Strategy Engine Batch where
  name := "windowed"
  prepare := prepare
  request e user := .window e.pos (e.request user)
  reply? := Homeserver.nextWindow?
  process := process s

end RoomSync.Window
