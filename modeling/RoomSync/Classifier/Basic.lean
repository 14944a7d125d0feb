/-
  RoomSync.Classifier.Basic
  ─────────────────────────
  **WHAT A BATCH MEANS TO THE CLIENT.**

  The classifier turns rooms and events of a batch into signals.  It knows
  which rooms the user is in or invited to, so that it announces a change
  once; it remembers recent timeline events, so that it reports an event
  once; and it keeps the state of rooms.

      authoritative        — the member event that decides
      join, leave, invite  — one change of membership, announced
      timeline             — the events of a room the user is in
      windowed             — a payload, where all of these come mixed
-/
import RoomSync.Effect
import RoomSync.Recency
import RoomSync.Room.State
import RoomSync.Window.RoomList

namespace RoomSync

open Json

/-! ## §1. The member event that decides. -/

/-- Of the member events of `user` whose membership is accepted, the one
with the least age; the first of several. -/
def authoritative (user : UserId) (accept : Membership → Bool) (events : List RoomEvent) :
    Option RoomEvent :=
  events.foldl (fun best e =>
    if ((e.membershipOf? user.text).any accept) then
      match best with
      | some b => if e.age < b.age then some e else some b
      | none => some e
    else best) none

/-! ## §2. What the classifier works with. -/

/-- An end-to-end encryption engine. -/
structure CryptoEngine where
  isEncrypted : RoomId → Bool
  decrypt : RoomId → RoomEvent → Except SyncError RoomEvent
  update : CryptoUpdate → Except SyncError Unit

/-- A change to the events of some types before they are classified. -/
structure Preprocessor where
  types : List String
  run : RoomId → RoomEvent → Except SyncError RoomEvent

/-- The means a client is set up with. -/
structure Services where
  crypto : Option CryptoEngine := none
  preprocessors : List Preprocessor := []

/-- How many timeline events are remembered. -/
def memoryCapacity : Nat := 4096

structure Classifier where
  user : UserId
  joined : KeySet RoomId := .empty
  invited : KeySet RoomId := .empty
  /-- The timeline events seen last, by room and event id. -/
  seen : Recency (RoomId × String) memoryCapacity := {}
  cache : StateCache := .empty
  deriving DecidableEq

namespace Services

variable (s : Services)

/-- One preprocessor; an event of another type, or on which it fails, passes
unchanged. -/
def preprocessWith (room : RoomId) (e : RoomEvent) (p : Preprocessor) : RoomEvent :=
  if p.types.contains e.type then
    match p.run room e with
    | .ok e' => e'
    | .error _ => e
  else e

/-- All preprocessors in order, each on what the one before made. -/
def preprocess (room : RoomId) (e : RoomEvent) : RoomEvent :=
  s.preprocessors.foldl (preprocessWith room) e

/-- The crypto engine, where there is one. -/
def requireCrypto : Except SyncError CryptoEngine :=
  match s.crypto with
  | some engine => .ok engine
  | none => .error .cryptoNotReady

/-- Decrypt an event that came outside of any batch. -/
def decrypt (room : RoomId) (e : RoomEvent) : Action σ RoomEvent := fun state =>
  match s.requireCrypto with
  | .error err => ⟨state, [], .error err⟩
  | .ok engine => ⟨state, [.call (.decrypt room e)], engine.decrypt room e⟩

/-- The engine for an event: only for an encrypted event, in a room that is
encrypted. -/
def engineFor (room : RoomId) (e : RoomEvent) : Option CryptoEngine :=
  if e.kind = .encrypted then s.crypto.filter (·.isEncrypted room) else none

/-- Hand an event to the engine; it is announced raw, then decrypted or
failed.  The answer is the event to go on with. -/
def handOff (room : RoomId) (e : RoomEvent) : RoomEvent × List Effect :=
  match s.engineFor room e with
  | none => (e, [])
  | some engine =>
      let raw := [.signal (.room room (.encrypted e)), .call (.decrypt room e)]
      match engine.decrypt room e with
      | .ok e' => (e', raw ++ [.signal (.room room (.decrypted e'))])
      | .error err => (e, raw ++ [.signal (.room room (.undecryptable e err.message))])

end Services

namespace Classifier

def isJoined (c : Classifier) (room : RoomId) : Bool := c.joined.contains room

def isInvited (c : Classifier) (room : RoomId) : Bool := c.invited.contains room

/-! ## §3. Membership. -/

/-- Take over a membership from storage without announcing it; only joined
and invited count. -/
def restore (room : RoomId) (m : Membership) (c : Classifier) : Classifier :=
  match m with
  | .join => { c with joined := c.joined.insert room (), invited := c.invited.erase room }
  | .invite => if c.isJoined room then c else { c with invited := c.invited.insert room () }
  | _ => c

/-- The user is in a room; announced unless known. -/
def join (room : RoomId) (c : Classifier) : Outcome Classifier Bool :=
  if c.isJoined room then ⟨c, [], false⟩
  else
    ⟨{ c with joined := c.joined.insert room (), invited := c.invited.erase room },
      [.signal (.room room .joined)], true⟩

/-- Forget a room. -/
def forget (room : RoomId) (c : Classifier) : Classifier :=
  { c with
    joined := c.joined.erase room
    invited := c.invited.erase room
    cache := (StateCache.forget c.cache room).1 }

/-- Put state events into the cache. -/
def applyState (room : RoomId) (events : List RoomEvent) (c : Classifier) : Classifier :=
  { c with cache := (StateCache.apply c.cache room events).1 }

variable (s : Services)

/-- Announce that the user left with this event. -/
def announceLeave (room : RoomId) (e : RoomEvent) (c : Classifier) : Outcome Classifier Unit :=
  ⟨c.forget room, [.signal (.room room (.left (s.preprocess room e)))], ()⟩

/-- Announce an invite with this event. -/
def announceInvite (room : RoomId) (e : RoomEvent) (c : Classifier) : Outcome Classifier Unit :=
  ⟨{ c with invited := c.invited.insert room () },
    [.signal (.room room (.invited (s.preprocess room e)))], ()⟩

/-- The user left a room; announced if the timeline says how. -/
def leave (room : RoomId) (timeline : List RoomEvent) (c : Classifier) :
    Outcome Classifier Bool :=
  match authoritative c.user Membership.isDeparture timeline with
  | none => ⟨c, [], false⟩
  | some e => let o := announceLeave s room e c; ⟨o.state, o.effects, true⟩

/-- The user is invited to a room; announced if the stripped state says so. -/
def invite (room : RoomId) (stripped : List RoomEvent) (c : Classifier) :
    Outcome Classifier Bool :=
  match authoritative c.user (· = .invite) stripped with
  | none => ⟨c, [], false⟩
  | some e =>
      let o := announceInvite s room e (c.applyState room stripped)
      ⟨o.state, o.effects, true⟩

/-! ## §4. Timelines. -/

/-- Note a timeline event; the answer is whether it was seen already.  An
event without an id is always new. -/
def note (room : RoomId) (e : RoomEvent) (c : Classifier) : Classifier × Bool :=
  match e.id with
  | none => (c, false)
  | some id =>
      let (seen, known) := c.seen.note (room, id)
      ({ c with seen }, known)

/-- What is announced of a new timeline event. -/
def eventEffects (room : RoomId) (e : RoomEvent) : List Effect :=
  let (e', fx) := s.handOff room e
  fx ++ (timelineSignals room (s.preprocess room e')).map .signal

/-- One timeline event. -/
def timelineEvent (room : RoomId) (e : RoomEvent) (c : Classifier) : Outcome Classifier Unit :=
  match c.note room e with
  | (c, true) => ⟨c, [], ()⟩
  | (c, false) => ⟨c.applyState room [e], eventEffects s room e, ()⟩

/-- The events of a room's timeline in order. -/
def timeline (room : RoomId) (events : List RoomEvent) (c : Classifier) :
    Outcome Classifier Unit :=
  Outcome.forEach (timelineEvent s room) events c

/-! ## §5. Payloads of a window. -/

/-- The events of a payload among which the deciding one is looked for. -/
def candidates (p : Window.Payload) : List RoomEvent :=
  p.requiredState ++ p.inviteState ++ p.timeline

/-- The timeline of a room, if the user is in it. -/
def timelineIfJoined (room : RoomId) (events : List RoomEvent) (c : Classifier) :
    Outcome Classifier Unit :=
  if c.isJoined room then timeline s room events c else ⟨c, [], ()⟩

/-- A room of which the user is a member now, by its timeline. -/
def joinedTimeline (room : RoomId) (events : List RoomEvent) (c : Classifier) :
    Outcome Classifier Unit :=
  let first := join room c
  let others := timelineIfJoined s room events first.state
  ⟨others.state, first.effects ++ others.effects, ()⟩

/-- One payload.  A departure is announced for a known room, an invite for an
unknown one; a join, or a timeline without a word on membership outside the
list of invites, makes the user a member. -/
def windowed (room : RoomId) (list : Window.Behaviour) (p : Window.Payload) (c : Classifier) :
    Outcome Classifier Unit :=
  let c := c.applyState room p.requiredState
  match authoritative c.user (fun _ => true) (candidates p) with
  | some e =>
      match e.membership? with
      | some .leave | some .ban =>
          if c.isJoined room || c.isInvited room then announceLeave s room e c else ⟨c, [], ()⟩
      | some .invite =>
          if c.isInvited room || c.isJoined room then ⟨c, [], ()⟩
          else announceInvite s room e (c.applyState room p.inviteState)
      | some .join => joinedTimeline s room p.timeline c
      | _ => unspoken c
  | none => unspoken c
where
  /-- No membership that decides. -/
  unspoken (c : Classifier) : Outcome Classifier Unit :=
    if list ≠ .invited ∧ p.timeline ≠ [] then joinedTimeline s room p.timeline c
    else timelineIfJoined s room p.timeline c

end Classifier

end RoomSync
