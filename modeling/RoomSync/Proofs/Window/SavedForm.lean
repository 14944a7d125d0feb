/-
  RoomSync.Proofs.Window.SavedForm
  ────────────────────────────────
  **WHAT IS LOST BETWEEN WRITING AND READING.**

  A room's facts go to storage as the members of a record, and a fact that is
  missing has no member.  A member that is `null` is read as a missing one, so a
  fact whose value is `null` is lost: that can be the content of the event by
  which a room is encrypted, and nothing else.

      RoomEvent.kept_content    — the content of an event is in its kept form
      Built.kept                — so are the facts of every room
      SavedRoom.decode_encode   — what is read back of a room
      SavedWindows.decode_encode, by way of pages and lists
      saved_form_reads_back     — when all comes back, and what does not
      null_encryption_is_lost   — an encrypted room that comes back plain
-/
import RoomSync.Proofs.Event.WrittenForm
import RoomSync.Proofs.Window.Slots
import RoomSync.Window.Saved

namespace RoomSync

open Json Decode

/-! ## §1. The content of events. -/

/-- The content of an event that was read is in its kept form. -/
theorem RoomEvent.kept_content {v : Value} {e : RoomEvent} (h : RoomEvent.decode v = .ok e) :
    Kept e.content := by
  obtain ⟨ms, -, hread⟩ := decode_iff.1 h
  -- the content is the member's, or that of an event without one
  obtain ⟨found, -, hcontent⟩ := bind_eq_ok hread.content
  cases found with
  | none =>
      rw [← Except.ok.inj hcontent]
      exact ⟨⟨Entries.sorted_nil, rfl⟩, trivial⟩
  | some c => exact kept_opaqueValue hcontent

/-- A written id is read back. -/
theorem RoomId.decode_written (r : RoomId) : RoomId.decode r.encode = .ok r := by
  unfold RoomId.decode RoomId.encode
  rw [ok_bind (rfl : Decode.string (.string r.text) = .ok r.text), RoomId.ofString?_text]

namespace Window

/-! ## §2. The facts of rooms. -/

/-- The facts say of encryption only what an event can say. -/
def Facts.Kept (f : Facts) : Prop := ∀ v, f.encryption = some v → Decode.Kept v

theorem Facts.Kept.apply {f : Facts} (h : f.Kept) (user : UserId) {e : RoomEvent}
    (he : Decode.Kept e.content) : (f.apply user e).Kept := by
  unfold Facts.apply
  split
  -- a name, a topic, an encryption, a membership, anything else
  next => split <;> exact h
  next => split <;> exact h
  next =>
    split
    next =>
      intro v hv
      obtain rfl := Option.some.inj hv
      exact he
    next => exact h
  next => split <;> exact h
  next => exact h

theorem Facts.Kept.foldl (user : UserId) {events : List RoomEvent} :
    ∀ {f : Facts}, f.Kept → (∀ e ∈ events, Decode.Kept e.content) →
      (events.foldl (Facts.apply user) f).Kept := by
  induction events with
  | nil =>
      intro f h _
      exact h
  | cons e rest ih =>
      intro f h hall
      exact ih (h.apply user (hall e List.mem_cons_self))
        fun e' he' => hall e' (List.mem_cons_of_mem _ he')

/-- The events of a payload, each read from some value. -/
def Payload.Read (p : Payload) : Prop :=
  ∀ e ∈ p.requiredState ++ p.inviteState ++ p.timeline, ∃ v, RoomEvent.decode v = .ok e

/-- The rooms that payloads make, one after the other. -/
inductive Built : Room → Prop
  | new (id : RoomId) : Built { id }
  | apply {r : Room} (h : Built r) (user : UserId) {p : Payload} (hp : p.Read) :
      Built (r.apply user p)

/-- **Every room has kept facts.** -/
theorem Built.kept {r : Room} (h : Built r) : r.facts.Kept := by
  induction h with
  | new id =>
      intro v hv
      cases hv
  | apply _ user hp ih =>
      refine ih.foldl user fun e he => ?_
      obtain ⟨v, hv⟩ := hp e he
      exact RoomEvent.kept_content hv

/-! ## §3. One room. -/

/-- The facts without an encryption that is `null`. -/
def Facts.readBack (f : Facts) : Facts := { f with encryption := f.encryption.filter (· ≠ .null) }

/-- Nothing is lost of facts whose encryption is not `null`. -/
theorem Facts.readBack_eq_self {f : Facts} : f.readBack = f ↔ f.encryption ≠ some .null := by
  unfold Facts.readBack
  cases f with
  | mk name topic encryption ownMembership =>
      rw [Facts.mk.injEq]
      cases encryption with
      | none => simp
      | some v => by_cases h : v = .null <;> simp [h, Option.filter]

namespace SavedRoom

/-- What is read back of a saved room. -/
def readBack (s : SavedRoom) : SavedRoom := { s with facts := s.facts.readBack }

/-- The members of a saved room. -/
def fields (s : SavedRoom) : List (String × Option Value) :=
  [("room_id", some s.id.encode), ("name", s.facts.name.map .string),
    ("topic", s.facts.topic.map .string), ("encryption", s.facts.encryption),
    ("own_membership", s.facts.ownMembership.map Membership.encode)]

theorem encode_eq (s : SavedRoom) : s.encode = .object (recordMembers (present s.fields)) := rfl

theorem names_fields (s : SavedRoom) : s.fields.map (·.1) = memberNames := rfl

/-- **What is read back of a room that was written.** -/
theorem decode_encode {s : SavedRoom} (h : s.facts.Kept) :
    SavedRoom.decode s.encode = .ok s.readBack := by
  have hnames : (s.fields.map (·.1)).Nodup := by
    rw [names_fields]
    decide
  have hid : required "room_id" RoomId.decode (recordMembers (present s.fields)) = .ok s.id := by
    rw [required_recordSome hnames (v := s.id.encode) rfl]
    exact RoomId.decode_written s.id
  have hothers : readableOthers memberNames (recordMembers (present s.fields)) = .ok () := by
    refine readableOthers_record fun f hf => ?_
    rw [← names_fields s]
    exact (names_present s.fields).subset (List.mem_map.2 ⟨f, hf, rfl⟩)
  have hname : optional "name" Decode.string (recordMembers (present s.fields)) =
      .ok s.facts.name :=
    optional_recordSome hnames Value.string rfl fun _ _ => rfl
  have htopic : optional "topic" Decode.string (recordMembers (present s.fields)) =
      .ok s.facts.topic :=
    optional_recordSome hnames Value.string rfl fun _ _ => rfl
  have hmembership : optional "own_membership" decodeMembership
      (recordMembers (present s.fields)) = .ok s.facts.ownMembership :=
    optional_recordSome hnames Membership.encode rfl fun m _ =>
      congrArg (fun m => Except.ok (some m)) (Membership.ofName_name m)
  have hencryption : optional "encryption" Decode.content (recordMembers (present s.fields)) =
      .ok s.facts.readBack.encryption := by
    have hlookup : (s.fields.lookup "encryption").join = s.facts.encryption := rfl
    rw [optional_record (hnames.sublist (names_present s.fields)), lookup_present hnames, hlookup]
    cases henc : s.facts.encryption with
    | none =>
        unfold Facts.readBack
        rw [henc]
        rfl
    | some v =>
        unfold Facts.readBack
        rw [henc]
        dsimp only
        by_cases hnull : v = .null
        · subst hnull
          rfl
        · rw [nullable_of_ne_null _ hnull, content_of_kept (h v henc), Option.filter_some_pos
            (by simpa using hnull)]
          rfl
  rw [encode_eq]
  unfold SavedRoom.decode
  rw [ok_bind (rfl : members "a saved room" (.object _) = .ok _), ok_bind hid, ok_bind hothers,
    ok_bind hname, ok_bind htopic, ok_bind hencryption, ok_bind hmembership]
  rfl

/-- A written room is not `null`. -/
theorem encode_ne_null (s : SavedRoom) : s.encode ≠ .null := by
  rw [encode_eq]
  exact nofun

end SavedRoom

/-! ## §4. Pages, lists, and all windows. -/

/-- A range whose ends are words is read back. -/
theorem decodeRange_encodeRange {range : Nat × Nat} (h : range.1 ≤ maxU64 ∧ range.2 ≤ maxU64) :
    decodeRange (encodeRange range) = .ok range := by
  show (u64 (.ofNat range.1) >>= fun a => u64 (.ofNat range.2) >>= fun b => pure (a, b)) = _
  rw [ok_bind (u64_ofNat h.1), ok_bind (u64_ofNat h.2)]
  rfl

namespace SavedPage

/-- The numbers of a page are words, and its rooms have kept facts. -/
structure Sane (p : SavedPage) : Prop where
  range : p.range.1 ≤ maxU64 ∧ p.range.2 ≤ maxU64
  rooms : ∀ s, some s ∈ p.rooms → s.facts.Kept

def readBack (p : SavedPage) : SavedPage :=
  { p with rooms := p.rooms.map (Option.map SavedRoom.readBack) }

/-- The members of a saved page. -/
def fields (p : SavedPage) : List (String × Value) :=
  [("range", encodeRange p.range),
    ("rooms", .array (p.rooms.map (Value.ofOption SavedRoom.encode)))]

theorem encode_eq (p : SavedPage) : p.encode = .object (recordMembers p.fields) := rfl

theorem decode_encode {p : SavedPage} (h : p.Sane) :
    SavedPage.decode p.encode = .ok p.readBack := by
  have hnames : (p.fields.map (·.1)).Nodup := by
    show (["range", "rooms"] : List String).Nodup
    decide
  have hrooms : Decode.list (nullable SavedRoom.decode)
      (.array (p.rooms.map (Value.ofOption SavedRoom.encode))) = .ok p.readBack.rooms := by
    refine list_map p.rooms fun slot hslot => ?_
    cases slot with
    | none => rfl
    | some s =>
        show nullable SavedRoom.decode s.encode = _
        rw [nullable_of_ne_null _ s.encode_ne_null, SavedRoom.decode_encode (h.rooms s hslot)]
        rfl
  have hrange := decodeRange_encodeRange h.range
  rw [encode_eq]
  unfold SavedPage.decode
  rw [ok_bind (rfl : membersOrValues "a saved page" _ 2 (.object _) = .ok _),
    ok_bind ((required_record hnames rfl _).trans hrange),
    ok_bind ((required_record hnames rfl _).trans hrooms)]
  rfl

end SavedPage

namespace SavedList

/-- The total of a list is a word, and its pages are sane. -/
structure Sane (s : SavedList) : Prop where
  total : s.total ≤ maxU64
  pages : ∀ p ∈ s.pages, p.Sane

def readBack (s : SavedList) : SavedList := { s with pages := s.pages.map SavedPage.readBack }

/-- The members of a saved list. -/
def fields (s : SavedList) : List (String × Value) :=
  [("behaviour", s.behaviour.encode), ("total_count", .ofNat s.total),
    ("pages", .array (s.pages.map SavedPage.encode))]

theorem encode_eq (s : SavedList) : s.encode = .object (recordMembers s.fields) := rfl

theorem decode_encode {s : SavedList} (h : s.Sane) :
    SavedList.decode s.encode = .ok s.readBack := by
  have hnames : (s.fields.map (·.1)).Nodup := by
    show (["behaviour", "total_count", "pages"] : List String).Nodup
    decide
  have hbehaviour : Behaviour.decode s.behaviour.encode = .ok s.behaviour := by
    cases s.behaviour <;> rfl
  have hpages : Decode.list SavedPage.decode (.array (s.pages.map SavedPage.encode)) =
      .ok s.readBack.pages :=
    list_map s.pages fun p hp => SavedPage.decode_encode (h.pages p hp)
  have htotal := u64_ofNat h.total
  rw [encode_eq]
  unfold SavedList.decode
  rw [ok_bind (rfl : membersOrValues "a saved list" _ 3 (.object _) = .ok _),
    ok_bind ((required_record hnames rfl _).trans hbehaviour),
    ok_bind ((required_record hnames rfl _).trans htotal),
    ok_bind ((required_record hnames rfl _).trans hpages)]
  rfl

end SavedList

namespace SavedWindows

def readBack (w : SavedWindows) : SavedWindows := { w with lists := w.lists.map SavedList.readBack }

/-- The members of saved windows. -/
def fields (w : SavedWindows) : List (String × Value) :=
  [("pos", Value.ofString? w.pos), ("lists", .array (w.lists.map SavedList.encode))]

theorem encode_eq (w : SavedWindows) : w.encode = .object (recordMembers w.fields) := rfl

theorem decode_encode {w : SavedWindows} (h : ∀ s ∈ w.lists, s.Sane) :
    SavedWindows.decode w.encode = .ok w.readBack := by
  have hnames : (w.fields.map (·.1)).Nodup := by
    show (["pos", "lists"] : List String).Nodup
    decide
  have hpos : nullable Decode.string (Value.ofString? w.pos) = .ok w.pos := by
    cases w.pos <;> rfl
  have hlists : Decode.list SavedList.decode (.array (w.lists.map SavedList.encode)) =
      .ok w.readBack.lists :=
    list_map w.lists fun s hs => SavedList.decode_encode (h s hs)
  rw [encode_eq]
  unfold SavedWindows.decode
  rw [ok_bind (rfl : membersOrValues "saved windows" _ 1 (.object _) = .ok _),
    ok_bind ((optional_record hnames "pos" _).trans hpos),
    ok_bind ((defaulted_record hnames rfl [] _).trans hlists)]
  rfl

end SavedWindows

/-! ## §5. What comes back as it was. -/

theorem map_eq_self_iff {α : Type} {f : α → α} {xs : List α} :
    xs.map f = xs ↔ ∀ x ∈ xs, f x = x := by
  induction xs with
  | nil => simp
  | cons x rest ih => rw [List.map_cons, List.cons.injEq, List.forall_mem_cons, ih]

theorem SavedRoom.readBack_eq_self {s : SavedRoom} :
    s.readBack = s ↔ s.facts.encryption ≠ some .null := by
  rw [← Facts.readBack_eq_self]
  cases s
  simp [SavedRoom.readBack]

theorem SavedPage.readBack_eq_self {p : SavedPage} :
    p.readBack = p ↔ ∀ s, some s ∈ p.rooms → s.facts.encryption ≠ some .null := by
  have hrooms : p.readBack = p ↔ p.rooms.map (Option.map SavedRoom.readBack) = p.rooms := by
    cases p
    simp [SavedPage.readBack]
  rw [hrooms, map_eq_self_iff]
  constructor
  · intro h s hs
    exact SavedRoom.readBack_eq_self.1 (Option.some.inj (h (some s) hs))
  · intro h slot hslot
    cases slot with
    | none => rfl
    | some s => exact congrArg some (SavedRoom.readBack_eq_self.2 (h s hslot))

theorem SavedList.readBack_eq_self {l : SavedList} : l.readBack = l ↔
    ∀ p ∈ l.pages, ∀ s, some s ∈ p.rooms → s.facts.encryption ≠ some .null := by
  have hpages : l.readBack = l ↔ l.pages.map SavedPage.readBack = l.pages := by
    cases l
    simp [SavedList.readBack]
  rw [hpages, map_eq_self_iff]
  exact forall₂_congr fun p _ => SavedPage.readBack_eq_self

theorem SavedWindows.readBack_eq_self {w : SavedWindows} : w.readBack = w ↔
    ∀ l ∈ w.lists, ∀ p ∈ l.pages, ∀ s, some s ∈ p.rooms →
      s.facts.encryption ≠ some .null := by
  have hlists : w.readBack = w ↔ w.lists.map SavedList.readBack = w.lists := by
    cases w
    simp [SavedWindows.readBack]
  rw [hlists, map_eq_self_iff]
  exact forall₂_congr fun l _ => SavedList.readBack_eq_self

/-! ## §6. Lists of rooms that payloads made. -/

namespace RoomList

/-- The numbers of a list are words, and its rooms are made by payloads. -/
structure OfBuilt (l : RoomList) : Prop where
  total : l.total ≤ maxU64
  starts : ∀ start slots, l.pages.get? start = some slots → start ≤ maxU64
  rooms : ∀ id r, l.rooms.get? id = some r → Built r

/-- The rooms that are saved are those that slots name. -/
theorem mem_save {l : RoomList} {s : SavedRoom} :
    (∃ p ∈ l.save.pages, some s ∈ p.rooms) ↔
      ∃ id r, Held l.pages id ∧ l.rooms.get? id = some r ∧ r.save = s := by
  constructor
  · rintro ⟨p, hp, hs⟩
    obtain ⟨⟨start, slots⟩, hentry, rfl⟩ := List.mem_map.1 hp
    obtain ⟨slot, hslot, hsaved⟩ := List.mem_map.1 hs
    obtain ⟨r, hr, hrs⟩ := Option.map_eq_some_iff.1 hsaved
    obtain ⟨id, rfl, hid⟩ := Option.bind_eq_some_iff.1 hr
    exact ⟨id, r, held_iff.2 ⟨start, slots, Table.mem_entries.1 hentry, hslot⟩, hid, hrs⟩
  · rintro ⟨id, r, hheld, hid, hrs⟩
    obtain ⟨start, slots, hpage, hslot⟩ := held_iff.1 hheld
    refine ⟨_, List.mem_map.2 ⟨(start, slots), Table.mem_entries.2 hpage, rfl⟩, ?_⟩
    refine List.mem_map.2 ⟨some id, hslot, ?_⟩
    show (l.rooms.get? id).map Room.save = some s
    rw [hid, ← hrs]
    rfl

theorem OfBuilt.sane {l : RoomList} (h : l.OfBuilt) : l.save.Sane where
  total := h.total
  pages := by
    intro p hp
    refine ⟨?_, fun s hs => ?_⟩
    · obtain ⟨⟨start, slots⟩, hentry, rfl⟩ := List.mem_map.1 hp
      exact ⟨h.starts start slots (Table.mem_entries.1 hentry), Nat.min_le_right _ _⟩
    · obtain ⟨id, r, -, hr, rfl⟩ := mem_save.1 ⟨p, hp, hs⟩
      exact (h.rooms id r hr).kept

/-- No room that a slot names has an encryption that is `null`. -/
def NoNullEncryption (l : RoomList) : Prop :=
  ∀ id r, Held l.pages id → l.rooms.get? id = some r → r.facts.encryption ≠ some .null

theorem noNullEncryption_iff (l : RoomList) : l.NoNullEncryption ↔
    ∀ p ∈ l.save.pages, ∀ s, some s ∈ p.rooms → s.facts.encryption ≠ some .null := by
  constructor
  · intro h p hp s hs
    obtain ⟨id, r, hheld, hr, rfl⟩ := mem_save.1 ⟨p, hp, hs⟩
    exact h id r hheld hr
  · intro h id r hheld hr
    obtain ⟨p, hp, hs⟩ := mem_save.2 ⟨id, r, hheld, hr, rfl⟩
    exact h p hp r.save hs

end RoomList

/-- **When what is saved comes back.**  Rooms are made by payloads whose events
were read.  The written form of a room, of a list of such rooms and of all
windows is read, and gives what was written up to encryptions that are `null`:
so a room comes back with its name, its topic and the membership in it, and it
is encrypted afterwards exactly if it was and its encryption is not `null`.
Everything comes back as it was exactly if no saved room has such an
encryption. -/
theorem saved_form_reads_back {r : Room} (hr : Built r) {ls : List RoomList}
    (hls : ∀ l ∈ ls, l.OfBuilt) (pos : Option String) :
    (SavedRoom.decode r.save.encode = .ok r.save.readBack
        ∧ (r.save.readBack = r.save ↔ r.facts.encryption ≠ some .null)
        ∧ r.save.readBack.restore.facts.name = r.facts.name
        ∧ r.save.readBack.restore.facts.topic = r.facts.topic
        ∧ r.save.readBack.restore.facts.ownMembership = r.facts.ownMembership
        ∧ (r.save.readBack.restore.isEncrypted = true ↔
          r.isEncrypted = true ∧ r.facts.encryption ≠ some .null))
      ∧ (∀ l ∈ ls, SavedList.decode l.save.encode = .ok l.save.readBack
        ∧ (l.save.readBack = l.save ↔ l.NoNullEncryption))
      ∧ (let w : SavedWindows := ⟨pos, ls.map RoomList.save⟩
        SavedWindows.decode w.encode = .ok w.readBack
          ∧ (w.readBack = w ↔ ∀ l ∈ ls, l.NoNullEncryption)) := by
  refine ⟨?_, ?_, ?_⟩
  · refine ⟨SavedRoom.decode_encode hr.kept, SavedRoom.readBack_eq_self, rfl, rfl, rfl, ?_⟩
    show (r.facts.encryption.filter (· ≠ .null)).isSome = true ↔
      r.facts.encryption.isSome = true ∧ _
    cases r.facts.encryption with
    | none => simp
    | some v => by_cases hv : v = .null <;> simp [hv, Option.filter]
  · intro l hl
    refine ⟨SavedList.decode_encode (hls l hl).sane, ?_⟩
    rw [SavedList.readBack_eq_self, RoomList.noNullEncryption_iff]
  · intro w
    have hsane : ∀ s ∈ w.lists, s.Sane := by
      intro s hs
      obtain ⟨l, hl, rfl⟩ := List.mem_map.1 hs
      exact (hls l hl).sane
    refine ⟨SavedWindows.decode_encode hsane, ?_⟩
    rw [SavedWindows.readBack_eq_self]
    show (∀ s ∈ ls.map RoomList.save, _) ↔ _
    rw [List.forall_mem_map]
    exact forall₂_congr fun l _ => (RoomList.noNullEncryption_iff l).symm

/-! ## §7. An encrypted room. -/

namespace Encrypted

def user : UserId := ⟨"@secret:x", by decide +kernel⟩

def room : RoomId := ⟨"!secret:x", by decide +kernel⟩

/-- The event that encrypts a room, with this content. -/
def event (content : Value) : RoomEvent :=
  { type := "m.room.encryption", stateKey := some "", content }

/-- The event as it is sent. -/
def sent (content : Value) : Value :=
  .record [("type", .string "m.room.encryption"), ("state_key", .string ""),
    ("content", content)]

/-- A room that took the event in. -/
def encrypted (content : Value) : Room :=
  Room.apply user { id := room } { requiredState := [event content] }

/-- A content of the usual shape. -/
def megolm : Value := .record [("algorithm", .string "m.megolm.v1.aes-sha2")]

/-- A list that holds the room. -/
def holding (content : Value) : RoomList :=
  { behaviour := .joined
    pageSize := 2
    total := 1
    pages := Table.empty.insert 0 [some room]
    rooms := Table.empty.insert room (encrypted content) }

theorem built {content : Value} (h : RoomEvent.decode (sent content) = .ok (event content)) :
    Built (encrypted content) := by
  refine (Built.new room).apply user fun e he => ?_
  obtain rfl := List.mem_singleton.1 he
  exact ⟨sent content, h⟩

theorem ofBuilt {content : Value} (h : Built (encrypted content)) : (holding content).OfBuilt where
  total := by
    show 1 ≤ maxU64
    decide
  starts := by
    intro start slots hpage
    have hpage : (Table.empty.insert 0 [some room]).get? start = some slots := hpage
    rw [Table.get?_insert] at hpage
    split at hpage
    next hstart => exact hstart ▸ Nat.zero_le _
    next => cases hpage
  rooms := by
    intro id r hr
    have hr : (Table.empty.insert room (encrypted content)).get? id = some r := hr
    rw [Table.get?_insert] at hr
    split at hr
    next =>
      obtain rfl := Option.some.inj hr
      exact h
    next => cases hr

theorem read_megolm : RoomEvent.decode (sent megolm) = .ok (event megolm) := rfl

theorem read_null : RoomEvent.decode (sent .null) = .ok (event .null) := rfl

end Encrypted

open Encrypted in
/-- A room that names its algorithm comes back as it was, alone, in its list and
among all windows. -/
theorem named_encryption_comes_back :
    SavedRoom.decode (encrypted megolm).save.encode = .ok (encrypted megolm).save
      ∧ SavedList.decode (holding megolm).save.encode = .ok (holding megolm).save
      ∧ SavedWindows.decode (SavedWindows.mk (some "1") [(holding megolm).save]).encode =
        .ok ⟨some "1", [(holding megolm).save]⟩ := by
  have hbuilt := built read_megolm
  have hall : ∀ l ∈ [holding megolm], l.OfBuilt := by
    intro l hl
    obtain rfl := List.mem_singleton.1 hl
    exact ofBuilt hbuilt
  have hnone : ∀ l ∈ [holding megolm], l.NoNullEncryption := by
    intro l hl id r _ hr
    obtain rfl := List.mem_singleton.1 hl
    have hr : (Table.empty.insert room (encrypted megolm)).get? id = some r := hr
    rw [Table.get?_insert] at hr
    split at hr
    next =>
      obtain rfl := Option.some.inj hr
      decide +kernel
    next => cases hr
  obtain ⟨⟨hroom, hsame, -⟩, hlists, hwindows, hwhole⟩ :=
    saved_form_reads_back hbuilt hall (some "1")
  obtain ⟨hlist, hlistSame⟩ := hlists _ List.mem_cons_self
  refine ⟨?_, ?_, ?_⟩
  · rw [hroom, hsame.2 (by decide +kernel)]
  · rw [hlist, hlistSame.2 (hnone _ List.mem_cons_self)]
  · exact hwindows.trans (congrArg Except.ok (hwhole.2 hnone))

open Encrypted in
/-- **An encrypted room that comes back plain**: the event that encrypted it has
`null` for its content. -/
theorem null_encryption_is_lost :
    Built (encrypted .null)
      ∧ (encrypted .null).isEncrypted = true
      ∧ ∃ s, SavedRoom.decode (encrypted .null).save.encode = .ok s
        ∧ s ≠ (encrypted .null).save
        ∧ s.restore.isEncrypted = false := by
  have hbuilt := built read_null
  exact ⟨hbuilt, rfl, _, SavedRoom.decode_encode hbuilt.kept, by decide +kernel, rfl⟩

end Window

end RoomSync
