/-
  RoomSync.Proofs.Cursor.MalformedIds
  ───────────────────────────────────
  **MALFORMED IDS ARE DROPPED, AND NOTHING ELSE IS.**

  An answer that can be read is read the same without what stands under malformed
  ids; each room under a well-formed id has what its own payload says; and a room
  whose id is made malformed is lost alone.  A section of rooms is reasoned about
  through its answers: the room under an id has the last value of that name.  The
  records around the sections may stand as lists of their values, and are edited and
  looked up in that form as well.

      get?_decodeTable     — what a section says of a room
      follows_filterMembers, follows_renameMember — edits of a section
      texts_decodeList     — the users of a list, in order
      follows_section      — an edit of one section leaves the others
      follows_rooms, follows_deviceLists — edits of a part, seen in the whole answer
      malformed_ids_are_dropped — all of it, for any answer that can be read
-/
import RoomSync.Proofs.Cursor.WrittenForm
import RoomSync.Proofs.Json.Edits

namespace RoomSync

open Json Decode

/-! ## §1. Sections of rooms. -/

namespace RoomId

def isValid (text : String) : Bool := (ofString? text).isSome

theorem isValid_text (r : RoomId) : isValid r.text = true := by
  rw [isValid, ofString?_text]
  rfl

variable {α : Type} {decode : Decoder α}

/-- The entries that have room ids. -/
def withIds (es : List (String × α)) : List (RoomId × α) :=
  es.filterMap fun e => (ofString? e.1).map (·, e.2)

theorem filter_withIds (es : List (String × α)) (r : RoomId) :
    (withIds es).filter (·.1 = r) = (es.filter (·.1 = r.text)).map fun e => (r, e.2) := by
  induction es with
  | nil => rfl
  | cons e rest ih =>
      unfold withIds at ih ⊢
      rw [List.filterMap_cons]
      by_cases hname : e.1 = r.text
      · rw [hname, ofString?_text]
        dsimp only [Option.map_some]
        rw [List.filter_cons_of_pos (by simp), List.filter_cons_of_pos (by simpa using hname),
          List.map_cons, ih]
      · rw [List.filter_cons_of_neg (by simpa using hname)]
        cases hid : ofString? e.1 with
        | none => exact ih
        | some r' =>
            have hne : r' ≠ r := fun heq => hname (heq ▸ text_of_ofString? hid).symm
            dsimp only [Option.map_some]
            rw [List.filter_cons_of_neg (by simpa using hne), ih]

/-- A table of rooms has the last entry of each id. -/
theorem get?_ofList_withIds (es : List (String × α)) (r : RoomId) :
    (Table.ofList (withIds es)).get? r = (es.filter (·.1 = r.text)).getLast?.map (·.2) := by
  unfold Table.ofList
  rw [Table.get?_foldl_insert Prod.fst Prod.snd, filter_withIds, List.getLast?_map,
    Option.map_map, Table.get?_empty, Option.or_none]
  rfl

theorem decodeTable_eq_ok {v : Value} {t : Table RoomId α} (h : decodeTable decode v = .ok t) :
    ∃ es, entries decode v = .ok es ∧ t = Table.ofList (withIds es) := by
  obtain ⟨es, hes, h⟩ := bind_eq_ok h
  exact ⟨es, hes, (Except.ok.inj h).symm⟩

theorem decodeTable_of_entries {v : Value} {es : List (String × α)}
    (h : entries decode v = .ok es) : decodeTable decode v = .ok (Table.ofList (withIds es)) :=
  ok_bind h _

/-- **What a section says of a room** is what the last payload under its id says. -/
theorem get?_decodeTable {v : Value} {t : Table RoomId α} (h : decodeTable decode v = .ok t)
    (r : RoomId) : (t.get? r).map Except.ok = (v.last? r.text).map decode := by
  obtain ⟨es, hes, rfl⟩ := decodeTable_eq_ok h
  rw [get?_ofList_withIds, last_entries hes]

/-- **Without the members under malformed ids** a section says the same. -/
theorem follows_filterMembers : Follows (decodeTable decode) (Value.filterMembers isValid) id := by
  intro v t h
  obtain ⟨es, hes, rfl⟩ := decodeTable_eq_ok h
  rw [decodeTable_of_entries (entries_filterMembers hes isValid)]
  refine congrArg Except.ok (Table.ext fun r => ?_)
  -- what is left out has no room id, so it was no answer to any
  have hkept : (es.filter fun e => isValid e.1).filter (·.1 = r.text) =
      es.filter (·.1 = r.text) := by
    rw [List.filter_filter]
    refine List.filter_congr fun e _ => ?_
    by_cases hname : e.1 = r.text
    · rw [hname, isValid_text, Bool.and_true]
    · rw [decide_eq_false hname, Bool.false_and]
  rw [get?_ofList_withIds, hkept]
  exact (get?_ofList_withIds es r).symm

/-- A table without the room that is written like this. -/
def without (key : String) (t : Table RoomId α) : Table RoomId α :=
  t.filter fun r _ => decide (r.text ≠ key)

/-- **With a name made malformed** a section loses the room of that name. -/
theorem follows_renameMember {bad : String} (hbad : ofString? bad = none) (key : String) :
    Follows (decodeTable decode) (Value.renameMember key bad) (without key) := by
  intro v t h
  obtain ⟨es, hes, rfl⟩ := decodeTable_eq_ok h
  rw [decodeTable_of_entries (entries_renameMember hes key bad)]
  refine congrArg Except.ok (Table.ext fun r => ?_)
  -- a malformed name is that of no room, so the renamed entries come under none
  have hne : bad ≠ r.text := by
    rintro rfl
    rw [ofString?_text] at hbad
    cases hbad
  unfold without
  rw [Table.get?_filter, get?_ofList_withIds, get?_ofList_withIds, filter_renamed es hne]
  by_cases hkey : r.text = key
  · rw [if_pos hkey]
    exact (Option.filter_eq_none_iff.2 fun _ _ => by simpa using hkey).symm
  · rw [if_neg hkey]
    cases (es.filter (·.1 = r.text)).getLast? with
    | none => rfl
    | some e => exact (if_pos (decide_eq_true hkey)).symm

end RoomId

/-! ## §2. Lists of users. -/

namespace UserId

def isValid (text : String) : Bool := (ofString? text).isSome

theorem text_of_ofString? {s : String} {u : UserId} (h : ofString? s = some u) : u.text = s := by
  unfold ofString? parse at h
  split at h
  next => exact congrArg text (Option.some.inj h).symm
  next => cases h

theorem map_text_filterMap (ss : List String) :
    (ss.filterMap ofString?).map (·.text) = ss.filter isValid := by
  induction ss with
  | nil => rfl
  | cons s rest ih =>
      rw [List.filterMap_cons, List.filter_cons, isValid]
      cases hid : ofString? s with
      | none => exact ih
      | some u =>
          show u.text :: (rest.filterMap ofString?).map (·.text) = s :: rest.filter isValid
          rw [text_of_ofString? hid, ih]

theorem filterMap_filter_isValid (ss : List String) :
    (ss.filter isValid).filterMap ofString? = ss.filterMap ofString? := by
  induction ss with
  | nil => rfl
  | cons s rest ih =>
      rw [List.filterMap_cons, List.filter_cons, isValid]
      cases hid : ofString? s with
      | none => exact ih
      | some u =>
          rw [if_pos Option.isSome_some, List.filterMap_cons, hid]
          exact congrArg (u :: ·) ih

theorem decodeList_eq_ok {v : Value} {us : List UserId} (h : decodeList v = .ok us) :
    ∃ ss, list string v = .ok ss ∧ us = ss.filterMap ofString? := by
  unfold decodeList at h
  cases hss : list string v with
  | error e =>
      rw [hss] at h
      cases h
  | ok ss =>
      rw [hss] at h
      exact ⟨ss, rfl, (Except.ok.inj h).symm⟩

/-- **The users of a list** are its well-formed strings, in order. -/
theorem texts_decodeList {v : Value} {us : List UserId} (h : decodeList v = .ok us) :
    us.map (·.text) = v.strings.filter isValid := by
  obtain ⟨ss, hss, rfl⟩ := decodeList_eq_ok h
  rw [map_text_filterMap, strings_of_list hss]

/-- **Without its malformed strings** a list has the same users. -/
theorem follows_filterStrings : Follows decodeList (Value.filterStrings isValid) id := by
  intro v us h
  obtain ⟨ss, hss, rfl⟩ := decodeList_eq_ok h
  unfold decodeList
  rw [list_filterStrings isValid v ss hss]
  exact congrArg Except.ok (filterMap_filter_isValid ss)

end UserId

namespace Cursor

/-! ## §3. The sections of an answer. -/

namespace Batch

/-- The sections of rooms. -/
inductive Section where
  | joined
  | invited
  | left
  deriving DecidableEq

namespace Section

/-- The name of a section in an answer. -/
def name : Section → String
  | joined => "join"
  | invited => "invite"
  | left => "leave"

theorem name_ne {x y : Section} (h : x ≠ y) : x.name ≠ y.name := by
  cases x <;> cases y <;> first | exact absurd rfl h | decide

/-- What a section says of a room. -/
abbrev Entry : Section → Type
  | joined => RoomUpdate
  | invited => List RoomEvent
  | left => RoomUpdate

def decode : (x : Section) → Decoder x.Entry
  | joined => RoomUpdate.decode
  | invited => decodeInvite
  | left => RoomUpdate.decode

end Section

namespace Sections

/-- The rooms of one section. -/
def roomsOf (s : Sections) : (x : Section) → Table RoomId x.Entry
  | .joined => s.joined
  | .invited => s.invited
  | .left => s.left

/-- The sections, with other rooms in one of them. -/
def replace (s : Sections) : (x : Section) → Table RoomId x.Entry → Sections
  | .joined, t => { s with joined := t }
  | .invited, t => { s with invited := t }
  | .left, t => { s with left := t }

theorem roomsOf_replace (s : Sections) (x : Section) (t : Table RoomId x.Entry) :
    (s.replace x t).roomsOf x = t := by
  cases x <;> rfl

theorem roomsOf_replace_of_ne (s : Sections) {x y : Section} (h : y ≠ x)
    (t : Table RoomId x.Entry) : (s.replace x t).roomsOf y = s.roomsOf y := by
  cases x <;> cases y <;> first | rfl | exact absurd rfl h

end Sections

/-- What is read of the members of the three sections. -/
theorem decodeSections_iff {v : Value} {s : Sections} : decodeSections v = .ok s ↔
    ∃ ms, membersOrValues "a record of rooms" sectionNames 0 v = .ok ms ∧ ∀ x : Section,
      defaulted x.name .empty (RoomId.decodeTable x.decode) ms = .ok (s.roomsOf x) := by
  constructor
  · intro h
    obtain ⟨ms, hms, h⟩ := bind_eq_ok h
    obtain ⟨joined, hjoined, h⟩ := bind_eq_ok h
    obtain ⟨invited, hinvited, h⟩ := bind_eq_ok h
    obtain ⟨left, hleft, h⟩ := bind_eq_ok h
    obtain rfl := Except.ok.inj h
    refine ⟨ms, hms, fun x => ?_⟩
    cases x with
    | joined => exact hjoined
    | invited => exact hinvited
    | left => exact hleft
  · rintro ⟨ms, hms, h⟩
    have hjoined : defaulted "join" .empty (RoomId.decodeTable RoomUpdate.decode) ms =
      .ok s.joined := h .joined
    have hinvited : defaulted "invite" .empty (RoomId.decodeTable decodeInvite) ms =
      .ok s.invited := h .invited
    have hleft : defaulted "leave" .empty (RoomId.decodeTable RoomUpdate.decode) ms =
      .ok s.left := h .left
    unfold decodeSections
    rw [ok_bind hms, ok_bind hjoined, ok_bind hinvited, ok_bind hleft]
    rfl

/-! ## §4. Edits of an answer. -/

section Edits

variable {edit : Value → Value}

theorem follows_changed {change : List UserId → List UserId}
    (h : Follows UserId.decodeList edit change) (hempty : change [] = []) :
    Follows DeviceLists.decode (Value.editField DeviceLists.memberNames "changed" edit)
      (fun d => { d with changed := change d.changed }) := by
  intro v d hd
  obtain ⟨ms, hms, hread⟩ := DeviceLists.decode_iff.1 hd
  exact DeviceLists.decode_iff.2 ⟨_, membersOrValues_edit hms _ edit,
    h.defaulted hempty hread.changed, (defaulted_edited_of_ne (by decide)).trans hread.left⟩

theorem follows_left {change : List UserId → List UserId}
    (h : Follows UserId.decodeList edit change) (hempty : change [] = []) :
    Follows DeviceLists.decode (Value.editField DeviceLists.memberNames "left" edit)
      (fun d => { d with left := change d.left }) := by
  intro v d hd
  obtain ⟨ms, hms, hread⟩ := DeviceLists.decode_iff.1 hd
  exact DeviceLists.decode_iff.2 ⟨_, membersOrValues_edit hms _ edit,
    (defaulted_edited_of_ne (by decide)).trans hread.changed, h.defaulted hempty hread.left⟩

/-- **An edit of one section** leaves the others. -/
theorem follows_section (x : Section) {change : Table RoomId x.Entry → Table RoomId x.Entry}
    (h : Follows (RoomId.decodeTable x.decode) edit change) (hempty : change .empty = .empty) :
    Follows decodeSections (Value.editField sectionNames x.name edit)
      (fun s => s.replace x (change (s.roomsOf x))) := by
  intro v s hs
  obtain ⟨ms, hms, hread⟩ := decodeSections_iff.1 hs
  refine decodeSections_iff.2 ⟨_, membersOrValues_edit hms _ edit, fun y => ?_⟩
  by_cases hy : y = x
  · subst hy
    rw [Sections.roomsOf_replace]
    exact h.defaulted hempty (hread y)
  · rw [Sections.roomsOf_replace_of_ne s hy, ← hread y]
    exact defaulted_edited_of_ne (Section.name_ne hy)

/-- An answer with other rooms. -/
def withSections (b : Batch) (s : Sections) : Batch :=
  { b with joined := s.joined, invited := s.invited, left := s.left }

/-- **An edit of the rooms**, seen in the whole answer. -/
theorem follows_rooms {change : Sections → Sections} (h : Follows decodeSections edit change)
    (hempty : change {} = {}) :
    Follows decode (Value.editField memberNames "rooms" edit)
      (fun b => b.withSections (change b.sections)) := by
  intro v b hb
  obtain ⟨ms, hms, hread⟩ := decode_iff.1 hb
  exact decode_iff.2 ⟨_, membersOrValues_edit hms _ edit,
    (required_edited_of_ne (by decide)).trans hread.nextBatch,
    (defaulted_edited_of_ne (by decide)).trans hread.accountData, h.defaulted hempty hread.rooms,
    (defaulted_edited_of_ne (by decide)).trans hread.toDevice,
    (defaulted_edited_of_ne (by decide)).trans hread.counts,
    (optional_edited_of_ne (by decide)).trans hread.fallback,
    (optional_edited_of_ne (by decide)).trans hread.provisional,
    (defaulted_edited_of_ne (by decide)).trans hread.deviceLists⟩

/-- **An edit of the lists of users**, seen in the whole answer. -/
theorem follows_deviceLists {change : DeviceLists → DeviceLists}
    (h : Follows DeviceLists.decode edit change) (hempty : change {} = {}) :
    Follows decode (Value.editField memberNames "device_lists" edit)
      (fun b => { b with deviceLists := change b.deviceLists }) := by
  intro v b hb
  obtain ⟨ms, hms, hread⟩ := decode_iff.1 hb
  exact decode_iff.2 ⟨_, membersOrValues_edit hms _ edit,
    (required_edited_of_ne (by decide)).trans hread.nextBatch,
    (defaulted_edited_of_ne (by decide)).trans hread.accountData,
    (defaulted_edited_of_ne (by decide)).trans hread.rooms,
    (defaulted_edited_of_ne (by decide)).trans hread.toDevice,
    (defaulted_edited_of_ne (by decide)).trans hread.counts,
    (optional_edited_of_ne (by decide)).trans hread.fallback,
    (optional_edited_of_ne (by decide)).trans hread.provisional,
    h.defaulted hempty hread.deviceLists⟩

end Edits

/-- Sections without their members under malformed ids. -/
def wellFormedSections (v : Value) : Value :=
  [Section.joined, .invited, .left].foldl
    (fun v x => v.editField sectionNames x.name (Value.filterMembers RoomId.isValid)) v

/-- Lists of users without their malformed ids. -/
def wellFormedLists (v : Value) : Value :=
  DeviceLists.memberNames.foldl
    (fun v name => v.editField DeviceLists.memberNames name
      (Value.filterStrings UserId.isValid)) v

/-- An answer without its malformed ids, and without what stands under them. -/
def wellFormed (v : Value) : Value :=
  (v.editField memberNames "rooms" wellFormedSections).editField memberNames "device_lists"
    wellFormedLists

theorem follows_wellFormedSections : Follows decodeSections wellFormedSections id :=
  ((follows_section .joined RoomId.follows_filterMembers rfl).comp
    (follows_section .invited RoomId.follows_filterMembers rfl)).comp
      (follows_section .left RoomId.follows_filterMembers rfl)

theorem follows_wellFormedLists : Follows DeviceLists.decode wellFormedLists id :=
  (follows_changed UserId.follows_filterStrings rfl).comp
    (follows_left UserId.follows_filterStrings rfl)

/-- **Without its malformed ids** an answer says the same. -/
theorem follows_wellFormed : Follows decode wellFormed id :=
  (follows_rooms follows_wellFormedSections rfl).comp
    (follows_deviceLists follows_wellFormedLists rfl)

/-- An answer with a room of one section under another name. -/
def renameRoom (x : Section) (key name : String) (v : Value) : Value :=
  v.editField memberNames "rooms"
    (Value.editField sectionNames x.name (Value.renameMember key name))

/-- What is left if one section loses the room that is written like this. -/
def withoutRoom (b : Batch) (x : Section) (key : String) : Batch :=
  b.withSections (b.sections.replace x (RoomId.without key (b.sections.roomsOf x)))

/-- **With a room's id made malformed** an answer loses that room. -/
theorem follows_renameRoom (x : Section) (key : String) {bad : String}
    (hbad : RoomId.ofString? bad = none) :
    Follows decode (renameRoom x key bad) (withoutRoom · x key) := by
  refine follows_rooms (follows_section x (RoomId.follows_renameMember hbad key) rfl) ?_
  cases x <;> rfl

/-! ## §5. Where the parts of an answer are read from. -/

section Places

variable {v : Value} {b : Batch}

/-- A part is read from its place in the whole, and has its default if either is
missing. -/
theorem read_part {σ τ : Type} {whole : Decoder σ} {decode : Decoder τ} (part : σ → τ) {s₀ s : σ}
    {names : List String} {name : String} {place : Option Value}
    (hpart : ∀ w s, whole w = .ok s →
      ((w.asMap names).last? name).elim (.ok (part s₀)) decode = .ok (part s))
    (h : place.elim (.ok s₀) whole = .ok s) :
    (place.bind fun w => (w.asMap names).last? name).elim (.ok (part s₀)) decode =
      .ok (part s) := by
  cases place with
  | none =>
      obtain rfl := Except.ok.inj h
      rfl
  | some w => exact hpart w s h

theorem read_rooms (h : decode v = .ok b) :
    ((v.asMap memberNames).last? "rooms").elim (.ok {}) decodeSections = .ok b.sections := by
  obtain ⟨ms, hms, hread⟩ := decode_iff.1 h
  exact read_of_defaulted hms hread.rooms

theorem read_deviceLists (h : decode v = .ok b) :
    ((v.asMap memberNames).last? "device_lists").elim (.ok {}) DeviceLists.decode =
      .ok b.deviceLists := by
  obtain ⟨ms, hms, hread⟩ := decode_iff.1 h
  exact read_of_defaulted hms hread.deviceLists

/-- What is said of a room in a section that may be missing. -/
theorem get?_of_read {α : Type} {decode : Decoder α} {place : Option Value} {t : Table RoomId α}
    (h : place.elim (.ok .empty) (RoomId.decodeTable decode) = .ok t) (r : RoomId) :
    (t.get? r).map Except.ok = (place.bind (Value.last? r.text)).map decode := by
  cases place with
  | none =>
      obtain rfl := Except.ok.inj h
      rfl
  | some w => exact RoomId.get?_decodeTable h r

/-- The users of a list that may be missing. -/
theorem texts_of_read {place : Option Value} {us : List UserId}
    (h : place.elim (.ok []) UserId.decodeList = .ok us) :
    us.map (·.text) = (place.elim [] Value.strings).filter UserId.isValid := by
  cases place with
  | none =>
      obtain rfl := Except.ok.inj h
      rfl
  | some w => exact UserId.texts_decodeList h

/-- Where an answer has a section of rooms. -/
def sectionPlace (x : Section) : List (List String × String) :=
  [(memberNames, "rooms"), (sectionNames, x.name)]

/-- Where an answer has a list of users. -/
def usersPlace (name : String) : List (List String × String) :=
  [(memberNames, "device_lists"), (DeviceLists.memberNames, name)]

theorem get?_section (h : decode v = .ok b) (x : Section) (r : RoomId) :
    ((b.sections.roomsOf x).get? r).map Except.ok =
      ((v.at? (sectionPlace x)).bind (Value.last? r.text)).map x.decode := by
  -- where all sections are missing, each of them is empty
  have hnew : ({} : Sections).roomsOf x = .empty := by cases x <;> rfl
  have hpart : ∀ w s, decodeSections w = .ok s →
      ((w.asMap sectionNames).last? x.name).elim (.ok (({} : Sections).roomsOf x))
        (RoomId.decodeTable x.decode) = .ok (s.roomsOf x) := by
    intro w s hs
    obtain ⟨ms, hms, hread⟩ := decodeSections_iff.1 hs
    rw [hnew]
    exact read_of_defaulted hms (hread x)
  have hplace := read_part (Sections.roomsOf · x) hpart (read_rooms h)
  rw [hnew] at hplace
  exact get?_of_read hplace r

theorem texts_changed (h : decode v = .ok b) :
    b.deviceLists.changed.map (·.text) =
      ((v.at? (usersPlace "changed")).elim [] Value.strings).filter UserId.isValid := by
  refine texts_of_read (read_part DeviceLists.changed (fun w d hd => ?_) (read_deviceLists h))
  obtain ⟨ms, hms, hread⟩ := DeviceLists.decode_iff.1 hd
  exact read_of_defaulted hms hread.changed

theorem texts_left (h : decode v = .ok b) :
    b.deviceLists.left.map (·.text) =
      ((v.at? (usersPlace "left")).elim [] Value.strings).filter UserId.isValid := by
  refine texts_of_read (read_part DeviceLists.left (fun w d hd => ?_) (read_deviceLists h))
  obtain ⟨ms, hms, hread⟩ := DeviceLists.decode_iff.1 hd
  exact read_of_defaulted hms hread.left

end Places

/-! ## §6. Malformed ids. -/

/-- **Malformed ids are dropped, and nothing else is.**  An answer that can be read
is read the same without its malformed ids and what stands under them.  A section
has a room exactly if a member of that name stands in it, and what it says of the
room is what the last of these says; a list of users has its well-formed strings, in
order.  And whatever room of whatever section comes under a malformed id, the answer
can be read as before, except that this room is missing from the section. -/
theorem malformed_ids_are_dropped {v : Value} {b : Batch} (h : decode v = .ok b) :
    decode (wellFormed v) = .ok b
      ∧ (∀ (x : Section) (r : RoomId), ((b.sections.roomsOf x).get? r).map Except.ok =
        ((v.at? (sectionPlace x)).bind (Value.last? r.text)).map x.decode)
      ∧ b.deviceLists.changed.map (·.text) =
        ((v.at? (usersPlace "changed")).elim [] Value.strings).filter UserId.isValid
      ∧ b.deviceLists.left.map (·.text) =
        ((v.at? (usersPlace "left")).elim [] Value.strings).filter UserId.isValid
      ∧ (∀ (x : Section) (key bad : String), RoomId.ofString? bad = none →
        decode (renameRoom x key bad v) = .ok (b.withoutRoom x key)) :=
  ⟨follows_wellFormed v b h, get?_section h, texts_changed h, texts_left h,
    fun x key _ hbad => follows_renameRoom x key hbad v b h⟩

namespace Misnamed

def kept : RoomId := ⟨"!kept:x", by decide +kernel⟩

def other : RoomId := ⟨"!other:x", by decide +kernel⟩

/-- An answer with a room under a malformed id between two rooms, another in a
section of its own, and malformed users. -/
def answer : Value := .object [
  ("next_batch", .string "s2"),
  ("rooms", .object [
    ("join", .object [
      ("!kept:x", .object [("timeline", .object [("limited", .bool true)])]),
      ("kept:x", .object []),
      ("!other:x", .object [])]),
    ("leave", .object [("", .object [])])]),
  ("device_lists", .object [
    ("changed", .array [.string "nobody", .string "@first:x", .string "@second:x"]),
    ("left", .array [.string ""])])]

/-- The same answer, with its records as lists. -/
def listed : Value := .array [
  .string "s2", .array [],
  .array [
    .object [
      ("!kept:x", .array [.array [.array [], .bool true]]),
      ("kept:x", .array []),
      ("!other:x", .object [])],
    .object [],
    .object [("", .object [])]],
  .array [], .object [], .null, .null,
  .array [
    .array [.string "nobody", .string "@first:x", .string "@second:x"],
    .array [.string ""]]]

def answerRead : Batch where
  nextBatch := "s2"
  joined := .ofList [(kept, { timeline := { limited := true } }), (other, {})]
  deviceLists := { changed := [⟨"@first:x", by decide +kernel⟩, ⟨"@second:x", by decide +kernel⟩] }

end Misnamed

open Misnamed in
/-- The rooms and users with ids are read, with or without the others; and with one
more id made malformed the answer can still be read, in either of its forms. -/
theorem room_misnamed_is_lost_alone :
    decode answer = .ok answerRead
      ∧ decode (wellFormed answer) = .ok answerRead
      ∧ wellFormed answer ≠ answer
      ∧ ((answer.at? (sectionPlace .joined)).bind (Value.last? kept.text)).map RoomUpdate.decode =
        some (.ok { timeline := { limited := true } })
      ∧ answerRead.deviceLists.changed.map (·.text) = ["@first:x", "@second:x"]
      ∧ decode (renameRoom .joined "!kept:x" "also malformed" answer) =
        .ok { answerRead with joined := .ofList [(other, {})] }
      ∧ decode (wellFormed listed) = .ok answerRead
      ∧ wellFormed listed ≠ listed
      ∧ decode (renameRoom .joined "!kept:x" "also malformed" listed) =
        .ok { answerRead with joined := .ofList [(other, {})] } := by
  have hread : decode answer = .ok answerRead := rfl
  have hlisted : decode listed = .ok answerRead := rfl
  have hwithout : answerRead.withoutRoom .joined "!kept:x" =
      { answerRead with joined := .ofList [(other, {})] } := by decide +kernel
  obtain ⟨hpruned, hrooms, hchanged, -, hlost⟩ := malformed_ids_are_dropped hread
  have hkept : answerRead.joined.get? kept = some { timeline := { limited := true } } := by
    decide +kernel
  obtain ⟨hpruned', -, -, -, hlost'⟩ := malformed_ids_are_dropped hlisted
  have hbad : RoomId.ofString? "also malformed" = none := by decide +kernel
  refine ⟨hread, hpruned, by decide +kernel, ?_, hchanged.trans (by decide +kernel), ?_, hpruned',
    by decide +kernel, ?_⟩
  · exact (hrooms .joined kept).symm.trans (congrArg (Option.map Except.ok) hkept)
  · exact (hlost .joined "!kept:x" _ hbad).trans (congrArg Except.ok hwithout)
  · exact (hlost' .joined "!kept:x" _ hbad).trans (congrArg Except.ok hwithout)

end Batch

end Cursor

end RoomSync
