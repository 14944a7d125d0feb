/-
  RoomSync.Proofs.Json.Content
  ────────────────────────────
  **CONTENT THAT IS KEPT AS IT CAME.**

  Content that is not interpreted is brought into one form when it is read:
  members in name order, only numbers that are finite, no text in the place of a
  value.  What has this form already (`Kept`) is read as it stands:

      keepWith_self      — kept content is read as it is
      kept_opaqueValue   — whatever is read as content is kept
      opaqueValue_of_kept, content_of_kept — so it comes through another reading
                           unchanged
-/
import RoomSync.Proofs.Json.Records

namespace RoomSync.Json

namespace Value

/-! ## §1. What holds of every part of a value. -/

mutual

/-- Something holds of a value and of all values in it. -/
def Throughout (P : Value → Prop) : Value → Prop
  | .array items => P (.array items) ∧ ThroughoutItems P items
  | .object ms => P (.object ms) ∧ ThroughoutMembers P ms
  | v => P v

def ThroughoutItems (P : Value → Prop) : List Value → Prop
  | [] => True
  | v :: vs => Throughout P v ∧ ThroughoutItems P vs

def ThroughoutMembers (P : Value → Prop) : List (String × Value) → Prop
  | [] => True
  | (_, v) :: ms => Throughout P v ∧ ThroughoutMembers P ms

end

theorem throughoutMembers_iff {P : Value → Prop} {ms : Members} :
    ThroughoutMembers P ms ↔ ∀ m ∈ ms, Throughout P m.2 := by
  induction ms with
  | nil => exact ⟨fun _ _ hm => (nomatch hm), fun _ => trivial⟩
  | cons m rest ih =>
      rw [List.forall_mem_cons, ← ih]
      rfl

/-- One more member. -/
theorem ThroughoutMembers.insert {P : Value → Prop} {ms : Members} (h : ThroughoutMembers P ms)
    (k : String) {v : Value} (hv : Throughout P v) :
    ThroughoutMembers P (Entries.insert k v ms) := by
  rw [throughoutMembers_iff] at h ⊢
  intro m hm
  rcases Entries.mem_insert hm with rfl | hm
  · exact hv
  · exact h m hm

/-! ## §2. Members in name order. -/

/-- The members of an object stand in name order. -/
def InOrder : Value → Prop
  | .object ms => Entries.Sorted ms
  | _ => True

mutual

theorem canonical_inOrder : ∀ v : Value, Throughout InOrder v.canonical
  | .null => trivial
  | .bool _ => trivial
  | .integer _ => trivial
  | .double _ => trivial
  | .string _ => trivial
  | .array items => ⟨trivial, canonicalItems_inOrder items⟩
  | .object ms => canonicalMembers_inOrder ms
  | .unreadable => trivial

theorem canonicalItems_inOrder :
    ∀ vs : List Value, ThroughoutItems InOrder (canonicalItems vs)
  | [] => trivial
  | v :: vs => ⟨canonical_inOrder v, canonicalItems_inOrder vs⟩

theorem canonicalMembers_inOrder : ∀ ms : List (String × Value),
    Entries.Sorted (canonicalMembers ms) ∧ ThroughoutMembers InOrder (canonicalMembers ms)
  | [] => ⟨Entries.sorted_nil, trivial⟩
  | (k, v) :: ms => by
      obtain ⟨hsorted, hall⟩ := canonicalMembers_inOrder ms
      unfold canonicalMembers
      dsimp only
      split
      next => exact ⟨hsorted, hall⟩
      next => exact ⟨Entries.sorted_insert k _ hsorted, hall.insert k (canonical_inOrder v)⟩

end

end Value

namespace Decode

open Value

/-! ## §3. Content in its form. -/

/-- What content is made of: objects in name order whose first name is not the
one that embeds a text, and numbers that are finite. -/
def Plain : Value → Prop
  | .object ms => Entries.Sorted ms ∧ ms.head?.any (·.1 = embeddingName) = false
  | .double d => d.isFinite = true
  | .unreadable => False
  | _ => True

/-- Content as it is kept. -/
abbrev Kept (v : Value) : Prop := Throughout Plain v

/-- A name before all others of some members is put in front of them. -/
theorem insert_front {k : String} {v : Value} {ms : Members}
    (h : Entries.Sorted ((k, v) :: ms)) : Entries.insert k v ms = (k, v) :: ms := by
  cases ms with
  | nil => rfl
  | cons m rest => rw [Entries.insert, h.head m List.mem_cons_self]

/-- A name before all others of some members is not among them. -/
theorem get?_front {k : String} {v : Value} {ms : Members}
    (h : Entries.Sorted ((k, v) :: ms)) : (Entries.get? k ms).isSome = false := by
  rw [Entries.get?_eq_none_of_forall_ne fun x hx => Entries.ne_of_compare_lt (h.head x hx)]
  rfl

variable {embedded : Members → Decoded Value}

mutual

/-- **Kept content is read as it is**, whatever is embedded elsewhere. -/
theorem keepWith_self : ∀ {v : Value}, Kept v → keepWith embedded v = .ok v
  | .null, _ => rfl
  | .bool _, _ => rfl
  | .integer _, _ => rfl
  | .double d, h => congrArg Except.ok (if_pos h)
  | .string _, _ => rfl
  | .array _, h => by rw [keepWith, keepItems_self h.2]; rfl
  | .object _, h => by
      obtain ⟨⟨hsorted, hhead⟩, hall⟩ := h
      rw [keepWith, hhead, if_neg Bool.false_ne_true, keepMembers_self hsorted hall]
      rfl
  | .unreadable, h => h.elim

theorem keepItems_self : ∀ {vs : List Value}, ThroughoutItems Plain vs →
    keepItems embedded vs = .ok vs
  | [], _ => rfl
  | _ :: _, h => by rw [keepItems, keepWith_self h.1, keepItems_self h.2]; rfl

theorem keepMembers_self : ∀ {ms : List (String × Value)}, Entries.Sorted ms →
    ThroughoutMembers Plain ms → keepMembers embedded ms = .ok ms
  | [], _, _ => rfl
  | (k, v) :: ms, hsorted, h => by
      rw [keepMembers, keepWith_self h.1, keepMembers_self hsorted.tail h.2]
      show Except.ok (if (Entries.get? k ms).isSome then ms else Entries.insert k v ms) = _
      rw [get?_front hsorted, if_neg Bool.false_ne_true, insert_front hsorted]

end

/-! ## §4. Content that is read. -/

/-- Where no text may be embedded. -/
abbrev noText : Members → Decoded Value := fun _ => .error .malformed

/-- The order of members is that of their names. -/
theorem sorted_of_names {ms rs : Members} (h : rs.map (·.1) = ms.map (·.1))
    (hsorted : Entries.Sorted ms) : Entries.Sorted rs := by
  unfold Entries.Sorted at hsorted ⊢
  rw [← List.pairwise_map (f := Prod.fst) (R := fun a b => compare a b = .lt)] at hsorted ⊢
  rwa [h]

mutual

/-- What is read of a value in name order is kept. -/
theorem kept_of_keepWith : ∀ {v w : Value}, Throughout InOrder v →
    keepWith noText v = .ok w → Kept w
  | .null, w, _, h => by cases h; trivial
  | .bool _, w, _, h => by cases h; trivial
  | .integer _, w, _, h => by cases h; trivial
  | .double d, w, _, h => by
      obtain rfl := Except.ok.inj h
      cases hd : d.isFinite with
      | true => exact hd
      | false => trivial
  | .string _, w, _, h => by cases h; trivial
  | .array items, w, hin, h => by
      rw [keepWith] at h
      cases hitems : keepItems noText items with
      | error e =>
          rw [hitems] at h
          cases h
      | ok rs =>
          rw [hitems] at h
          obtain rfl := Except.ok.inj h
          exact ⟨trivial, kept_of_keepItems hin.2 hitems⟩
  | .object ms, w, hin, h => by
      rw [keepWith] at h
      split at h
      next => cases h
      next hhead =>
        cases hms : keepMembers noText ms with
        | error e =>
            rw [hms] at h
            cases h
        | ok rs =>
            rw [hms] at h
            obtain rfl := Except.ok.inj h
            obtain ⟨hnames, hall⟩ := kept_of_keepMembers hin.1 hin.2 hms
            refine ⟨⟨sorted_of_names hnames hin.1, ?_⟩, hall⟩
            -- the names are those of the value that was read
            have hfirst : rs.head?.map (·.1) = ms.head?.map (·.1) := by
              rw [← List.head?_map, ← List.head?_map, hnames]
            have hany : ∀ o : Option (String × Value), o.any (·.1 = embeddingName) =
                (o.map (·.1)).any (· = embeddingName) := by
              intro o
              cases o <;> rfl
            rw [hany, hfirst, ← hany]
            exact Bool.eq_false_iff.2 hhead
  | .unreadable, w, _, h => by cases h

theorem kept_of_keepItems : ∀ {vs ws : List Value}, ThroughoutItems InOrder vs →
    keepItems noText vs = .ok ws → ThroughoutItems Plain ws
  | [], ws, _, h => by cases h; trivial
  | v :: vs, ws, hin, h => by
      rw [keepItems] at h
      obtain ⟨r, hv, h⟩ := bind_eq_ok h
      obtain ⟨rest, hvs, h⟩ := bind_eq_ok h
      obtain rfl := Except.ok.inj h
      exact ⟨kept_of_keepWith hin.1 hv, kept_of_keepItems hin.2 hvs⟩

theorem kept_of_keepMembers : ∀ {ms rs : List (String × Value)}, Entries.Sorted ms →
    ThroughoutMembers InOrder ms → keepMembers noText ms = .ok rs →
    rs.map (·.1) = ms.map (·.1) ∧ ThroughoutMembers Plain rs
  | [], rs, _, _, h => by cases h; exact ⟨rfl, trivial⟩
  | (k, v) :: ms, rs, hsorted, hin, h => by
      rw [keepMembers] at h
      obtain ⟨r, hv, h⟩ := bind_eq_ok h
      obtain ⟨rest, hms, h⟩ := bind_eq_ok h
      obtain ⟨hnames, hall⟩ := kept_of_keepMembers hsorted.tail hin.2 hms
      -- the first name is before all others, which are the same as before
      have hfront : Entries.Sorted ((k, r) :: rest) :=
        sorted_of_names (by rw [List.map_cons, List.map_cons, hnames]) hsorted
      have hrs : (if (Entries.get? k rest).isSome then rest else Entries.insert k r rest) = rs :=
        Except.ok.inj h
      rw [get?_front hfront, if_neg Bool.false_ne_true, insert_front hfront] at hrs
      subst hrs
      exact ⟨by rw [List.map_cons, List.map_cons, hnames], kept_of_keepWith hin.1 hv, hall⟩

end

/-- **Whatever is read as content is kept.** -/
theorem kept_opaqueValue {v w : Value} (h : opaqueValue v = .ok w) : Kept w :=
  kept_of_keepWith (canonical_inOrder v) h

mutual

/-- A value whose objects stand in name order is in canonical form. -/
theorem canonical_self {P : Value → Prop} (hP : ∀ ms, P (.object ms) → Entries.Sorted ms) :
    ∀ {v : Value}, Throughout P v → v.canonical = v
  | .null, _ => rfl
  | .bool _, _ => rfl
  | .integer _, _ => rfl
  | .double _, _ => rfl
  | .string _, _ => rfl
  | .array _, h => congrArg Value.array (canonicalItems_self hP h.2)
  | .object ms, h => congrArg Value.object (canonicalMembers_self hP (hP ms h.1) h.2)
  | .unreadable, _ => rfl

theorem canonicalItems_self {P : Value → Prop}
    (hP : ∀ ms, P (.object ms) → Entries.Sorted ms) :
    ∀ {vs : List Value}, ThroughoutItems P vs → canonicalItems vs = vs
  | [], _ => rfl
  | _ :: _, h => by rw [canonicalItems, canonical_self hP h.1, canonicalItems_self hP h.2]

theorem canonicalMembers_self {P : Value → Prop}
    (hP : ∀ ms, P (.object ms) → Entries.Sorted ms) :
    ∀ {ms : List (String × Value)}, Entries.Sorted ms → ThroughoutMembers P ms →
      canonicalMembers ms = ms
  | [], _, _ => rfl
  | (k, v) :: ms, hsorted, h => by
      rw [canonicalMembers, canonicalMembers_self hP hsorted.tail h.2, canonical_self hP h.1]
      -- the first name is before all others
      rw [get?_front hsorted, if_neg Bool.false_ne_true, insert_front hsorted]

end

/-- Kept content is in canonical form. -/
theorem canonical_of_kept {v : Value} (h : Kept v) : v.canonical = v :=
  canonical_self (fun _ hplain => hplain.1) h

/-- **Kept content comes through another reading unchanged.** -/
theorem opaqueValue_of_kept {v : Value} (h : Kept v) : opaqueValue v = .ok v := by
  unfold opaqueValue
  rw [canonical_of_kept h]
  exact keepWith_self h

/-- The same for content of a text. -/
theorem content_of_kept {v : Value} (h : Kept v) : content v = .ok v := keepWith_self h

end Decode

end RoomSync.Json
