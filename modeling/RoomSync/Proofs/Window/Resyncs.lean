/-
  RoomSync.Proofs.Window.Resyncs
  ──────────────────────────────
  **A WINDOW THAT IS DROPPED AND SENT AGAIN.**

  The homeserver may take a window back and send it anew.  To drop the window of a
  SYNC takes exactly its page away, since pages are aligned; what stays are the
  placeholders where the SYNC moved rooms out of other pages:

      meets_iff_of_fits    — the window of a SYNC meets its own page only
      get?_pages_dropped   — the pages after SYNC and INVALIDATE
      sync_dropped         — nothing stays if nothing was moved or replaced
      sync_invalidate_sync — the second SYNC is as good as the only one
-/
import RoomSync.Proofs.Window.Footprints

namespace RoomSync.Window

namespace RoomList

section Dropped

variable {user : UserId} {l : RoomList} {list : Nat} {range : Nat × Nat}
  {first : List (Option Payload)} {touched : List Touched}

/-- The window of a SYNC meets its own page only. -/
theorem meets_iff_of_fits (hfits : l.fits range = true) {start : Nat}
    (haligned : start % l.pageSize = 0) : Meets l.pageSize start range ↔ start = range.1 := by
  obtain ⟨hlt, hrange, hwidth, -⟩ := (l.fits_iff range).1 hfits
  constructor
  · rintro ⟨index, hlo, hhi, hfrom, hto⟩
    have hle := le_of_aligned haligned hrange (by omega)
    have hge := le_of_aligned hrange haligned (by omega)
    omega
  · rintro rfl
    exact ⟨range.1, by omega, by omega, by omega, by omega⟩

/-- **The pages after a SYNC whose window is dropped again**: its own one is gone,
and the others have lost the rooms that it named. -/
theorem WellFormed.get?_pages_dropped (hl : l.WellFormed)
    (hok : (l.apply user (.sync list range first)).2 = .ok touched) (start : Nat) :
    ((l.apply user (.sync list range first)).1.invalidate range).pages.get? start =
      if start = range.1 then none
      else (l.pages.get? start).map (blanked (NamedBefore first (range.2 - range.1))) := by
  have hsynced := hl.apply user (.sync list range first)
  have hrebuilt := rebuilt_of_accepted user hok
  have hfits : (l.apply user (.sync list range first)).1.fits range = true :=
    (fits_congr (kind_apply user l _) range).trans (fits_of_accepted user hok)
  obtain ⟨hlt, haligned, -⟩ := (fits_iff _ range).1 hfits
  refine Option.ext fun slots => ?_
  rw [(hsynced.dropped hlt).pages]
  by_cases hs : start = range.1
  · rw [if_pos hs]
    refine iff_of_false (fun hpage => hpage.2 ?_) (by simp)
    exact (meets_iff_of_fits hfits (hs ▸ haligned)).2 hs
  · rw [if_neg hs, ← hrebuilt.others start hs]
    refine and_iff_left_of_imp fun hpage hmeets => hs ?_
    exact (meets_iff_of_fits hfits (hsynced.fits start slots hpage).aligned).1 hmeets

/-- Where no page was, and no room was held that the window named, the pages are
those from before. -/
theorem WellFormed.pages_sync_dropped (hl : l.WellFormed)
    (hok : (l.apply user (.sync list range first)).2 = .ok touched)
    (hpage : l.pages.get? range.1 = none)
    (hnew : ∀ id, NamedBefore first (range.2 - range.1) id → ¬ Held l.pages id) :
    ((l.apply user (.sync list range first)).1.invalidate range).pages = l.pages := by
  refine Table.ext fun start => ?_
  rw [hl.get?_pages_dropped hok]
  by_cases hs : start = range.1
  · rw [if_pos hs, hs, hpage]
  · rw [if_neg hs]
    cases hget : l.pages.get? start with
    | none => rfl
    | some slots =>
        refine congrArg some (blanked_eq_self fun id hid hnamed => hnew id hnamed ?_)
        exact held_iff.2 ⟨start, slots, hget, hid⟩

/-- **Nothing stays of a SYNC whose window is dropped again** if it put a page where
none was, and its window named no room that the list held. -/
theorem WellFormed.sync_dropped (hl : l.WellFormed)
    (hok : (l.apply user (.sync list range first)).2 = .ok touched)
    (hpage : l.pages.get? range.1 = none)
    (hnew : ∀ id, NamedBefore first (range.2 - range.1) id → ¬ Held l.pages id) :
    (l.apply user (.sync list range first)).1.invalidate range = l := by
  have hsynced := hl.apply user (.sync list range first)
  have hdropped := hsynced.dropped ((l.fits_iff range).1 (fits_of_accepted user hok)).1
  have hpages := hl.pages_sync_dropped hok hpage hnew
  have hrooms : ((l.apply user (.sync list range first)).1.invalidate range).rooms = l.rooms := by
    refine Table.ext fun id => hl.rooms_congr (hsynced.invalidate range)
      (positionOf_of_pages hpages id) fun hheld => ?_
    -- it is held by a page that stayed, and so it was not named
    have hbefore : Held l.pages id := hpages ▸ hheld
    have hnamed : ¬ NamedBefore first (range.2 - range.1) id := fun h => hnew id h hbefore
    obtain ⟨start, offset, hslot⟩ := hbefore
    have hs : start ≠ range.1 := by
      rintro rfl
      simp [slotOf, hpage] at hslot
    rw [hdropped.named id hheld]
    refine (rebuilt_of_accepted user hok).kept id hnamed ⟨start, offset, ?_⟩
    rw [slotOf_erase, if_neg hs, hslot]
  have hframe := hdropped.frame.trans (frame_apply user l (.sync list range first))
  exact eq_of_fields (congrArg (·.1) hframe) (congrArg (·.2.1) hframe) (congrArg (·.2.2) hframe)
    hpages hrooms

/-- **SYNC, INVALIDATE and SYNC are as good as the second SYNC alone.**  In any list
that can arise, let a SYNC be accepted and its window be dropped.  If there was no
page, and the window named no room that the list held, the list is what it was; so
another SYNC of the window gives the same list and the same answer with or without
the first one.  In any case the page has the same slots. -/
theorem Reachable.sync_invalidate_sync (h : Reachable l)
    (hok : (l.apply user (.sync list range first)).2 = .ok touched) :
    let dropped := ((l.apply user (.sync list range first)).1.apply user
      (.invalidate list range)).1
    (l.pages.get? range.1 = none →
        (∀ j < range.2 - range.1, ∀ id, nameAt first j = some id → l.holds id = false) →
          dropped = l ∧ ∀ second, dropped.apply user (.sync list range second) =
            l.apply user (.sync list range second))
      ∧ ∀ second, ∃ slots,
        (dropped.apply user (.sync list range second)).1.pages.get? range.1 = some slots
          ∧ (l.apply user (.sync list range second)).1.pages.get? range.1 = some slots := by
  intro dropped
  have hl := h.wellFormed
  refine ⟨fun hpage hnew => ?_, fun second => ?_⟩
  · have hsame : dropped = l := by
      refine hl.sync_dropped hok hpage fun id hnamed hheld => ?_
      obtain ⟨j, hj, hname⟩ := hnamed
      rw [← holds_iff, hnew j hj id hname] at hheld
      cases hheld
    exact ⟨hsame, fun second => by rw [hsame]⟩
  · -- the page of a SYNC is made from its entries alone
    have hfits := fits_of_accepted user hok
    have hkind : dropped.kind = l.kind :=
      (kind_apply user _ _).trans (kind_apply user l _)
    have hagain : dropped.fits range = true := (fits_congr hkind range).trans hfits
    exact ⟨_, (rebuilt_of_accepted user (apply_sync_snd user list hagain second)).page,
      (rebuilt_of_accepted user (apply_sync_snd user list hfits second)).page⟩

end Dropped

namespace SentAgain

def cellar : RoomId := ⟨"!cellar-again:x", by decide +kernel⟩

/-- The cellar, with a name. -/
def once : List (Option Payload) := [some (MovingIn.saying cellar "m.room.name" "name" "below")]

/-- The cellar one slot further, with a topic. -/
def again : List (Option Payload) :=
  [none, some (MovingIn.saying cellar "m.room.topic" "topic" "wine")]

end SentAgain

open MovingIn SentAgain in
/-- A window behind two pages is sent, dropped and sent again.  The name that came
with the first one is forgotten. -/
theorem window_sent_again :
    let dropped := ((list.apply user (.sync 0 (4, 6) once)).1.apply user
      (.invalidate 0 (4, 6))).1
    let after := (dropped.apply user (.sync 0 (4, 6) again)).1
    (Reachable list
        ∧ (list.apply user (.sync 0 (4, 6) once)).2 =
            .ok [⟨cellar, saying cellar "m.room.name" "name" "below"⟩])
      ∧ dropped = list
      ∧ after.pages.get? 4 = some [none, some cellar]
      ∧ after.rooms.get? cellar = some { id := cellar, facts := { topic := some "wine" } } := by
  intro dropped after
  have hreachable : Reachable list :=
    (((Reachable.create .joined 2).apply _ _).apply _ _).apply _ _
  have hok : (list.apply user (.sync 0 (4, 6) once)).2 =
      .ok [⟨cellar, saying cellar "m.room.name" "name" "below"⟩] :=
    (apply_sync_snd user 0 (by decide +kernel) once).trans
      (congrArg Except.ok (by decide +kernel))
  obtain ⟨hback, hslots⟩ := hreachable.sync_invalidate_sync hok
  have hnew : ∀ j < 6 - 4, ∀ id, nameAt once j = some id → list.holds id = false := by
    intro j hj id hname
    obtain rfl | rfl : j = 0 ∨ j = 1 := by omega
    · rw [show nameAt once 0 = some cellar by decide +kernel] at hname
      obtain rfl := Option.some.inj hname
      decide +kernel
    · rw [show nameAt once 1 = none by decide +kernel] at hname
      cases hname
  obtain ⟨hsame, hafter⟩ := hback (by decide +kernel) hnew
  obtain ⟨slots, hpage, halone⟩ := hslots again
  refine ⟨⟨hreachable, hok⟩, hsame, ?_, ?_⟩
  · show after.pages.get? (4, 6).1 = _
    rw [hpage, ← halone]
    decide +kernel
  · show (dropped.apply user (.sync 0 (4, 6) again)).1.rooms.get? cellar = _
    rw [hafter again]
    decide +kernel

end RoomList

end RoomSync.Window
