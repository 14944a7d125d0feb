/-
  RoomSync.Proofs.Storage.Durability
  ──────────────────────────────────
  **WHAT A STORAGE FILE ANSWERS AFTER A WRITE THAT FAILED.**

  A write goes to the document first and to the file after that (`FileStore.write`),
  and one that fails is not taken back.  So the document runs ahead of the file by the
  writes that failed, until one that works brings them all to the file.  A `Ledger`
  keeps both apart, and two laws hold over all calls on a storage:

      Document.ask_foldl_last — of the writes to a field the last one is answered
      Keeping.run_kept        — the storage answers by the ledger's document, and whoever
                                opens the file finds its durable part

  Hence, for every getter at once:

      answers_as_reopened_iff — a storage answers as its file when it is opened afresh, a
                                failed call leaves its answers, and a session that is set
                                up again goes on from the durable cursor, exactly when the
                                writes that failed said nothing new

  A cursor that could not be stored says something new, and the session goes on from it
  (`unsaved_cursor_is_answered`).
-/
import RoomSync.Proofs.Cursor.Writes
import RoomSync.Proofs.Storage.Files

namespace RoomSync

/-! ## §1. What getters answer. -/

/-- What a getter of storage asks for. -/
inductive Field where
  | cursor
  | filter
  | value (key : String)
  deriving DecidableEq

/-- What a getter of storage answers. -/
inductive Answer where
  | text (text : Option String)
  | filter (filter : Option RegisteredFilter)

namespace Write

/-- The field that is written. -/
def field : Write → Field
  | .cursor _ => .cursor
  | .filter _ => .filter
  | .value key _ => .value key

/-- Whether a write is the last one to its field. -/
def IsLastIn (ws : List Write) (w : Write) : Prop :=
  ∃ front back, ws = front ++ w :: back ∧ ∀ w' ∈ back, w'.field ≠ w.field

/-- What the getter of the written field is to answer. -/
def said : Write → Answer
  | .cursor c => .text c
  | .filter f => .filter f
  | .value _ text => .text (some text)

end Write

namespace Document

/-- What the getters answer of a document. -/
def ask (d : Document) : Field → Answer
  | .cursor => .text d.cursor
  | .filter => .filter d.filter
  | .value key => .text (d.values.get? key)

/-- A write answers for its own field, and for no other. -/
theorem ask_apply (d : Document) (w : Write) (f : Field) :
    (d.apply w).ask f = if f = w.field then w.said else d.ask f := by
  cases w with
  | cursor c => cases f <;> rfl
  | filter r => cases f <;> rfl
  | value key text =>
      cases f with
      | cursor | filter => rfl
      | value key' =>
          show Answer.text ((d.values.insert key text).get? key') = _
          rw [Table.get?_insert]
          by_cases h : key' = key
          · subst h
            rw [if_pos rfl]
            exact (if_pos rfl).symm
          · rw [if_neg h]
            exact (if_neg fun hfield => h (Field.value.inj hfield)).symm

/-- Writes to other fields do not matter. -/
theorem ask_foldl_other {f : Field} {ws : List Write} (h : ∀ w ∈ ws, w.field ≠ f) :
    ∀ d : Document, (ws.foldl apply d).ask f = d.ask f := by
  induction ws with
  | nil =>
      intro d
      rfl
  | cons w ws ih =>
      intro d
      rw [List.foldl_cons, ih fun w' hw' => h w' (List.mem_cons_of_mem _ hw'), ask_apply,
        if_neg (h w List.mem_cons_self).symm]

/-- **Of the writes to a field the last one** is answered. -/
theorem ask_foldl_last {ws : List Write} {w : Write} (h : w.IsLastIn ws) (d : Document) :
    (ws.foldl apply d).ask w.field = w.said := by
  obtain ⟨front, back, rfl, hlast⟩ := h
  rw [List.foldl_append, List.foldl_cons, ask_foldl_other hlast, ask_apply, if_pos rfl]

/-- A field that is written is written a last time. -/
theorem exists_isLastIn {f : Field} {ws : List Write} (h : ∃ w ∈ ws, w.field = f) :
    ∃ w : Write, w.IsLastIn ws ∧ w.field = f := by
  induction ws with
  | nil =>
      obtain ⟨w, hw, -⟩ := h
      exact absurd hw List.not_mem_nil
  | cons w ws ih =>
      -- the last one is among the others, or it is the first of all
      by_cases hlater : ∃ w' ∈ ws, w'.field = f
      · obtain ⟨w', ⟨front, back, rfl, hlast⟩, hfield⟩ := ih hlater
        exact ⟨w', ⟨w :: front, back, rfl, hlast⟩, hfield⟩
      · have hlast : ∀ w' ∈ ws, w'.field ≠ f := fun w' hw' heq => hlater ⟨w', hw', heq⟩
        obtain ⟨w', hw', rfl⟩ := h
        obtain rfl | hw' := List.mem_cons.1 hw'
        · exact ⟨w', ⟨[], ws, rfl, hlast⟩, rfl⟩
        · exact absurd rfl (hlast w' hw')

/-- Writes leave the answer for a field when the last one to it, if any, said the same. -/
theorem ask_foldl_iff (d : Document) (ws : List Write) (f : Field) :
    (ws.foldl apply d).ask f = d.ask f ↔
      ∀ w : Write, w.IsLastIn ws → w.field = f → w.said = d.ask f := by
  constructor
  · rintro h w hlast rfl
    rw [← h, ask_foldl_last hlast]
  · intro h
    by_cases hsome : ∃ w ∈ ws, w.field = f
    · obtain ⟨w, hlast, rfl⟩ := exists_isLastIn hsome
      rw [← h w hlast rfl, ask_foldl_last hlast]
    · exact ask_foldl_other (fun w hw heq => hsome ⟨w, hw, heq⟩) d

/-- Whether a document is read as it was written. -/
def IsLossless (d : Document) : Prop := ofText? d.toText = some d

instance (d : Document) : Decidable d.IsLossless :=
  inferInstanceAs (Decidable (ofText? d.toText = some d))

end Document

/-! ## §2. Calls on a storage. -/

/-- A write, and the steps of the file system that are out of order for it. -/
structure StoreCall where
  write : Write
  broken : FileStep → Bool := fun _ => false

/-- What is in the file, and the writes that failed since. -/
structure Ledger where
  durable : Document
  failed : List Write := []

namespace Ledger

/-- The durable document after the writes that failed. -/
def document (l : Ledger) : Document := l.failed.foldl Document.apply l.durable

/-- A write that works makes all before it durable. -/
def note (l : Ledger) (w : Write) : Except SyncError Unit → Ledger
  | .ok () => { durable := l.document.apply w }
  | .error _ => { l with failed := l.failed ++ [w] }

theorem document_note (l : Ledger) (w : Write) (answer : Except SyncError Unit) :
    (l.note w answer).document = l.document.apply w := by
  cases answer with
  | ok u => rfl
  | error e =>
      show (l.failed ++ [w]).foldl Document.apply l.durable = _
      rw [List.foldl_append]
      rfl

end Ledger

/-- A storage in its file system, with its ledger. -/
structure Keeping where
  store : FileStore
  files : FileSystem
  ledger : Ledger

namespace Keeping

/-- A storage that was just opened. -/
def begin (files : FileSystem) (store : FileStore) : Keeping :=
  { store, files, ledger := { durable := store.document } }

/-- What a call answers. -/
def answer (k : Keeping) (c : StoreCall) : Except SyncError Unit :=
  (k.store.write c.write (k.files.failing c.broken)).2.2

/-- A call on the storage. -/
def call (k : Keeping) (c : StoreCall) : Keeping where
  store := (k.store.write c.write (k.files.failing c.broken)).1
  files := (k.store.write c.write (k.files.failing c.broken)).2.1
  ledger := k.ledger.note c.write (k.answer c)

def run (k : Keeping) (calls : List StoreCall) : Keeping := calls.foldl call k

/-- **What holds between two calls**: the storage answers by the ledger's document, and
whoever opens the file finds its durable part. -/
structure Kept {path : Path} (plain : path.Plain) (k : Keeping) : Prop where
  path_eq : k.store.path = path
  document_eq : k.store.document = k.ledger.document
  grounded : plain.Grounded k.files
  opened : FileStore.openAt k.files path = .ok ⟨path, k.ledger.durable⟩

section

variable {path : Path} {plain : path.Plain} {k : Keeping}

/-- The storage after a write, whether it fails or not. -/
def written (k : Keeping) (w : Write) : FileStore :=
  { k.store with document := k.store.document.apply w }

theorem ask_written (k : Keeping) (w : Write) (f : Field) :
    (k.written w).document.ask f = if f = w.field then w.said else k.store.document.ask f :=
  Document.ask_apply k.store.document w f

/-- How a write that does not reach the file is answered. -/
def unsaved : SyncError := .io "storage file cannot be written"

theorem write_eq (k : Keeping) (w : Write) (files : FileSystem) :
    k.store.write w files =
      match (k.written w).flush files with
      | (files, true) => (k.written w, files, .ok ())
      | (files, false) => (k.written w, files, .error unsaved) := rfl

/-- A call is noted as its way to the file ended. -/
theorem call_eq (k : Keeping) (c : StoreCall) :
    k.call c =
      match (k.written c.write).flush (k.files.failing c.broken) with
      | (files, true) => ⟨k.written c.write, files, k.ledger.note c.write (.ok ())⟩
      | (files, false) => ⟨k.written c.write, files, k.ledger.note c.write (.error unsaved)⟩ := by
  unfold call answer
  rw [write_eq]
  split <;> rfl

theorem answer_of_not_flushed {k : Keeping} {c : StoreCall}
    (h : ((k.written c.write).flush (k.files.failing c.broken)).2 = false) :
    k.answer c = .error unsaved := by
  unfold answer
  rw [write_eq]
  split
  next hflush =>
    rw [hflush] at h
    exact nomatch h
  next => rfl

theorem store_call (k : Keeping) (c : StoreCall) :
    (k.call c).store = k.written c.write := by
  rw [call_eq]
  split <;> rfl

/-- What is opened is what is read. -/
theorem openAt_congr {files files' : FileSystem} (h : files'.read path = files.read path) :
    FileStore.openAt files' path = FileStore.openAt files path := by
  unfold FileStore.openAt
  rw [h]

theorem openAt_missing {files : FileSystem} (h : files.read path = .missing) :
    FileStore.openAt files path = .ok { path } := by
  unfold FileStore.openAt
  rw [h]

theorem openAt_text {files : FileSystem} {d : Document} (h : files.read path = .text d.toText)
    (hlossless : d.IsLossless) : FileStore.openAt files path = .ok ⟨path, d⟩ := by
  have hlossless : Document.ofText? d.toText = some d := hlossless
  unfold FileStore.openAt
  rw [h]
  dsimp only
  rw [hlossless]

/-- **One call** keeps storage and file as the ledger says. -/
theorem call_kept (h : k.Kept plain) (c : StoreCall)
    (hlossless : (k.call c).store.document.IsLossless) : (k.call c).Kept plain := by
  obtain ⟨hpath, hdocument, hgrounded, hopened⟩ := h
  subst hpath
  have hflush := (k.written c.write).flush_reads plain (hgrounded.failing c.broken)
  have hnoted : ∀ answer, (k.written c.write).document = (k.ledger.note c.write answer).document :=
    fun answer => by
      rw [Ledger.document_note, ← hdocument]
      rfl
  rw [store_call] at hlossless
  rw [FileSystem.read_failing] at hflush
  rw [call_eq]
  cases hended : (k.written c.write).flush (k.files.failing c.broken) with
  | mk files worked =>
      rw [hended] at hflush
      cases worked with
      | true =>
          -- the file holds the whole document, with all that failed before
          obtain ⟨hgrounded, hread⟩ := hflush
          refine ⟨rfl, hnoted _, hgrounded, (openAt_text hread hlossless).trans ?_⟩
          rw [hnoted (.ok ())]
          rfl
      | false =>
          -- the document went on, and the file stayed
          obtain ⟨hgrounded, hread⟩ := hflush
          exact ⟨rfl, hnoted _, hgrounded, (openAt_congr hread).trans hopened⟩

/-- **A run of calls** does. -/
theorem run_kept {calls : List StoreCall} : ∀ {k : Keeping}, k.Kept plain →
    (∀ front, front <+: calls → (k.run front).store.document.IsLossless) →
    (k.run calls).Kept plain := by
  induction calls with
  | nil => exact fun h _ => h
  | cons c calls ih =>
      intro k h hlossless
      refine ih (call_kept h c (hlossless [c] ?_)) fun front hfront => hlossless (c :: front) ?_
      · exact List.prefix_append [c] calls
      · exact (List.prefix_cons_inj c).2 hfront

/-- A storage that was just opened is as its ledger says. -/
theorem begin_kept {files : FileSystem} (htree : files.IsTree) {opened : FileStore}
    (h : FileStore.openAt files path = .ok opened) : (begin files opened).Kept plain := by
  have hpath : opened.path = path := by
    unfold FileStore.openAt at h
    split at h
    next =>
      obtain rfl := Except.ok.inj h
      rfl
    next => exact nomatch h
    next =>
      split at h
      next =>
        obtain rfl := Except.ok.inj h
        rfl
      next => exact nomatch h
  subst hpath
  exact ⟨rfl, rfl, FileSystem.grounded_of_isTree htree _ _, h⟩

end

end Keeping

/-! ## §3. Setting a session up again. -/

namespace Cursor

/-- A session that keeps its filter finds it known. -/
theorem resolveFilter_known (user : UserId) {w : World} (hfault : w.fault .getFilter = none) :
    resolveFilter user (w.document.filter.map (·.filter)) w =
      ⟨w, [], .ok (w.document.filter.map (·.id))⟩ := by
  unfold resolveFilter Store.getFilter
  rw [Action.bind_ok (World.read_done hfault)]
  cases w.document.filter with
  | none => rfl
  | some known =>
      dsimp only [Option.map_some]
      rw [Option.filter_some, if_pos (decide_eq_true rfl)]
      rfl

/-- **A session that is set up again** with its filter goes on from the stored cursor. -/
theorem prepare_known {session : Session Loop} (hfault : ∀ m, session.fault m = none)
    (hfilter : session.loop.options.filter = session.document.filter.map (·.filter)) :
    (prepare session).answer = .ok ()
      ∧ (prepare session).state.loop.request.since = session.document.cursor := by
  have hresolve : resolveFilter session.world.classifier.user session.loop.options.filter
      session.world = ⟨session.world, [], .ok (session.document.filter.map (·.id))⟩ := by
    rw [hfilter]
    exact resolveFilter_known _ (hfault .getFilter)
  have hupdate : Session.update (fun l : Loop =>
      { l with filterId := session.document.filter.map (·.id) }) session =
    ⟨⟨{ session.loop with filterId := session.document.filter.map (·.id) }, session.world⟩, [],
      .ok ()⟩ := rfl
  have hget : (⟨{ session.loop with filterId := session.document.filter.map (·.id) },
      session.world⟩ : Session Loop).fault .getCursor = none := hfault .getCursor
  -- the filter is known, so nothing clears the cursor before it is read
  rw [prepare_eq, Action.bind_ok (Session.onWorld_eq hresolve), Action.bind_ok hupdate]
  unfold Store.getCursor
  rw [Action.bind_ok (Session.read_done hget)]
  exact ⟨rfl, rfl⟩

end Cursor

/-! ## §4. What a failed write leaves behind. -/

namespace Keeping

/-- **Storage and file answer alike exactly when what failed was nothing new.**  After any
calls on a storage, whichever of their steps failed, the file can be opened afresh, and
every getter answers as it would then exactly when, for each field, the last write that
failed since the file was written said what is in the file.  A call that fails leaves the
answers exactly when it said what was answered before.  A session that is set up again with
its filter goes on from the cursor in the file exactly when the last cursor that could not
be stored, if any, is that one. -/
theorem answers_as_reopened_iff {path : Path} (plain : path.Plain) {files : FileSystem}
    (htree : files.IsTree) {opened : FileStore}
    (hopened : FileStore.openAt files path = .ok opened) (calls : List StoreCall)
    (hlossless : ∀ front, front <+: calls →
      ((begin files opened).run front).store.document.IsLossless) :
    let k := (begin files opened).run calls
    ∃ fresh, FileStore.openAt k.files path = .ok fresh
      ∧ ((∀ f, k.store.document.ask f = fresh.document.ask f) ↔
          ∀ w : Write, w.IsLastIn k.ledger.failed → w.said = fresh.document.ask w.field)
      ∧ (∀ c, k.answer c ≠ .ok () →
          ((∀ f, (k.call c).store.document.ask f = k.store.document.ask f) ↔
            c.write.said = k.store.document.ask c.write.field))
      ∧ ∀ session : Session Cursor.Loop, session.document = k.store.document →
          (∀ m, session.fault m = none) →
          session.loop.options.filter = k.store.document.filter.map (·.filter) →
          (Cursor.prepare session).answer = .ok ()
            ∧ ((Cursor.prepare session).state.loop.request.since = fresh.document.cursor ↔
                ∀ c, (Write.cursor c).IsLastIn k.ledger.failed → c = fresh.document.cursor) := by
  intro k
  have hkept : k.Kept plain := run_kept (begin_kept htree hopened) hlossless
  have hask : ∀ f, k.store.document.ask f = k.ledger.durable.ask f ↔
      ∀ w : Write, w.IsLastIn k.ledger.failed → w.field = f → w.said = k.ledger.durable.ask f :=
    fun f => by
      rw [hkept.document_eq]
      exact Document.ask_foldl_iff k.ledger.durable k.ledger.failed f
  refine ⟨⟨path, k.ledger.durable⟩, hkept.opened, ?_, ?_, ?_⟩
  · exact ⟨fun h w hlast => (hask w.field).1 (h w.field) w hlast rfl,
      fun h f => (hask f).2 fun w hlast hfield => hfield ▸ h w hlast⟩
  · intro c _
    rw [store_call]
    refine ⟨fun h => ?_, fun h f => ?_⟩
    · have hfield := h c.write.field
      rwa [ask_written, if_pos rfl] at hfield
    · rw [ask_written]
      by_cases hf : f = c.write.field
      · rw [if_pos hf, hf, h]
      · rw [if_neg hf]
  · intro session hdocument hfault hfilter
    rw [← hdocument] at hfilter
    obtain ⟨hanswer, hsince⟩ := Cursor.prepare_known hfault hfilter
    refine ⟨hanswer, ?_⟩
    rw [hsince, hdocument]
    have htext : k.store.document.cursor = k.ledger.durable.cursor ↔
        k.store.document.ask .cursor = k.ledger.durable.ask .cursor :=
      ⟨congrArg Answer.text, Answer.text.inj⟩
    rw [htext, hask]
    refine ⟨fun h c hlast => Answer.text.inj (h (.cursor c) hlast rfl), fun h w hlast hfield => ?_⟩
    cases w with
    | cursor c => exact congrArg Answer.text (h c hlast)
    | filter r => exact nomatch hfield
    | value key text => exact nomatch hfield

/-! ## §5. A cursor that could not be stored. -/

namespace Example

def path : Path := { names := ["data", "sync.json"] }

def plain : path.Plain where
  climbs := 0
  front := ["data"]
  last := "sync.json"
  names_eq := rfl
  front_areNames := List.forall_mem_singleton.2 ⟨by decide, by decide +kernel⟩
  last_areNames := List.forall_mem_singleton.2 ⟨by decide, by decide +kernel⟩
  beside := by decide +kernel

/-- One cursor is stored; then one is not, and then the first one is not either. -/
def calls : List StoreCall :=
  [{ write := .cursor (some "s1") },
    { write := .cursor (some "s2"), broken := (· == .write) },
    { write := .cursor (some "s1"), broken := (· == .rename) }]

/-- Where the temporary file is to be written stands a directory. -/
def barred : FileSystem := { nodes := .ofList [("sync.tmp", .directory)] }

def unwritten : FileStore := { path := { names := ["sync.json"] } }

def batch : Cursor.Batch := { nextBatch := "s1", accountData := [.string "announced"] }

/-- A session without a filter that has a document in storage. -/
def session (document : Document) (faults : StoreMethod → Option SyncError) :
    Session Cursor.Loop where
  loop := {}
  world :=
    { classifier := { user := ⟨"@storing:x", by decide +kernel⟩ }
      store := { document, faults } }

end Example

open Example

/-- The cursor that failed last is in the file: storage and file answer alike. -/
theorem stored_cursor_said_again :
    FileSystem.IsTree {} ∧ FileStore.openAt {} path = .ok { path }
      ∧ (∀ front, front <+: calls → ((begin {} { path }).run front).store.document.IsLossless)
      ∧ ∃ fresh, FileStore.openAt ((begin {} { path }).run calls).files path = .ok fresh
        ∧ ∀ f, ((begin {} { path }).run calls).store.document.ask f = fresh.document.ask f := by
  have hopened : FileStore.openAt {} path = .ok { path } := openAt_missing (by decide +kernel)
  have hlossless : ∀ front, front <+: calls →
      ((begin {} { path }).run front).store.document.IsLossless := by
    have htake : ∀ n < 4, ((begin {} { path }).run (calls.take n)).store.document.IsLossless := by
      decide +kernel
    intro front hfront
    rw [List.prefix_iff_eq_take.1 hfront]
    exact htake front.length (Nat.lt_succ_of_le hfront.length_le)
  have hfailed : ((begin {} { path }).run calls).ledger.failed =
      [.cursor (some "s2"), .cursor (some "s1")] := by decide +kernel
  refine ⟨FileSystem.isTree_empty, hopened, hlossless, ?_⟩
  obtain ⟨fresh, hfresh, hanswers, -⟩ :=
    answers_as_reopened_iff plain FileSystem.isTree_empty hopened calls hlossless
  have hstored : FileStore.openAt ((begin {} { path }).run calls).files path =
      .ok ⟨path, { cursor := some "s1" }⟩ := openAt_text (by decide +kernel) (by decide +kernel)
  obtain rfl := Except.ok.inj (hstored.symm.trans hfresh)
  refine ⟨_, hfresh, hanswers.2 ?_⟩
  rw [hfailed]
  rintro w ⟨front, back, h, hlast⟩
  match front, h with
  | [], h =>
      obtain ⟨rfl, rfl⟩ := List.cons.inj h
      exact absurd rfl (hlast (.cursor (some "s1")) (List.mem_singleton.2 rfl))
  | [_], h =>
      obtain ⟨-, h⟩ := List.cons.inj h
      obtain ⟨rfl, -⟩ := List.cons.inj h
      rfl
  | _ :: _ :: rest, h =>
      have h : [] = rest ++ w :: back := (List.cons.inj (List.cons.inj h).2).2
      exact absurd h.symm (List.append_ne_nil_of_right_ne_nil rest (List.cons_ne_nil w back))

/-- **A cursor that could not be stored** is answered all the same, where the file has
none.  The batch that brought it is not announced, and a session that is set up again asks
for what came after it. -/
theorem unsaved_cursor_is_answered :
    let k := (begin barred unwritten).call { write := .cursor (some "s1") }
    FileStore.openAt barred unwritten.path = .ok unwritten
      ∧ (begin barred unwritten).answer { write := .cursor (some "s1") } = .error unsaved
      ∧ unwritten.document.ask .cursor = .text none
      ∧ k.store.document.ask .cursor = .text (some "s1")
      ∧ FileStore.openAt k.files unwritten.path = .ok unwritten
      ∧ (Cursor.process {} batch (session unwritten.document
          fun m => if m = .setCursor then some unsaved else none)).effects = []
      ∧ (Cursor.prepare (session k.store.document fun _ => none)).state.loop.request.since =
          some "s1" := by
  refine ⟨openAt_missing (by decide +kernel), answer_of_not_flushed (by decide +kernel), rfl, rfl,
    openAt_missing (by decide +kernel), rfl, rfl⟩

end Keeping

end RoomSync
