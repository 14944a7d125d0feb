/-
  RoomSync.Proofs.Storage.Files
  ─────────────────────────────
  **A FILE THAT IS REPLACED WHOLE.**

  A storage file is written in three steps: its directories are made, a temporary
  file is written beside it, and that one is moved over it.  Any of them can fail.
  Only the last one touches the file, so that a reader of it finds the new text when
  all three worked, and else what it found before:

      follow_open     — a path through directories leads on from the last of them
      makeWay_reads   — directories are made without a reader's notice
      put_beside      — so is a temporary file
      rename_beside   — it is moved over the file whole, or not at all
      flush_reads     — the three steps together

  This needs a path that turns up first, if at all, and then leads down to a file that is
  not its own temporary file (`Path.Plain`), and that nothing stands where there is no
  directory for it to stand in (`FileSystem.IsTree`).  Of a path that turns up later on,
  a directory that is made can open the way to another file.
-/
import RoomSync.Storage.FileStore

namespace RoomSync

/-! ## §1. Places. -/

namespace Place

theorem key_append {p q : Place} (hp : p ≠ []) (hq : q ≠ []) :
    key (p ++ q) = p.key ++ "/" ++ q.key := String.intercalate_append_of_ne_nil hp hq

theorem key_singleton (name : String) : key [name] = name := String.intercalate_singleton

/-- What lies below a place has a longer key. -/
theorem length_key_lt {p q : Place} (hp : p ≠ []) (hq : q ≠ []) :
    p.key.length < (key (p ++ q)).length := by
  rw [key_append hp hq, String.length_append, String.length_append]
  have hslash : "/".length = 1 := rfl
  omega

/-- Two names in one directory are two places. -/
theorem key_concat_ne {p : Place} {a b : String} (h : a ≠ b) :
    key (p ++ [a]) ≠ key (p ++ [b]) := by
  intro heq
  by_cases hp : p = []
  · subst hp
    rw [List.nil_append, List.nil_append, key_singleton, key_singleton] at heq
    exact h heq
  · rw [key_append hp (List.cons_ne_nil a []), key_append hp (List.cons_ne_nil b []),
      key_singleton, key_singleton] at heq
    exact h ((String.append_right_inj _).1 heq)

/-- A place with a name that leads down is below the top. -/
theorem isTop_concat {p : Place} {name : String} (h : name ≠ Path.up) :
    isTop (p ++ [name]) = false := by
  unfold isTop
  rw [List.all_append, List.all_cons, List.all_nil, beq_false_of_ne h, Bool.false_and,
    Bool.and_false]

/-- Some directories up from the top one. -/
def climb (n : Nat) : Place := List.replicate n Path.up

theorem above_climb (n : Nat) : (climb n).above = climb (n + 1) := by
  have htop : (climb n).isTop = true :=
    List.all_eq_true.2 fun name hname => beq_iff_eq.2 (List.eq_of_mem_replicate hname)
  unfold above
  rw [if_pos htop]
  exact List.replicate_succ'.symm

end Place

/-- Names that lead down and can stand in a directory. -/
def Path.AreNames (names : List String) : Prop :=
  ∀ name ∈ names, name ≠ Path.up ∧ Path.isTooLong name = false

namespace FileSystem

theorem node?_put {fs : FileSystem} {p q : Place} (n : Node) (hq : q.isTop = false) :
    (fs.put p n).node? q = if q.key = p.key then some n else fs.node? q := by
  unfold node?
  rw [hq]
  exact Table.get?_insert fs.nodes p.key q.key n

theorem node?_put_self {fs : FileSystem} {p : Place} {name : String} (n : Node)
    (h : name ≠ Path.up) : (fs.put (p ++ [name]) n).node? (p ++ [name]) = some n := by
  rw [node?_put n (Place.isTop_concat h), if_pos rfl]

theorem node?_put_other {fs : FileSystem} {p q : Place} (n : Node) (h : q.key ≠ p.key) :
    (fs.put p n).node? q = fs.node? q := by
  cases hq : q.isTop with
  | true =>
      unfold node?
      rw [hq]
      rfl
  | false => rw [node?_put n hq, if_neg h]

theorem node?_move {fs : FileSystem} {source target q : Place} (text : String)
    (hq : q.isTop = false) :
    (fs.move source target text).node? q =
      if q.key = target.key then some (.file text)
      else if q.key = source.key then none else fs.node? q := by
  unfold node? move
  rw [hq]
  show ((fs.nodes.erase source.key).insert target.key (.file text)).get? q.key = _
  rw [Table.get?_insert, Table.get?_erase]
  rfl

theorem node?_move_other {fs : FileSystem} {source target q : Place} (text : String)
    (hsource : q.key ≠ source.key) (htarget : q.key ≠ target.key) :
    (fs.move source target text).node? q = fs.node? q := by
  cases hq : q.isTop with
  | true =>
      unfold node?
      rw [hq]
      rfl
  | false => rw [node?_move text hq, if_neg htarget, if_neg hsource]

/-! ## §2. Ways. -/

/-- All names on the way lead to directories. -/
def Open (fs : FileSystem) (place : Place) : List String → Prop
  | [] => True
  | name :: rest =>
      fs.node? (place ++ [name]) = some .directory ∧ fs.Open (place ++ [name]) rest

/-- None of the names on the way leads to anything. -/
def Bare (fs : FileSystem) (place : Place) : List String → Prop
  | [] => True
  | name :: rest => fs.node? (place ++ [name]) = none ∧ fs.Bare (place ++ [name]) rest

/-- Nothing is on the way behind the last of its directories. -/
def Grounded (fs : FileSystem) (place : Place) : List String → Prop
  | [] => True
  | name :: rest =>
      if fs.node? (place ++ [name]) = some .directory then fs.Grounded (place ++ [name]) rest
      else fs.Bare (place ++ [name]) rest

/-- Whatever is there stands in a directory. -/
def IsTree (fs : FileSystem) : Prop :=
  ∀ (place : Place) (name : String),
    fs.node? (place ++ [name]) ≠ none → fs.node? place = some .directory

theorem isTree_empty : IsTree {} := by
  intro place name h
  unfold node? at h ⊢
  cases hplace : place.isTop with
  | true => rfl
  | false =>
      have htop : Place.isTop (place ++ [name]) = false := by
        rw [Place.isTop] at hplace ⊢
        rw [List.all_append, hplace, Bool.false_and]
      rw [htop] at h
      exact absurd rfl h

section Ways

variable {fs fs' : FileSystem}

theorem bare_of_isTree (h : fs.IsTree) (names : List String) :
    ∀ {place : Place}, fs.node? place ≠ some .directory → fs.Bare place names := by
  induction names with
  | nil =>
      intro place _
      trivial
  | cons name rest ih =>
      intro place hplace
      have hnone : fs.node? (place ++ [name]) = none :=
        Classical.byContradiction fun hsome => hplace (h place name hsome)
      refine ⟨hnone, ih ?_⟩
      rw [hnone]
      exact nofun

/-- In a tree every way is grounded. -/
theorem grounded_of_isTree (h : fs.IsTree) (names : List String) :
    ∀ place : Place, fs.Grounded place names := by
  induction names with
  | nil =>
      intro place
      trivial
  | cons name rest ih =>
      intro place
      unfold Grounded
      split
      next => exact ih (place ++ [name])
      next hother => exact bare_of_isTree h rest hother

theorem Bare.grounded {place : Place} {names : List String} (h : fs.Bare place names) :
    fs.Grounded place names := by
  cases names with
  | nil => trivial
  | cons name rest =>
      unfold Grounded
      rw [h.1, if_neg nofun]
      exact h.2

theorem grounded_cons_directory {place : Place} {name : String} {rest : List String}
    (hnode : fs.node? (place ++ [name]) = some .directory) :
    fs.Grounded place (name :: rest) ↔ fs.Grounded (place ++ [name]) rest := by
  rw [Grounded, if_pos hnode]

/-- A last name behind directories is grounded, whatever it leads to. -/
theorem Open.grounded {names : List String} (last : String) :
    ∀ {place : Place}, fs.Open place names → fs.Grounded place (names ++ [last]) := by
  induction names with
  | nil =>
      intro place _
      show if _ then True else True
      split <;> trivial
  | cons name rest ih =>
      intro place h
      rw [List.cons_append, Grounded, if_pos h.1]
      exact ih h.2

/-- A bare way stays so while nothing changes below its start. -/
theorem Bare.congr {names : List String} :
    ∀ {place : Place}, place ≠ [] → fs.Bare place names →
      (∀ q : Place, place.key.length < q.key.length → fs'.node? q = fs.node? q) →
      fs'.Bare place names := by
  induction names with
  | nil =>
      intro place _ _ _
      trivial
  | cons name rest ih =>
      intro place hplace h hsame
      have hlt := Place.length_key_lt hplace (List.cons_ne_nil name [])
      refine ⟨(hsame _ hlt).trans h.1, ih (by simp) h.2 fun q hq => hsame q ?_⟩
      omega

/-- Directories stay so while nothing changes from the last of them on up. -/
theorem Open.congr {names : List String} :
    ∀ {place : Place}, fs.Open place names →
      (∀ q : Place, q.key.length ≤ (Place.key (place ++ names)).length →
        fs'.node? q = fs.node? q) →
      fs'.Open place names := by
  induction names with
  | nil =>
      intro place _ _
      trivial
  | cons name rest ih =>
      intro place h hsame
      rw [List.append_cons] at hsame
      refine ⟨(hsame _ ?_).trans h.1, ih h.2 hsame⟩
      cases rest with
      | nil => exact Nat.le_of_eq (by rw [List.append_nil])
      | cons name' rest =>
          exact Nat.le_of_lt (Place.length_key_lt (by simp) (List.cons_ne_nil name' rest))

/-- Directories stay so while nothing changes but what stands in the last of them. -/
theorem Open.congr_behind {names : List String} {place : Place} (h : fs.Open place names)
    (hsame : ∀ q : Place, (∀ name, q.key ≠ Place.key (place ++ names ++ [name])) →
      fs'.node? q = fs.node? q) :
    fs'.Open place names := by
  -- a key tells what is below a directory by its length, but for the top, where no name is
  by_cases hempty : place ++ names = []
  · obtain ⟨-, rfl⟩ := List.append_eq_nil_iff.1 hempty
    trivial
  · refine h.congr fun q hq => hsame q fun name heq => ?_
    have hlt := Place.length_key_lt hempty (List.cons_ne_nil name [])
    rw [heq] at hq
    omega

/-! ## §3. What a reader finds. -/

/-- What reading comes to where some names lead to. -/
def seen (fs : FileSystem) (place : Place) (names : List String) : ReadResult :=
  match fs.follow place names with
  | .file _ text => .text text
  | .vacant _ | .missing => .missing
  | .directory | .barred => .failed

/-- Reading a path is reading where its names lead to; nothing is read inside of a
file. -/
theorem read_eq (fs : FileSystem) (p : Path) :
    fs.read p =
      if p.isWritable then
        match fs.seen [] p.names with
        | .text text => if p.isInside then .failed else .text text
        | result => result
      else .failed := by
  unfold read find seen
  cases p.isWritable with
  | false => rfl
  | true =>
      cases fs.follow [] p.names with
      | file place text => cases p.isInside <;> rfl
      | directory | vacant | missing | barred => rfl

theorem follow_cons {place : Place} {name : String} {rest : List String}
    (hname : name ≠ Path.up ∧ Path.isTooLong name = false) :
    fs.follow place (name :: rest) =
      match fs.node? (place ++ [name]) with
      | some .directory => fs.follow (place ++ [name]) rest
      | some (.file text) => if rest.isEmpty then .file (place ++ [name]) text else .barred
      | none => if rest.isEmpty then .vacant (place ++ [name]) else .missing := by
  rw [follow]
  exact (if_neg hname.1).trans (if_neg (ne_true_of_eq_false hname.2))

theorem seen_cons {place : Place} {name : String} {rest : List String}
    (hname : name ≠ Path.up ∧ Path.isTooLong name = false) (hrest : rest ≠ []) :
    fs.seen place (name :: rest) =
      match fs.node? (place ++ [name]) with
      | some .directory => fs.seen (place ++ [name]) rest
      | some (.file _) => .failed
      | none => .missing := by
  have hempty : rest.isEmpty = false := List.isEmpty_eq_false_iff.2 hrest
  unfold seen
  rw [follow_cons hname, hempty]
  cases fs.node? (place ++ [name]) with
  | none => rfl
  | some n => cases n <;> rfl

/-- Behind a directory a way goes on from there. -/
theorem seen_cons_directory {place : Place} {name : String} {rest : List String}
    (hname : name ≠ Path.up ∧ Path.isTooLong name = false) (hrest : rest ≠ [])
    (hnode : fs.node? (place ++ [name]) = some .directory) :
    fs.seen place (name :: rest) = fs.seen (place ++ [name]) rest := by
  rw [seen_cons hname hrest, hnode]

theorem seen_singleton {place : Place} {name : String}
    (hname : name ≠ Path.up ∧ Path.isTooLong name = false) :
    fs.seen place [name] =
      match fs.node? (place ++ [name]) with
      | some .directory => .failed
      | some (.file text) => .text text
      | none => .missing := by
  unfold seen
  rw [follow_cons hname]
  cases fs.node? (place ++ [name]) with
  | none => rfl
  | some n => cases n <;> rfl

/-- Where nothing is on the way, nothing is found. -/
theorem Bare.seen {names : List String} {place : Place} (h : fs.Bare place names)
    (hnames : Path.AreNames names) (hsome : names ≠ []) : fs.seen place names = .missing := by
  cases names with
  | nil => exact absurd rfl hsome
  | cons name rest =>
      have hname := hnames name List.mem_cons_self
      cases rest with
      | nil => rw [seen_singleton hname, h.1]
      | cons name' rest => rw [seen_cons hname (List.cons_ne_nil name' rest), h.1]

/-- **A path through directories** leads on from the last of them. -/
theorem follow_open {names : List String} (hnames : Path.AreNames names) (rest : List String) :
    ∀ {place : Place}, fs.Open place names →
      fs.follow place (names ++ rest) = fs.follow (place ++ names) rest := by
  induction names with
  | nil =>
      intro place _
      rw [List.nil_append, List.append_nil]
  | cons name names ih =>
      intro place h
      rw [List.cons_append, follow_cons (hnames name List.mem_cons_self), h.1]
      dsimp only
      rw [ih (fun n hn => hnames n (List.mem_cons_of_mem _ hn)) h.2, ← List.append_cons]

/-! ## §4. Making directories. -/

/-- Directories are made below the start only. -/
theorem node?_makeWay {names : List String} (hnames : Path.AreNames names) {q : Place} :
    ∀ {fs : FileSystem} {place : Place}, place ≠ [] → q.key.length ≤ place.key.length →
      (fs.makeWay place names).1.node? q = fs.node? q := by
  induction names with
  | nil =>
      intro fs place _ _
      rfl
  | cons name rest ih =>
      intro fs place hplace hq
      obtain ⟨hdown, hshort⟩ := hnames name List.mem_cons_self
      have ih := @ih fun n hn => hnames n (List.mem_cons_of_mem _ hn)
      have hlt := Place.length_key_lt hplace (List.cons_ne_nil name [])
      rw [makeWay, if_neg hdown, hshort, if_neg Bool.false_ne_true]
      dsimp only
      split
      next => exact ih (by simp) (by omega)
      next => rfl
      next =>
        rw [ih (by simp) (by omega)]
        refine node?_put_other _ fun heq => ?_
        rw [heq] at hq
        omega

/-- **Directories are made without a reader's notice**: a way stays grounded, what is
found at its end is the same, and if all went well it leads through directories. -/
theorem makeWay_reads {names : List String} (hnames : Path.AreNames names) {last : String}
    (hlast : Path.AreNames [last]) :
    ∀ {fs : FileSystem} {place : Place}, fs.Grounded place (names ++ [last]) →
      let (fs', worked) := fs.makeWay place names
      fs'.Grounded place (names ++ [last])
        ∧ fs'.seen place (names ++ [last]) = fs.seen place (names ++ [last])
        ∧ (worked = true → fs'.Open place names) := by
  induction names with
  | nil =>
      intro fs place h
      exact ⟨h, rfl, fun _ => trivial⟩
  | cons name rest ih =>
      intro fs place h
      have hname := hnames name List.mem_cons_self
      have hrest : Path.AreNames rest := fun n hn => hnames n (List.mem_cons_of_mem _ hn)
      have hmore : rest ++ [last] ≠ [] := by simp
      have hbelow : place ++ [name] ≠ [] := by simp
      have ih := @ih hrest
      rw [makeWay, if_neg hname.1, hname.2, if_neg Bool.false_ne_true]
      dsimp only
      rw [List.cons_append] at h ⊢
      cases hnode : fs.node? (place ++ [name]) with
      | none =>
          -- from here on all directories are new
          rw [Grounded, hnode, if_neg nofun] at h
          have hbare : (fs.put (place ++ [name]) .directory).Bare (place ++ [name])
              (rest ++ [last]) :=
            h.congr hbelow fun q hq => node?_put_other _ fun heq => by
              rw [heq] at hq
              omega
          have hkept : ((fs.put (place ++ [name]) .directory).makeWay (place ++ [name])
              rest).1.node? (place ++ [name]) = some .directory :=
            (node?_makeWay hrest hbelow (Nat.le_refl _)).trans (node?_put_self _ hname.1)
          have hnames' : Path.AreNames (rest ++ [last]) := fun n hn =>
            (List.mem_append.1 hn).elim (hrest n) (hlast n)
          obtain ⟨hgrounded, hfound, hopen⟩ := ih hbare.grounded
          refine ⟨(grounded_cons_directory hkept).2 hgrounded, ?_,
            fun hworked => ⟨hkept, hopen hworked⟩⟩
          rw [seen_cons_directory hname hmore hkept, seen_cons hname hmore, hnode]
          exact hfound.trans (hbare.seen hnames' hmore)
      | some n =>
          cases n with
          | file text =>
              -- a file stands in the way, and nothing is made
              exact ⟨h, rfl, fun hworked => (nomatch hworked)⟩
          | directory =>
              -- nothing is made here, and what follows leaves this directory
              have hkept : (fs.makeWay (place ++ [name]) rest).1.node? (place ++ [name]) =
                  some .directory := (node?_makeWay hrest hbelow (Nat.le_refl _)).trans hnode
              obtain ⟨hgrounded, hfound, hopen⟩ := ih ((grounded_cons_directory hnode).1 h)
              refine ⟨(grounded_cons_directory hkept).2 hgrounded, ?_,
                fun hworked => ⟨hkept, hopen hworked⟩⟩
              rw [seen_cons_directory hname hmore hkept, seen_cons_directory hname hmore hnode]
              exact hfound

theorem follow_climb (names : List String) (n : Nat) :
    ∀ k : Nat, fs.follow (Place.climb k) (Place.climb n ++ names) =
      fs.follow (Place.climb (k + n)) names := by
  induction n with
  | zero =>
      intro k
      rfl
  | succ n ih =>
      intro k
      show fs.follow (Place.climb k) (Path.up :: (Place.climb n ++ names)) = _
      rw [follow, if_pos rfl, Place.above_climb, ih]
      congr 2
      omega

theorem makeWay_climb (names : List String) (n : Nat) :
    ∀ k : Nat, fs.makeWay (Place.climb k) (Place.climb n ++ names) =
      fs.makeWay (Place.climb (k + n)) names := by
  induction n with
  | zero =>
      intro k
      rfl
  | succ n ih =>
      intro k
      show fs.makeWay (Place.climb k) (Path.up :: (Place.climb n ++ names)) = _
      rw [makeWay, if_pos rfl, Place.above_climb, ih]
      congr 2
      omega

end Ways

end FileSystem

/-! ## §5. A file and its temporary file. -/

/-- A path that leads up first and then down by names that can be names, to a file
that is not its own temporary file. -/
structure Path.Plain (p : Path) where
  climbs : Nat
  front : List String
  last : String
  names_eq : p.names = Place.climb climbs ++ (front ++ [last])
  front_areNames : Path.AreNames front
  last_areNames : Path.AreNames [last]
  beside : (p.withExtension "tmp").names ≠ p.names

namespace Path.Plain

variable {p : Path} (plain : p.Plain)

/-- Where the path turns down. -/
def turn : Place := Place.climb plain.climbs

/-- A path beside this one. -/
def besides (name : String) : Path := { names := plain.turn ++ (plain.front ++ [name]) }

theorem dropLast_names : p.names.dropLast = plain.turn ++ plain.front := by
  rw [plain.names_eq, ← List.append_assoc, List.dropLast_concat]
  rfl

theorem withExtension_eq :
    ∃ name, name ≠ plain.last ∧ p.withExtension "tmp" = plain.besides name := by
  have hsibling : ∀ name, p.sibling name = plain.besides name := fun name => by
    unfold sibling besides
    rw [plain.dropLast_names, List.append_assoc]
  have hother : ∀ name, p.withExtension "tmp" = p.sibling name →
      ∃ name, name ≠ plain.last ∧ p.withExtension "tmp" = plain.besides name := by
    intro name h
    refine ⟨name, ?_, h.trans (hsibling name)⟩
    rintro rfl
    refine plain.beside ?_
    rw [h, hsibling, plain.names_eq]
    rfl
  have hlast : p.names.getLast? = some plain.last := by
    rw [plain.names_eq, ← List.append_assoc, List.getLast?_concat]
  have hdown : plain.last ≠ up := (plain.last_areNames plain.last List.mem_cons_self).1
  by_cases hdots : ((splitExtension plain.last).1 = "." &&
      (splitExtension plain.last).2.any (· != "") && !p.isInside) = true
  · refine hother up ?_
    unfold withExtension
    rw [hlast]
    dsimp only
    rw [if_neg hdown, if_pos hdots]
  · refine hother ((splitExtension plain.last).1 ++ "." ++ "tmp") ?_
    unfold withExtension
    rw [hlast]
    dsimp only
    rw [if_neg hdown, if_neg hdots]

/-- The directory that the file stands in. -/
def directory : Place := plain.turn ++ plain.front

/-- Nothing is on the way to the file behind the last of its directories. -/
def Grounded (fs : FileSystem) : Prop := fs.Grounded plain.turn (plain.front ++ [plain.last])

section

variable {plain} {fs fs' : FileSystem}

theorem read_eq : fs.read p =
    if p.isWritable then
      match fs.seen plain.turn (plain.front ++ [plain.last]) with
      | .text text => if p.isInside then .failed else .text text
      | result => result
    else .failed := by
  have hseen : fs.seen [] p.names = fs.seen plain.turn (plain.front ++ [plain.last]) := by
    unfold FileSystem.seen
    rw [plain.names_eq]
    rw [show ([] : Place) = Place.climb 0 from rfl, FileSystem.follow_climb, Nat.zero_add]
    rfl
  rw [FileSystem.read_eq, hseen]

/-- Behind its directories a file is read where it stands. -/
theorem read_behind (h : fs.Open plain.turn plain.front) : fs.read p =
    if p.isWritable then
      match fs.node? (plain.directory ++ [plain.last]) with
      | some (.file text) => if p.isInside then .failed else .text text
      | some .directory => .failed
      | none => .missing
    else .failed := by
  have hseen : fs.seen plain.turn (plain.front ++ [plain.last]) =
      fs.seen plain.directory [plain.last] := by
    unfold FileSystem.seen
    rw [FileSystem.follow_open plain.front_areNames [plain.last] h]
    rfl
  rw [plain.read_eq, hseen, FileSystem.seen_singleton (plain.last_areNames _ List.mem_cons_self)]
  cases fs.node? (plain.directory ++ [plain.last]) with
  | none => rfl
  | some n => cases n <;> rfl

/-- The directories of the file are made without its reader's notice. -/
theorem createDirectories_reads (h : plain.Grounded fs) :
    let (fs', worked) := fs.createDirectories p.parent
    plain.Grounded fs' ∧ fs'.read p = fs.read p
      ∧ (worked = true → fs'.Open plain.turn plain.front) := by
  unfold FileSystem.createDirectories
  by_cases hbroken : (fs.broken .createDirectories || !p.parent.isWritable) = true
  · rw [if_pos hbroken]
    exact ⟨h, rfl, fun hworked => (nomatch hworked)⟩
  · have hway : fs.makeWay [] p.parent.names = fs.makeWay plain.turn plain.front := by
      rw [parent, plain.dropLast_names]
      exact (FileSystem.makeWay_climb plain.front plain.climbs 0).trans (by rw [Nat.zero_add]; rfl)
    rw [if_neg hbroken, hway]
    obtain ⟨hgrounded, hseen, hopen⟩ :=
      FileSystem.makeWay_reads plain.front_areNames plain.last_areNames h
    refine ⟨hgrounded, ?_, hopen⟩
    rw [plain.read_eq, plain.read_eq, hseen]

/-- A path beside the file leads to what stands there, if it leads anywhere. -/
theorem find_beside (h : fs.Open plain.turn plain.front) {q : Path} {name : String}
    (hq : q.names = plain.turn ++ (plain.front ++ [name])) :
    match fs.find q with
    | .file place text =>
        place = plain.directory ++ [name] ∧ name ≠ up ∧ q.isWritable = true ∧ q.isInside = false
          ∧ fs.node? place = some (.file text)
    | .vacant place => place = plain.directory ++ [name] ∧ name ≠ up ∧ q.isWritable = true
    | _ => True := by
  unfold FileSystem.find
  cases hwritable : q.isWritable with
  | false => trivial
  | true =>
      have hfollow : fs.follow [] q.names = fs.follow plain.directory [name] := by
        rw [hq]
        refine (FileSystem.follow_climb (plain.front ++ [name]) plain.climbs 0).trans ?_
        rw [Nat.zero_add]
        exact FileSystem.follow_open plain.front_areNames [name] h
      rw [hfollow, FileSystem.follow]
      by_cases hup : name = up
      · rw [if_pos hup]
        trivial
      · rw [if_neg hup]
        cases isTooLong name with
        | true => trivial
        | false =>
            rw [if_neg Bool.false_ne_true]
            dsimp only
            cases hnode : fs.node? (plain.directory ++ [name]) with
            | none => exact ⟨rfl, hup, rfl⟩
            | some n =>
                cases n with
                | directory => trivial
                | file text =>
                    cases hinside : q.isInside with
                    | true => trivial
                    | false => exact ⟨rfl, hup, rfl, rfl, hnode⟩

/-- **A file beside another** is written behind the same directories, or not at all. -/
theorem write_beside (h : fs.Open plain.turn plain.front) (name text : String) :
    fs.write (plain.besides name) text = (fs, false)
      ∨ name ≠ up ∧ fs.write (plain.besides name) text =
          (fs.put (plain.directory ++ [name]) (.file text), true) := by
  have hfind := plain.find_beside h (q := plain.besides name) rfl
  unfold FileSystem.write
  by_cases hbroken : fs.broken .write = true
  · rw [if_pos hbroken]
    exact .inl rfl
  · rw [if_neg hbroken]
    cases hfound : fs.find (plain.besides name) with
    | file place text' =>
        rw [hfound] at hfind
        obtain ⟨rfl, hdown, -⟩ := hfind
        exact .inr ⟨hdown, rfl⟩
    | vacant place =>
        rw [hfound] at hfind
        obtain ⟨rfl, hdown, -⟩ := hfind
        exact .inr ⟨hdown, rfl⟩
    | directory | missing | barred => exact .inl rfl

/-- A reader of the file does not notice what is written beside it. -/
theorem put_beside (h : fs.Open plain.turn plain.front) {name : String} (hother : name ≠ plain.last)
    (n : Node) :
    (fs.put (plain.directory ++ [name]) n).Open plain.turn plain.front
      ∧ (fs.put (plain.directory ++ [name]) n).read p = fs.read p := by
  have hopen : (fs.put (plain.directory ++ [name]) n).Open plain.turn plain.front :=
    h.congr_behind fun q hq => FileSystem.node?_put_other n (hq name)
  refine ⟨hopen, ?_⟩
  rw [plain.read_behind hopen, plain.read_behind h,
    FileSystem.node?_put_other n (Place.key_concat_ne hother.symm)]

/-- What is moved over the file is what its reader finds. -/
theorem move_beside (h : fs.Open plain.turn plain.front) (name text : String)
    (hwritable : p.isWritable = true) (hinside : p.isInside = false) :
    let fs' := fs.move (plain.directory ++ [name]) (plain.directory ++ [plain.last]) text
    fs'.Open plain.turn plain.front ∧ fs'.read p = .text text := by
  have hopen : (fs.move (plain.directory ++ [name]) (plain.directory ++ [plain.last]) text).Open
      plain.turn plain.front :=
    h.congr_behind fun q hq => FileSystem.node?_move_other text (hq name) (hq plain.last)
  have hdown : plain.last ≠ up := (plain.last_areNames plain.last List.mem_cons_self).1
  refine ⟨hopen, ?_⟩
  rw [plain.read_behind hopen, if_pos hwritable,
    FileSystem.node?_move text (Place.isTop_concat hdown), if_pos rfl, hinside]
  rfl

/-- A file that stands beside is moved over the file whole, or not at all. -/
theorem rename_beside (h : fs.Open plain.turn plain.front) {name text : String}
    (hnode : fs.node? (plain.directory ++ [name]) = some (.file text)) :
    fs.rename (plain.besides name) p = (fs, false)
      ∨ p.isWritable = true ∧ p.isInside = false ∧ fs.rename (plain.besides name) p =
          (fs.move (plain.directory ++ [name]) (plain.directory ++ [plain.last]) text, true) := by
  have hsource := plain.find_beside h (q := plain.besides name) rfl
  have htarget := plain.find_beside h plain.names_eq
  unfold FileSystem.rename
  by_cases hbroken : fs.broken .rename = true
  · rw [if_pos hbroken]
    exact .inl rfl
  · rw [if_neg hbroken]
    cases hfound : fs.find (plain.besides name) with
    | directory | vacant | missing | barred => exact .inl rfl
    | file place text' =>
        rw [hfound] at hsource
        obtain ⟨rfl, -, -, -, hsame⟩ := hsource
        obtain rfl : text' = text := by
          rw [hnode] at hsame
          exact (Node.file.inj (Option.some.inj hsame)).symm
        cases hover : fs.find p with
        | directory | missing | barred => exact .inl rfl
        | file other _ =>
            rw [hover] at htarget
            obtain ⟨rfl, -, hwritable, hinside, -⟩ := htarget
            exact .inr ⟨hwritable, hinside, rfl⟩
        | vacant other =>
            rw [hover] at htarget
            obtain ⟨rfl, -, hwritable⟩ := htarget
            cases hinside : p.isInside with
            | true => exact .inl rfl
            | false => exact .inr ⟨hwritable, rfl, rfl⟩

end

end Path.Plain

/-! ## §6. Steps out of order. -/

namespace FileSystem

/-- The same files, where other steps are out of order. -/
def failing (broken : FileStep → Bool) (fs : FileSystem) : FileSystem := { fs with broken }

variable {fs : FileSystem} (broken : FileStep → Bool)

theorem follow_failing (names : List String) :
    ∀ place : Place, (fs.failing broken).follow place names = fs.follow place names := by
  induction names with
  | nil =>
      intro place
      rfl
  | cons name rest ih =>
      intro place
      unfold follow
      dsimp only
      rw [ih, ih]
      rfl

theorem read_failing (p : Path) : (fs.failing broken).read p = fs.read p := by
  unfold read find
  rw [follow_failing]

theorem Grounded.failing {names : List String} :
    ∀ {place : Place}, fs.Grounded place names → (fs.failing broken).Grounded place names := by
  induction names with
  | nil =>
      intro place _
      trivial
  | cons name rest ih =>
      intro place h
      unfold Grounded at h ⊢
      by_cases hnode : fs.node? (place ++ [name]) = some .directory
      · rw [if_pos hnode] at h
        rw [if_pos (show (fs.failing broken).node? (place ++ [name]) = _ from hnode)]
        exact ih h
      · rw [if_neg hnode] at h
        rw [if_neg (show ¬(fs.failing broken).node? (place ++ [name]) = _ from hnode)]
        exact h.congr (by simp) fun _ _ => rfl

end FileSystem

/-! ## §7. Writing the document. -/

namespace FileStore

/-- **A write replaces the file whole, or leaves it as it is**: when all three of its
steps worked a reader finds the document's text, and else what he found before. -/
theorem flush_reads (store : FileStore) (plain : store.path.Plain) {fs : FileSystem}
    (h : plain.Grounded fs) :
    match store.flush fs with
    | (fs', true) => plain.Grounded fs' ∧ fs'.read store.path = .text store.document.toText
    | (fs', false) => plain.Grounded fs' ∧ fs'.read store.path = fs.read store.path := by
  have hmade := plain.createDirectories_reads h
  obtain ⟨name, hother, htemporary⟩ := plain.withExtension_eq
  unfold flush
  cases hcreate : fs.createDirectories store.path.parent with
  | mk fs₁ worked =>
      rw [hcreate] at hmade
      obtain ⟨hgrounded, hread, hopen⟩ := hmade
      cases worked with
      | false => exact ⟨hgrounded, hread⟩
      | true =>
          have hopen := hopen rfl
          dsimp only
          rw [htemporary]
          obtain hwrite | ⟨hdown, hwrite⟩ := plain.write_beside hopen name store.document.toText
          · rw [hwrite]
            exact ⟨hgrounded, hread⟩
          · rw [hwrite]
            dsimp only
            -- the text stands beside the file, and only the move can bring it there
            obtain ⟨hopen', hread'⟩ := plain.put_beside hopen hother (.file store.document.toText)
            obtain hrename | ⟨hwritable, hinside, hrename⟩ :=
              plain.rename_beside hopen' (FileSystem.node?_put_self _ hdown)
            · rw [hrename]
              exact ⟨hopen'.grounded plain.last, hread'.trans hread⟩
            · rw [hrename]
              obtain ⟨hopen'', hread''⟩ :=
                plain.move_beside hopen' name store.document.toText hwritable hinside
              exact ⟨hopen''.grounded plain.last, hread''⟩

end FileStore

end RoomSync
