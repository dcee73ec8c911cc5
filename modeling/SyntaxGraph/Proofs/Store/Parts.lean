import Mathlib.Logic.Function.Basic
import SyntaxGraph.Proofs.Store.Use

/-!
# The four files of a store

A store consists of its file, the log, the index of the log and the journal, which stand side by side
in one directory.  `Disk.Shows` says what is to be seen at these four places: nothing, or a regular
file with a number and a content.  Each change of the disk at one of the places changes one of the
four, so that a run of the store is followed by looking at four cells and not at a tree.

## What is here

* `Part`, `Parts`, `Disk.Shows` — the four places and what is to be seen there, with one lemma for each
  change of the disk.
* `Disk.Shows.find_eq` — the file system sees the same.
* `Parts.Holds`, `Opened` — a store that rests, and a store whose log is open.
* `OpenFile.lock_of_holds`, `Opened.store`, `Opened.close_readOnly`, `Opened.close_writable` — from
  the one to the other and back.
-/

set_option autoImplicit false
namespace SyntaxGraph

/-- The files of a store. -/
inductive Part where
  | file
  | log
  | index
  | journal
deriving DecidableEq, Repr

/-- How the name of a part goes on after the name of the store's file. -/
def Part.suffix : Part → Bytes
  | file => []
  | log => Utf8.ofString logSuffix
  | index => Utf8.ofString indexSuffix
  | journal => Utf8.ofString journalSuffix

/-- The place of a part, in a directory. -/
def Part.place (dir : RealPath) (part : Part) : RealPath :=
  dir ++ [Config.databaseName ++ part.suffix]

/-- What is to be seen of a store: for each part the number of the file and its content. -/
abbrev Parts : Type :=
  Part → Option (FileId × Content)

namespace Part

variable {dir : RealPath}

theorem place_file (dir : RealPath) : place dir file = dir ++ [Config.databaseName] := by
  rw [place, suffix, List.append_nil]

theorem beside_eq (dir : RealPath) (suffix : String) :
    beside (place dir file) suffix = dir ++ [Config.databaseName ++ Utf8.ofString suffix] := by
  rw [place_file, beside, List.dropLast_concat, List.getLast?_concat]
  rfl

theorem mem_storePlaces {x : RealPath} :
    x ∈ storePlaces (place dir file) ↔ ∃ part, x = place dir part := by
  simp only [storePlaces, beside_eq, List.mem_cons, List.not_mem_nil, or_false]
  constructor
  · rintro (rfl | rfl | rfl | rfl)
    · exact ⟨file, rfl⟩
    · exact ⟨log, rfl⟩
    · exact ⟨index, rfl⟩
    · exact ⟨journal, rfl⟩
  · rintro ⟨part, rfl⟩
    cases part with
    | file => exact .inl rfl
    | log => exact .inr (.inl rfl)
    | index => exact .inr (.inr (.inl rfl))
    | journal => exact .inr (.inr (.inr rfl))

/-- The parts stand at different places. -/
theorem place_inj {part part' : Part} (h : place dir part = place dir part') : part = part' := by
  have hname := (List.append_inj' h rfl).2
  rw [List.cons.injEq] at hname
  have hsuffix := List.append_cancel_left hname.1
  cases part <;> cases part' <;> first | rfl | exact absurd hsuffix (by decide)

theorem properName (part : Part) : Disk.ProperName (Config.databaseName ++ part.suffix) := by
  cases part <;> exact ⟨by decide, by decide, by decide, by decide⟩

theorem length_le (part : Part) :
    (Config.databaseName ++ part.suffix).length ≤ Config.databaseName.length + 8 := by
  cases part <;> decide

end Part

/-- When one part has changed, that part is new and the others are as they were. -/
theorem Parts.update_eq {parts : Parts} {part part' : Part} {new seen : Option (FileId × Content)}
    (h : Function.update parts part new part' = seen) :
    part' = part ∧ new = seen ∨ part' ≠ part ∧ parts part' = seen := by
  rw [Function.update_apply] at h
  split at h
  · rename_i heq
    exact .inl ⟨heq, h⟩
  · rename_i hne
    exact .inr ⟨hne, h⟩

/-! ## Seeing the four files -/

/-- What is to be seen at the four places in a directory.  No two of them have the same file. -/
structure Disk.Shows (d : Disk) (dir : RealPath) (parts : Parts) : Prop where
  directory : d.shape? dir = some .dir
  missing : ∀ part, parts part = none → d.shape? (part.place dir) = none
  there : ∀ part id c, parts part = some (id, c) →
    d.shape? (part.place dir) = some (.file id) ∧ d.content id = c ∧ id < d.contents.length
  apart : ∀ part part' id c c', parts part = some (id, c) → parts part' = some (id, c') →
    part = part'

namespace Disk.Shows

variable {d : Disk} {dir : RealPath} {parts : Parts}

/-- Where nothing stands, nothing is to be seen. -/
theorem of_missing (hdir : d.shape? dir = some .dir)
    (h : ∀ part : Part, d.shape? (part.place dir) = none) : d.Shows dir fun _ => none where
  directory := hdir
  missing part _ := h part
  there part id c hsome := by cases hsome
  apart part part' id c c' hsome := by cases hsome

/-- What stands at one of the places. -/
theorem shape?_eq (h : d.Shows dir parts) (part : Part) :
    d.shape? (part.place dir) = (parts part).map fun seen => .file seen.1 := by
  cases hp : parts part with
  | none => exact h.missing part hp
  | some seen => exact (h.there part seen.1 seen.2 hp).1

theorem shape?_ne_dir (h : d.Shows dir parts) (part : Part) :
    d.shape? (part.place dir) ≠ some .dir := by
  rw [h.shape?_eq part]
  cases parts part <;> simp

theorem shape?_ne_link (h : d.Shows dir parts) (part : Part) (target : Path) :
    d.shape? (part.place dir) ≠ some (.link target) := by
  rw [h.shape?_eq part]
  cases parts part <;> simp

/-- A file at one of the places is that of the part. -/
theorem exists_of_file (h : d.Shows dir parts) (part : Part) {id : FileId}
    (hfile : d.shape? (part.place dir) = some (.file id)) : ∃ c, parts part = some (id, c) := by
  rw [h.shape?_eq part, Option.map_eq_some_iff] at hfile
  obtain ⟨⟨id', c⟩, hp, heq⟩ := hfile
  cases heq
  exact ⟨c, hp⟩

theorem directory_ne_place (dir : RealPath) (part : Part) : dir ≠ part.place dir := by
  intro heq
  have hlength := congrArg List.length heq
  rw [Part.place, List.length_append] at hlength
  simp at hlength

/-- Making the file of a part. -/
theorem addFile (h : d.Shows dir parts) {part : Part} (hpart : parts part = none) (c : Content) :
    (d.addFile (part.place dir) c).2.Shows dir
      (Function.update parts part (some (d.contents.length, c))) where
  directory := by
    rw [shape?_addFile_of_ne c (h.shape?_ne_dir part) (directory_ne_place dir part)]
    exact h.directory
  missing part' hnone := by
    rcases Parts.update_eq hnone with ⟨-, hnew⟩ | ⟨hne, hold⟩
    · cases hnew
    · rw [shape?_addFile_of_ne c (h.shape?_ne_dir part) fun he => hne (Part.place_inj he)]
      exact h.missing part' hold
  there part' id c' hsome := by
    rw [length_addFile]
    rcases Parts.update_eq hsome with ⟨rfl, hnew⟩ | ⟨hne, hold⟩
    · cases hnew
      exact ⟨shape?_addFile_self _ c h.directory, content_addFile_self d _ c, Nat.lt_succ_self _⟩
    · obtain ⟨hshape, hcontent, hlt⟩ := h.there part' id c' hold
      refine ⟨?_, (content_addFile_of_lt hlt _ c).trans hcontent, Nat.lt_succ_of_lt hlt⟩
      rw [shape?_addFile_of_ne c (h.shape?_ne_dir part) fun he => hne (Part.place_inj he)]
      exact hshape
  apart part₁ part₂ id c₁ c₂ h₁ h₂ := by
    have hfresh {part' : Part} {c' : Content} : parts part' ≠ some (d.contents.length, c') :=
      fun hsome => Nat.lt_irrefl _ (h.there part' _ c' hsome).2.2
    rcases Parts.update_eq h₁ with ⟨rfl, hnew₁⟩ | ⟨-, hold₁⟩
    · rcases Parts.update_eq h₂ with ⟨rfl, -⟩ | ⟨-, hold₂⟩
      · rfl
      · cases hnew₁
        exact absurd hold₂ hfresh
    · rcases Parts.update_eq h₂ with ⟨rfl, hnew₂⟩ | ⟨-, hold₂⟩
      · cases hnew₂
        exact absurd hold₁ hfresh
      · exact h.apart part₁ part₂ id c₁ c₂ hold₁ hold₂

/-- Writing to the file of a part. -/
theorem setContent (h : d.Shows dir parts) {part : Part} {id : FileId} {c : Content}
    (hpart : parts part = some (id, c)) (new : Content) :
    (d.setContent id new).Shows dir (Function.update parts part (some (id, new))) where
  directory := h.directory
  missing part' hnone := by
    rcases Parts.update_eq hnone with ⟨-, hnew⟩ | ⟨-, hold⟩
    · cases hnew
    · exact h.missing part' hold
  there part' id' c' hsome := by
    rw [length_setContent]
    rcases Parts.update_eq hsome with ⟨rfl, hnew⟩ | ⟨hne, hold⟩
    · cases hnew
      obtain ⟨hshape, -, hlt⟩ := h.there part' id c hpart
      exact ⟨hshape, content_setContent_self hlt new, hlt⟩
    · obtain ⟨hshape, hcontent, hlt⟩ := h.there part' id' c' hold
      have hid : id' ≠ id := by
        rintro rfl
        exact hne (h.apart part' part id' c' c hold hpart)
      exact ⟨hshape, (content_setContent_of_ne hid new).trans hcontent, hlt⟩
  apart part₁ part₂ id' c₁ c₂ h₁ h₂ := by
    -- the number of the part stays, so whoever has it had it before
    have hbefore {part' : Part} {c' : Content}
        (hsome : Function.update parts part (some (id, new)) part' = some (id', c')) :
        ∃ c'', parts part' = some (id', c'') := by
      rcases Parts.update_eq hsome with ⟨rfl, hnew⟩ | ⟨-, hold⟩
      · cases hnew
        exact ⟨c, hpart⟩
      · exact ⟨c', hold⟩
    obtain ⟨c₁', h₁'⟩ := hbefore h₁
    obtain ⟨c₂', h₂'⟩ := hbefore h₂
    exact h.apart part₁ part₂ id' c₁' c₂' h₁' h₂'

/-- Dropping the file of a part. -/
theorem dropFile (h : d.Shows dir parts) (part : Part) :
    (d.dropFile (part.place dir)).Shows dir (Function.update parts part none) where
  directory := by
    rw [shape?_dropFile_of_ne (directory_ne_place dir part)]
    exact h.directory
  missing part' hnone := by
    rcases Parts.update_eq hnone with ⟨rfl, -⟩ | ⟨hne, hold⟩
    · exact shape?_dropFile_self (h.shape?_ne_dir part')
    · rw [shape?_dropFile_of_ne fun he => hne (Part.place_inj he)]
      exact h.missing part' hold
  there part' id c hsome := by
    rcases Parts.update_eq hsome with ⟨-, hnew⟩ | ⟨hne, hold⟩
    · cases hnew
    · rw [shape?_dropFile_of_ne fun he => hne (Part.place_inj he), content_dropFile,
        contents_dropFile]
      exact h.there part' id c hold
  apart part₁ part₂ id c₁ c₂ h₁ h₂ := by
    rcases Parts.update_eq h₁ with ⟨-, hnew⟩ | ⟨-, hold₁⟩
    · cases hnew
    rcases Parts.update_eq h₂ with ⟨-, hnew⟩ | ⟨-, hold₂⟩
    · cases hnew
    exact h.apart part₁ part₂ id c₁ c₂ hold₁ hold₂

/-- Opening and closing logs. -/
theorem setLogs (h : d.Shows dir parts) (logs : List (FileId × OpenLog)) :
    ({ d with openLogs := logs } : Disk).Shows dir parts :=
  ⟨h.directory, h.missing, h.there, h.apart⟩

end Disk.Shows

/-! ## What the file system sees -/

/-- A directory whose names are names, and short enough for a store to be opened in it. -/
structure Roomy (dir : RealPath) : Prop where
  names : ∀ n ∈ dir, Disk.ProperName n
  room : Disk.spelledLength (Part.file.place dir) ≤ Disk.settledRoom

namespace Disk.Shows

variable {d : Disk} {dir : RealPath} {parts : Parts}

theorem find_eq (h : d.Shows dir parts) (hdir : Roomy dir) (part : Part) :
    d.find (spell (part.place dir)) .reach =
      match parts part with
      | none => .error .notFound
      | some (id, _) => .ok (part.place dir, .file id) := by
  have hnames : ∀ n ∈ part.place dir, ProperName n := by
    intro n hn
    rcases List.mem_append.1 hn with hn | hn
    · exact hdir.names n hn
    · exact List.mem_singleton.1 hn ▸ part.properName
  have hlength : spelledLength (part.place dir) ≤ pathLimit := by
    have hroom := hdir.room
    have hle := part.length_le
    rw [Part.place_file, spelledLength_append] at hroom
    rw [Part.place, spelledLength_append]
    simp only [spelledLength, List.foldr_cons, List.foldr_nil, settledRoom, pathLimit] at hroom ⊢
    omega
  have hlocate : d.locate (spell (part.place dir)) .reach =
      d.descend .reach linkLimit dir [Config.databaseName ++ part.suffix] :=
    locate_spell hnames hlength h.directory
  cases hp : parts part with
  | none => rw [find, hlocate, descend_of_none part.properName (h.missing part hp)]
  | some file =>
    obtain ⟨id, c⟩ := file
    rw [find, hlocate, descend_of_file part.properName (h.there part id c hp).1]
    rfl

theorem pathExists_eq (h : d.Shows dir parts) (hdir : Roomy dir) (part : Part) :
    d.pathExists (spell (part.place dir)) = (parts part).isSome := by
  rw [pathExists, h.find_eq hdir]
  cases parts part <;> rfl

/-- An empty file counts for nothing. -/
theorem holdsSomething_eq_false (h : d.Shows dir parts) (hdir : Roomy dir) {part : Part}
    (hpart : ∀ id c, parts part = some (id, c) → c = .bytes []) :
    d.holdsSomething (part.place dir) = false := by
  rw [holdsSomething, h.find_eq hdir]
  cases hp : parts part with
  | none => rfl
  | some file =>
    obtain ⟨id, c⟩ := file
    have hcontent := (h.there part id c hp).2.1
    rw [hpart id c hp] at hcontent
    simp only [hcontent, Content.raw]
    rfl

theorem entry?_of_none (h : d.Shows dir parts) {part : Part} (hpart : parts part = none) :
    d.entry? (part.place dir) = none :=
  shape?_eq_none.1 (h.missing part hpart)

theorem entry?_of_some (h : d.Shows dir parts) {part : Part} {id : FileId} {c : Content}
    (hpart : parts part = some (id, c)) : d.entry? (part.place dir) = some (.file id) :=
  shape?_eq_file.1 (h.there part id c hpart).1

end Disk.Shows

/-! ## The store at rest and in use -/

/-- The file of a store, opened by its plain name. -/
def OpenFile.plain (dir : RealPath) (id : FileId) (readOnly : Bool) (log : Option OpenLog) :
    OpenFile :=
  ⟨id, Part.file.place dir, readOnly, false, false, false, log⟩

/-- The same with its log open. -/
abbrev OpenFile.logging (dir : RealPath) (id wid : FileId) (readOnly : Bool) : OpenFile :=
  plain dir id readOnly (some ⟨some wid, true⟩)

/-- A store that rests and holds a database: all of it is in the file. -/
structure Parts.Holds (parts : Parts) (id : FileId) (db : Database) : Prop where
  file : parts .file = some (id, .database db)
  logged : db.logged = true
  log : ∀ id c, parts .log = some (id, c) → c = .bytes []
  journal : parts .journal = none

/-- A store whose log is open: the file has the number `id` and the content `c`, the log the number
`wid` and the content `c'`. -/
structure Opened (d : Disk) (dir : RealPath) (id wid : FileId) (c c' : Content) : Prop where
  shows : ∃ parts, d.Shows dir parts ∧ parts .file = some (id, c) ∧ parts .log = some (wid, c') ∧
    parts .journal = none
  logs : d.openLogs = [(id, ⟨some wid, true⟩)]

/-- The database in a file and its log. -/
def Current (db : Database) (c c' : Content) : Prop :=
  c' = .log db ∨ c' = .bytes [] ∧ c = .database db

namespace OpenFile

variable {d : Disk} {dir : RealPath} {parts : Parts} {id wid : FileId} {db : Database}
  {readOnly : Bool} {log : Option OpenLog}

theorem logPlace_plain : (plain dir id readOnly log).logPlace = Part.log.place dir :=
  Part.beside_eq dir logSuffix

theorem indexPlace_plain : (plain dir id readOnly log).indexPlace = Part.index.place dir :=
  Part.beside_eq dir indexSuffix

theorem journal_plain : (plain dir id readOnly log).journal = Part.journal.place dir :=
  Part.beside_eq dir journalSuffix

theorem isNameTooLong_place (part : Part) : Disk.isNameTooLong (part.place dir) = false := by
  rw [Disk.isNameTooLong, Part.place, List.getLast?_concat]
  cases part <;> rfl

/-- The log is opened, or made. -/
theorem openLogFile_plain (id : FileId) (readOnly : Bool) (log : Option OpenLog)
    (h : d.Shows dir parts) (hlog : ∀ id c, parts .log = some (id, c) → c = .bytes []) :
    ∃ wid d' parts', (plain dir id readOnly log).openLogFile d = .ok (some wid, d') ∧
      d'.Shows dir parts' ∧ parts' .log = some (wid, .bytes []) ∧
      (∀ part, part ≠ .log → parts' part = parts part) ∧ d'.openLogs = d.openLogs := by
  rw [openLogFile]
  rw [logPlace_plain, isNameTooLong_place, if_neg Bool.false_ne_true]
  cases hp : parts .log with
  | none =>
    rw [h.entry?_of_none hp]
    exact ⟨_, _, _, rfl, h.addFile hp _, Function.update_self _ _ _,
      fun part hne => Function.update_of_ne hne _ _, rfl⟩
  | some file =>
    obtain ⟨wid, c⟩ := file
    rw [h.entry?_of_some hp]
    exact ⟨wid, d, parts, rfl, h, by rw [hp, hlog wid c hp], fun _ _ => rfl, rfl⟩

/-- The index of the log is opened, or made. -/
theorem openIndex_plain (id : FileId) (readOnly : Bool) (log : Option OpenLog)
    (h : d.Shows dir parts) (hidle : d.openLogs = []) :
    ∃ d' parts', (plain dir id readOnly log).openIndex d = .ok (true, d') ∧ d'.Shows dir parts' ∧
      (∀ part, part ≠ .index → parts' part = parts part) ∧ d'.openLogs = [] := by
  rw [openIndex]
  rw [indexPlace_plain, hidle]
  cases hp : parts .index with
  | none =>
    rw [h.entry?_of_none hp]
    exact ⟨_, _, rfl, h.addFile hp _, fun part hne => Function.update_of_ne hne _ _, hidle⟩
  | some file =>
    obtain ⟨iid, c⟩ := file
    rw [h.entry?_of_some hp]
    exact ⟨_, _, rfl, h.setContent hp _, fun part hne => Function.update_of_ne hne _ _, hidle⟩

/-- No journal is in the way. -/
theorem settleJournal_plain (h : d.Shows dir parts) (hdir : Roomy dir)
    (hjournal : parts .journal = none) :
    (plain dir id readOnly log).settleJournal d = .ok d := by
  have hnothing : d.holdsSomething (plain dir id readOnly log).journal = false := by
    rw [journal_plain]
    refine h.holdsSomething_eq_false hdir fun id c hsome => ?_
    rw [hjournal] at hsome
    cases hsome
  simp only [settleJournal, hnothing, Bool.not_false, if_true]

/-- **Before a statement, the log of a store that rests is opened.** -/
theorem lock_of_holds (readOnly : Bool) (h : d.Shows dir parts) (hdir : Roomy dir)
    (hparts : parts.Holds id db) (hidle : d.openLogs = []) :
    ∃ wid d', (plain dir id readOnly none).lock d =
        (.ok (), logging dir id wid readOnly, d') ∧
      Opened d' dir id wid (.database db) (.bytes []) := by
  have hnolog : d.holdsSomething (plain dir id readOnly none).logPlace = false := by
    rw [logPlace_plain]
    exact h.holdsSomething_eq_false hdir hparts.log
  have hlogged : (plain dir id readOnly none).isLogged d = true := by
    have hcontent := (h.there .file id _ hparts.file).2.1
    simp only [isLogged, plain, hcontent, hparts.logged]
  have hexists : d.pathExists (Disk.spell (plain dir id readOnly none).real) = true := by
    refine (h.pathExists_eq hdir .file).trans ?_
    rw [hparts.file]
    rfl
  obtain ⟨wid, d₁, parts₁, hlogFile, h₁, hlog₁, hrest₁, hlogs₁⟩ :=
    openLogFile_plain id readOnly none h hparts.log
  obtain ⟨d₂, parts₂, hindex, h₂, hrest₂, hlogs₂⟩ :=
    openIndex_plain id readOnly none h₁ (hlogs₁.trans hidle)
  have hmisses : missesLog d₂ id (some wid) = false := by
    rw [missesLog, hlogs₂]
    rfl
  refine ⟨wid, { d₂ with openLogs := d₂.openLogs ++ [(id, ⟨some wid, true⟩)] }, ?_, ?_, ?_⟩
  · rw [lock, if_neg (by simp [plain]), settleJournal_plain h hdir hparts.journal]
    simp only [seekLog, hnolog, Bool.false_eq_true, if_false, hlogged, if_true, openLog, hexists,
      Bool.not_true, hlogFile, hindex]
    rw [show (plain dir id readOnly none).unlocked = false from rfl, if_neg Bool.false_ne_true,
      show (plain dir id readOnly none).id = id from rfl, hmisses, if_neg Bool.false_ne_true]
    rfl
  · refine ⟨parts₂, h₂.setLogs _, ?_, ?_, ?_⟩
    · rw [hrest₂ .file (by decide), hrest₁ .file (by decide), hparts.file]
    · rw [hrest₂ .log (by decide), hlog₁]
    · rw [hrest₂ .journal (by decide), hrest₁ .journal (by decide), hparts.journal]
  · show d₂.openLogs ++ [(id, ⟨some wid, true⟩)] = _
    rw [hlogs₂]
    rfl

end OpenFile

namespace Opened

variable {d : Disk} {dir : RealPath} {id wid : FileId} {c c' : Content} {db : Database}
  {readOnly : Bool}

theorem lock (d : Disk) (dir : RealPath) (id wid : FileId) (readOnly : Bool) :
    (OpenFile.logging dir id wid readOnly).lock d =
      (.ok (), OpenFile.logging dir id wid readOnly, d) := by
  simp [OpenFile.lock, OpenFile.plain]

theorem database?_eq (h : Opened d dir id wid c c') (hdb : Current db c c') :
    (OpenFile.logging dir id wid readOnly).database? d = some db := by
  obtain ⟨parts, hshows, hfile, hlog, -⟩ := h.shows
  have hwid := (hshows.there .log wid c' hlog).2.1
  have hid := (hshows.there .file id c hfile).2.1
  rcases hdb with rfl | ⟨rfl, rfl⟩
  · simp only [OpenFile.database?, OpenFile.loggedDatabase?, OpenFile.plain, hwid]
  · simp only [OpenFile.database?, OpenFile.loggedDatabase?, OpenFile.plain, hwid, hid,
      Content.database?]

/-- Changes go to the log. -/
theorem store (readOnly : Bool) (h : Opened d dir id wid c c') (db : Database) :
    Opened ((OpenFile.logging dir id wid readOnly).store db d) dir id wid c
      (.log db) := by
  obtain ⟨parts, hshows, hfile, hlog, hjournal⟩ := h.shows
  refine ⟨⟨_, hshows.setContent hlog (.log db), ?_, ?_, ?_⟩, h.logs⟩
  · rw [Function.update_of_ne (by decide), hfile]
  · rw [Function.update_self]
  · rw [Function.update_of_ne (by decide), hjournal]

/-- A store that was only read is closed as it was. -/
theorem close_readOnly (h : Opened d dir id wid (.database db) (.bytes [])) (hdb : db.logged = true) :
    ∃ parts, ((OpenFile.logging dir id wid true).close d).Shows dir parts ∧
      parts.Holds id db ∧
      ((OpenFile.logging dir id wid true).close d).openLogs = [] := by
  obtain ⟨parts, hshows, hfile, hlog, hjournal⟩ := h.shows
  have hclose : (OpenFile.logging dir id wid true).close d =
      { d with openLogs := [] } := by
    simp [OpenFile.close, OpenFile.plain, OpenFile.carriesOver, h.logs]
  rw [hclose]
  refine ⟨parts, hshows.setLogs [], ⟨hfile, hdb, fun id' c' hsome => ?_, hjournal⟩, rfl⟩
  rw [hlog] at hsome
  cases hsome
  rfl

/-- Closing a store that was opened for writing carries its log over into the file. -/
theorem close_eq_carryOver (h : Opened d dir id wid c c') (hdir : Roomy dir) :
    (OpenFile.logging dir id wid false).close d =
      (OpenFile.logging dir id wid false).carryOver { d with openLogs := [] } := by
  obtain ⟨parts, hshows, hfile, -, -⟩ := h.shows
  have hplace : (OpenFile.logging dir id wid false).isInPlace { d with openLogs := [] } = true := by
    rw [OpenFile.isInPlace, show (OpenFile.logging dir id wid false).real =
      Part.file.place dir from rfl, (hshows.setLogs []).find_eq hdir .file, hfile]
    simp [OpenFile.plain]
  rw [OpenFile.close, show (OpenFile.logging dir id wid false).log =
    some ⟨some wid, true⟩ from rfl]
  simp only [OpenFile.carriesOver, h.logs]
  rw [show (OpenFile.logging dir id wid false).id = id from rfl, List.erase_cons_head, hplace]
  rfl

/-- What is carried over is in the file before the log and its index are dropped.  Where nothing was
written to the log, it was in the file all along. -/
theorem exists_carryOver (h : Opened d dir id wid c c') (hdb : Current db c c') :
    ∃ (parts : Parts) (d' : Disk), d'.Shows dir parts ∧ d'.openLogs = [] ∧
      parts .file = some (id, .database db) ∧ parts .journal = none ∧
      (OpenFile.logging dir id wid false).carryOver { d with openLogs := [] } =
        (d'.dropFile (Part.log.place dir)).dropFile (Part.index.place dir) := by
  obtain ⟨parts, hshows, hfile, hlog, hjournal⟩ := h.shows
  have hshut := hshows.setLogs []
  have hwid := (hshut.there .log wid c' hlog).2.1
  simp only [OpenFile.carryOver, OpenFile.logPlace_plain, OpenFile.indexPlace_plain]
  rcases hdb with rfl | ⟨rfl, rfl⟩
  · refine ⟨_, _, hshut.setContent hfile (.database db), rfl, Function.update_self _ _ _, ?_, ?_⟩
    · rw [Function.update_of_ne (by decide), hjournal]
    · simp only [OpenFile.loggedDatabase?, OpenFile.plain, hwid]
      rfl
  · refine ⟨parts, _, hshut, rfl, hfile, hjournal, ?_⟩
    simp only [OpenFile.loggedDatabase?, OpenFile.plain, hwid]
    rfl

/-- **A store that was written is closed with all of it in its file**, and nothing beside it. -/
theorem close_writable (h : Opened d dir id wid c c') (hdir : Roomy dir) (hdb : Current db c c')
    (hlogged : db.logged = true) :
    ∃ parts, ((OpenFile.logging dir id wid false).close d).Shows dir parts ∧
      parts.Holds id db ∧
      ((OpenFile.logging dir id wid false).close d).openLogs = [] := by
  obtain ⟨parts, d', hshows, hidle, hfile, hjournal, hcarried⟩ := h.exists_carryOver hdb
  rw [h.close_eq_carryOver hdir, hcarried]
  refine ⟨_, (hshows.dropFile .log).dropFile .index, ⟨?_, hlogged, fun id' c' hsome => ?_, ?_⟩, ?_⟩
  · rw [Function.update_of_ne (by decide), Function.update_of_ne (by decide), hfile]
  · rw [Function.update_of_ne (by decide), Function.update_self] at hsome
    cases hsome
  · rw [Function.update_of_ne (by decide), Function.update_of_ne (by decide), hjournal]
  · rw [Disk.openLogs_dropFile, Disk.openLogs_dropFile, hidle]

end Opened
end SyntaxGraph
