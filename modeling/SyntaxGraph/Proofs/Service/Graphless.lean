import SyntaxGraph.Proofs.Disk.Removal
import SyntaxGraph.Proofs.Service.Answer
import SyntaxGraph.Proofs.Store.Stepwise

/-!
# What a service answers without a graph

As long as no index run has succeeded there is no file (`LacksGraph`), or a file without a graph, which a
run that failed has left (`Fruitless`).  A run fails for good where a directory stands in a place that it
needs: in the place of the journal, so that the file stays blank, or in the place of the index of the
log, so that the file becomes a database but gets no tables.  Any other run from here succeeds.  Reading
finds no graph and leaves things as they are, but for a log that means nothing beside a blank file.

What else stands beside the file does no harm as long as it is no link and the log and its index can be
used (`Harmless`); a run then makes room for itself.

## What is here

* `Harmless`, `LacksGraph`, `Fruitless` — what stands at the places of the store.
* `OpenFile.lock_of_holdsNothing`, `OpenFile.lock_of_holdsNoTables` — what happens before a statement.
* `Store.openExisting_of_lacks`, `Store.openExisting_of_fruitless` — reading.
* `Store.openOrCreate_of_lacks`, `Store.openOrCreate_of_fruitless` — opening for writing, and how it
  fails.
* `Service.lacks_of_clear` — removing.
-/

set_option autoImplicit false
namespace SyntaxGraph

/-! ## What stands beside the file -/

/-- What stands in a directory at the places of a store does no harm while there is no graph.  The log
may be a pipe, and a directory may stand in the place of its index; in the place of the journal
anything but a link may stand.  The file, the log and the index are different files. -/
structure Harmless (dir : RealPath) (d : Disk) : Prop where
  kinds : ∀ (part : Part) s, part ≠ .journal → d.shape? (part.place dir) = some s → part.admits s
  journal : ∀ target, d.shape? (Part.journal.place dir) ≠ some (.link target)
  bounded : ∀ (part : Part) k, d.shape? (part.place dir) = some (.file k) → k < d.contents.length
  apart : ∀ (part part' : Part) k, part ≠ .journal → part' ≠ .journal →
    d.shape? (part.place dir) = some (.file k) → d.shape? (part'.place dir) = some (.file k) →
    part = part'

/-- There is no store in a directory, and nothing that would harm one. -/
structure LacksGraph (dir : RealPath) (d : Disk) : Prop extends Harmless dir d where
  missing : d.shape? (Part.file.place dir) = none

/-- The file of a store, with the number `id`, is blank. -/
structure HoldsNothing (dir : RealPath) (id : FileId) (d : Disk) : Prop extends Harmless dir d where
  file : d.shape? (Part.file.place dir) = some (.file id)
  content : d.content id = .bytes []

/-- The log of a store is an empty file, if it is there. -/
def EmptyLog (dir : RealPath) (d : Disk) : Prop :=
  ∀ s, d.shape? (Part.log.place dir) = some s → ∃ k, s = .file k ∧ d.content k = .bytes []

/-- The file of a store, with the number `id`, holds a logged database without tables, and there is
nothing in its log. -/
structure HoldsNoTables (dir : RealPath) (id : FileId) (d : Disk) : Prop extends Harmless dir d where
  file : d.shape? (Part.file.place dir) = some (.file id)
  content : d.content id = .database .bare
  log : EmptyLog dir d
  noJournal : d.shape? (Part.journal.place dir) = none

/-- An index run has made the file of a store and has failed then: the file is still blank, or a
directory stands in the place of the index of its log. -/
inductive Fruitless (dir : RealPath) (d : Disk) : Prop where
  | blank {id : FileId} (h : HoldsNothing dir id d)
  | stuck {id : FileId} (h : HoldsNoTables dir id d)
      (hindex : d.shape? (Part.index.place dir) = some .dir)

/-- The store in a directory has no graph.  A run comes to make its file only where the path of the
store can be used. -/
def Graphless (dir : RealPath) (usable : Bool) (d : Disk) : Prop :=
  LacksGraph dir d ∨ usable = true ∧ Fruitless dir d

/-- A directory stands where an index run would make a file. -/
def Blocked (dir : RealPath) (d : Disk) : Prop :=
  d.shape? (Part.journal.place dir) = some .dir ∨ d.shape? (Part.index.place dir) = some .dir

namespace Harmless

variable {d d' : Disk} {dir : RealPath} {S : RealPath → Prop}

theorem ne_link (h : Harmless dir d) (part : Part) (target : Path) :
    d.shape? (part.place dir) ≠ some (.link target) := by
  intro hlink
  by_cases hpart : part = .journal
  · exact h.journal target (hpart ▸ hlink)
  · have hadmits := h.kinds part _ hpart hlink
    cases part <;> cases hadmits

/-- What is there was there before, so it does no harm. -/
theorem mono (h : Harmless dir d) (hshape : ∀ (part : Part) s, d'.shape? (part.place dir) = some s →
    d.shape? (part.place dir) = some s) (hlength : d.contents.length ≤ d'.contents.length) :
    Harmless dir d' where
  kinds part s hpart hs := h.kinds part s hpart (hshape part s hs)
  journal target hlink := h.journal target (hshape .journal _ hlink)
  bounded part k hk := Nat.lt_of_lt_of_le (h.bounded part k (hshape part _ hk)) hlength
  apart part part' k hpart hpart' hk hk' :=
    h.apart part part' k hpart hpart' (hshape part _ hk) (hshape part' _ hk')

theorem of_loses (h : Harmless dir d) (hlost : Disk.Loses S d d') : Harmless dir d' :=
  h.mono (fun _ _ hs => hlost.shape_of_some hs)
    (Nat.le_of_eq (congrArg List.length hlost.contents.symm))

theorem setContent (h : Harmless dir d) (k : FileId) (c : Content) : Harmless dir (d.setContent k c) :=
  h.mono (fun _ _ hs => hs) (Nat.le_of_eq (Disk.length_setContent d k c).symm)

theorem setLogs (h : Harmless dir d) (logs : List (FileId × OpenLog)) :
    Harmless dir { d with openLogs := logs } :=
  h.mono (fun _ _ hs => hs) (Nat.le_refl _)

/-- Making the file, the log or the index. -/
theorem addFile (h : Harmless dir d) {part : Part} (hpart : part ≠ .journal)
    (hnone : d.shape? (part.place dir) = none) (c : Content) :
    Harmless dir (d.addFile (part.place dir) c).2 := by
  have hcases : ∀ (part' : Part) s, (d.addFile (part.place dir) c).2.shape? (part'.place dir) = some s →
      part' = part ∧ s = .file d.contents.length ∨ d.shape? (part'.place dir) = some s := by
    intro part' s hs
    rcases Disk.shape?_of_addFile hnone hs with ⟨heq, hnew⟩ | ⟨-, hold⟩
    · exact .inl ⟨Part.place_inj heq, hnew⟩
    · exact .inr hold
  refine ⟨fun part' s hpart' hs => ?_, fun target hlink => ?_, fun part' k hk => ?_,
    fun part₁ part₂ k hpart₁ hpart₂ h₁ h₂ => ?_⟩
  · rcases hcases part' s hs with ⟨-, rfl⟩ | hold
    · cases part' <;> rfl
    · exact h.kinds part' s hpart' hold
  · rcases hcases .journal _ hlink with ⟨hjournal, -⟩ | hold
    · exact hpart hjournal.symm
    · exact h.journal target hold
  · rw [Disk.length_addFile]
    rcases hcases part' _ hk with ⟨-, hnew⟩ | hold
    · cases hnew
      exact Nat.lt_succ_self _
    · exact Nat.lt_succ_of_lt (h.bounded part' k hold)
  · rcases hcases part₁ _ h₁ with ⟨heq₁, hnew⟩ | hold₁
    · cases hnew
      rcases hcases part₂ _ h₂ with ⟨heq₂, -⟩ | hold₂
      · exact heq₁.trans heq₂.symm
      · exact absurd (h.bounded part₂ _ hold₂) (Nat.lt_irrefl _)
    · rcases hcases part₂ _ h₂ with ⟨-, hnew⟩ | hold₂
      · cases hnew
        exact absurd (h.bounded part₁ _ hold₁) (Nat.lt_irrefl _)
      · exact h.apart part₁ part₂ k hpart₁ hpart₂ hold₁ hold₂

end Harmless

/-- Where nothing stands, nothing does harm. -/
theorem LacksGraph.of_missing {dir : RealPath} {d : Disk}
    (h : ∀ part : Part, d.shape? (part.place dir) = none) : LacksGraph dir d where
  kinds part s _ hs := by
    rw [h part] at hs
    cases hs
  journal target hlink := by
    rw [h .journal] at hlink
    cases hlink
  bounded part k hk := by
    rw [h part] at hk
    cases hk
  apart part part' k _ _ hk := by
    rw [h part] at hk
    cases hk
  missing := h .file

/-- Where there are only files there is nothing that does harm. -/
theorem Disk.Shows.harmless {d : Disk} {dir : RealPath} {parts : Parts} (h : d.Shows dir parts) :
    Harmless dir d where
  kinds part s _ hs := by
    rw [h.shape?_eq, Option.map_eq_some_iff] at hs
    obtain ⟨seen, -, rfl⟩ := hs
    cases part <;> rfl
  journal := h.shape?_ne_link .journal
  bounded part k hk := by
    obtain ⟨c, hpart⟩ := h.exists_of_file part hk
    exact (h.there part k c hpart).2.2
  apart part part' k _ _ hk hk' := by
    obtain ⟨c, hpart⟩ := h.exists_of_file part hk
    obtain ⟨c', hpart'⟩ := h.exists_of_file part' hk'
    exact h.apart part part' k c c' hpart hpart'

theorem Fruitless.harmless {dir : RealPath} {d : Disk} (h : Fruitless dir d) : Harmless dir d := by
  cases h with
  | blank h => exact h.toHarmless
  | stuck h => exact h.toHarmless

theorem Graphless.harmless {dir : RealPath} {usable : Bool} {d : Disk} (h : Graphless dir usable d) :
    Harmless dir d := by
  rcases h with h | ⟨-, h⟩
  · exact h.toHarmless
  · exact h.harmless

/-! ## What the file system finds there -/

namespace Part

theorem placeAt_place (dir : RealPath) (part : Part) :
    part.placeAt (file.place dir) = part.place dir := by
  rw [place_file, placeAt_eq]
  rfl

end Part

namespace Roomy

variable {d : Disk} {dir : RealPath} {part : Part}

theorem berth (h : Roomy dir) : Berth (Part.file.place dir) where
  nonempty := List.append_ne_nil_of_right_ne_nil _ (List.cons_ne_nil _ _)
  names n hn := by
    rcases List.mem_append.1 hn with hn | hn
    · exact h.names n hn
    · exact List.mem_singleton.1 hn ▸ Part.file.properName
  room := h.room
  logName := by
    rw [Part.placeAt_place]
    exact OpenFile.isNameTooLong_place .log

/-- What stands at one of the places is found there, unless it is a link. -/
theorem find_of_some (h : Roomy dir) (hd : d.shape? dir = some .dir) {s : Shape}
    (hs : d.shape? (part.place dir) = some s) (hlink : ∀ target, s ≠ .link target) :
    ∃ e, e.shape = s ∧ d.find (Disk.spell (part.place dir)) .reach = .ok (part.place dir, e) := by
  have hnames : ∀ n ∈ part.place dir, Disk.ProperName n := by
    intro n hn
    rcases List.mem_append.1 hn with hn | hn
    · exact h.names n hn
    · exact List.mem_singleton.1 hn ▸ part.properName
  have hparent : d.shape? (Part.file.place dir).dropLast = some .dir := by
    rwa [Part.place, List.dropLast_concat]
  rw [← Part.placeAt_place] at hs hnames ⊢
  exact h.berth.find_of_some hparent part hnames hs hlink

theorem pathExists_of_file (h : Roomy dir) (hd : d.shape? dir = some .dir) {id : FileId}
    (hfile : d.shape? (Part.file.place dir) = some (.file id)) :
    d.pathExists (Disk.spell (Part.file.place dir)) = true := by
  obtain ⟨e, -, hfind⟩ := h.find_of_some hd hfile (by simp)
  rw [Disk.pathExists, hfind]

/-- An empty file counts for nothing. -/
theorem holdsSomething_eq_false (h : Roomy dir) (hd : d.shape? dir = some .dir)
    (hpart : ∀ s, d.shape? (part.place dir) = some s → ∃ k, s = .file k ∧ d.content k = .bytes []) :
    d.holdsSomething (part.place dir) = false := by
  cases hs : d.shape? (part.place dir) with
  | none =>
    have hparent : d.shape? (Part.file.place dir).dropLast = some .dir := by
      rwa [Part.place, List.dropLast_concat]
    rw [← Part.placeAt_place] at hs ⊢
    obtain ⟨e, hfind⟩ := h.berth.find_of_none hparent part hs
    rw [Disk.holdsSomething, hfind]
  | some s =>
    obtain ⟨k, rfl, hcontent⟩ := hpart s hs
    obtain ⟨e, he, hfind⟩ := h.find_of_some hd hs (by simp)
    cases e <;> cases he
    simp only [Disk.holdsSomething, hfind, hcontent, Content.raw]
    rfl

/-- A log that counts for nothing is empty. -/
theorem emptyLog (h : Roomy dir) (hd : d.shape? dir = some .dir) (hkinds : Harmless dir d)
    (hnothing : d.holdsSomething (Part.log.place dir) = false) : EmptyLog dir d := by
  intro s hs
  obtain ⟨e, rfl, hfind⟩ := h.find_of_some hd hs fun target hlink =>
    hkinds.ne_link .log target (hlink ▸ hs)
  have hadmits := hkinds.kinds .log _ (by decide) hs
  rw [Disk.holdsSomething, hfind] at hnothing
  cases e with
  | file k =>
    refine ⟨k, rfl, ?_⟩
    simp only [decide_eq_false_iff_not, not_not] at hnothing
    cases hc : d.content k with
    | bytes bs =>
      rw [hc] at hnothing
      exact congrArg Content.bytes hnothing
    | database db => exact absurd hnothing (by rw [hc, Content.raw]; decide)
    | log db => exact absurd hnothing (by rw [hc, Content.raw]; decide)
  | pipe => cases hnothing
  | dir es => cases hadmits
  | link target => cases hadmits

end Roomy

/-! ## A blank file -/

section Blank

variable {d : Disk} {dir : RealPath} {id : FileId}

/-- The places of the log and the journal. -/
def besideFile (dir x : RealPath) : Prop :=
  x = Part.log.place dir ∨ x = Part.journal.place dir

/-- What goes beside a blank file does not matter to it. -/
theorem HoldsNothing.of_loses (h : HoldsNothing dir id d) {d' : Disk}
    (hlost : Disk.Loses (besideFile dir) d d') : HoldsNothing dir id d' where
  toHarmless := h.toHarmless.of_loses hlost
  file := by
    rcases hlost.shape (Part.file.place dir) with hsame | ⟨hlog | hjournal, -⟩
    · exact hsame.trans h.file
    · exact absurd (Part.place_inj hlog) (by decide)
    · exact absurd (Part.place_inj hjournal) (by decide)
  content := by
    rw [Disk.content, hlost.contents]
    exact h.content

namespace OpenFile

theorem isBlank_of_holdsNothing (readOnly : Bool) (h : HoldsNothing dir id d) :
    (plain dir id readOnly none).isBlank d = true := by
  simp only [isBlank, plain, h.content, Content.isBlank]

theorem settleJournal_of_holdsNothing (readOnly : Bool) (h : HoldsNothing dir id d) :
    ∃ d', (plain dir id readOnly none).settleJournal d = .ok d' ∧ Disk.Loses (besideFile dir) d d' := by
  rw [settleJournal, isBlank_of_holdsNothing readOnly h, journal_plain]
  cases d.holdsSomething (Part.journal.place dir) with
  | false => exact ⟨d, rfl, .refl _ d⟩
  | true =>
    cases readOnly with
    | false => exact ⟨_, rfl, (Disk.Loses.refl _ d).dropFile (.inr rfl)⟩
    | true => exact ⟨d, rfl, .refl _ d⟩

theorem seekLog_of_holdsNothing (readOnly : Bool) (h : HoldsNothing dir id d) (hdir : Roomy dir) :
    ∃ d', (plain dir id readOnly none).seekLog d = (.ok (), plain dir id readOnly none, d') ∧
      Disk.Loses (besideFile dir) d d' ∧ EmptyLog dir d' := by
  have hunlogged : (plain dir id readOnly none).isLogged d = false := by
    simp only [isLogged, plain, h.content]
  rw [seekLog, isBlank_of_holdsNothing readOnly h, logPlace_plain, hunlogged]
  cases hholds : d.holdsSomething (Part.log.place dir) with
  | false =>
    exact ⟨d, rfl, .refl _ d, hdir.emptyLog (Disk.shape?_of_concat h.file) h.toHarmless hholds⟩
  | true =>
    have hnodir : d.shape? (Part.log.place dir) ≠ some .dir := fun hlog => by
      cases h.kinds .log _ (by decide) hlog
    have hrealDir : d.isRealDir (Part.log.place dir) = false := by
      rw [← Bool.not_eq_true, Disk.isRealDir_iff]
      exact hnodir
    rw [hrealDir]
    refine ⟨_, rfl, (Disk.Loses.refl _ d).dropFile (.inl rfl), fun s hs => ?_⟩
    rw [Disk.shape?_dropFile_self hnodir] at hs
    cases hs

/-- **Before a statement on a blank file**, what an earlier store has left beside it goes. -/
theorem lock_of_holdsNothing (readOnly : Bool) (h : HoldsNothing dir id d) (hdir : Roomy dir) :
    ∃ d', (plain dir id readOnly none).lock d = (.ok (), plain dir id readOnly none, d') ∧
      Disk.Loses (besideFile dir) d d' ∧ EmptyLog dir d' := by
  obtain ⟨d₁, hjournal, hlost₁⟩ := settleJournal_of_holdsNothing readOnly h
  obtain ⟨d₂, hlog, hlost₂, hempty⟩ := seekLog_of_holdsNothing readOnly (h.of_loses hlost₁) hdir
  refine ⟨d₂, ?_, hlost₁.trans hlost₂, hempty⟩
  rw [lock, if_neg (by simp [plain]), hjournal]
  exact hlog

theorem database?_of_holdsNothing (readOnly : Bool) (h : HoldsNothing dir id d) :
    (plain dir id readOnly none).database? d = some .blank := by
  simp only [database?, loggedDatabase?, plain, h.content, Content.database?]

/-- Only a directory in the place of the journal keeps a blank file from being written. -/
theorem obstacle?_of_holdsNothing (h : HoldsNothing dir id d) (hdir : Roomy dir) :
    (plain dir id false none).obstacle? d =
      if d.shape? (Part.journal.place dir) = some .dir then some ⟨.change, .cannotOpen none⟩
      else none := by
  have hexists : d.pathExists (Disk.spell (plain dir id false none).real) = true :=
    hdir.pathExists_of_file (Disk.shape?_of_concat h.file) h.file
  have hfault : (plain dir id false none).journalFault? d =
      if d.shape? (Part.journal.place dir) = some .dir then some (.cannotOpen none) else none := by
    rw [journalFault?, isBlank_of_holdsNothing false h, hexists, journal_plain, isNameTooLong_place,
      Disk.shape?]
    cases he : d.entry? (Part.journal.place dir) with
    | none => rfl
    | some e =>
      cases e with
      | file k => rfl
      | pipe => rfl
      | dir es => rfl
      | link target => exact absurd (Disk.shape?_eq_link.2 he) (h.ne_link .journal target)
  have hopen : (plain dir id false none).obstacle? d =
      ((plain dir id false none).journalFault? d).map (⟨.change, ·⟩) := rfl
  rw [hopen, hfault]
  split_ifs
  · rfl
  · rfl

end OpenFile

/-- **A blank file stays blank** where a directory stands in the place of the journal. -/
theorem Handle.configure_of_journal (p : Path) (h : HoldsNothing dir id d) (hdir : Roomy dir)
    (hjournal : d.shape? (Part.journal.place dir) = some .dir) :
    ∃ d', (on p (.plain dir id false none)).configure d =
        (.error (.cannotOpen none), on p (.plain dir id false none), d') ∧ HoldsNothing dir id d' := by
  obtain ⟨d', hlock, hlost, -⟩ := OpenFile.lock_of_holdsNothing false h hdir
  have h' := h.of_loses hlost
  have hobstacle := OpenFile.obstacle?_of_holdsNothing h' hdir
  rw [if_pos (hlost.dirs _ hjournal)] at hobstacle
  refine ⟨d', ?_, h'⟩
  simp only [configure, on, OpenFile.configure, hlock, OpenFile.database?_of_holdsNothing false h',
    hobstacle]
  rfl

/-- A blank file becomes a logged database without tables. -/
theorem HoldsNothing.store (h : HoldsNothing dir id d) (hlog : EmptyLog dir d)
    (hjournal : d.shape? (Part.journal.place dir) ≠ some .dir) :
    HoldsNoTables dir id ((OpenFile.plain dir id false none).store .bare d) := by
  have hstore : (OpenFile.plain dir id false none).store .bare d =
      (d.setContent id (.database .bare)).dropFile (Part.journal.place dir) := by
    rw [OpenFile.store, OpenFile.journal_plain]
    rfl
  have hwritten := h.toHarmless.setContent id (.database .bare)
  have hlost : Disk.Loses (besideFile dir) (d.setContent id (.database .bare))
      ((d.setContent id (.database .bare)).dropFile (Part.journal.place dir)) :=
    (Disk.Loses.refl _ _).dropFile (.inr rfl)
  have hkept {part : Part} (hpart : part ≠ .journal) :
      ((d.setContent id (.database .bare)).dropFile (Part.journal.place dir)).shape? (part.place dir) =
        d.shape? (part.place dir) :=
    Disk.shape?_dropFile_of_ne fun heq => hpart (Part.place_inj heq)
  rw [hstore]
  refine ⟨hwritten.of_loses hlost, (hkept (by decide)).trans h.file, ?_, fun s hs => ?_,
    Disk.shape?_dropFile_self hjournal⟩
  · rw [Disk.content_dropFile, Disk.content_setContent_self (h.bounded .file id h.file)]
  · rw [hkept (by decide)] at hs
    obtain ⟨k, rfl, hempty⟩ := hlog s hs
    have hne : k ≠ id := by
      rintro rfl
      cases h.apart .file .log k (by decide) (by decide) h.file hs
    exact ⟨k, rfl, by rw [Disk.content_dropFile, Disk.content_setContent_of_ne hne, hempty]⟩

/-- **A blank file becomes a logged database** otherwise. -/
theorem Handle.configure_of_holdsNothing (p : Path) (h : HoldsNothing dir id d) (hdir : Roomy dir)
    (hjournal : d.shape? (Part.journal.place dir) ≠ some .dir) :
    ∃ d', (on p (.plain dir id false none)).configure d =
        (.ok (), on p (.plain dir id false none), d') ∧ HoldsNoTables dir id d' ∧
      d'.shape? (Part.index.place dir) = d.shape? (Part.index.place dir) ∧
      d'.openLogs = d.openLogs := by
  obtain ⟨d₁, hlock, hlost, hempty⟩ := OpenFile.lock_of_holdsNothing false h hdir
  have h₁ := h.of_loses hlost
  have hjournal₁ : d₁.shape? (Part.journal.place dir) ≠ some .dir :=
    fun hthere => hjournal (hlost.shape_of_some hthere)
  have hfree := OpenFile.obstacle?_of_holdsNothing h₁ hdir
  rw [if_neg hjournal₁] at hfree
  have hindex : d₁.shape? (Part.index.place dir) = d.shape? (Part.index.place dir) := by
    rcases hlost.shape (Part.index.place dir) with hsame | ⟨hlog | hjournal, -⟩
    · exact hsame
    · exact absurd (Part.place_inj hlog) (by decide)
    · exact absurd (Part.place_inj hjournal) (by decide)
  refine ⟨(OpenFile.plain dir id false none).store .bare d₁, ?_, h₁.store hempty hjournal₁, ?_, ?_⟩
  · exact configure_of_isBlank hlock (OpenFile.database?_of_holdsNothing false h₁) hfree
  · rw [OpenFile.store, OpenFile.journal_plain]
    exact (Disk.shape?_dropFile_of_ne fun heq => absurd (Part.place_inj heq) (by decide)).trans hindex
  · rw [OpenFile.store, OpenFile.journal_plain]
    exact (Disk.openLogs_dropFile _ _).trans hlost.openLogs

end Blank

/-! ## A database without tables -/

section NoTables

variable {d : Disk} {dir : RealPath} {id : FileId}

/-- The files at the places of a store. -/
def Disk.seen (d : Disk) (dir : RealPath) : Parts := fun part =>
  match d.shape? (part.place dir) with
  | some (.file k) => some (k, d.content k)
  | _ => none

/-- Where no directory stands in the place of the index, there are only files: the store rests. -/
theorem HoldsNoTables.exists_shows (h : HoldsNoTables dir id d)
    (hindex : d.shape? (Part.index.place dir) ≠ some .dir) :
    ∃ parts : Parts, d.Shows dir parts ∧ parts.Holds id .bare := by
  have hfiles : ∀ (part : Part) s, d.shape? (part.place dir) = some s → ∃ k, s = .file k := by
    intro part s hs
    cases part with
    | file =>
      rw [h.file] at hs
      cases hs
      exact ⟨id, rfl⟩
    | log =>
      obtain ⟨k, rfl, -⟩ := h.log s hs
      exact ⟨k, rfl⟩
    | index =>
      have hadmits := h.kinds .index s (by decide) hs
      cases s with
      | file k => exact ⟨k, rfl⟩
      | dir => exact absurd hs hindex
      | pipe => cases hadmits
      | link target => cases hadmits
    | journal =>
      rw [h.noJournal] at hs
      cases hs
  have hseen : ∀ (part : Part) k c, d.seen dir part = some (k, c) →
      d.shape? (part.place dir) = some (.file k) ∧ d.content k = c := by
    intro part k c hpart
    rw [Disk.seen] at hpart
    split at hpart
    · rename_i k' hk
      cases hpart
      exact ⟨hk, rfl⟩
    · cases hpart
  have hjournal : ∀ (part : Part) k, d.shape? (part.place dir) = some (.file k) → part ≠ .journal := by
    rintro part k hk rfl
    rw [h.noJournal] at hk
    cases hk
  refine ⟨d.seen dir, ⟨Disk.shape?_of_concat h.file, fun part hnone => ?_, fun part k c hpart => ?_,
    fun part part' k c c' hpart hpart' => ?_⟩, ⟨?_, rfl, fun k c hpart => ?_, ?_⟩⟩
  · by_contra hsome
    obtain ⟨s, hs⟩ := Option.ne_none_iff_exists'.1 hsome
    obtain ⟨k, rfl⟩ := hfiles part s hs
    simp only [Disk.seen, hs] at hnone
    cases hnone
  · obtain ⟨hk, hc⟩ := hseen part k c hpart
    exact ⟨hk, hc, h.bounded part k hk⟩
  · have hk := (hseen part k c hpart).1
    have hk' := (hseen part' k c' hpart').1
    exact h.apart part part' k (hjournal part k hk) (hjournal part' k hk') hk hk'
  · simp only [Disk.seen, h.file, h.content]
  · obtain ⟨hk, hc⟩ := hseen .log k c hpart
    obtain ⟨k', heq, hempty⟩ := h.log _ hk
    cases heq
    exact hc.symm.trans hempty
  · simp only [Disk.seen, h.noJournal]

/-- Only what is said of logs changes. -/
theorem HoldsNoTables.setLogs (h : HoldsNoTables dir id d) (logs : List (FileId × OpenLog)) :
    HoldsNoTables dir id { d with openLogs := logs } :=
  ⟨h.toHarmless.setLogs logs, h.file, h.content, h.log, h.noJournal⟩

/-- Making the log: it is empty. -/
theorem HoldsNoTables.addLog (h : HoldsNoTables dir id d)
    (hnone : d.shape? (Part.log.place dir) = none) :
    HoldsNoTables dir id (d.addFile (Part.log.place dir) (.bytes [])).2 := by
  have hkept {part : Part} (hpart : part ≠ .log) :
      (d.addFile (Part.log.place dir) (.bytes [])).2.shape? (part.place dir) =
        d.shape? (part.place dir) :=
    Disk.shape?_addFile_of_ne _ (by simp [hnone]) fun heq => hpart (Part.place_inj heq)
  have hid : id < d.contents.length := h.bounded .file id h.file
  refine ⟨h.toHarmless.addFile (by decide) hnone _, (hkept (by decide)).trans h.file,
    (Disk.content_addFile_of_lt hid _ _).trans h.content, fun s hs => ?_,
    (hkept (by decide)).trans h.noJournal⟩
  rw [Part.place, Disk.shape?_addFile_self _ _ (Disk.shape?_of_concat h.file)] at hs
  cases hs
  exact ⟨_, rfl, Disk.content_addFile_self _ _ _⟩

/-- The log is opened, or made. -/
theorem OpenFile.openLogFile_of_holdsNoTables (readOnly : Bool) (h : HoldsNoTables dir id d) :
    ∃ wid d', (plain dir id readOnly none).openLogFile d = .ok (some wid, d') ∧
      HoldsNoTables dir id d' ∧ d'.content wid = .bytes [] ∧
      d'.shape? (Part.index.place dir) = d.shape? (Part.index.place dir) ∧ d'.openLogs = d.openLogs := by
  rw [openLogFile, logPlace_plain, isNameTooLong_place, if_neg Bool.false_ne_true]
  cases hs : d.shape? (Part.log.place dir) with
  | some s =>
    obtain ⟨k, rfl, hempty⟩ := h.log s hs
    rw [Disk.shape?_eq_file.1 hs]
    exact ⟨k, d, rfl, h, hempty, rfl, rfl⟩
  | none =>
    have hindex : (d.addFile (Part.log.place dir) (.bytes [])).2.shape? (Part.index.place dir) =
        d.shape? (Part.index.place dir) :=
      Disk.shape?_addFile_of_ne _ (by simp [hs]) fun heq => absurd (Part.place_inj heq) (by decide)
    rw [Disk.shape?_eq_none.1 hs]
    exact ⟨_, _, rfl, h.addLog hs, Disk.content_addFile_self _ _ _, hindex, rfl⟩

/-- An open log that must not be written to, since a directory stands in the place of its index. -/
def OpenLog.stuck (wid : FileId) : OpenLog :=
  ⟨some wid, false⟩

/-- **Before a statement on a database without tables** the log is opened.  Where a directory stands in
the place of its index, it is opened for reading only. -/
theorem OpenFile.lock_of_holdsNoTables (readOnly : Bool) (h : HoldsNoTables dir id d)
    (hindex : d.shape? (Part.index.place dir) = some .dir) (hdir : Roomy dir) (hidle : d.openLogs = []) :
    ∃ wid d', (plain dir id readOnly none).lock d =
        (.ok (), plain dir id readOnly (some (.stuck wid)),
          { d' with openLogs := [(id, .stuck wid)] }) ∧
      HoldsNoTables dir id d' ∧ d'.content wid = .bytes [] ∧
      d'.shape? (Part.index.place dir) = some .dir := by
  have hd : d.shape? dir = some .dir := Disk.shape?_of_concat h.file
  obtain ⟨wid, d', hfile, h', hempty, hsame, hlogs⟩ := openLogFile_of_holdsNoTables readOnly h
  have hindex' : d'.shape? (Part.index.place dir) = some .dir := hsame.trans hindex
  have hidle' : d'.openLogs = [] := hlogs.trans hidle
  have hjournal : d.holdsSomething (Part.journal.placeAt (Part.file.place dir)) = false := by
    rw [Part.placeAt_place]
    refine hdir.holdsSomething_eq_false hd fun s hs => ?_
    rw [h.noJournal] at hs
    cases hs
  have hlog : d.holdsSomething (Part.log.placeAt (Part.file.place dir)) = false := by
    rw [Part.placeAt_place]
    exact hdir.holdsSomething_eq_false hd h.log
  have hlogged : (plain dir id readOnly none).isLogged d = true := by
    simp only [isLogged, plain, h.content]
    rfl
  have hopenIndex : (plain dir id readOnly none).openIndex d' =
      .ok ((OpenLog.stuck wid).writable, d') := by
    obtain ⟨es, hes⟩ := Disk.shape?_eq_dir.1 hindex'
    rw [openIndex, indexPlace_plain, hidle', hes]
    rfl
  exact ⟨wid, d', lock_of_isLogged readOnly hjournal hlog hlogged (hdir.pathExists_of_file hd h.file) hfile
    hopenIndex hidle', h', hempty, hindex'⟩

/-- What a log with nothing in it leaves to be seen is in the file. -/
theorem OpenFile.database?_of_stuck (readOnly : Bool) {wid : FileId} (h : HoldsNoTables dir id d)
    (hempty : d.content wid = .bytes []) :
    (plain dir id readOnly (some (.stuck wid))).database? d = some .bare := by
  simp only [database?, loggedDatabase?, plain, OpenLog.stuck, hempty, h.content, Content.database?]

namespace Handle

variable {wid : FileId}

theorem lock_of_stuck (p : Path) (readOnly : Bool) (d : Disk) :
    (on p (.plain dir id readOnly (some (.stuck wid)))).lock d =
      (.ok (), on p (.plain dir id readOnly (some (.stuck wid))), d) := by
  simp only [lock, on, OpenFile.lock, OpenFile.plain, Option.isSome_some, Bool.true_or, if_true]

/-- The connection of a handle whose log must not be written to. -/
theorem connect_of_stuck (p : Path) (readOnly : Bool) (h : HoldsNoTables dir id d)
    (hempty : d.content wid = .bytes []) :
    (on p (.plain dir id readOnly (some (.stuck wid)))).connect d =
      (.ok ⟨if readOnly then some .readOnly else some ⟨.transaction, .readOnly⟩, .bare, none, false⟩,
        on p (.plain dir id readOnly (some (.stuck wid))), d) := by
  have hstored : (on p (.plain dir id readOnly (some (.stuck wid)))).stored? d = some .bare :=
    OpenFile.database?_of_stuck readOnly h hempty
  have hobstacle : (on p (.plain dir id readOnly (some (.stuck wid)))).obstacle? d =
      if readOnly then some .readOnly else some ⟨.transaction, .readOnly⟩ := by
    cases readOnly <;> rfl
  rw [connect, lock_of_stuck]
  simp only [hstored, hobstacle]
  rfl

/-- Closing it carries nothing over. -/
theorem close_of_stuck (p : Path) (readOnly : Bool) (d : Disk) :
    (on p (.plain dir id readOnly (some (.stuck wid)))).close
        { d with openLogs := [(id, .stuck wid)] } = { d with openLogs := [] } := by
  have hcarries : ∀ e, (OpenFile.plain dir id readOnly (some (.stuck wid))).carriesOver (.stuck wid) e =
      false := by
    intro e
    simp [OpenFile.carriesOver, OpenLog.stuck]
  simp only [close, on]
  rw [OpenFile.close, show (OpenFile.plain dir id readOnly (some (.stuck wid))).log = some (.stuck wid)
    from rfl]
  simp only [hcarries, Bool.false_eq_true, if_false]
  simp [OpenFile.plain]

/-- The first connection opens the log. -/
theorem connect_of_holdsNoTables (p : Path) (readOnly : Bool) (h : HoldsNoTables dir id d)
    (hindex : d.shape? (Part.index.place dir) = some .dir) (hdir : Roomy dir) (hidle : d.openLogs = []) :
    ∃ wid d', (on p (.plain dir id readOnly none)).connect d =
        (.ok ⟨if readOnly then some .readOnly else some ⟨.transaction, .readOnly⟩, .bare, none, false⟩,
          on p (.plain dir id readOnly (some (.stuck wid))),
          { d' with openLogs := [(id, .stuck wid)] }) ∧
      HoldsNoTables dir id d' ∧ d'.shape? (Part.index.place dir) = some .dir := by
  obtain ⟨wid, d', hlock, h', hempty, hindex'⟩ :=
    OpenFile.lock_of_holdsNoTables readOnly h hindex hdir hidle
  refine ⟨wid, d', ?_, h', hindex'⟩
  have hopened : (on p (.plain dir id readOnly none)).lock d =
      (.ok (), on p (.plain dir id readOnly (some (.stuck wid))),
        { d' with openLogs := [(id, .stuck wid)] }) := by
    simp only [lock, on, hlock]
  have hunwritten : Disk.content { d' with openLogs := [(id, .stuck wid)] } wid = .bytes [] := hempty
  have hagain := connect_of_stuck p readOnly (h'.setLogs [(id, .stuck wid)]) hunwritten
  rw [connect, lock_of_stuck] at hagain
  rw [connect, hopened]
  exact hagain

end Handle

end NoTables

/-! ## Reading -/

namespace Store

variable {p : Path} {d d₁ : Disk} {dir : RealPath} {id : FileId} {usable : Bool}

/-- Where there is no file, there is no store. -/
theorem openExisting_of_lacks (hsite : Site p dir usable d) (hp : p.IsPlain) (h : LacksGraph dir d) :
    openExisting p d = ⟨.ok none, d, []⟩ := by
  refine openExisting_of_missing ?_
  rw [hsite.pathExists_eq hp (h.ne_link .file), h.missing]
  rfl

/-- **Nor is there one where a run has failed**, and reading does not change that. -/
theorem openExisting_of_fruitless (hsite : Site p dir true d) (hp : p.IsPlain) (hdir : Roomy dir)
    (h : Fruitless dir d) (hidle : d.openLogs = []) :
    ∃ d', openExisting p d = ⟨.ok none, d', [.noGraph p]⟩ ∧ Fruitless dir d' := by
  have hexists {k : FileId} (hfile : d.shape? (Part.file.place dir) = some (.file k)) :
      d.pathExists p = true := by
    rw [hsite.pathExists_eq hp (h.harmless.ne_link .file), hfile]
    rfl
  cases h with
  | @blank k h =>
    have hattach : attachOrFail p .read d = ⟨.ok (.on p (.plain dir k true none)), d, []⟩ :=
      attachOrFail_of_file hsite hp h.file (by decide)
    obtain ⟨d', hlock, hlost, -⟩ := OpenFile.lock_of_holdsNothing true h hdir
    have h' := h.of_loses hlost
    have hconnect : (Handle.on p (.plain dir k true none)).connect d =
        (.ok ⟨some .readOnly, .blank, none, false⟩, .on p (.plain dir k true none), d') := by
      simp only [Handle.connect, Handle.lock, Handle.on, hlock, Handle.stored?,
        OpenFile.database?_of_holdsNothing true h']
      rfl
    exact ⟨d', openExisting_of_ok (hexists h.file) hattach (Handle.read_of_connect hconnect _),
      .blank h'⟩
  | @stuck k h hindex =>
    have hattach : attachOrFail p .read d = ⟨.ok (.on p (.plain dir k true none)), d, []⟩ :=
      attachOrFail_of_file hsite hp h.file (by decide)
    obtain ⟨wid, d', hconnect, h', hindex'⟩ :=
      Handle.connect_of_holdsNoTables p true h hindex hdir hidle
    refine ⟨_, openExisting_of_ok (hexists h.file) hattach (Handle.read_of_connect hconnect _), ?_⟩
    rw [Handle.close_of_stuck]
    exact .stuck (h'.setLogs []) hindex'

/-- **Without a graph there is no store to be read**, and there is still no graph after that. -/
theorem openExisting_of_graphless (hsite : Site p dir usable d) (hp : p.IsPlain)
    (hnames : ∀ n ∈ dir, Disk.ProperName n) (h : Graphless dir usable d) (hidle : d.openLogs = []) :
    ∃ d' log, openExisting p d = ⟨.ok none, d', log⟩ ∧ Graphless dir usable d' := by
  rcases h with h | ⟨rfl, h⟩
  · exact ⟨d, [], openExisting_of_lacks hsite hp h, .inl h⟩
  · obtain ⟨d', hopen, h'⟩ := openExisting_of_fruitless hsite hp (hsite.roomy hnames) h hidle
    exact ⟨d', _, hopen, .inr ⟨rfl, h'⟩⟩

/-! ## Opening for writing -/

/-- Opening for writing fails, and leaves a file without a graph. -/
def FailsToOpen (p : Path) (dir : RealPath) (d : Disk) : Prop :=
  ∃ f d', openOrCreate p d = ⟨.error f, d', []⟩ ∧ Fruitless dir d'

/-- The tables cannot be made on a handle whose log must not be written to. -/
theorem ensureTables_of_connect {h h' : Handle} {d' : Disk}
    (hconnect : h.connect d = (.ok ⟨some ⟨.transaction, .readOnly⟩, .bare, none, false⟩, h', d'))
    (hidle : h'.working = none) : ensureTables h d = (.error .readOnly, h', d') := by
  have htables : Connection.ensureTables ⟨some ⟨.transaction, .readOnly⟩, .bare, none, false⟩ =
      (.error .readOnly, ⟨some ⟨.transaction, .readOnly⟩, .bare, none, false⟩) := rfl
  rw [ensureTables, Handle.apply, hconnect]
  simp only [htables]
  obtain ⟨path, backing, working⟩ := h'
  cases hidle
  rfl

/-- A file that is blank is opened for writing where no directory is in the way. -/
theorem opens_of_holdsNothing (hparent : makeParent p d = ⟨.ok (), d, []⟩)
    (hattach : attachOrFail p .create d = ⟨.ok (.on p (.plain dir id false none)), d₁, []⟩)
    (h : HoldsNothing dir id d₁) (hdir : Roomy dir) (hidle : d₁.openLogs = [])
    (hfree : ¬Blocked dir d₁) : Opens p dir [] [] d := by
  rw [Blocked, not_or] at hfree
  obtain ⟨d₂, hconfigure, h₂, hindex, hlogs⟩ := Handle.configure_of_holdsNothing p h hdir hfree.1
  obtain ⟨parts, hshows, hparts⟩ := h₂.exists_shows (hindex ▸ hfree.2)
  obtain ⟨wid, d₃, hconnect, hopened⟩ :=
    Handle.connect_of_holds p false hshows hdir hparts (hlogs.trans hidle)
  have hensured : Connection.ensureTables ⟨none, Database.bare, none, false⟩ =
      (.ok (), ⟨none, Database.made.fill [] [], none, true⟩) := rfl
  have htables : ensureTables (.on p (.plain dir id false none)) d₂ =
      (.ok (), .on p (.logging dir id wid false),
        (OpenFile.logging dir id wid false).store (Database.made.fill [] []) d₃) :=
    Handle.apply_of_connect hconnect hensured
  exact ⟨id, wid, _, _, _, openOrCreate_of_ok hparent hattach hconfigure htables,
    hopened.store false _, .inl rfl⟩

/-- Where one is, opening fails. -/
theorem failsToOpen_of_holdsNothing (hparent : makeParent p d = ⟨.ok (), d, []⟩)
    (hattach : attachOrFail p .create d = ⟨.ok (.on p (.plain dir id false none)), d₁, []⟩)
    (h : HoldsNothing dir id d₁) (hdir : Roomy dir) (hidle : d₁.openLogs = [])
    (hblocked : Blocked dir d₁) : FailsToOpen p dir d := by
  by_cases hjournal : d₁.shape? (Part.journal.place dir) = some .dir
  · obtain ⟨d₂, hconfigure, h₂⟩ := Handle.configure_of_journal p h hdir hjournal
    exact ⟨_, d₂, openOrCreate_of_configure_error hparent hattach hconfigure, .blank h₂⟩
  · have hindex := hblocked.resolve_left hjournal
    obtain ⟨d₂, hconfigure, h₂, hsame, hlogs⟩ := Handle.configure_of_holdsNothing p h hdir hjournal
    obtain ⟨wid, d₃, hconnect, h₃, hindex₃⟩ :=
      Handle.connect_of_holdsNoTables p false h₂ (hsame.trans hindex) hdir (hlogs.trans hidle)
    have htables := ensureTables_of_connect hconnect rfl
    refine ⟨_, _, openOrCreate_of_tables_error hparent hattach hconfigure htables, ?_⟩
    rw [Handle.close_of_stuck]
    exact .stuck (h₃.setLogs []) hindex₃

/-- A database without tables stays one where a directory stands in the place of the index. -/
theorem failsToOpen_of_holdsNoTables (hparent : makeParent p d = ⟨.ok (), d, []⟩)
    (hattach : attachOrFail p .create d = ⟨.ok (.on p (.plain dir id false none)), d, []⟩)
    (h : HoldsNoTables dir id d) (hindex : d.shape? (Part.index.place dir) = some .dir)
    (hdir : Roomy dir) (hidle : d.openLogs = []) : FailsToOpen p dir d := by
  obtain ⟨wid, d', hlock, h', hempty, hindex'⟩ :=
    OpenFile.lock_of_holdsNoTables false h hindex hdir hidle
  have hopened := h'.setLogs [(id, .stuck wid)]
  have hunwritten : Disk.content { d' with openLogs := [(id, .stuck wid)] } wid = .bytes [] := hempty
  have hdb := OpenFile.database?_of_stuck false hopened hunwritten
  have hconfigure : (Handle.on p (.plain dir id false none)).configure d =
      (.ok (), .on p (.plain dir id false (some (.stuck wid))),
        { d' with openLogs := [(id, .stuck wid)] }) := by
    simp only [Handle.configure, Handle.on, OpenFile.configure, hlock, hdb]
    rfl
  have htables := ensureTables_of_connect (Handle.connect_of_stuck p false hopened hunwritten) rfl
  refine ⟨_, _, openOrCreate_of_tables_error hparent hattach hconfigure htables, ?_⟩
  rw [Handle.close_of_stuck]
  exact .stuck (h'.setLogs []) hindex'

/-- **Where a run has failed**, the store is opened for writing, or opening fails as before. -/
theorem openOrCreate_of_fruitless (hsite : Site p dir true d) (hp : p.IsPlain) (hdir : Roomy dir)
    (h : Fruitless dir d) (hidle : d.openLogs = []) : Opens p dir [] [] d ∨ FailsToOpen p dir d := by
  have hparent := hsite.makeParent_eq hp
  cases h with
  | blank h =>
    have hattach := attachOrFail_of_file hsite hp h.file (show Access.create ≠ .memory by decide)
    by_cases hblocked : Blocked dir d
    · exact .inr (failsToOpen_of_holdsNothing hparent hattach h hdir hidle hblocked)
    · exact .inl (opens_of_holdsNothing hparent hattach h hdir hidle hblocked)
  | stuck h hindex =>
    have hattach := attachOrFail_of_file hsite hp h.file (show Access.create ≠ .memory by decide)
    exact .inr (failsToOpen_of_holdsNoTables hparent hattach h hindex hdir hidle)

/-- The file of a store is made where the store finds the place for it. -/
theorem attachOrFail_of_lacks (hp : p.IsPlain) (hzero : 0 ∉ p.bytes)
    (hsettled : d.settle p = some (Part.file.place dir)) (hd : d.shape? dir = some .dir)
    (h : LacksGraph dir d) :
    attachOrFail p .create d = ⟨.ok (.on p (.plain dir d.contents.length false none)),
      (d.addFile (Part.file.place dir) (.bytes [])).2, []⟩ := by
  have hmissing := Disk.shape?_eq_none.1 h.missing
  have hrealDir : d.isRealDir (Part.file.place dir).dropLast = true := by
    rw [Part.place, List.dropLast_concat]
    exact Disk.isRealDir_iff.2 hd
  rw [attachOrFail_of_isPlain hp hzero (by decide)]
  simp only [Action.change, Disk.openFile, hsettled, Disk.fileAt, hmissing, hrealDir, and_self, if_true]
  rfl

end Store

/-- The file has just been made, and is blank. -/
theorem LacksGraph.addFile {d : Disk} {dir : RealPath} (h : LacksGraph dir d)
    (hd : d.shape? dir = some .dir) :
    HoldsNothing dir d.contents.length (d.addFile (Part.file.place dir) (.bytes [])).2 where
  toHarmless := h.toHarmless.addFile (by decide) h.missing _
  file := by
    rw [Part.place]
    exact Disk.shape?_addFile_self _ _ hd
  content := Disk.content_addFile_self _ _ _

/-- Making it puts nothing in the way. -/
theorem LacksGraph.blocked_addFile {d : Disk} {dir : RealPath} (h : LacksGraph dir d) (c : Content) :
    Blocked dir (d.addFile (Part.file.place dir) c).2 ↔ Blocked dir d := by
  have hkept {part : Part} (hpart : part ≠ .file) :
      (d.addFile (Part.file.place dir) c).2.shape? (part.place dir) = d.shape? (part.place dir) :=
    Disk.shape?_addFile_of_ne c (by simp [h.missing]) fun heq => hpart (Part.place_inj heq)
  rw [Blocked, Blocked, hkept (by decide), hkept (by decide)]

namespace Store

variable {p : Path} {d : Disk} {dir : RealPath}

/-- **A store without its file is made** where no directory is in the way. -/
theorem opens_of_lacks (hp : p.IsPlain) (hzero : 0 ∉ p.bytes)
    (hparent : makeParent p d = ⟨.ok (), d, []⟩) (hsettled : d.settle p = some (Part.file.place dir))
    (hdir : Roomy dir) (hd : d.shape? dir = some .dir) (h : LacksGraph dir d) (hidle : d.openLogs = [])
    (hfree : ¬Blocked dir d) : Opens p dir [] [] d :=
  opens_of_holdsNothing hparent (attachOrFail_of_lacks hp hzero hsettled hd h) (h.addFile hd) hdir hidle
    (fun hblocked => hfree ((h.blocked_addFile _).1 hblocked))

/-- Nothing is in the way where nothing stands. -/
theorem opens_of_missing (hp : p.IsPlain) (hzero : 0 ∉ p.bytes)
    (hparent : makeParent p d = ⟨.ok (), d, []⟩) (hsettled : d.settle p = some (Part.file.place dir))
    (hdir : Roomy dir) (hd : d.shape? dir = some .dir)
    (hmissing : ∀ part : Part, d.shape? (part.place dir) = none) (hidle : d.openLogs = []) :
    Opens p dir [] [] d := by
  refine opens_of_lacks hp hzero hparent hsettled hdir hd (.of_missing hmissing) hidle ?_
  rw [Blocked, hmissing, hmissing]
  simp

/-- **Where there is no file**, the store is made, or only its file is. -/
theorem openOrCreate_of_lacks (hsite : Site p dir true d) (hp : p.IsPlain) (hdir : Roomy dir)
    (h : LacksGraph dir d) (hidle : d.openLogs = []) : Opens p dir [] [] d ∨ FailsToOpen p dir d := by
  have hzero := Disk.zero_notMem_of_spellingError? hsite.spelled
  have hparent := hsite.makeParent_eq hp
  have hd := hsite.directory hp
  by_cases hblocked : Blocked dir d
  · exact .inr (failsToOpen_of_holdsNothing hparent
      (attachOrFail_of_lacks hp hzero hsite.settled hd h) (h.addFile hd) hdir hidle
      ((h.blocked_addFile _).2 hblocked))
  · exact .inl (opens_of_lacks hp hzero hparent hsite.settled hdir hd h hidle hblocked)

/-- **Without a graph** the store is opened for writing, or opening it fails and leaves no graph. -/
theorem openOrCreate_of_graphless (hsite : Site p dir true d) (hp : p.IsPlain) (hdir : Roomy dir)
    (h : Graphless dir true d) (hidle : d.openLogs = []) : Opens p dir [] [] d ∨ FailsToOpen p dir d := by
  rcases h with h | ⟨-, h⟩
  · exact openOrCreate_of_lacks hsite hp hdir h hidle
  · exact openOrCreate_of_fruitless hsite hp hdir h hidle

end Store

/-! ## Removing -/

namespace Service

variable {s : Service} {d : Disk} {dir : RealPath} {usable : Bool}

/-- The file of a store is removed, if it is there. -/
theorem remove_file (hsite : Site s.path dir usable d) (hp : s.path.IsPlain) (h : Harmless dir d) :
    ∃ d', Cache.remove d s.path = (d', none) ∧ d'.shape? (Part.file.place dir) = none := by
  have hexists := hsite.pathExists_eq hp (h.ne_link .file)
  rw [Cache.remove, hexists]
  cases he : d.entry? (Part.file.place dir) with
  | none =>
    have hnone := Disk.shape?_eq_none.2 he
    rw [hnone]
    exact ⟨d, rfl, hnone⟩
  | some e =>
    have hs : d.shape? (Part.file.place dir) = some e.shape := by
      rw [Disk.shape?, he]
      rfl
    obtain ⟨directory, hbelow⟩ := hp.below
    have hend : s.path.bytes.getLast? ≠ some Path.slash := by
      rw [hbelow.spelling, List.getLast?_append_of_ne_nil _ (by decide)]
      decide
    have hname : Disk.ProperName Config.databaseName := Part.file.properName
    have hunlink := Disk.unlink_of_home? hend hbelow.lastStep?_eq hname.step hname.short hsite.home he
    cases e with
    | file k =>
      rw [hs, hunlink]
      refine ⟨_, rfl, Disk.shape?_eq_none.2 ?_⟩
      rw [Part.place]
      exact Disk.entry?_setEntry_self _ none (Disk.shape?_of_concat hs)
    | dir es => cases h.kinds .file _ (by decide) hs
    | pipe => cases h.kinds .file _ (by decide) hs
    | link target => cases h.kinds .file _ (by decide) hs

/-- **Clearing removes the store**, whatever state it is in. -/
theorem lacks_of_clear (hsite : Site s.path dir usable d) (hp : s.path.IsPlain) (h : Harmless dir d) :
    LacksGraph dir (s.clear d).disk := by
  obtain ⟨d₁, hremove, hmissing⟩ := remove_file hsite hp h
  have hclear : (s.clear d).disk = (Cache.removeSideFiles d₁ (Cache.sideFiles s.path)).1 := by
    simp only [clear, Cache.clear, hremove]
  have hfile : Disk.Loses (fun _ => True) d d₁ := by
    have hlost := (Disk.Loses.refl (fun _ => True) d).remove (p := s.path) fun _ _ => trivial
    rwa [hremove] at hlost
  have hsides : Disk.Loses (fun _ => True) d₁ (Cache.removeSideFiles d₁ (Cache.sideFiles s.path)).1 :=
    (Disk.Loses.refl _ d₁).removeSideFiles fun _ _ _ _ => trivial
  rw [hclear]
  refine ⟨h.of_loses (hfile.trans hsides), ?_⟩
  by_contra hsome
  obtain ⟨shape, hs⟩ := Option.ne_none_iff_exists'.1 hsome
  rw [hsides.shape_of_some hs] at hmissing
  cases hmissing

end Service
end SyntaxGraph
