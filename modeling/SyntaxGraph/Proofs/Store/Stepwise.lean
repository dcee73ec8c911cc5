import SyntaxGraph.Proofs.Store.Growth
import SyntaxGraph.Proofs.Store.Opening

/-!
# Opening a store step by step

Opening a store is attaching to its file, and then what happens before the first statement.  On a file
that holds a logged database, with nothing in the log and nothing in the journal, the log is opened; a
file that is blank becomes such a store first, and a journal that tells of a change that was not finished
is in the way of a reader.  What each step takes is stated for any disk.

## What is here

* `OpenFile.lock_eq_openLog`, `OpenFile.lock_of_isBlank`, `OpenFile.lock_of_isBlank_of_log`,
  `OpenFile.lock_of_hotJournal` — what happens before the first statement.
* `OpenFile.lock_of_isLogged`, `OpenFile.openLog_of_file_error`, `OpenFile.openLog_of_index_error` —
  opening the log.
* `OpenFile.close_of_isInPlace` — the last one to close a store carries its log over.
* `Store.openOrCreate_of_lock`, `Store.openOrCreate_of_isBlank`, `Store.openExisting_of_lock`,
  `Store.openExisting_of_lock_error` — opening, from these.
-/

set_option autoImplicit false
namespace SyntaxGraph

variable {p : Path} {d d' : Disk} {x : RealPath} {id : FileId} {log : OpenLog} {db : Database}

namespace OpenFile

/-- Where nothing stands in the place of the journal, all depends on the log. -/
theorem lock_eq_seekLog (readOnly : Bool)
    (hjournal : d.holdsSomething (Part.journal.placeAt x) = false) :
    (upon x id readOnly none).lock d = (upon x id readOnly none).seekLog d := by
  have hsettled : (upon x id readOnly none).settleJournal d = .ok d := by
    rw [settleJournal, show (upon x id readOnly none).journal = Part.journal.placeAt x from rfl,
      hjournal]
    rfl
  rw [lock, if_neg (by simp [upon]), hsettled]

/-- A store that is logged opens its log, if there is nothing in the log and in the journal. -/
theorem lock_eq_openLog (readOnly : Bool)
    (hjournal : d.holdsSomething (Part.journal.placeAt x) = false)
    (hlog : d.holdsSomething (Part.log.placeAt x) = false)
    (hlogged : (upon x id readOnly none).isLogged d = true) :
    (upon x id readOnly none).lock d = (upon x id readOnly none).openLog d := by
  rw [lock_eq_seekLog readOnly hjournal]
  simp only [seekLog, show (upon x id readOnly none).logPlace = Part.log.placeAt x from rfl, hlog,
    hlogged, if_true, Bool.false_eq_true, if_false]

/-- It is open if its file and its index can be used. -/
theorem lock_of_isLogged (readOnly : Bool) {e : Disk}
    (hjournal : d.holdsSomething (Part.journal.placeAt x) = false)
    (hlog : d.holdsSomething (Part.log.placeAt x) = false)
    (hlogged : (upon x id readOnly none).isLogged d = true)
    (hexists : d.pathExists (Disk.spell x) = true)
    (hfile : (upon x id readOnly none).openLogFile d = .ok (log.file, e))
    (hindex : (upon x id readOnly none).openIndex e = .ok (log.writable, d'))
    (hidle : d'.openLogs = []) :
    (upon x id readOnly none).lock d =
      (.ok (), upon x id readOnly (some log), { d' with openLogs := [(id, log)] }) := by
  have hmisses : missesLog d' id log.file = false := by
    rw [missesLog, hidle]
    rfl
  rw [lock_eq_openLog readOnly hjournal hlog hlogged]
  simp only [openLog, show (upon x id readOnly none).real = x from rfl, hexists, hfile, hindex,
    show (upon x id readOnly none).id = id from rfl, hmisses, hidle]
  rfl

/-- A log whose file cannot be opened. -/
theorem openLog_of_file_error (readOnly : Bool) {f : Fault}
    (hexists : d.pathExists (Disk.spell x) = true)
    (hfile : (upon x id readOnly none).openLogFile d = .error f) :
    (upon x id readOnly none).openLog d = (.error f, upon x id readOnly none, d) := by
  simp only [openLog, show (upon x id readOnly none).real = x from rfl, hexists, hfile]
  rfl

/-- A log whose index cannot be opened.  Its file may have been made. -/
theorem openLog_of_index_error (readOnly : Bool) {f : Fault} {k : Option FileId}
    (hexists : d.pathExists (Disk.spell x) = true)
    (hfile : (upon x id readOnly none).openLogFile d = .ok (k, d'))
    (hindex : (upon x id readOnly none).openIndex d' = .error f) :
    (upon x id readOnly none).openLog d = (.error f, upon x id readOnly none, d') := by
  simp only [openLog, show (upon x id readOnly none).real = x from rfl, hexists, hfile, hindex]
  rfl

/-- A file that is blank has no log to be opened. -/
theorem lock_of_isBlank (readOnly : Bool)
    (hjournal : d.holdsSomething (Part.journal.placeAt x) = false)
    (hlog : d.holdsSomething (Part.log.placeAt x) = false) (hblank : (d.content id).isBlank = true) :
    (upon x id readOnly none).lock d = (.ok (), upon x id readOnly none, d) := by
  have hlogged : (upon x id readOnly none).isLogged d = false := isLogged_of_isBlank hblank
  rw [lock_eq_seekLog readOnly hjournal]
  simp only [seekLog, show (upon x id readOnly none).logPlace = Part.log.placeAt x from rfl, hlog,
    hlogged, Bool.false_eq_true, if_false]

/-- What stands in the place of its log is removed, unless it is a directory. -/
theorem lock_of_isBlank_of_log (readOnly : Bool)
    (hjournal : d.holdsSomething (Part.journal.placeAt x) = false)
    (hlog : d.holdsSomething (Part.log.placeAt x) = true) (hblank : (d.content id).isBlank = true)
    (hdir : d.isRealDir (Part.log.placeAt x) = false) :
    (upon x id readOnly none).lock d =
      (.ok (), upon x id readOnly none, d.dropFile (Part.log.placeAt x)) := by
  have hblank' : (upon x id readOnly none).isBlank d = true := hblank
  rw [lock_eq_seekLog readOnly hjournal]
  simp only [seekLog, show (upon x id readOnly none).logPlace = Part.log.placeAt x from rfl, hlog,
    hblank', hdir, if_true, Bool.false_eq_true, if_false]

/-- A directory there cannot be removed. -/
theorem lock_of_isBlank_of_dir (readOnly : Bool)
    (hjournal : d.holdsSomething (Part.journal.placeAt x) = false)
    (hlog : d.holdsSomething (Part.log.placeAt x) = true) (hblank : (d.content id).isBlank = true)
    (hdir : d.isRealDir (Part.log.placeAt x) = true) :
    (upon x id readOnly none).lock d =
      (.error (.inaccessible .delete), upon x id readOnly none, d) := by
  have hblank' : (upon x id readOnly none).isBlank d = true := hblank
  rw [lock_eq_seekLog readOnly hjournal]
  simp only [seekLog, show (upon x id readOnly none).logPlace = Part.log.placeAt x from rfl, hlog,
    hblank', hdir, if_true]

/-- What stands in the place of its journal is removed by a writer. -/
theorem lock_of_isBlank_of_journal (hjournal : d.holdsSomething (Part.journal.placeAt x) = true)
    (hlog : (d.dropFile (Part.journal.placeAt x)).holdsSomething (Part.log.placeAt x) = false)
    (hblank : (d.content id).isBlank = true) :
    (upon x id false none).lock d =
      (.ok (), upon x id false none, d.dropFile (Part.journal.placeAt x)) := by
  have hblank' : (upon x id false none).isBlank d = true := hblank
  have hsettled : (upon x id false none).settleJournal d =
      .ok (d.dropFile (Part.journal.placeAt x)) := by
    rw [settleJournal, show (upon x id false none).journal = Part.journal.placeAt x from rfl, hjournal,
      hblank']
    rfl
  have hkept : ((d.dropFile (Part.journal.placeAt x)).content id).isBlank = true := by
    rw [Disk.content_dropFile, hblank]
  have hunlogged : (upon x id false none).isLogged (d.dropFile (Part.journal.placeAt x)) = false :=
    isLogged_of_isBlank hkept
  rw [lock, if_neg (by simp [upon]), hsettled]
  simp only [seekLog, show (upon x id false none).logPlace = Part.log.placeAt x from rfl, hlog,
    hunlogged, Bool.false_eq_true, if_false]

/-- Nothing stands in the way of a file that is blank, if nothing stands in the place of its journal. -/
theorem obstacle?_of_isBlank (hblank : (d.content id).isBlank = true)
    (hexists : d.pathExists (Disk.spell x) = true)
    (hname : Disk.isNameTooLong (Part.journal.placeAt x) = false)
    (hnone : d.entry? (Part.journal.placeAt x) = none) :
    (upon x id false none).obstacle? d = none := by
  have hblank' : (upon x id false none).isBlank d = true := hblank
  have hfault : (upon x id false none).journalFault? d = none := by
    simp only [journalFault?, hblank', show (upon x id false none).real = x from rfl, hexists,
      show (upon x id false none).journal = Part.journal.placeAt x from rfl, hname, hnone]
    rfl
  have hopen : (upon x id false none).obstacle? d =
      ((upon x id false none).journalFault? d).map (⟨.change, ·⟩) := rfl
  rw [hopen, hfault]
  rfl

/-- A reader does not touch a journal that tells of a change that was not finished. -/
theorem lock_of_hotJournal (hholds : d.holdsSomething (Part.journal.placeAt x) = true)
    (hexists : d.pathExists (Disk.spell x) = true) (hwritten : (d.content id).isBlank = false)
    (hhot : (∃ target, d.shape? (Part.journal.placeAt x) = some (.link target)) ∨
      ∃ k, d.shape? (Part.journal.placeAt x) = some (.file k) ∧ (d.content k).raw.head? ≠ some 0) :
    (upon x id true none).lock d = (.error .hotJournal, upon x id true none, d) := by
  have hblank : (upon x id true none).isBlank d = false := hwritten
  have hsettled : (upon x id true none).settleJournal d = .error .hotJournal := by
    simp only [settleJournal, show (upon x id true none).journal = Part.journal.placeAt x from rfl,
      show (upon x id true none).real = x from rfl, hholds, hblank, hexists]
    rcases hhot with ⟨target, hlink⟩ | ⟨k, hfile, hfirst⟩
    · rw [Disk.shape?_eq_link.1 hlink]
      rfl
    · rw [Disk.shape?_eq_file.1 hfile]
      simp only [hfirst, if_false]
      rfl
  rw [lock, if_neg (by simp [upon]), hsettled]

/-- A writer that is the last one carries the log over. -/
theorem close_of_isInPlace (hlogs : d.openLogs = [(id, log)]) (hwritable : log.writable = true)
    (hplace : (upon x id false (some log)).isInPlace { d with openLogs := [] } = true) :
    (upon x id false (some log)).close d =
      (upon x id false (some log)).carryOver { d with openLogs := [] } := by
  have hcarries : (upon x id false (some log)).carriesOver log { d with openLogs := [] } = true := by
    rw [carriesOver, hplace, hwritable]
    rfl
  rw [close_upon false hlogs, hcarries, if_pos rfl]

end OpenFile

/-- Such a store is opened for writing if nothing is missing. -/
theorem Store.openOrCreate_of_lock (hparent : makeParent p d = ⟨.ok (), d, []⟩)
    (hattach : attach p .create d = (.ok ⟨p, .shared (.upon x id false none), none⟩, d))
    (hlock : (OpenFile.upon x id false none).lock d = (.ok (), .upon x id false (some log), d'))
    (hdb : (OpenFile.upon x id false (some log)).database? d' = some db) (hwhole : db.LacksNothing) :
    openOrCreate p d = ⟨.ok (.writer p x id log), d', [.opened p]⟩ := by
  have hconfigure : Handle.configure ⟨p, .shared (.upon x id false none), none⟩ d =
      (.ok (), .writer p x id log, d') := by
    simp only [Handle.configure, OpenFile.configure, hlock, hdb]
    rfl
  have htables : ensureTables (.writer p x id log) d' = (.ok (), .writer p x id log, d') := by
    have hconnect : (Handle.writer p x id log).connect d' =
        (.ok (.ofDatabase ((OpenFile.upon x id false (some log)).obstacle? d') db),
          .writer p x id log, d') := by
      simp only [Handle.writer, Handle.connect, Handle.lock, Disk.Logging.lock, Handle.stored?, hdb]
      rfl
    have hview : (Connection.ofDatabase ((OpenFile.upon x id false (some log)).obstacle? d')
        db).view.LacksNothing := hwhole
    rw [ensureTables, Handle.apply, hconnect]
    simp only [Connection.ensureTables_of_lacksNothing hview]
    rfl
  exact openOrCreate_of_ok hparent (attachOrFail_of_ok hattach) hconfigure htables

/-- A file that is blank becomes a logged database without tables. -/
theorem Handle.configure_of_isBlank {e : Disk}
    (hlock : (OpenFile.upon x id false none).lock d = (.ok (), .upon x id false none, e))
    (hblank : (OpenFile.upon x id false none).database? e = some .blank)
    (hfree : (OpenFile.upon x id false none).obstacle? e = none) :
    configure ⟨p, .shared (.upon x id false none), none⟩ d =
      (.ok (), ⟨p, .shared (.upon x id false none), none⟩,
        (OpenFile.upon x id false none).store { Database.blank with logged := true } e) := by
  simp only [configure, OpenFile.configure, hlock, hblank, hfree]
  rfl

/-- A store is set up on a file that is blank: the tables are made in the log. -/
theorem Store.openOrCreate_of_isBlank {d₀ d₁ e : Disk} {k : FileId}
    (hparent : makeParent p d₀ = ⟨.ok (), d₁, []⟩)
    (hattach : attach p .create d₁ = (.ok ⟨p, .shared (.upon x id false none), none⟩, d))
    (hlock : (OpenFile.upon x id false none).lock d = (.ok (), .upon x id false none, e))
    (hblank : (OpenFile.upon x id false none).database? e = some .blank)
    (hfree : (OpenFile.upon x id false none).obstacle? e = none)
    (hlog : (OpenFile.upon x id false none).lock
        ((OpenFile.upon x id false none).store { Database.blank with logged := true } e) =
      (.ok (), .upon x id false (some ⟨some k, true⟩), d'))
    (hdb : (OpenFile.upon x id false (some ⟨some k, true⟩)).database? d' =
      some { Database.blank with logged := true }) :
    openOrCreate p d₀ = ⟨.ok (.writer p x id ⟨some k, true⟩),
      d'.setContent k (.log { Database.fresh with logged := true }), [.opened p]⟩ := by
  have htables : ensureTables ⟨p, .shared (.upon x id false none), none⟩
      ((OpenFile.upon x id false none).store { Database.blank with logged := true } e) =
        (.ok (), .writer p x id ⟨some k, true⟩,
          d'.setContent k (.log { Database.fresh with logged := true })) := by
    simp only [ensureTables, Handle.apply, Handle.connect, Handle.lock, hlog, Handle.stored?, hdb]
    rfl
  exact openOrCreate_of_ok hparent (attachOrFail_of_ok hattach)
    (Handle.configure_of_isBlank hlock hblank hfree) htables

/-- Where the log cannot be opened, the file is left as a database without tables. -/
theorem Store.openOrCreate_of_isBlank_of_error {d₀ d₁ e : Disk} {f : Fault}
    (hparent : makeParent p d₀ = ⟨.ok (), d₁, []⟩)
    (hattach : attach p .create d₁ = (.ok ⟨p, .shared (.upon x id false none), none⟩, d))
    (hlock : (OpenFile.upon x id false none).lock d = (.ok (), .upon x id false none, e))
    (hblank : (OpenFile.upon x id false none).database? e = some .blank)
    (hfree : (OpenFile.upon x id false none).obstacle? e = none)
    (hlog : (OpenFile.upon x id false none).lock
        ((OpenFile.upon x id false none).store { Database.blank with logged := true } e) =
      (.error f, .upon x id false none, d')) :
    openOrCreate p d₀ = ⟨.error (.store (some .preparingTables) f), d', []⟩ := by
  have htables : ensureTables ⟨p, .shared (.upon x id false none), none⟩
      ((OpenFile.upon x id false none).store { Database.blank with logged := true } e) =
        (.error f, ⟨p, .shared (.upon x id false none), none⟩, d') := by
    simp only [ensureTables, Handle.apply, Handle.connect, Handle.lock, hlog]
  exact openOrCreate_of_tables_error hparent (attachOrFail_of_ok hattach)
    (Handle.configure_of_isBlank hlock hblank hfree) htables

/-- Where what happens before the first statement fails, so does opening for writing. -/
theorem Store.openOrCreate_of_lock_error {d₀ d₁ : Disk} {f : Fault}
    (hparent : makeParent p d₀ = ⟨.ok (), d₁, []⟩)
    (hattach : attach p .create d₁ = (.ok ⟨p, .shared (.upon x id false none), none⟩, d))
    (hlock : (OpenFile.upon x id false none).lock d = (.error f, .upon x id false none, d')) :
    openOrCreate p d₀ = ⟨.error (.store (some .configuring) f), d', []⟩ := by
  have hconfigure : Handle.configure ⟨p, .shared (.upon x id false none), none⟩ d =
      (.error f, ⟨p, .shared (.upon x id false none), none⟩, d') := by
    simp only [Handle.configure, OpenFile.configure, hlock]
  exact openOrCreate_of_configure_error hparent (attachOrFail_of_ok hattach) hconfigure

/-- A store is opened for reading if the first statement succeeds, and found if it holds a graph. -/
theorem Store.openExisting_of_lock {f : OpenFile} (hexists : d.pathExists p = true)
    (hattach : attach p .read d = (.ok ⟨p, .shared (.upon x id true none), none⟩, d))
    (hlock : (OpenFile.upon x id true none).lock d = (.ok (), f, d'))
    (hdb : f.database? d' = some db) :
    openExisting p d =
      if db.hasGraph then ⟨.ok (some ⟨p, .shared f, none⟩), d', []⟩
      else ⟨.ok none, f.close d', [.noGraph p]⟩ := by
  have hgraph : holdsGraph ⟨p, .shared (.upon x id true none), none⟩ d =
      (.ok db.hasGraph, ⟨p, .shared f, none⟩, d') := by
    simp only [holdsGraph, Handle.read, Handle.apply, Handle.connect, Handle.lock, hlock,
      Handle.stored?, hdb]
    rfl
  exact openExisting_of_ok hexists (attachOrFail_of_ok hattach) hgraph

/-- Where the first statement fails, so does opening for reading. -/
theorem Store.openExisting_of_lock_error {e : Fault} {f : OpenFile} (hexists : d.pathExists p = true)
    (hattach : attach p .read d = (.ok ⟨p, .shared (.upon x id true none), none⟩, d))
    (hlock : (OpenFile.upon x id true none).lock d = (.error e, f, d')) :
    openExisting p d = ⟨.error (.store (some (.readingSchema p)) e), f.close d', []⟩ := by
  have hgraph : holdsGraph ⟨p, .shared (.upon x id true none), none⟩ d =
      (.error e, ⟨p, .shared f, none⟩, d') := by
    simp only [holdsGraph, Handle.read, Handle.apply, Handle.connect, Handle.lock, hlock]
  exact openExisting_of_error hexists (attachOrFail_of_ok hattach) hgraph

end SyntaxGraph
