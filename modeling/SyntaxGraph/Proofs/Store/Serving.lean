import SyntaxGraph.Proofs.Disk.Tree
import SyntaxGraph.Proofs.Filled
import SyntaxGraph.Store.Handle

/-!
# Stores that can be written to

A store keeps its rows in one of three places: in itself, in the log of its file, or in the file,
where there is no log.  As long as nothing stands in the way of a change, the place makes no
difference: every operation sees one database, and one that changes it leaves a store that holds the
changed database and can be written to just as well.

For a store without a log this is not obvious, because everything beside the file is looked at before
every statement.  What is looked at is which entries there are and which contents are empty, and
neither is touched by a change of rows.

## What is here

* `Handle.Serves` — a store that holds a given database and can be written to.
* `Handle.Serves.put` — it still does after a change, and then it holds the changed database.
* `Handle.Serves.apply`, `Handle.Serves.read` — operations on such a store.
-/

set_option autoImplicit false
namespace SyntaxGraph

/-! ## Contents do not matter to the tree -/

namespace Disk

/-- A database is the content of some file. -/
theorem content_setContent_of_database {d : Disk} {id : FileId} {db : Database}
    (h : d.content id = .database db) (c : Content) : (d.setContent id c).content id = c := by
  refine content_setContent_self ?_ c
  by_contra hge
  rw [content, List.getElem?_eq_none (Nat.le_of_not_lt hge)] at h
  cases h

/-- Rows do not change whether a content is empty. -/
theorem raw_setContent {d : Disk} {id : FileId} {db : Database} (h : d.content id = .database db)
    (db' : Database) (id' : FileId) :
    ((d.setContent id (.database db')).content id').raw = (d.content id').raw := by
  by_cases hid : id' = id
  · subst hid
    rw [content_setContent_of_database h, h]
    rfl
  · rw [content_setContent_of_ne hid]

theorem holdsSomething_setContent {d : Disk} {id : FileId} {db : Database}
    (h : d.content id = .database db) (db' : Database) (x : RealPath) :
    (d.setContent id (.database db')).holdsSomething x = d.holdsSomething x := by
  rw [holdsSomething, holdsSomething, find_setContent]
  split
  · rw [raw_setContent h]
  · rfl
  · rfl

theorem pathExists_setContent (d : Disk) (id : FileId) (c : Content) (p : Path) :
    (d.setContent id c).pathExists p = d.pathExists p := by
  rw [pathExists, pathExists, find_setContent]

end Disk

/-! ## Files without a log -/

namespace OpenFile

variable {f : OpenFile} {d : Disk} {db db' : Database}

theorem isBlank_of_database (h : d.content f.id = .database db) : f.isBlank d = false := by
  rw [isBlank, h]
  rfl

/-- A log that has been opened is open. -/
theorem log_of_openLog {f' : OpenFile} {d' : Disk} (h : f.openLog d = (.ok (), f', d')) :
    f'.log ≠ none := by
  rw [openLog] at h
  split at h
  · cases h
  · split at h
    · cases h
    · split at h
      · cases h
      · split at h
        · cases h
        · simp only [Prod.mk.injEq] at h
          rw [← h.2.1]
          exact Option.some_ne_none _

/-- Where no log was opened, there was no reason to. -/
theorem seekLog_eq_self (hlog : f.log = none) (hcontent : d.content f.id = .database db) :
    f.seekLog d = (.ok (), f, d) ↔ d.holdsSomething f.logPlace = false ∧ db.logged = false := by
  have hopen : f.openLog d ≠ (.ok (), f, d) := fun h => log_of_openLog h hlog
  have hlogged : f.isLogged d = db.logged := by
    rw [isLogged, hcontent]
  rw [seekLog, isBlank_of_database hcontent, hlogged]
  cases d.holdsSomething f.logPlace with
  | true => simpa using hopen
  | false =>
    cases db.logged with
    | true => simpa using hopen
    | false => simp

/-- Where no journal stands beside a database, there is none to be dealt with. -/
theorem settleJournal_eq_self (hcontent : d.content f.id = .database db)
    (hjournal : d.entry? f.journal = none) :
    f.settleJournal d = .ok d ↔
      d.holdsSomething f.journal = false ∨ d.pathExists (Disk.spell f.real) = true := by
  rw [settleJournal, isBlank_of_database hcontent, hjournal]
  cases d.holdsSomething f.journal with
  | true => cases d.pathExists (Disk.spell f.real) <;> simp
  | false => simp

/-- Before a statement, nothing is left to be done after a change of rows, if nothing was before. -/
theorem lock_setContent (hlog : f.log = none) (himmutable : f.immutable = false)
    (hcontent : d.content f.id = .database db)
    (hjournal : d.entry? f.journal = none) (hlogged : db'.logged = db.logged)
    (h : f.lock d = (.ok (), f, d)) :
    f.lock (d.setContent f.id (.database db')) =
      (.ok (), f, d.setContent f.id (.database db')) := by
  have hcontent' := Disk.content_setContent_of_database hcontent (.database db')
  have hlock {d d₁ : Disk} (hd : f.settleJournal d = .ok d₁) : f.lock d = f.seekLog d₁ := by
    simp [lock, hlog, himmutable, hd]
  -- a journal that cannot be dealt with would have stopped all else
  have hsettled : f.settleJournal d = .ok d := by
    by_contra hne
    rw [settleJournal_eq_self hcontent hjournal, not_or, Bool.not_eq_false, Bool.not_eq_true] at hne
    have hfails : f.settleJournal d = .error (.inaccessible .inspect) := by
      rw [settleJournal, isBlank_of_database hcontent]
      simp [hne.1, hne.2]
    simp [lock, hlog, himmutable, hfails] at h
  have hsought : f.seekLog d = (.ok (), f, d) := (hlock hsettled).symm.trans h
  have hsettled' : f.settleJournal (d.setContent f.id (.database db')) =
      .ok (d.setContent f.id (.database db')) := by
    rw [settleJournal_eq_self hcontent' hjournal, Disk.holdsSomething_setContent hcontent,
      Disk.pathExists_setContent, ← settleJournal_eq_self hcontent hjournal]
    exact hsettled
  have hsought' : f.seekLog (d.setContent f.id (.database db')) =
      (.ok (), f, d.setContent f.id (.database db')) := by
    rw [seekLog_eq_self hlog hcontent', Disk.holdsSomething_setContent hcontent, hlogged,
      ← seekLog_eq_self hlog hcontent]
    exact hsought
  exact (hlock hsettled').trans hsought'

/-- A change of rows puts nothing in the way of the next. -/
theorem journalFault?_setContent (hcontent : d.content f.id = .database db) :
    f.journalFault? (d.setContent f.id (.database db')) = f.journalFault? d := by
  have hcontent' := Disk.content_setContent_of_database hcontent (.database db')
  have hentry : Disk.entry? (d.setContent f.id (.database db')) f.journal = d.entry? f.journal :=
    rfl
  simp only [journalFault?, isBlank_of_database hcontent, isBlank_of_database hcontent', isInPlace,
    Disk.find_setContent, Disk.pathExists_setContent, hentry]

/-- A log that a change can go to has a file and may be written. -/
theorem log_of_obstacle? {log : OpenLog} (h : f.obstacle? d = none) (hlog : f.log = some log) :
    (f.readOnly || f.immutable) = false ∧ ∃ wid, log = ⟨some wid, true⟩ := by
  rw [obstacle?, hlog] at h
  split at h
  · cases h
  · rename_i hfree
    refine ⟨by simpa using hfree, ?_⟩
    obtain ⟨file, writable⟩ := log
    cases writable with
    | false => cases h
    | true =>
      cases file with
      | none => cases h
      | some wid => exact ⟨wid, rfl⟩

/-- A file that a change can go to may be written, and its journal can be made. -/
theorem journalFault?_of_obstacle? (h : f.obstacle? d = none) (hlog : f.log = none) :
    (f.readOnly || f.immutable) = false ∧ f.journalFault? d = none := by
  rw [obstacle?, hlog] at h
  split at h
  · cases h
  · rename_i hfree
    exact ⟨by simpa using hfree, Option.map_eq_none_iff.1 h⟩

/-- A database with tables that is read without a log is that of the file, for a blank file has none. -/
theorem content_of_database? (hlog : f.log = none) (h : f.database? d = some db)
    (hready : db.isReady) : d.content f.id = .database db := by
  rw [database?, loggedDatabase?, hlog] at h
  change (d.content f.id).database? = some db at h
  unfold Content.database? at h
  split at h
  · rename_i db₁ hdb
    rw [hdb, Option.some.inj h]
  · cases h
    cases hready
  · cases h
    cases hready
  · cases h

end OpenFile

/-! ## Stores -/

/-- Whether what is stored can be found again: the log has a file, and where there is no log, no journal
stands beside the file. -/
def Backing.IsKept (d : Disk) : Backing → Prop
  | .own _ _ => True
  | .shared f =>
    match f.log with
    | some log => ∀ id, log.file = some id → id < d.contents.length
    | none => d.entry? f.journal = none

/-- A store that holds a database and can be written to. -/
structure Handle.Serves (h : Handle) (d : Disk) (db : Database) : Prop where
  /-- Nothing is left to be done before a statement, no transaction is open, and nothing stands in the
  way of a change. -/
  connect : h.connect d = (.ok ⟨none, db, none, false⟩, h, d)
  /-- Both tables are there, with all their columns. -/
  ready : db.isReady
  kept : h.backing.IsKept d

namespace Handle

variable {α : Type} {h : Handle} {d : Disk} {db db' : Database}

/-- A handle as it is once everything before a statement is done. -/
theorem connect_eq_self :
    h.connect d = (.ok ⟨none, db, none, false⟩, h, d) ↔
      h.lock d = (.ok (), h, d) ∧ h.stored? d = some db ∧ h.obstacle? d = none ∧
        h.working = none := by
  rw [connect]
  constructor
  · intro hc
    split at hc
    · cases hc
    · rename_i h₁ d₁ hlock
      split at hc
      · cases hc
      · rename_i db₁ hstored
        simp only [Prod.mk.injEq, Except.ok.injEq, Connection.mk.injEq] at hc
        obtain ⟨⟨hobstacle, rfl, hworking, -⟩, rfl, rfl⟩ := hc
        exact ⟨hlock, hstored, hobstacle, hworking⟩
  · rintro ⟨hlock, hstored, hobstacle, hworking⟩
    simp only [hlock, hstored, hobstacle, hworking]

/-- A private store keeps its rows in itself. -/
theorem serves_own (p : Path) (d : Disk) (hready : db.isReady) :
    Serves ⟨p, .own db false, none⟩ d db where
  connect := rfl
  ready := hready
  kept := trivial

/-- A store with a log keeps its rows there. -/
theorem Serves.put_log {p : Path} {f : OpenFile} (hs : Serves ⟨p, .shared f, none⟩ d db)
    {log : OpenLog} (hlog : f.log = some log) (hready : db'.isReady) :
    Serves ⟨p, .shared f, none⟩ (f.store db' d) db' := by
  obtain ⟨-, -, hobstacle, -⟩ := connect_eq_self.1 hs.connect
  obtain ⟨hfree, wid, rfl⟩ := OpenFile.log_of_obstacle? hobstacle hlog
  have hkept := hs.kept
  simp only [Backing.IsKept, hlog] at hkept
  have hwid : wid < d.contents.length := hkept wid rfl
  have hstore : f.store db' d = d.setContent wid (.log db') := by
    rw [OpenFile.store, hlog]
  rw [hstore]
  refine ⟨connect_eq_self.2 ⟨?_, ?_, ?_, rfl⟩, hready, ?_⟩
  · simp only [lock, OpenFile.lock, hlog, Option.isSome_some, Bool.true_or, if_true]
  · simp only [stored?, OpenFile.database?, OpenFile.loggedDatabase?, hlog,
      Disk.content_setContent_self hwid]
  · show f.obstacle? _ = none
    rw [OpenFile.obstacle?, hlog, hfree]
    rfl
  · simp only [Backing.IsKept, hlog]
    intro id hid
    rw [Disk.length_setContent]
    exact hkept id hid

/-- A store without a log keeps its rows in the file. -/
theorem Serves.put_file {p : Path} {f : OpenFile} (hs : Serves ⟨p, .shared f, none⟩ d db)
    (hlog : f.log = none) (hready : db'.isReady) (hlogged : db'.logged = db.logged) :
    Serves ⟨p, .shared f, none⟩ (f.store db' d) db' := by
  obtain ⟨hlock, hstored, hobstacle, -⟩ := connect_eq_self.1 hs.connect
  obtain ⟨hfree, hfault⟩ := OpenFile.journalFault?_of_obstacle? hobstacle hlog
  have hcontent := OpenFile.content_of_database? hlog hstored hs.ready
  have hjournal : d.entry? f.journal = none := by
    have hkept := hs.kept
    simpa only [Backing.IsKept, hlog] using hkept
  have hstore : f.store db' d = d.setContent f.id (.database db') := by
    rw [OpenFile.store, hlog]
    exact Disk.dropFile_of_shape?_eq_none (Disk.shape?_eq_none.2 hjournal)
  have hfilelock : f.lock d = (.ok (), f, d) := by
    change ((f.lock d).1, (⟨p, .shared (f.lock d).2.1, none⟩ : Handle), (f.lock d).2.2) = _ at hlock
    simp only [Prod.mk.injEq, mk.injEq, Backing.shared.injEq, true_and, and_true] at hlock
    exact Prod.ext hlock.1 (Prod.ext hlock.2.1 hlock.2.2)
  rw [hstore]
  refine ⟨connect_eq_self.2 ⟨?_, ?_, ?_, rfl⟩, hready, ?_⟩
  · simp only [lock, OpenFile.lock_setContent hlog (Bool.or_eq_false_iff.1 hfree).2 hcontent hjournal
      hlogged hfilelock]
  · simp only [stored?, OpenFile.database?, OpenFile.loggedDatabase?, hlog,
      Disk.content_setContent_of_database hcontent, Content.database?]
  · show f.obstacle? _ = none
    rw [OpenFile.obstacle?, hlog, hfree, if_neg Bool.false_ne_true]
    exact Option.map_eq_none_iff.2 ((OpenFile.journalFault?_setContent hcontent).trans hfault)
  · simp only [Backing.IsKept, hlog]
    exact hjournal

/-- **A store that can be written to holds what was stored, and can still be written to.** -/
theorem Serves.put (hs : h.Serves d db) (hready : db'.isReady) (hlogged : db'.logged = db.logged) :
    (h.keep d ⟨none, db', none, true⟩).1.Serves (h.keep d ⟨none, db', none, true⟩).2 db' := by
  obtain ⟨-, -, hobstacle, hidle⟩ := connect_eq_self.1 hs.connect
  obtain ⟨p, backing, working⟩ := h
  cases hidle
  cases backing with
  | own own readOnly =>
    cases readOnly with
    | true => cases hobstacle
    | false => exact serves_own p d hready
  | shared f =>
    cases hlog : f.log with
    | none => exact hs.put_file hlog hready hlogged
    | some log => exact hs.put_log hlog hready

/-- What changes nothing leaves the store as it is. -/
theorem Serves.keep_self (hs : h.Serves d db) : h.keep d ⟨none, db, none, false⟩ = (h, d) := by
  obtain ⟨-, -, -, hidle⟩ := connect_eq_self.1 hs.connect
  obtain ⟨p, backing, working⟩ := h
  cases hidle
  rfl

/-- An operation on a store that can be written to. -/
theorem Serves.apply (hs : h.Serves d db) (g : Connection → Except Fault α × Connection) :
    h.apply d g = ((g ⟨none, db, none, false⟩).1, h.keep d (g ⟨none, db, none, false⟩).2) := by
  rw [Handle.apply, hs.connect]

/-- A store that can be written to does not refuse a change. -/
theorem Serves.applyChange (hs : h.Serves d db) (g : Connection → Except Fault α × Connection) :
    h.applyChange d g = h.apply d g := by
  obtain ⟨-, -, hobstacle, -⟩ := connect_eq_self.1 hs.connect
  have hwritable : h.readOnly = false := by
    obtain ⟨p, backing, working⟩ := h
    cases backing with
    | own own readOnly =>
      cases readOnly with
      | true => cases hobstacle
      | false => rfl
    | shared f =>
      change f.obstacle? d = none at hobstacle
      rw [OpenFile.obstacle?] at hobstacle
      split at hobstacle
      · cases hobstacle
      · rename_i hfree
        rw [Bool.or_eq_true, not_or, Bool.not_eq_true] at hfree
        exact hfree.1
  rw [Handle.applyChange, hwritable, if_neg Bool.false_ne_true]

/-- A reader sees the database and changes nothing. -/
theorem Serves.read (hs : h.Serves d db) (g : Database → Except Fault α) :
    h.read d g = (g db, h, d) := by
  rw [Handle.read, hs.apply, hs.keep_self]
  rfl

end Handle
end SyntaxGraph
