import SyntaxGraph.Proofs.Store.Berth

/-!
# Stores at rest and in use

A store at rest has no log open.  Before a statement its log is opened if there is a reason to, and
when the store is closed the log is carried over or left as it is.  None of this changes what is to be
seen of the store.

## What is here

* `Disk.Rests`, `Disk.Logging` — a store that holds a database, with its log closed and open.
* `OpenFile.Holds` — an open file of such a store, in either state.
* `OpenFile.Holds.lock`, `OpenFile.Holds.configure`, `OpenFile.Holds.close`, `Disk.Logging.store` — from
  the one state to the other and back.
* `OpenFile.Holds.connect`, `OpenFile.Holds.read` — what a handle sees.
-/

set_option autoImplicit false
namespace SyntaxGraph

/-! ## What does not change what is to be seen -/

/-- What stands in the place of an open log. -/
def OpenLog.shape (log : OpenLog) : Shape :=
  log.file.elim .pipe .file

namespace Disk

/-- Two disks on which the same is to be seen of a store, with the same logs open. -/
structure SameSight (x : RealPath) (id : FileId) (d d' : Disk) : Prop where
  log : d'.logSight? x = d.logSight? x
  file : d'.content id = d.content id
  openLogs : d'.openLogs = d.openLogs

variable {b d d' d'' : Disk} {x : RealPath} {id : FileId} {db : Database}

theorem SameSight.refl (x : RealPath) (id : FileId) (d : Disk) : SameSight x id d d :=
  ⟨rfl, rfl, rfl⟩

theorem SameSight.trans (h : SameSight x id d d') (h' : SameSight x id d' d'') :
    SameSight x id d d'' :=
  ⟨h'.log.trans h.log, h'.file.trans h.file, h'.openLogs.trans h.openLogs⟩

theorem SameSight.sight?_eq (h : SameSight x id d d') : d'.sight? x id = d.sight? x id := by
  rw [sight?, sight?, h.log, h.file]

theorem logSight?_of_ne_file (h : ∀ k, d.shape? (Part.log.placeAt x) ≠ some (.file k)) :
    d.logSight? x = none := by
  rw [logSight?]
  split
  · rename_i k hk
    exact absurd hk (h k)
  · rfl

theorem logSight?_of_file {k : FileId} (h : d.shape? (Part.log.placeAt x) = some (.file k)) :
    d.logSight? x = (d.content k).inLog? := by
  rw [logSight?, h]

/-- The log shows the same if it is the same file with the same content. -/
theorem logSight?_congr (hshape : d'.shape? (Part.log.placeAt x) = d.shape? (Part.log.placeAt x))
    (hcontent : ∀ k, d.shape? (Part.log.placeAt x) = some (.file k) → d'.content k = d.content k) :
    d'.logSight? x = d.logSight? x := by
  rw [logSight?, logSight?, hshape]
  split
  · rename_i k hk
    rw [hcontent k hk]
  · rfl

theorem sight?_of_logSight?_eq_none (h : d.logSight? x = none) :
    d.sight? x id = (d.content id).database? := by
  rw [sight?, h]

namespace Hosts

/-- Making the log: it is empty. -/
theorem sameSight_addLog (h : Hosts b x id d)
    (hnone : d.shape? (Part.log.placeAt x) = none) :
    SameSight x id d (d.addFile (Part.log.placeAt x) (.bytes [])).2 where
  log := by
    have hbefore : d.logSight? x = none := logSight?_of_ne_file (by simp [hnone])
    rw [hbefore]
    by_contra hsome
    obtain ⟨db, hdb⟩ := Option.ne_none_iff_exists'.1 hsome
    rcases shape?_addFile d (Part.log.placeAt x) (.bytes []) with hnew | hsame
    · rw [logSight?_of_file hnew, content_addFile_self] at hdb
      cases hdb
    · rw [logSight?_of_ne_file (by simp [hsame, hnone])] at hdb
      cases hdb
  file := content_addFile_of_lt (h.bounded .file id h.file) _ _
  openLogs := rfl

/-- Making the index of the log. -/
theorem sameSight_addIndex (h : Hosts b x id d) (hx : Berth x)
    (hnone : d.shape? (Part.index.placeAt x) = none) (c : Content) :
    SameSight x id d (d.addFile (Part.index.placeAt x) c).2 where
  log := by
    have hold : d.shape? (Part.index.placeAt x) ≠ some .dir := by simp [hnone]
    have hne : Part.log.placeAt x ≠ Part.index.placeAt x :=
      Part.placeAt_ne hx.nonempty (by decide)
    exact logSight?_congr (shape?_addFile_of_ne c hold hne) fun k hk =>
      content_addFile_of_lt (h.bounded .log k hk) _ _
  file := content_addFile_of_lt (h.bounded .file id h.file) _ _
  openLogs := rfl

/-- Writing to the index of the log. -/
theorem sameSight_setIndex (h : Hosts b x id d) {k : FileId}
    (hk : d.shape? (Part.index.placeAt x) = some (.file k)) (c : Content) :
    SameSight x id d (d.setContent k c) where
  log := logSight?_congr rfl fun j hj => by
    refine content_setContent_of_ne ?_ c
    rintro rfl
    cases h.apart _ _ j hk hj
  file := by
    refine content_setContent_of_ne ?_ c
    rintro rfl
    cases h.apart _ _ id hk (show d.shape? (Part.file.placeAt x) = _ from h.file)
  openLogs := rfl

end Hosts

/-! ## The two states -/

/-- A store that holds a database and has no log open. -/
structure Rests (b : Disk) (x : RealPath) (id : FileId) (d : Disk) (db : Database) : Prop where
  hosts : Hosts b x id d
  idle : d.openLogs = []
  sight : d.sight? x id = some db
  written : (d.content id).isBlank = false

/-- A store that holds a database and has its log open. -/
structure Logging (b : Disk) (x : RealPath) (id : FileId) (log : OpenLog) (d : Disk)
    (db : Database) : Prop where
  hosts : Hosts b x id d
  place : d.shape? (Part.log.placeAt x) = some log.shape
  logs : d.openLogs = [(id, log)]
  sight : d.sight? x id = some db
  written : (d.content id).isBlank = false

end Disk

/-- The file of a store, opened by its plain name. -/
def OpenFile.upon (x : RealPath) (id : FileId) (readOnly : Bool) (log : Option OpenLog) : OpenFile :=
  ⟨id, x, readOnly, false, false, false, log⟩

/-- An open file of a store that holds a database. -/
def OpenFile.Holds (b : Disk) (x : RealPath) (id : FileId) (readOnly : Bool) (f : OpenFile) (d : Disk)
    (db : Database) : Prop :=
  (f = .upon x id readOnly none ∧ Disk.Rests b x id d db) ∨
    ∃ log, f = .upon x id readOnly (some log) ∧ Disk.Logging b x id log d db

namespace OpenFile

variable {b d d' : Disk} {x : RealPath} {id : FileId} {db : Database} {readOnly : Bool}
  {log : OpenLog} {f : OpenFile}

/-! ## Opening the log -/

/-- The file of the log is opened, or made. -/
theorem openLogFile_upon (readOnly : Bool) (h : Disk.Hosts b x id d) (hx : Berth x) :
    ∃ file d', (upon x id readOnly none).openLogFile d = .ok (file, d') ∧ Disk.Hosts b x id d' ∧
      d'.shape? (Part.log.placeAt x) = some (file.elim .pipe .file) ∧ d.SameSight x id d' := by
  have hplace : (upon x id readOnly none).logPlace = Part.log.placeAt x := rfl
  rw [openLogFile]
  rw [hplace, hx.logName, if_neg Bool.false_ne_true]
  cases he : d.entry? (Part.log.placeAt x) with
  | none =>
    have hnone := Disk.shape?_eq_none.2 he
    exact ⟨_, _, rfl, h.addFile hx (by decide) hnone _, Part.shape?_addFile_self hx.nonempty h.directory .log _,
      h.sameSight_addLog hnone⟩
  | some e =>
    have hs : d.shape? (Part.log.placeAt x) = some e.shape := by rw [Disk.shape?, he]; rfl
    cases e with
    | file k => exact ⟨some k, d, rfl, h, hs, .refl x id d⟩
    | pipe => exact ⟨none, d, rfl, h, hs, .refl x id d⟩
    | link target => exact absurd rfl (h.ne_link hs target)
    | dir es => cases h.kinds _ _ hs

/-- The index of the log is opened, or made. -/
theorem openIndex_upon (readOnly : Bool) (h : Disk.Hosts b x id d) (hx : Berth x)
    (hidle : d.openLogs = []) :
    ∃ writable d', (upon x id readOnly none).openIndex d = .ok (writable, d') ∧
      Disk.Hosts b x id d' ∧
      d'.shape? (Part.log.placeAt x) = d.shape? (Part.log.placeAt x) ∧ d.SameSight x id d' := by
  have hplace : (upon x id readOnly none).indexPlace = Part.index.placeAt x := rfl
  have hne : Part.log.placeAt x ≠ Part.index.placeAt x :=
    Part.placeAt_ne hx.nonempty (by decide)
  rw [openIndex]
  rw [hplace, hidle]
  cases he : d.entry? (Part.index.placeAt x) with
  | none =>
    have hnone := Disk.shape?_eq_none.2 he
    exact ⟨_, _, rfl, h.addFile hx (by decide) hnone _,
      Disk.shape?_addFile_of_ne _ (by simp [hnone]) hne, h.sameSight_addIndex hx hnone _⟩
  | some e =>
    have hs : d.shape? (Part.index.placeAt x) = some e.shape := by rw [Disk.shape?, he]; rfl
    cases e with
    | file k =>
      exact ⟨_, _, rfl, h.setContent hs (by decide) _, rfl, h.sameSight_setIndex hs _⟩
    | dir es => exact ⟨false, d, rfl, h, rfl, .refl x id d⟩
    | link target => exact absurd rfl (h.ne_link hs target)
    | pipe => cases h.kinds _ _ hs

/-- **Opening the log** changes nothing of what is to be seen. -/
theorem openLog_of_hosts (readOnly : Bool) (h : Disk.Hosts b x id d) (hidle : d.openLogs = [])
    (hx : Berth x) :
    ∃ log d', (upon x id readOnly none).openLog d = (.ok (), upon x id readOnly (some log), d') ∧
      Disk.Hosts b x id d' ∧ d'.shape? (Part.log.placeAt x) = some log.shape ∧
      d'.openLogs = [(id, log)] ∧ d'.sight? x id = d.sight? x id ∧ d'.content id = d.content id := by
  obtain ⟨file, d₁, hfile, h₁, hplace, hsame₁⟩ := openLogFile_upon readOnly h hx
  have hidle₁ : d₁.openLogs = [] := hsame₁.openLogs.trans hidle
  obtain ⟨writable, d₂, hindex, h₂, hplace₂, hsame₂⟩ := openIndex_upon readOnly h₁ hx hidle₁
  have hsame := hsame₁.trans hsame₂
  have hidle₂ : d₂.openLogs = [] := hsame.openLogs.trans hidle
  have hmisses : missesLog d₂ id file = false := by
    rw [missesLog, hidle₂]
    rfl
  have hexists : d.pathExists (Disk.spell (upon x id readOnly none).real) = true :=
    h.pathExists_file hx
  refine ⟨⟨file, writable⟩, { d₂ with openLogs := d₂.openLogs ++ [(id, ⟨file, writable⟩)] }, ?_,
    h₂.setLogs _, hplace₂.trans hplace, ?_, hsame.sight?_eq, hsame.file⟩
  · rw [openLog, hexists, show (upon x id readOnly none).unlocked = false from rfl, hfile]
    simp only [Bool.false_eq_true, Bool.not_true, if_false, hindex]
    rw [show (upon x id readOnly none).id = id from rfl, hmisses, if_neg Bool.false_ne_true]
    rfl
  · rw [hidle₂]
    rfl

theorem openLog_of_rests (readOnly : Bool) (h : Disk.Rests b x id d db) (hx : Berth x) :
    ∃ log d', (upon x id readOnly none).openLog d = (.ok (), upon x id readOnly (some log), d') ∧
      Disk.Logging b x id log d' db := by
  obtain ⟨log, d', hopen, hhosts, hplace, hlogs, hsight, hfile⟩ :=
    openLog_of_hosts readOnly h.hosts h.idle hx
  exact ⟨log, d', hopen, hhosts, hplace, hlogs, hsight.trans h.sight, by rw [hfile]; exact h.written⟩

/-! ## Before a statement -/

/-- A journal that says nothing is left alone. -/
theorem settleJournal_of_rests (readOnly : Bool) (h : Disk.Rests b x id d db) (hx : Berth x) :
    (upon x id readOnly none).settleJournal d = .ok d := by
  have hplace : (upon x id readOnly none).journal = Part.journal.placeAt x := rfl
  have hexists : d.pathExists (Disk.spell (upon x id readOnly none).real) = true :=
    h.hosts.pathExists_file hx
  have hblank : (upon x id readOnly none).isBlank d = false := h.written
  have hholds := h.hosts.holdsSomething_eq hx .journal
  rw [settleJournal, hplace, hblank, hexists, hholds]
  cases he : d.entry? (Part.journal.placeAt x) with
  | none =>
    rw [Disk.shape?_eq_none.2 he]
    rfl
  | some e =>
    have hs : d.shape? (Part.journal.placeAt x) = some e.shape := by rw [Disk.shape?, he]; rfl
    rw [hs]
    cases e with
    | file k =>
      rcases h.hosts.calm k hs with hempty | hzero
      · simp [Entry.shape, hempty]
      · have hsome : (d.content k).raw ≠ [] := by
          intro hnil
          rw [hnil] at hzero
          cases hzero
        simp [Entry.shape, hsome, hzero]
    | pipe => rfl
    | link target => exact absurd rfl (h.hosts.ne_link hs target)
    | dir es => cases h.hosts.kinds _ _ hs

/-- **Before a statement, the log of a store that rests is opened**, or there is nothing in it. -/
theorem lock_of_rests (readOnly : Bool) (h : Disk.Rests b x id d db) (hx : Berth x) :
    ((upon x id readOnly none).lock d = (.ok (), upon x id readOnly none, d) ∧
        d.logSight? x = none) ∨
      ∃ log d', (upon x id readOnly none).lock d = (.ok (), upon x id readOnly (some log), d') ∧
        Disk.Logging b x id log d' db := by
  have hlock : (upon x id readOnly none).lock d = (upon x id readOnly none).seekLog d := by
    rw [lock, if_neg (by simp [upon]), settleJournal_of_rests readOnly h hx]
  have hplace : (upon x id readOnly none).logPlace = Part.log.placeAt x := rfl
  have hblank : (upon x id readOnly none).isBlank d = false := h.written
  rw [hlock, seekLog]
  rw [hplace, hblank]
  cases hholds : d.holdsSomething (Part.log.placeAt x) with
  | true =>
    simp only [if_true, Bool.false_eq_true, if_false]
    exact .inr (openLog_of_rests readOnly h hx)
  | false =>
    simp only [Bool.false_eq_true, if_false]
    cases hlogged : (upon x id readOnly none).isLogged d with
    | true =>
      simp only [if_true]
      exact .inr (openLog_of_rests readOnly h hx)
    | false =>
      refine .inl ⟨rfl, ?_⟩
      -- a log that counts for nothing is missing or empty
      rw [h.hosts.holdsSomething_eq hx .log] at hholds
      by_contra hsome
      obtain ⟨db', hdb'⟩ := Option.ne_none_iff_exists'.1 hsome
      rw [Disk.logSight?] at hdb'
      split at hdb'
      · rename_i k hk
        rw [hk] at hholds
        cases hc : d.content k with
        | log db => simp [hc, Content.raw, logMark] at hholds
        | bytes bs =>
          rw [hc] at hdb'
          cases hdb'
        | database db =>
          rw [hc] at hdb'
          cases hdb'
      · cases hdb'

/-! ## Writing and closing -/

/-- What is in an open log is what is to be seen there. -/
theorem loggedDatabase?_upon (readOnly : Bool)
    (hplace : d.shape? (Part.log.placeAt x) = some log.shape) :
    (upon x id readOnly (some log)).loggedDatabase? d = d.logSight? x := by
  obtain ⟨file, writable⟩ := log
  cases file with
  | none =>
    rw [Disk.logSight?_of_ne_file (by simp [hplace, OpenLog.shape])]
    rfl
  | some k =>
    rw [Disk.logSight?_of_file hplace]
    simp only [loggedDatabase?, upon]
    cases d.content k <;> rfl

theorem database?_upon (readOnly : Bool)
    (hplace : d.shape? (Part.log.placeAt x) = some log.shape) :
    (upon x id readOnly (some log)).database? d = d.sight? x id := by
  rw [database?, loggedDatabase?_upon readOnly hplace]
  rfl

/-- Closing a file whose log nobody else has open. -/
theorem close_upon (readOnly : Bool) (hlogs : d.openLogs = [(id, log)]) :
    (upon x id readOnly (some log)).close d =
      if (upon x id readOnly (some log)).carriesOver log { d with openLogs := [] } then
        (upon x id readOnly (some log)).carryOver { d with openLogs := [] }
      else { d with openLogs := [] } := by
  have hclosed : d.openLogs.erase (id, log) = [] := by
    rw [hlogs]
    simp
  rw [← hclosed]
  rfl

end OpenFile

namespace Disk.Logging

variable {b d : Disk} {x : RealPath} {id : FileId} {db : Database} {readOnly : Bool} {log : OpenLog}

theorem lock (readOnly : Bool) (log : OpenLog) (d : Disk) :
    (OpenFile.upon x id readOnly (some log)).lock d =
      (.ok (), .upon x id readOnly (some log), d) := by
  simp [OpenFile.lock, OpenFile.upon]

theorem database?_eq (readOnly : Bool) (h : Logging b x id log d db) :
    (OpenFile.upon x id readOnly (some log)).database? d = some db :=
  (OpenFile.database?_upon readOnly h.place).trans h.sight

/-- **A change goes to the log**, if nothing stands in its way. -/
theorem store (h : Logging b x id log d db)
    (hfree : (OpenFile.upon x id false (some log)).obstacle? d = none) (db' : Database) :
    Logging b x id log ((OpenFile.upon x id false (some log)).store db' d) db' := by
  obtain ⟨file, writable⟩ := log
  cases file with
  | none => cases writable <;> cases hfree
  | some k =>
    have hk : d.shape? (Part.log.placeAt x) = some (.file k) := h.place
    have hid : id ≠ k := by
      rintro rfl
      cases h.hosts.apart _ _ id hk (show d.shape? (Part.file.placeAt x) = _ from h.hosts.file)
    refine ⟨h.hosts.setContent hk (by decide) _, h.place, h.logs, ?_, ?_⟩
    · show (d.setContent k (.log db')).sight? x id = some db'
      rw [sight?, logSight?_of_file (d := d.setContent k (.log db')) hk,
        content_setContent_self (h.hosts.bounded .log k hk)]
      rfl
    · show ((d.setContent k (.log db')).content id).isBlank = false
      rw [content_setContent_of_ne hid]
      exact h.written

/-- Once the log is dropped, what is to be seen is in the file. -/
theorem rests_dropLog (hx : Berth x) (hd : Hosts b x id d) (hidle : d.openLogs = [])
    (hdb : (d.content id).database? = some db) (hwritten : (d.content id).isBlank = false) :
    Rests b x id ((d.dropFile (Part.log.placeAt x)).dropFile (Part.index.placeAt x)) db := by
  have hnone : ((d.dropFile (Part.log.placeAt x)).dropFile (Part.index.placeAt x)).logSight? x =
      none := by
    refine logSight?_of_ne_file fun k => ?_
    have hdir : d.shape? (Part.log.placeAt x) ≠ some .dir := fun hdir => by
      cases hd.kinds _ _ hdir
    have hne : Part.log.placeAt x ≠ Part.index.placeAt x :=
    Part.placeAt_ne hx.nonempty (by decide)
    rw [shape?_dropFile_of_ne hne, shape?_dropFile_self hdir]
    exact (Option.some_ne_none _).symm
  refine ⟨(hd.dropFile hx (by decide)).dropFile hx (by decide), ?_, ?_, ?_⟩
  · rw [openLogs_dropFile, openLogs_dropFile, hidle]
  · rw [sight?_of_logSight?_eq_none hnone, content_dropFile, content_dropFile, hdb]
  · rw [content_dropFile, content_dropFile]
    exact hwritten

/-- **A store that is closed rests**, and holds what it held: the log is carried over into the file, or
stays as it is. -/
theorem close (h : Logging b x id log d db) (hx : Berth x) (readOnly : Bool) :
    Rests b x id ((OpenFile.upon x id readOnly (some log)).close d) db := by
  have hshut : Rests b x id { d with openLogs := [] } db :=
    ⟨h.hosts.setLogs [], rfl, h.sight, h.written⟩
  have hlogged : (OpenFile.upon x id readOnly (some log)).loggedDatabase? { d with openLogs := [] } =
      d.logSight? x :=
    OpenFile.loggedDatabase?_upon readOnly h.place
  rw [OpenFile.close_upon readOnly h.logs]
  split
  · have hsight := h.sight
    rw [sight?] at hsight
    rw [OpenFile.carryOver, hlogged]
    cases hlog : d.logSight? x with
    | none =>
      rw [hlog] at hsight
      exact rests_dropLog hx hshut.hosts rfl hsight h.written
    | some db' =>
      rw [hlog, Option.some_inj] at hsight
      subst hsight
      have hcontent : (setContent { d with openLogs := [] } id (.database db')).content id =
          .database db' :=
        content_setContent_self (h.hosts.bounded .file id h.hosts.file) _
      have hhosts := hshut.hosts.setContent (show d.shape? (Part.file.placeAt x) = _ from h.hosts.file)
        (show Part.file ≠ .journal by decide) (.database db')
      exact rests_dropLog hx hhosts rfl (congrArg Content.database? hcontent)
        (congrArg Content.isBlank hcontent)
  · exact hshut

end Disk.Logging

namespace OpenFile.Holds

variable {b d d' : Disk} {x : RealPath} {id : FileId} {db : Database} {readOnly : Bool}
  {f f' : OpenFile}

/-- **What happens before a statement** does not change what the store holds. -/
theorem lock (h : f.Holds b x id readOnly d db) (hx : Berth x) :
    ∃ f' d', f.lock d = (.ok (), f', d') ∧ f'.Holds b x id readOnly d' db ∧
      f'.database? d' = some db ∧ (f'.log = none → d'.logSight? x = none) := by
  rcases h with ⟨rfl, hrests⟩ | ⟨log, rfl, hlogging⟩
  · rcases lock_of_rests readOnly hrests hx with ⟨hlock, hnone⟩ | ⟨log, d', hlock, hlogging⟩
    · refine ⟨_, d, hlock, .inl ⟨rfl, hrests⟩, ?_, fun _ => hnone⟩
      rw [← hrests.sight, Disk.sight?_of_logSight?_eq_none hnone]
      rfl
    · exact ⟨_, d', hlock, .inr ⟨log, rfl, hlogging⟩, hlogging.database?_eq readOnly,
        fun hlog => by cases hlog⟩
  · exact ⟨_, d, Disk.Logging.lock readOnly log d, .inr ⟨log, rfl, hlogging⟩,
      hlogging.database?_eq readOnly, fun hlog => by cases hlog⟩

/-- **Closing the file** leaves a store that rests. -/
theorem close (h : f.Holds b x id readOnly d db) (hx : Berth x) : Disk.Rests b x id (f.close d) db := by
  rcases h with ⟨rfl, hrests⟩ | ⟨log, rfl, hlogging⟩
  · exact hrests
  · exact hlogging.close hx readOnly

/-- Storing a database in the file, by way of a journal. -/
theorem store_file (h : Disk.Rests b x id d db) (hx : Berth x) (hnone : d.logSight? x = none)
    (db' : Database) : Disk.Rests b x id ((upon x id readOnly none).store db' d) db' := by
  have hstore : (upon x id readOnly none).store db' d =
      (d.setContent id (.database db')).dropFile (Part.journal.placeAt x) := rfl
  have hcontent : (d.setContent id (.database db')).content id = .database db' :=
    Disk.content_setContent_self (h.hosts.bounded .file id h.hosts.file) _
  have hhosts := h.hosts.setContent (show d.shape? (Part.file.placeAt x) = _ from h.hosts.file)
    (by decide) (.database db')
  have hne : Part.log.placeAt x ≠ Part.journal.placeAt x :=
    Part.placeAt_ne hx.nonempty (by decide)
  have hsame : ((d.setContent id (.database db')).dropFile (Part.journal.placeAt x)).logSight? x =
      none := by
    rw [← hnone]
    refine Disk.logSight?_congr (Disk.shape?_dropFile_of_ne hne) fun k hk => ?_
    rw [Disk.content_dropFile]
    refine Disk.content_setContent_of_ne ?_ _
    rintro rfl
    cases h.hosts.apart _ _ k hk (show d.shape? (Part.file.placeAt x) = _ from h.hosts.file)
  rw [hstore]
  refine ⟨hhosts.dropFile hx (by decide), ?_, ?_, ?_⟩
  · rw [Disk.openLogs_dropFile]
    exact h.idle
  · rw [Disk.sight?_of_logSight?_eq_none hsame, Disk.content_dropFile, hcontent]
    rfl
  · rw [Disk.content_dropFile, hcontent]
    rfl

/-- **Making the database a logged one** changes nothing else, and may fail. -/
theorem configure (h : f.Holds b x id false d db) (hx : Berth x) {r : Except Fault Unit}
    (heq : f.configure d = (r, f', d')) :
    ∃ logged, f'.Holds b x id false d' { db with logged := logged } := by
  obtain ⟨f₁, d₁, hlock, h₁, hdb, hnone⟩ := h.lock hx
  simp only [OpenFile.configure, hlock, hdb] at heq
  split at heq
  · cases heq
    exact ⟨db.logged, h₁⟩
  · rename_i hopen
    split at heq
    · cases heq
      exact ⟨db.logged, h₁⟩
    · cases heq
      rcases h₁ with ⟨rfl, hrests⟩ | ⟨log, rfl, -⟩
      · exact ⟨true, .inl ⟨rfl, store_file hrests hx (hnone rfl) _⟩⟩
      · exact absurd rfl hopen

/-! ## Handles -/

variable {α : Type}

/-- **A handle sees what its store holds.** -/
theorem connect (p : Path) (h : f.Holds b x id readOnly d db) (hx : Berth x) :
    ∃ f' d', Handle.connect ⟨p, .shared f, none⟩ d =
        (.ok ⟨f'.obstacle? d', db, none, false⟩, ⟨p, .shared f', none⟩, d') ∧
      f'.Holds b x id readOnly d' db := by
  obtain ⟨f', d', hlock, h', hdb, -⟩ := h.lock hx
  refine ⟨f', d', ?_, h'⟩
  simp only [Handle.connect, Handle.lock, hlock, Handle.stored?, hdb]
  rfl

theorem apply (p : Path) (h : f.Holds b x id readOnly d db) (hx : Berth x)
    (g : Connection → Except Fault α × Connection)
    (hg : ∀ c, c.stored = db → c.working = none → c.changed = false → (g c).2 = c) :
    ∃ r f' d', Handle.apply ⟨p, .shared f, none⟩ d g = (r, ⟨p, .shared f', none⟩, d') ∧
      f'.Holds b x id readOnly d' db := by
  obtain ⟨f', d', hconnect, h'⟩ := h.connect p hx
  refine ⟨(g ⟨f'.obstacle? d', db, none, false⟩).1, f', d', ?_, h'⟩
  have hsame := hg ⟨f'.obstacle? d', db, none, false⟩ rfl rfl rfl
  simp only [Handle.apply, hconnect, hsame]
  rfl

theorem read (p : Path) (h : f.Holds b x id readOnly d db) (hx : Berth x)
    (g : Database → Except Fault α) :
    ∃ f' d', Handle.read ⟨p, .shared f, none⟩ d g = (g db, ⟨p, .shared f', none⟩, d') ∧
      f'.Holds b x id readOnly d' db := by
  obtain ⟨f', d', hconnect, h'⟩ := h.connect p hx
  refine ⟨f', d', ?_, h'⟩
  rw [Handle.read, Handle.apply, hconnect]
  rfl

end OpenFile.Holds
end SyntaxGraph
