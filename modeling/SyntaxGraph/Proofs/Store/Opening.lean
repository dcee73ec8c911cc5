import SyntaxGraph.Proofs.Store.Resting
import SyntaxGraph.Proofs.Store.Tidy

/-!
# What opening a store leaves

A store that was opened for writing has its log open: the log is opened before the first statement if
there is a reason to, and if there was none, there is one after the database has been made a logged
one.  So whatever stood in the way of opening the log has been met by then, and a journal that was left
behind has been dealt with.  From this it follows what stands at the places of the store
(`OpenFile.logging_of_openLog`).

## What is here

* `Location.read_of_unmarked`, `Store.attach_eq_ok` — where a path leads that is not taken apart.
* `OpenFile.Begun` — what holds while a store is opened, whatever is found on the way.
* `OpenFile.exists_openLog` — by the time the tables are made, the log has been opened, on a disk that has
  the same database to start from.
* `OpenFile.logging_of_openLog` — what then stands at the places of the store, and what it holds.
-/

set_option autoImplicit false
namespace SyntaxGraph

/-! ## Paths that are not taken apart -/

namespace Location

variable {p : Path} {access : Access} {l : Location}

theorem zero_notMem_of_read (h : read p access = .ok l) : 0 ∉ p.bytes := by
  rw [read] at h
  split at h
  · cases h
  · rename_i hzero
    exact List.idxOf?_eq_none_iff.1 hzero

/-- A path without the mark is the name of a file as it stands, unless it is one of the two that mean no
file. -/
theorem read_of_unmarked (hmark : mark.isPrefixOf p.bytes = false) (hzero : 0 ∉ p.bytes)
    (haccess : access ≠ .memory) :
    read p access = .ok ⟨p, access, p.bytes == [] || p.bytes == Utf8.ofString ":memory:", false, false,
      false⟩ := by
  have hspelled : spelled p = .ok ⟨p.bytes, []⟩ := by
    rw [spelled, hmark, if_neg Bool.false_ne_true]
  have hmode : (access == Access.memory) = false := beq_eq_false_iff_ne.2 haccess
  have hadjusted : ([] : List (Bytes × Bytes)).foldlM adjust access = .ok access := rfl
  rw [read, List.idxOf?_eq_none_iff.2 hzero, hspelled]
  simp [ofSpelled, hadjusted, hmode, system, option?, isSet, systems, systemsWithoutLog]

end Location

namespace Store

variable {p : Path} {d d' : Disk} {h : Handle}

/-- Attaching at a path that is not taken apart and means a file. -/
theorem attach_eq_ok {access : Access} (hmark : Location.mark.isPrefixOf p.bytes = false)
    (hne : p.bytes ≠ []) (hmemory : p.bytes ≠ Utf8.ofString ":memory:") (haccess : access ≠ .memory)
    (heq : attach p access d = (.ok h, d')) :
    ∃ x id, h = ⟨p, .shared (.upon x id (access == .read) none), none⟩ ∧ d.settle p = some x ∧
      d.fileAt p access x = .ok (id, d') := by
  rw [attach] at heq
  split at heq
  · cases heq
  · rename_i l hread
    rw [Location.read_of_unmarked hmark (Location.zero_notMem_of_read hread) haccess] at hread
    cases hread
    rw [if_neg (by simp [hne, hmemory])] at heq
    split at heq
    · cases heq
    · rename_i file d₁ hopen
      cases heq
      obtain ⟨x, id, hx, hfile, rfl⟩ := Disk.openFile_eq_ok hopen
      exact ⟨x, id, rfl, hx, hfile⟩

/-- Attaching to a file that is there, or is made. -/
theorem attach_of_fileAt {access : Access} (hmark : Location.mark.isPrefixOf p.bytes = false)
    (haccess : access ≠ .memory) (hzero : 0 ∉ p.bytes) (hne : p.bytes ≠ [])
    (hmemory : p.bytes ≠ Utf8.ofString ":memory:") {x : RealPath} {id : FileId}
    (hx : d.settle p = some x) (hfile : d.fileAt p access x = .ok (id, d')) :
    attach p access d = (.ok ⟨p, .shared (.upon x id (access == .read) none), none⟩, d') := by
  have hshared : (p.bytes == [] || p.bytes == Utf8.ofString ":memory:") = false := by
    rw [beq_false_of_ne hne, beq_false_of_ne hmemory]
    rfl
  simp only [attach, Location.read_of_unmarked hmark hzero haccess, hshared, Bool.false_eq_true,
    if_false, Disk.openFile, hx, hfile]
  rfl

/-- Attaching to a file that is there. -/
theorem attach_of_file {access : Access} (hmark : Location.mark.isPrefixOf p.bytes = false)
    (haccess : access ≠ .memory) (hzero : 0 ∉ p.bytes) (hne : p.bytes ≠ [])
    (hmemory : p.bytes ≠ Utf8.ofString ":memory:") {x : RealPath} {id : FileId}
    (hx : d.settle p = some x) (hfile : d.shape? x = some (.file id)) :
    attach p access d = (.ok ⟨p, .shared (.upon x id (access == .read) none), none⟩, d) := by
  refine attach_of_fileAt hmark haccess hzero hne hmemory hx ?_
  rw [Disk.fileAt, Disk.shape?_eq_file.1 hfile]

end Store

/-! ## What holds while a store is opened -/

/-- Every file of the disk has a content. -/
def Disk.Stocked (d : Disk) : Prop :=
  ∀ x k, d.shape? x = some (.file k) → k < d.contents.length

namespace Disk

variable {d : Disk} {x : RealPath}

theorem Stocked.addFile (h : d.Stocked) (hnone : d.shape? x = none) (c : Content) :
    (d.addFile x c).2.Stocked := by
  intro y k hy
  rw [length_addFile]
  rcases shape?_of_addFile hnone hy with ⟨-, hk⟩ | ⟨-, hy⟩
  · cases hk
    exact Nat.lt_succ_self _
  · exact Nat.lt_succ_of_lt (h y k hy)

end Disk

namespace OpenFile

/-- An open file, on a disk that has come from the disk `a` by making and dropping files.  Neither the log
nor the journal was a link, so no link has been dropped; nothing has been made in the place of the
journal. -/
structure Begun (a : Disk) (x : RealPath) (id : FileId) (f : OpenFile) (d : Disk) : Prop where
  nonempty : x ≠ []
  file : ∃ log, f = .upon x id false log
  uses : f.Uses (fun _ => True) a d
  unlinked : a.Unlinked x
  ways : a.KeepsWays d
  journal : ∀ s, d.shape? (Part.journal.placeAt x) = some s →
    a.shape? (Part.journal.placeAt x) = some s
  there : d.shape? x = some (.file id)
  apart : d.Apart x
  stocked : d.Stocked

namespace Begun

variable {a d d' : Disk} {x : RealPath} {id : FileId} {f f' : OpenFile}

theorem bound (h : Begun a x id f d) : id < d.contents.length :=
  h.stocked x id h.there

theorem directory (h : Begun a x id f d) : d.shape? x.dropLast = some .dir :=
  Disk.shape?_dropLast_of_file h.there

theorem dropFile (h : Begun a x id f d) {y : RealPath} (hy : y = f.journal ∨ y = f.logPlace) :
    Begun a x id f (d.dropFile y) := by
  obtain ⟨part, hpart, rfl⟩ : ∃ part : Part, (part = .log ∨ part = .journal) ∧ y = part.placeAt x := by
    obtain ⟨log, rfl⟩ := h.file
    rcases hy with rfl | rfl
    · exact ⟨.journal, .inr rfl, rfl⟩
    · exact ⟨.log, .inl rfl, rfl⟩
  have hfile : Part.file.placeAt x ≠ part.placeAt x :=
    Part.placeAt_ne h.nonempty (by rcases hpart with rfl | rfl <;> decide)
  refine ⟨h.nonempty, h.file, h.uses.dropFile trivial, h.unlinked, fun z s hs hz => ?_,
    fun s hs => h.journal s (Disk.shape?_of_dropFile hs), (Disk.shape?_dropFile_of_ne hfile).trans h.there,
    h.apart.mono fun _ _ => Disk.shape?_of_dropFile, fun z k hz => ?_⟩
  · have hthere := h.ways z s hs hz
    by_cases hne : z = part.placeAt x
    · subst hne
      cases s with
      | dir =>
        rw [Disk.dropFile_of_shape?_eq_dir hthere]
        exact hthere
      | link target => exact absurd hz (h.unlinked part hpart target)
      | file k => cases hs
      | pipe => cases hs
    · exact (Disk.shape?_dropFile_of_ne hne).trans hthere
  · rw [Disk.contents_dropFile]
    exact h.stocked z k (Disk.shape?_of_dropFile hz)

theorem addFile (h : Begun a x id f d) {part : Part} (hpart : part ≠ .journal)
    (hnone : d.shape? (part.placeAt x) = none) (c : Content) :
    Begun a x id f (d.addFile (part.placeAt x) c).2 := by
  have hkept {z : RealPath} {s : Shape} (hz : d.shape? z = some s) :
      (d.addFile (part.placeAt x) c).2.shape? z = some s := by
    refine (Disk.shape?_addFile_of_ne c (by simp [hnone]) ?_).trans hz
    rintro rfl
    cases hnone.symm.trans hz
  refine ⟨h.nonempty, h.file, h.uses.addFile trivial (Disk.shape?_eq_none.1 hnone) c, h.unlinked,
    fun z s hs hz => hkept (h.ways z s hs hz), fun s hs => ?_, hkept h.there,
    h.apart.addFile h.nonempty (fun _ k hk => h.stocked _ k hk) hnone c, h.stocked.addFile hnone c⟩
  rcases Disk.shape?_of_addFile hnone hs with ⟨heq, -⟩ | ⟨-, hs⟩
  · exact absurd (Part.placeAt_inj h.nonempty heq).symm hpart
  · exact h.journal s hs

theorem setContent (h : Begun a x id f d) (k : FileId) (c : Content)
    (huses : f.Uses (fun _ => True) a (d.setContent k c)) : Begun a x id f (d.setContent k c) where
  nonempty := h.nonempty
  file := h.file
  uses := huses
  unlinked := h.unlinked
  ways := h.ways
  journal := h.journal
  there := h.there
  apart := h.apart
  stocked z j hz := by
    rw [Disk.length_setContent]
    exact h.stocked z j hz

end Begun

/-! ## Opening the log -/

section OpenLog

variable {d d' : Disk} {x : RealPath} {id : FileId} {readOnly : Bool} {f' : OpenFile}

/-- The file of the log was there, or a pipe, or it was made. -/
theorem openLogFile_eq_ok {file : Option FileId}
    (heq : (upon x id readOnly none).openLogFile d = .ok (file, d')) :
    Disk.isNameTooLong (Part.log.placeAt x) = false ∧
      (d.shape? (Part.log.placeAt x) = some (file.elim .pipe .file) ∧ d' = d ∨
        d.shape? (Part.log.placeAt x) = none ∧ file = some d.contents.length ∧
          d' = (d.addFile (Part.log.placeAt x) (.bytes [])).2) := by
  rw [openLogFile] at heq
  rw [show (upon x id readOnly none).logPlace = Part.log.placeAt x from rfl] at heq
  split at heq
  · cases heq
  · rename_i hshort
    refine ⟨by simpa using hshort, ?_⟩
    split at heq
    · rename_i k he
      cases heq
      exact .inl ⟨Disk.shape?_eq_file.2 he, rfl⟩
    · rename_i he
      cases heq
      exact .inl ⟨by rw [Disk.shape?, he]; rfl, rfl⟩
    · cases heq
    · rename_i he
      cases heq
      exact .inr ⟨Disk.shape?_eq_none.2 he, rfl, rfl⟩

/-- The index of the log was there, or a directory, or it was made. -/
theorem openIndex_eq_ok {writable : Bool} (hidle : d.openLogs = [])
    (heq : (upon x id readOnly none).openIndex d = .ok (writable, d')) :
    (∃ k, d.shape? (Part.index.placeAt x) = some (.file k) ∧
        d' = d.setContent k (.bytes indexMark)) ∨
      (d.shape? (Part.index.placeAt x) = some .dir ∧ d' = d) ∨
      (d.shape? (Part.index.placeAt x) = none ∧
        d' = (d.addFile (Part.index.placeAt x) (.bytes indexMark)).2) := by
  rw [openIndex] at heq
  rw [show (upon x id readOnly none).indexPlace = Part.index.placeAt x from rfl, hidle] at heq
  rw [List.lookup_nil, show (upon x id readOnly none).fileless = false from rfl] at heq
  simp only [Bool.false_eq_true, if_false] at heq
  split at heq
  · rename_i k he
    cases heq
    exact .inl ⟨k, Disk.shape?_eq_file.2 he, rfl⟩
  · rename_i es he
    cases heq
    exact .inr (.inl ⟨Disk.shape?_eq_dir.2 ⟨es, he⟩, rfl⟩)
  · cases heq
  · cases heq
  · rename_i he
    cases heq
    exact .inr (.inr ⟨Disk.shape?_eq_none.2 he, rfl⟩)

/-- A log that was opened has its file and its index. -/
theorem openLog_eq_ok (heq : (upon x id readOnly none).openLog d = (.ok (), f', d')) :
    ∃ log e₁ e₂, (upon x id readOnly none).openLogFile d = .ok (log.file, e₁) ∧
      (upon x id readOnly none).openIndex e₁ = .ok (log.writable, e₂) ∧
      f' = upon x id readOnly (some log) ∧
      d' = { e₂ with openLogs := e₂.openLogs ++ [(id, log)] } := by
  rw [openLog] at heq
  split at heq
  · cases heq
  split at heq
  · cases heq
  split at heq
  · cases heq
  · rename_i file e₁ hfile
    split at heq
    · cases heq
    · rename_i writable e₂ hindex
      simp only [Prod.mk.injEq] at heq
      exact ⟨⟨file, writable⟩, e₁, e₂, hfile, hindex, heq.2.1.symm, heq.2.2.symm⟩

end OpenLog

namespace Begun

variable {a d d' : Disk} {x : RealPath} {id : FileId} {f f' : OpenFile}

theorem idle (h : Begun a x id f d) (hlog : f.log = none) : d.openLogs = [] := by
  rw [h.uses.logs, hlog]
  rfl

/-- Opening the log, which may fail on the way. -/
theorem openLog (h : Begun a x id f d) (hlog : f.log = none) {r : Except Fault Unit}
    (heq : f.openLog d = (r, f', d')) : Begun a x id f' d' := by
  have huses := h.uses.openLog hlog heq
  obtain ⟨log, rfl⟩ := h.file
  cases hlog
  rw [OpenFile.openLog] at heq
  split at heq
  · cases heq
    exact h
  split at heq
  · cases heq
    exact h
  split at heq
  · cases heq
    exact h
  · rename_i file d₁ hfile
    have huses₁ := (h.uses.openLogFile hfile).1
    obtain ⟨-, hcases⟩ := openLogFile_eq_ok hfile
    have h₁ : Begun a x id (upon x id false none) d₁ := by
      rcases hcases with ⟨-, rfl⟩ | ⟨hnone, -, rfl⟩
      · exact h
      · exact h.addFile (by decide) hnone _
    split at heq
    · cases heq
      exact h₁
    · rename_i writable d₂ hindex
      have h₂ : Begun a x id (upon x id false none) d₂ := by
        have huses₂ := h₁.uses.openIndex hindex
        rcases openIndex_eq_ok (h₁.idle rfl) hindex with ⟨k, -, rfl⟩ | ⟨-, rfl⟩ | ⟨hnone, rfl⟩
        · exact h₁.setContent k _ huses₂
        · exact h₁
        · exact h₁.addFile (by decide) hnone _
      cases heq
      exact ⟨h₂.nonempty, ⟨_, rfl⟩, huses, h₂.unlinked, h₂.ways, h₂.journal, h₂.there, h₂.apart,
        h₂.stocked⟩

theorem store (h : Begun a x id f d) (db : Database) : Begun a x id f (f.store db d) := by
  have huses := h.uses.store db
  rw [OpenFile.store] at huses ⊢
  split
  · rename_i k w hlog
    exact h.setContent k _ (h.uses.setContent (h.uses.log k w hlog) _)
  · exact h
  · exact (h.setContent f.id _ (h.uses.setContent h.uses.file _)).dropFile (.inl rfl)

/-- **While a store is opened**, files are made and dropped, and nothing else. -/
theorem kept (a : Disk) (x : RealPath) (id : FileId) : Kept (Begun a x id) where
  dropFile h hx := h.dropFile hx
  openLog h hlog heq := h.openLog hlog heq
  store h db := h.store db

end Begun

/-! ## The log has been opened -/

section Opened

variable {a d d' d'' : Disk} {x : RealPath} {id : FileId} {f' f'' : OpenFile} {log : OpenLog}

/-- A journal that was dealt with was dropped or left alone. -/
theorem settleJournal_eq_ok {f : OpenFile} (heq : f.settleJournal d = .ok d') :
    d' = d ∨ d' = d.dropFile f.journal := by
  rw [settleJournal] at heq
  split at heq
  · cases heq
    exact .inl rfl
  split at heq
  · cases heq
    split
    · exact .inl rfl
    · exact .inr rfl
  split at heq
  · cases heq
  split at heq
  · cases heq
  · cases heq
  · split at heq
    · cases heq
      exact .inl rfl
    split at heq
    · cases heq
    · cases heq
      exact .inr rfl
  · cases heq
    exact .inl rfl

theorem content_of_settleJournal {f : OpenFile} (heq : f.settleJournal d = .ok d') (k : FileId) :
    d'.content k = d.content k := by
  rcases settleJournal_eq_ok heq with rfl | rfl
  · rfl
  · exact Disk.content_dropFile d _ k

/-- A file that is blank does not say that its database is logged. -/
theorem isLogged_of_isBlank {f : OpenFile} (h : f.isBlank d = true) : f.isLogged d = false := by
  rw [isBlank] at h
  rw [isLogged]
  cases hc : d.content f.id with
  | database db =>
    rw [hc] at h
    cases h
  | bytes bs => rfl
  | log db => rfl

/-- Dealing with the journal changes nothing of what is to be seen. -/
theorem sight?_of_settleJournal (hx : x ≠ []) (heq : (upon x id false none).settleJournal d = .ok d') :
    d'.sight? x id = d.sight? x id := by
  have hlog : d'.logSight? x = d.logSight? x := by
    refine Disk.logSight?_congr ?_ fun k _ => content_of_settleJournal heq k
    rcases settleJournal_eq_ok heq with rfl | rfl
    · rfl
    · exact Disk.shape?_dropFile_of_ne (Part.placeAt_ne hx (show Part.log ≠ .journal by decide))
  rw [Disk.sight?, Disk.sight?, hlog, content_of_settleJournal heq]

/-- What happens before the first statement: the log is opened, or there is no reason to.  Beside a blank
file it is dropped. -/
theorem lock_eq_ok (heq : (upon x id false none).lock d = (.ok (), f', d')) :
    ∃ e, (upon x id false none).settleJournal d = .ok e ∧
      ((f' = upon x id false none ∧ (upon x id false none).isLogged d = false ∧
          (d' = e ∧ e.holdsSomething (Part.log.placeAt x) = false ∨
            d' = e.dropFile (Part.log.placeAt x) ∧ (e.content id).isBlank = true ∧
              e.isRealDir (Part.log.placeAt x) = false)) ∨
        (e.content id).isBlank = false ∧ (upon x id false none).openLog e = (.ok (), f', d')) := by
  rw [lock, if_neg (by simp [upon])] at heq
  split at heq
  · cases heq
  · rename_i e hjournal
    refine ⟨e, hjournal, ?_⟩
    have hlogged : (upon x id false none).isLogged d = (upon x id false none).isLogged e := by
      rw [isLogged, isLogged, show (upon x id false none).id = id from rfl,
        content_of_settleJournal hjournal]
    rw [hlogged]
    rw [seekLog, show (upon x id false none).logPlace = Part.log.placeAt x from rfl] at heq
    split at heq
    · split at heq
      · rename_i hblank
        split at heq
        · cases heq
        · rename_i hdir
          cases heq
          exact .inl ⟨rfl, isLogged_of_isBlank hblank, .inr ⟨rfl, hblank, Bool.eq_false_iff.2 hdir⟩⟩
      · rename_i hblank
        exact .inr ⟨Bool.eq_false_iff.2 hblank, heq⟩
    · rename_i hnothing
      split at heq
      · rename_i hlogged
        refine .inr ⟨Bool.eq_false_iff.2 fun hblank => ?_, heq⟩
        rw [isLogged_of_isBlank (f := upon x id false none) hblank] at hlogged
        cases hlogged
      · rename_i hlogged
        cases heq
        exact .inl ⟨rfl, Bool.eq_false_iff.2 hlogged, .inl ⟨rfl, Bool.eq_false_iff.2 hnothing⟩⟩

/-- **As long as the log has not been opened** there is nothing in it, and the file shows what the store
starts from. -/
theorem start?_of_lock (hx : Berth x) (h : Begun a x id (upon x id false none) d)
    (heq : (upon x id false none).lock d = (.ok (), upon x id false none, d')) :
    d'.logSight? x = none ∧ (d'.content id).database? = d.start? x id := by
  obtain ⟨e, hjournal, ⟨-, -, hcases⟩ | ⟨-, hopen⟩⟩ := lock_eq_ok heq
  · have hsight := sight?_of_settleJournal hx.nonempty hjournal
    rw [Disk.start?, ← content_of_settleJournal hjournal, ← hsight]
    rcases hcases with ⟨rfl, hnothing⟩ | ⟨rfl, hblank, hdir⟩
    · have hnone : Disk.logSight? d' x = none :=
        hx.logSight?_eq_none ((Begun.kept a x id).settleJournal h hjournal).directory hnothing
      refine ⟨hnone, ?_⟩
      rw [Disk.sight?_of_logSight?_eq_none hnone]
      split
      · rename_i hblank
        exact Content.database?_of_isBlank hblank
      · rfl
    · refine ⟨Disk.logSight?_of_ne_file fun k hk => ?_, ?_⟩
      · rw [Disk.shape?_dropFile_self fun hthere => by
          rw [Disk.isRealDir_iff.2 hthere] at hdir
          cases hdir] at hk
        cases hk
      · rw [Disk.content_dropFile, if_pos hblank]
        exact Content.database?_of_isBlank hblank
  · obtain ⟨log, -, -, -, -, hf, -⟩ := openLog_eq_ok hopen
    cases congrArg OpenFile.log hf

/-- Once a database is stored without a log, a store starts from it. -/
theorem start?_of_store (h : Begun a x id (upon x id false none) d) (hlog : d.logSight? x = none)
    (db : Database) : ((upon x id false none).store db d).start? x id = some db := by
  have hcontent : ((upon x id false none).store db d).content id = .database db := by
    show ((d.setContent id _).dropFile _).content id = _
    rw [Disk.content_dropFile, Disk.content_setContent_self h.bound]
  have hnone : ((upon x id false none).store db d).logSight? x = none := by
    rw [← hlog]
    refine Disk.logSight?_congr ?_ fun k hk => ?_
    · exact Disk.shape?_dropFile_of_ne (Part.placeAt_ne h.nonempty (show Part.log ≠ .journal by decide))
    · show ((d.setContent id _).dropFile _).content k = _
      rw [Disk.content_dropFile, Disk.content_setContent_of_ne]
      rintro rfl
      cases h.apart .file .log _ h.there hk
  rw [Disk.start?, Disk.sight?_of_logSight?_eq_none hnone, hcontent]
  rfl

/-- **By the time the tables are made, the log has been opened**, and the journal has been dealt with.  The
database is still the one that the store started from, but for being logged. -/
theorem exists_openLog (h : Begun a x id (upon x id false none) d)
    (hconfigure : (upon x id false none).configure d = (.ok (), f', d'))
    (hlock : f'.lock d' = (.ok (), f'', d'')) :
    ∃ e e', Begun a x id (upon x id false none) e ∧
      (upon x id false none).settleJournal e = .ok e' ∧ (e'.content id).isBlank = false ∧
      (upon x id false none).openLog e' = (.ok (), f'', d'') ∧
      (Berth x → ∀ db, e.start? x id = some db →
        ∃ start logged, d.start? x id = some start ∧ db = { start with logged := logged }) := by
  rw [configure] at hconfigure
  split at hconfigure
  · cases hconfigure
  · rename_i f₁ d₁ hfirst
    have h₁ := (Begun.kept a x id).lock h hfirst
    split at hconfigure
    · cases hconfigure
    · rename_i db hdb
      obtain ⟨e, hjournal, ⟨rfl, -, -⟩ | ⟨hwritten, hopen⟩⟩ := lock_eq_ok hfirst
      · -- there was no reason to open the log, so the database is made a logged one
        simp only [show (upon x id false none).log = none from rfl,
          show (upon x id false none).immutable = false from rfl,
          show (upon x id false none).unlocked = false from rfl, Option.isSome_none, Bool.or_false,
          Bool.false_eq_true, if_false] at hconfigure
        split at hconfigure
        · cases hconfigure
        · cases hconfigure
          obtain ⟨e, hjournal, ⟨-, hlogged, -⟩ | ⟨hwritten, hopen⟩⟩ := lock_eq_ok hlock
          · have hcontent : ((upon x id false none).store { db with logged := true } d₁).content id =
                .database { db with logged := true } := by
              show ((d₁.setContent id _).dropFile _).content id = _
              rw [Disk.content_dropFile, Disk.content_setContent_self h₁.bound]
            rw [isLogged, show (upon x id false none).id = id from rfl, hcontent] at hlogged
            cases hlogged
          · refine ⟨_, e, h₁.store _, hjournal, hwritten, hopen, fun hx db' hdb' => ?_⟩
            obtain ⟨hnone, hstart⟩ := start?_of_lock hx h hfirst
            rw [start?_of_store h₁ hnone, Option.some_inj] at hdb'
            exact ⟨db, true, hstart.symm.trans hdb, hdb'.symm⟩
      · obtain ⟨log, -, -, -, -, rfl, -⟩ := openLog_eq_ok hopen
        simp only [show (upon x id false (some log)).log = some log from rfl, Option.isSome_some,
          Bool.true_or, if_true] at hconfigure
        cases hconfigure
        rw [Disk.Logging.lock] at hlock
        cases hlock
        exact ⟨d, e, h, hjournal, hwritten, hopen, fun _ db hdb => ⟨db, db.logged, hdb, rfl⟩⟩

/-- A journal that has been dealt with says nothing. -/
theorem calm_of_settleJournal (hx : Berth x) (hdir : d.shape? x.dropLast = some .dir)
    (heq : (upon x id false none).settleJournal d = .ok d')
    (hwritten : (d'.content id).isBlank = false)
    (hlink : ∀ target, d'.shape? (Part.journal.placeAt x) ≠ some (.link target))
    (hnames : ∀ m ∈ Part.journal.placeAt x, Disk.ProperName m) {s : Shape}
    (hs : d'.shape? (Part.journal.placeAt x) = some s) :
    s = .pipe ∨ ∃ k, s = .file k ∧
      ((d'.content k).raw = [] ∨ (d'.content k).raw.head? = some 0) := by
  have hcontent : d'.content id = d.content id := content_of_settleJournal heq id
  have hblank : (upon x id false none).isBlank d = false := by
    rw [← hwritten, hcontent]
    rfl
  rw [settleJournal, show (upon x id false none).journal = Part.journal.placeAt x from rfl,
    hblank] at heq
  split at heq
  · rename_i hholds
    cases heq
    obtain ⟨e, rfl, hfind⟩ := hx.find_of_some hdir .journal hnames hs fun target heq =>
      hlink target (heq ▸ hs)
    rw [Disk.holdsSomething, hfind] at hholds
    cases e with
    | file k =>
      refine .inr ⟨k, rfl, .inl ?_⟩
      simpa using hholds
    | pipe => exact .inl rfl
    | link target => exact absurd hs (hlink target)
    | dir es => cases hholds
  · simp only [Bool.false_eq_true, if_false] at heq
    split at heq
    · cases heq
    split at heq
    · cases heq
    · cases heq
    · rename_i k he
      split at heq
      · rename_i hzero
        cases heq
        rw [Disk.shape?_eq_file.2 he] at hs
        cases hs
        exact .inr ⟨k, rfl, .inr hzero⟩
      split at heq
      · cases heq
      · cases heq
        rw [Disk.shape?_dropFile_self (by simp [Disk.shape?_eq_file.2 he])] at hs
        cases hs
    · rename_i hnodir hnolink hnofile
      cases heq
      obtain ⟨e, he, rfl⟩ := Option.map_eq_some_iff.1 hs
      cases e with
      | pipe => exact .inl rfl
      | file k => exact absurd he (hnofile k)
      | link target => exact absurd he (hnolink target)
      | dir es => exact absurd he (hnodir es)

/-- The log is opened where its name and that of the file are names. -/
theorem names_of_openLog (heq : (upon x id false none).openLog d = (.ok (), f', d')) :
    Disk.isNameTooLong (Part.log.placeAt x) = false ∧ ∀ n ∈ x, 0 ∉ n := by
  obtain ⟨log, e₁, e₂, hfile, -, -, -⟩ := openLog_eq_ok heq
  refine ⟨(openLogFile_eq_ok hfile).1, fun n hn hzero => ?_⟩
  have hspelled : Disk.spellingError? (Disk.spell x) = some .zeroByte := by
    have hmem : 0 ∈ (Disk.spell x).bytes := by
      rw [Disk.spell, if_neg (List.ne_nil_of_mem hn), List.mem_flatMap]
      exact ⟨n, hn, List.mem_cons_of_mem _ hzero⟩
    rw [Disk.spellingError?, if_pos (List.contains_iff_mem.2 hmem)]
  have hmissing : d.pathExists (Disk.spell x) = false := by
    simp only [Disk.pathExists, Disk.find, Disk.locate, hspelled]
  rw [openLog] at heq
  simp only [show (upon x id false none).unlocked = false from rfl,
    show (upon x id false none).real = x from rfl, hmissing, Bool.not_false, if_true,
    Bool.false_eq_true, if_false] at heq
  cases heq

/-- **Where the log can be opened**, nothing stands at the places of the store that it could not be used
with. -/
theorem hosts_of_openLog {e e' : Disk} (hx : Berth x) (hnamed : a.WellNamed)
    (h : Begun a x id (upon x id false none) e)
    (hjournal : (upon x id false none).settleJournal e = .ok e')
    (hwritten : (e'.content id).isBlank = false)
    (hopen : (upon x id false none).openLog e' = (.ok (), f', d)) : Disk.Hosts a x id e' := by
  have he' := (Begun.kept a x id).settleJournal h hjournal
  obtain ⟨log, e₁, e₂, hfile, hindex, -, -⟩ := openLog_eq_ok hopen
  have hlogFile := (openLogFile_eq_ok hfile).2
  -- what stands in the place of the index stood there before the file of the log was made
  have hindexShape : e₁.shape? (Part.index.placeAt x) = e'.shape? (Part.index.placeAt x) ∧
      e₁.openLogs = e'.openLogs := by
    rcases hlogFile with ⟨-, rfl⟩ | ⟨hnone, -, rfl⟩
    · exact ⟨rfl, rfl⟩
    · exact ⟨Disk.shape?_addFile_of_ne _ (by simp [hnone])
        (Part.placeAt_ne hx.nonempty (by decide)), rfl⟩
  have hnames {s : Shape} (hs : e'.shape? (Part.journal.placeAt x) = some s) :
      ∀ m ∈ Part.journal.placeAt x, Disk.ProperName m := by
    refine hnamed.of_shape? ?_
    rw [he'.journal s hs]
    exact Option.some_ne_none s
  have hcalm {s : Shape} (hs : e'.shape? (Part.journal.placeAt x) = some s) :=
    calm_of_settleJournal hx h.directory hjournal hwritten
      (fun target hlink => he'.unlinked .journal (.inr rfl) target (he'.journal _ hlink))
      (hnames hs) hs
  refine ⟨he'.ways, he'.uses.same.cwd, he'.directory, he'.there, fun part s hs => ?_,
    fun part hsome => ?_, fun k hk => ?_, fun part k hk => he'.stocked _ k hk, he'.apart⟩
  · cases part with
    | file =>
      cases he'.there.symm.trans hs
      rfl
    | log =>
      rcases hlogFile with ⟨hthere, -⟩ | ⟨hnone, -, -⟩
      · cases hthere.symm.trans hs
        obtain ⟨file, writable⟩ := log
        cases file <;> rfl
      · cases hnone.symm.trans hs
    | index =>
      rw [← hindexShape.1] at hs
      rcases openIndex_eq_ok (hindexShape.2.trans (he'.idle rfl)) hindex with
        ⟨k, hthere, -⟩ | ⟨hthere, -⟩ | ⟨hnone, -⟩
      · cases hthere.symm.trans hs
        rfl
      · cases hthere.symm.trans hs
        rfl
      · cases hnone.symm.trans hs
    | journal => rcases hcalm hs with rfl | ⟨k, rfl, -⟩ <;> rfl
  · by_cases hpart : part = .journal
    · subst hpart
      obtain ⟨s, hs⟩ := Option.ne_none_iff_exists'.1 hsome
      exact hnames hs
    · exact hx.properName_placeAt hpart
  · rcases hcalm hk with hpipe | ⟨j, hj, hnothing⟩
    · cases hpipe
    · cases hj
      exact hnothing

/-- **A store whose log has been opened** goes on holding what it started from. -/
theorem logging_of_openLog {e e' : Disk} (hx : Berth x) (hnamed : a.WellNamed)
    (h : Begun a x id (upon x id false none) e)
    (hjournal : (upon x id false none).settleJournal e = .ok e')
    (hwritten : (e'.content id).isBlank = false)
    (hopen : (upon x id false none).openLog e' = (.ok (), f', d)) :
    ∃ log, f' = upon x id false (some log) ∧
      ∀ db, f'.database? d = some db → Disk.Logging a x id log d db ∧ e.start? x id = some db := by
  have he' := (Begun.kept a x id).settleJournal h hjournal
  obtain ⟨log, d', hopen', hhosts, hplace, hlogs, hsight, hfile⟩ :=
    openLog_of_hosts false (hosts_of_openLog hx hnamed h hjournal hwritten hopen) (he'.idle rfl) hx
  cases hopen.symm.trans hopen'
  refine ⟨log, rfl, fun db hdb => ?_⟩
  rw [database?_upon false hplace] at hdb
  refine ⟨⟨hhosts, hplace, hlogs, hdb, hfile ▸ hwritten⟩, ?_⟩
  rw [content_of_settleJournal hjournal] at hwritten
  rw [Disk.start?, hwritten, if_neg Bool.false_ne_true, ← sight?_of_settleJournal hx.nonempty hjournal,
    ← hsight, hdb]

end Opened
end OpenFile

end SyntaxGraph
