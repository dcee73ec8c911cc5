import SyntaxGraph.Proofs.Disk.Removal
import SyntaxGraph.Proofs.Service.Answer
import SyntaxGraph.Proofs.Store.Reopening

/-!
# Removing a database

The file of a database is removed together with the files beside it, unless a directory stands in its
place: then everything is kept.  Whether there is something to remove is asked of what the path leads to,
links followed, but what is removed is the entry where the path ends; so a link to a file goes and the
file stays, and a link that leads nowhere stays as well.  Either way the path leads nowhere afterwards,
and an export finds no store.

Only paths that are taken apart are different.  One that begins with `file:` names another file to the
store than to the file system.  If a directory stands at the whole path it is kept, and then the store
is opened where the rest of the path leads.

## What is here

* `Disk.DirAt` — a directory that stands at a path, and not behind a link.
* `Cache.dirAt_of_remove` — what still exists after it was removed.
* `Service.exportContext_of_dirAt` — an export from a directory.
* `Service.clear_leaves_nothing` — the main result.
-/

set_option autoImplicit false
namespace SyntaxGraph

namespace Disk

variable {d d₀ : Disk} {p : Path} {S : RealPath → Prop}

/-- A directory stands at a path, not a link to one. -/
def DirAt (d : Disk) (p : Path) : Prop :=
  ∃ x es, d.find p .inspect = .ok (x, .dir es)

theorem DirAt.pathExists (h : d.DirAt p) : d.pathExists p := by
  obtain ⟨x, es, hfound⟩ := h
  exact pathExists_iff.2 ⟨x, .dir es, find_reach_of_inspect (by simp) hfound⟩

/-- The path of a directory is well spelled. -/
theorem DirAt.spelled (h : d.DirAt p) : 0 ∉ p.bytes ∧ p.bytes ≠ [] := by
  obtain ⟨x, es, hfound⟩ := h
  have hspelled := (find_eq_ok_iff.1 hfound).1
  refine ⟨zero_notMem_of_spellingError? hspelled, fun hnil => ?_⟩
  simp [spellingError?, hnil] at hspelled

theorem Loses.shape?_cwd (h : Loses S d₀ d) (hcwd : d₀.shape? d₀.cwd = some .dir) :
    d.shape? d.cwd = some .dir :=
  h.cwd ▸ h.dirs _ hcwd

/-- A path that leads somewhere led somewhere before. -/
theorem Loses.pathExists (h : Loses S d₀ d) (hcwd : d₀.shape? d₀.cwd = some .dir)
    (hexists : d.pathExists p) : d₀.pathExists p := by
  obtain ⟨x, e, hfound⟩ := pathExists_iff.1 hexists
  obtain ⟨e₀, hfound₀, -⟩ := h.find (h.shape?_cwd hcwd) hfound
  exact pathExists_iff.2 ⟨x, e₀, hfound₀⟩

end Disk

open Disk (DirAt Loses)

/-! ## One file -/

namespace Cache

variable {d d' : Disk} {p : Path} {S : RealPath → Prop}

theorem remove_of_missing (h : d.pathExists p = false) : remove d p = (d, none) := by
  rw [remove, h, if_neg Bool.false_ne_true]

/-- Removing a file takes things away, and nothing comes. -/
theorem loses_remove (d : Disk) (p : Path) : Loses (fun _ => True) d (remove d p).1 :=
  (Loses.refl _ d).remove fun _ _ => trivial

theorem loses_removeSideFiles (d : Disk) (ps : List Path) :
    Loses (fun _ => True) d (removeSideFiles d ps).1 :=
  (Loses.refl _ d).removeSideFiles fun _ _ _ _ => trivial

/-- **A directory is kept.** -/
theorem remove_of_dirAt (hp : p.bytes.getLast? ≠ some Path.slash) (h : d.DirAt p) :
    ∃ error, remove d p = (d, some error) := by
  obtain ⟨x, es, hfound⟩ := h
  obtain ⟨error, hunlink⟩ := Disk.unlink_of_dir hp hfound
  exact ⟨error, by rw [remove, DirAt.pathExists ⟨x, es, hfound⟩, if_pos rfl, hunlink]⟩

/-- **Anything else is removed**, if the path leads somewhere: the entry where the path ends. -/
theorem remove_of_not_dirAt (hcwd : d.shape? d.cwd = some .dir)
    (hp : p.bytes.getLast? ≠ some Path.slash) (hdir : ¬d.DirAt p) (hexists : d.pathExists p) :
    ∃ x e, d.find p .inspect = .ok (x, e) ∧ remove d p = (d.setEntry x none, none) ∧
      Disk.entry? (d.setEntry x none) x = none := by
  obtain ⟨y, e', hreach⟩ := Disk.pathExists_iff.1 hexists
  obtain ⟨x, e, hfound⟩ := Disk.find_inspect_of_reach hreach
  have hshape : e.shape ≠ .dir := by
    intro hshape
    cases e with
    | dir es => exact hdir ⟨x, es, hfound⟩
    | file id | link target | pipe => cases hshape
  obtain ⟨hhome, hunlink⟩ := Disk.unlink_of_shape_ne hcwd hp hfound hshape
  refine ⟨x, e, hfound, by rw [remove, hexists, if_pos rfl, hunlink], ?_⟩
  obtain ⟨last, dir, -, -, rfl⟩ := Disk.home?_eq_some.1 hhome
  have hentry := Disk.entry?_of_find hcwd hfound
  exact Disk.entry?_setEntry_self _ none
    (Disk.shape?_of_concat (s := e.shape) (by rw [Disk.shape?, hentry, Option.map_some]))

/-- **What still exists after it was removed** is a directory and was one, whatever else is removed. -/
theorem dirAt_of_remove (hcwd : d.shape? d.cwd = some .dir)
    (hp : p.bytes.getLast? ≠ some Path.slash) (hlater : Loses S (remove d p).1 d')
    (hexists : d'.pathExists p) : d.DirAt p ∧ d'.DirAt p := by
  have hfirst := loses_remove d p
  have hcwd₁ := hfirst.shape?_cwd hcwd
  obtain ⟨y, e', hreach⟩ := Disk.pathExists_iff.1 hexists
  obtain ⟨x', e', hfound'⟩ := Disk.find_inspect_of_reach hreach
  obtain ⟨e₁, hfound₁, hshape⟩ := hlater.find (hlater.shape?_cwd hcwd₁) hfound'
  have hdir : d.DirAt p := by
    by_contra hdir
    have hbefore := hfirst.pathExists hcwd (hlater.pathExists hcwd₁ hexists)
    obtain ⟨x, e, hfound, hremove, hgone⟩ := remove_of_not_dirAt hcwd hp hdir hbefore
    -- it would be found where it was, but nothing is there
    obtain ⟨e₀, hfound₀, -⟩ := hfirst.find hcwd₁ hfound₁
    cases hfound.symm.trans hfound₀
    have hthere := Disk.entry?_of_find hcwd₁ hfound₁
    rw [hremove, hgone] at hthere
    cases hthere
  refine ⟨hdir, ?_⟩
  obtain ⟨error, hremove⟩ := remove_of_dirAt hp hdir
  obtain ⟨x, es, hfound⟩ := hdir
  rw [hremove] at hfound₁
  cases hfound.symm.trans hfound₁
  cases e' with
  | dir es' => exact ⟨_, es', hfound'⟩
  | file id | link target | pipe => cases hshape

/-! ## The files beside it -/

/-- Of files removed one after the other, those that still exist are directories. -/
theorem dirAt_of_removeSideFiles {ps : List Path} (hcwd : d.shape? d.cwd = some .dir)
    (hps : ∀ q ∈ ps, q.bytes.getLast? ≠ some Path.slash) :
    ∀ q ∈ ps, (removeSideFiles d ps).1.pathExists q → (removeSideFiles d ps).1.DirAt q := by
  induction ps generalizing d with
  | nil => exact List.forall_mem_nil _
  | cons p ps ih =>
    have hrest : ∀ q ∈ ps, q.bytes.getLast? ≠ some Path.slash :=
      fun q hq => hps q (List.mem_cons_of_mem p hq)
    have hfirst := loses_remove d p
    have hlater := loses_removeSideFiles (remove d p).1 ps
    refine List.forall_mem_cons.2 ⟨fun hexists => ?_, ih (hfirst.shape?_cwd hcwd) hrest⟩
    exact (dirAt_of_remove hcwd (hps p List.mem_cons_self) hlater hexists).2

/-- Nothing is removed where only directories exist. -/
theorem removeSideFiles_eq_self {ps : List Path}
    (hps : ∀ q ∈ ps, q.bytes.getLast? ≠ some Path.slash)
    (h : ∀ q ∈ ps, d.pathExists q → d.DirAt q) : (removeSideFiles d ps).1 = d := by
  induction ps with
  | nil => rfl
  | cons p ps ih =>
    have hfirst : (remove d p).1 = d := by
      cases hexists : d.pathExists p with
      | false => rw [remove_of_missing hexists]
      | true =>
        obtain ⟨error, hremove⟩ :=
          remove_of_dirAt (hps p List.mem_cons_self) (h p List.mem_cons_self hexists)
        rw [hremove]
    show (removeSideFiles (remove d p).1 ps).1 = d
    rw [hfirst]
    exact ih (fun q hq => hps q (List.mem_cons_of_mem p hq))
      fun q hq => h q (List.mem_cons_of_mem p hq)

/-- The names of the files beside a database end in no slash. -/
theorem getLast?_sideFile {q : Path} (hq : q ∈ sideFiles p) :
    q.bytes.getLast? ≠ some Path.slash := by
  obtain ⟨suffix, hsuffix, rfl⟩ := List.mem_map.1 hq
  have hends : ∀ suffix ∈ [logSuffix, indexSuffix], Utf8.ofString suffix ≠ [] ∧
      (Utf8.ofString suffix).getLast? ≠ some Path.slash := by
    decide
  obtain ⟨hne, hlast⟩ := hends suffix hsuffix
  rwa [List.getLast?_append_of_ne_nil _ hne]

/-! ## The database -/

theorem clear_of_dirAt (hp : p.bytes.getLast? ≠ some Path.slash) (h : d.DirAt p) :
    (clear p d).1 = d := by
  obtain ⟨error, hremove⟩ := remove_of_dirAt hp h
  simp only [clear, hremove]

theorem clear_of_not_dirAt (hcwd : d.shape? d.cwd = some .dir)
    (hp : p.bytes.getLast? ≠ some Path.slash) (hdir : ¬d.DirAt p) :
    (clear p d).1 = (removeSideFiles (remove d p).1 (sideFiles p)).1 := by
  cases hexists : d.pathExists p with
  | false => simp only [clear, remove_of_missing hexists]
  | true =>
    obtain ⟨x, e, -, hremove, -⟩ := remove_of_not_dirAt hcwd hp hdir hexists
    simp only [clear, hremove]

/-- **The database is gone** afterwards, and so is what stood beside it, unless a directory does. -/
theorem gone_of_clear (hcwd : d.shape? d.cwd = some .dir)
    (hp : p.bytes.getLast? ≠ some Path.slash) (hdir : ¬d.DirAt p) :
    (clear p d).1.pathExists p = false ∧
      ∀ q ∈ sideFiles p, (clear p d).1.pathExists q → (clear p d).1.DirAt q := by
  have hfirst := loses_remove d p
  have hlater := loses_removeSideFiles (remove d p).1 (sideFiles p)
  rw [clear_of_not_dirAt hcwd hp hdir]
  refine ⟨?_, dirAt_of_removeSideFiles (hfirst.shape?_cwd hcwd) fun q => getLast?_sideFile⟩
  rw [← Bool.not_eq_true]
  exact fun hexists => hdir (dirAt_of_remove hcwd hp hlater hexists).1

/-- **Removing it again** changes nothing. -/
theorem clear_clear (hcwd : d.shape? d.cwd = some .dir)
    (hp : p.bytes.getLast? ≠ some Path.slash) :
    (clear p (clear p d).1).1 = (clear p d).1 := by
  by_cases hdir : d.DirAt p
  · rw [clear_of_dirAt hp hdir, clear_of_dirAt hp hdir]
  · obtain ⟨hmissing, hsides⟩ := gone_of_clear hcwd hp hdir
    rw [clear.eq_1 p (clear p d).1, remove_of_missing hmissing]
    exact removeSideFiles_eq_self (fun q => getLast?_sideFile) hsides

end Cache

/-! ## Exports -/

namespace Service

open Outcome

variable {d : Disk} {p : Path}

/-- An export from a path that leads nowhere. -/
theorem exportContext_of_missing (h : d.pathExists p = false) :
    (exportContext .natural .text ⟨p⟩ d).result = .ok "" := by
  have htry : tryExport .natural .text ⟨p⟩ d = ⟨.ok "", d, []⟩ := by
    rw [tryExport, Action.bind_of_ok (Store.openExisting_of_missing h)]
    rfl
  rw [exportContext_of_tryExport htry]

/-- Where a directory is found, the store settles on it, or gives up. -/
theorem settle_of_dirAt (hcwd : d.shape? d.cwd = some .dir) (h : d.DirAt p) {x : RealPath}
    (hx : d.settle p = some x) : d.shape? x = some .dir := by
  obtain ⟨y, es, hfound⟩ := h
  have hreach := Disk.find_reach_of_inspect (by simp) hfound
  have hy := Disk.entry?_of_find hcwd hreach
  obtain ⟨through, left, hway⟩ :=
    Disk.leads_of_descend (Disk.descend_slash (Disk.find_eq_ok_iff.1 hreach).2)
  have hroom : Disk.linkLimit ≤ Disk.settleLimit := by decide
  obtain ⟨after, hafter⟩ := hway.settleSteps_eq hroom (Disk.solid_steps p).symm
  have hsettled := hafter d (.refl d through) []
  rw [List.append_nil] at hsettled
  rw [Disk.settle, hsettled] at hx
  cases after with
  | none => cases hx
  | some room =>
    rw [Option.bind_some, Disk.settleSteps] at hx
    simp only at hx
    split at hx
    · cases hx
    · cases hx
      exact Disk.shape?_eq_dir.2 ⟨es, hy⟩

/-- An export that fails gives the empty text. -/
theorem exportContext_result (order : ExportOrder) (format : ExportFormat) (s : Service) (d : Disk) :
    (exportContext order format s d).result =
      .ok (match (tryExport order format s d).result with
        | .ok text => text
        | .error _ => "") := by
  rw [exportContext, Action.bind_apply, Action.attempt]
  cases (tryExport order format s d).result <;> rfl

/-- What backs a store is not opened at a directory. -/
theorem attach_of_dirAt (hmark : Location.mark.isPrefixOf p.bytes = false)
    (hcwd : d.shape? d.cwd = some .dir) (h : d.DirAt p)
    (hmemory : p.bytes ≠ Utf8.ofString ":memory:") : ∃ f, Store.attach p .read d = (.error f, d) := by
  obtain ⟨hzero, hne⟩ := h.spelled
  have hshared : (p.bytes == [] || p.bytes == Utf8.ofString ":memory:") = false := by
    rw [beq_false_of_ne hne, beq_false_of_ne hmemory]
    rfl
  have hopen : ∃ f, d.openFile p ⟨p, .read, false, false, false, false⟩ = .error f := by
    rw [Disk.openFile]
    cases hsettled : d.settle p with
    | none => exact ⟨_, rfl⟩
    | some x =>
      obtain ⟨es, hx⟩ := Disk.shape?_eq_dir.1 (settle_of_dirAt hcwd h hsettled)
      simp only [Disk.fileAt, hx]
      exact ⟨_, rfl⟩
  obtain ⟨f, hopen⟩ := hopen
  have haccess : Access.read ≠ .memory := by decide
  refine ⟨f, ?_⟩
  simp only [Store.attach, Location.read_of_unmarked hmark hzero haccess, hshared,
    Bool.false_eq_true, if_false, hopen]

/-- A store of the name that stands for no file is private, and holds no graph. -/
theorem openExisting_of_memory (hexists : d.pathExists p)
    (hmemory : p.bytes = Utf8.ofString ":memory:") :
    ∃ log, Store.openExisting p d = ⟨.ok none, d, log⟩ := by
  have hattach : Store.attach p .read d = (.ok ⟨p, .own .blank true, none⟩, d) := by
    obtain ⟨bytes⟩ := p
    cases hmemory
    rfl
  have hgraph : Store.holdsGraph ⟨p, .own .blank true, none⟩ d =
      (.ok false, ⟨p, .own .blank true, none⟩, d) := rfl
  exact ⟨_, Store.openExisting_of_ok hexists (Store.attachOrFail_of_ok hattach) hgraph⟩

/-- Nothing is opened at a directory. -/
theorem openExisting_of_dirAt (hmark : Location.mark.isPrefixOf p.bytes = false)
    (hcwd : d.shape? d.cwd = some .dir) (h : d.DirAt p)
    (hmemory : p.bytes ≠ Utf8.ofString ":memory:") :
    ∃ e log, Store.openExisting p d = ⟨.error e, d, log⟩ := by
  obtain ⟨f, hattach⟩ := attach_of_dirAt hmark hcwd h hmemory
  simp only [Store.openExisting, Action.bind_apply, Action.look_apply, h.pathExists, if_true,
    Store.attachOrFail, Action.change, hattach]
  exact ⟨_, _, rfl⟩

/-- **An export from a directory**, whose path is not taken apart, gives nothing. -/
theorem exportContext_of_dirAt (hmark : Location.mark.isPrefixOf p.bytes = false)
    (hcwd : d.shape? d.cwd = some .dir) (h : d.DirAt p) :
    (exportContext .natural .text ⟨p⟩ d).result = .ok "" := by
  rw [exportContext_result, tryExport, Action.bind_apply]
  by_cases hmemory : p.bytes = Utf8.ofString ":memory:"
  · obtain ⟨log, hnone⟩ := openExisting_of_memory h.pathExists hmemory
    simp only [hnone]
    rfl
  · obtain ⟨e, log, hfail⟩ := openExisting_of_dirAt hmark hcwd h hmemory
    simp only [hfail]

/-- **Removing a database leaves nothing of it.**  Entries are gone only where the last steps of its
three paths stand, and everything else is as it was.  Where a directory stands at its path, nothing has
changed at all.  Otherwise its path leads nowhere, and a path beside it only to a directory that stands
there.  Removing it again changes nothing.  And an export gives nothing, but for a directory at a path
that the store takes apart. -/
theorem clear_leaves_nothing {after : Disk} {log : List Message}
    (hp : p.bytes.getLast? ≠ some Path.slash) (hcwd : d.shape? d.cwd = some .dir)
    (hclear : Cache.clear p d = (after, log)) :
    Loses (fun x => ∃ q ∈ p :: Cache.sideFiles p, d.home? q = some x) d after ∧
    (d.DirAt p → after = d) ∧
    (¬d.DirAt p → after.pathExists p = false ∧
      ∀ q ∈ Cache.sideFiles p, after.pathExists q → after.DirAt q) ∧
    (Cache.clear p after).1 = after ∧
    (Location.mark.isPrefixOf p.bytes = false ∨ ¬d.DirAt p →
      (exportContext .natural .text ⟨p⟩ after).result = .ok "") := by
  obtain rfl : (Cache.clear p d).1 = after := by rw [hclear]
  refine ⟨Disk.loses_clear fun q hq x hx => ⟨q, hq, hx⟩, Cache.clear_of_dirAt hp,
    Cache.gone_of_clear hcwd hp, Cache.clear_clear hcwd hp, fun hplain => ?_⟩
  by_cases hdir : d.DirAt p
  · have hmark := hplain.resolve_right (not_not_intro hdir)
    rw [Cache.clear_of_dirAt hp hdir]
    exact exportContext_of_dirAt hmark hcwd hdir
  · exact exportContext_of_missing (Cache.gone_of_clear hcwd hp hdir).1

end Service

/-! ## A few small disks -/

namespace Sample

/-- The only row of a small graph. -/
def row : Node where
  id := "a.js@program@0@0"
  filepath := "a.js"
  kind := "program"
  startRow := 0
  startCol := 0
  endRow := 0
  endCol := 0

/-- A graph at `g`, and a directory at a path by which the store opens it. -/
def shadowed : Disk where
  top := [(Utf8.ofString "file:g", .dir []), (Utf8.ofString "g", .file 0)]
  contents := [.database (Database.fresh.fill [row] [])]
  cwd := []
  openLogs := []

/-- A graph behind a link, with a link beside it that leads back to the link. -/
def roundabout : Disk where
  top := [(Utf8.ofString "g", .link (Path.ofString "h")), (Utf8.ofString "h", .file 0),
    (Utf8.ofString "g-wal", .link (Path.ofString "g")), (Utf8.ofString "g-shm", .dir [])]
  contents := [.database (Database.fresh.fill [row] [])]
  cwd := []
  openLogs := []

end Sample

namespace Service

open Sample

theorem clear_leaves_nothing_roundabout :
    (Path.ofString "g").bytes.getLast? ≠ some Path.slash ∧
      roundabout.shape? roundabout.cwd = some .dir ∧
      ∃ after log, Cache.clear (Path.ofString "g") roundabout = (after, log) ∧
        after.shape? [Utf8.ofString "h"] = some (.file 0) ∧
        after.pathExists (Path.ofString "g") = false ∧
        (Cache.clear (Path.ofString "g") after).1 = after ∧
        (exportContext .natural .text ⟨Path.ofString "g"⟩ after).result = .ok "" := by
  have hfind : roundabout.find (Path.ofString "g") .inspect =
      .ok ([Utf8.ofString "g"], .link (Path.ofString "h")) := by
    cbv
  have hdir : ¬roundabout.DirAt (Path.ofString "g") := by
    rintro ⟨x, es, hfound⟩
    cases hfind.symm.trans hfound
  have hkept : (Cache.clear (Path.ofString "g") roundabout).1.shape? [Utf8.ofString "h"] =
      some (.file 0) := by
    cbv
  obtain ⟨-, -, hgone, hagain, hexport⟩ :=
    clear_leaves_nothing (p := Path.ofString "g") (d := roundabout) (by decide) rfl rfl
  exact ⟨by decide, rfl, _, _, rfl, hkept, (hgone hdir).1, hagain, hexport (.inr hdir)⟩

/-- No log is opened before the first statement, since nothing stands beside the file. -/
theorem lock_shadowed : (OpenFile.upon berth 0 true none).lock shadowed =
    (.ok (), .upon berth 0 true none, shadowed) := by
  have hjournal : shadowed.holdsSomething (OpenFile.upon berth 0 true none).journal = false := by
    cbv
  have hlog : shadowed.holdsSomething (OpenFile.upon berth 0 true none).logPlace = false := by
    cbv
  have hlogged : (OpenFile.upon berth 0 true none).isLogged shadowed = false := rfl
  have hsettled : (OpenFile.upon berth 0 true none).settleJournal shadowed = .ok shadowed := by
    rw [OpenFile.settleJournal, hjournal]
    rfl
  rw [OpenFile.lock, if_neg (by decide), hsettled]
  simp only [OpenFile.seekLog, hlog, hlogged, Bool.false_eq_true, if_false]

theorem database?_shadowed : (OpenFile.upon berth 0 true none).database? shadowed =
    some (Database.fresh.fill [row] []) := rfl

/-- The store is opened by the path that a directory stands at. -/
theorem openExisting_shadowed : Store.openExisting (Path.ofString "file:g") shadowed =
    ⟨.ok (some ⟨Path.ofString "file:g", .shared (.upon berth 0 true none), none⟩), shadowed, []⟩ := by
  have hexists : shadowed.pathExists (Path.ofString "file:g") = true := by cbv
  have hread : Location.read (Path.ofString "file:g") .read =
      .ok ⟨Path.ofString "g", .read, false, false, false, false⟩ := rfl
  have hsettle : shadowed.settle (Path.ofString "g") = some berth := by cbv
  have hattach : Store.attach (Path.ofString "file:g") .read shadowed =
      (.ok ⟨Path.ofString "file:g", .shared (.upon berth 0 true none), none⟩, shadowed) := by
    simp only [Store.attach, hread, Disk.openFile, hsettle]
    rfl
  rw [Store.openExisting_of_lock hexists hattach lock_shadowed database?_shadowed]
  rfl

/-- **The graph is still exported** after it was removed by a path that a directory stands at. -/
theorem clear_keeps_shadowed :
    (Path.ofString "file:g").bytes.getLast? ≠ some Path.slash ∧
      shadowed.shape? shadowed.cwd = some .dir ∧
      (exportContext .natural .text ⟨Path.ofString "file:g"⟩
        (Cache.clear (Path.ofString "file:g") shadowed).1).result = .ok "a.js program 0,0 0,0" := by
  have hfind : shadowed.find (Path.ofString "file:g") .inspect =
      .ok ([Utf8.ofString "file:g"], .dir []) := by
    cbv
  have hkept : (Cache.clear (Path.ofString "file:g") shadowed).1 = shadowed :=
    Cache.clear_of_dirAt (by decide) ⟨_, _, hfind⟩
  refine ⟨by decide, rfl, ?_⟩
  have hconnect : Handle.connect ⟨Path.ofString "file:g", .shared (.upon berth 0 true none), none⟩
      shadowed = (.ok ⟨(OpenFile.upon berth 0 true none).obstacle? shadowed,
        Database.fresh.fill [row] [], none, false⟩,
        .on (Path.ofString "file:g") (.upon berth 0 true none), shadowed) := by
    simp only [Handle.connect, Handle.lock, lock_shadowed, Handle.stored?, database?_shadowed]
    rfl
  have hrows : (Database.fresh.fill [row] []).exportContext .natural .text =
      .ok "a.js program 0,0 0,0" := by
    rw [Database.exportContext_fill rfl]
    cbv
  rw [hkept, exportContext_result, tryExport, Action.bind_apply, openExisting_shadowed]
  simp only [readWith, Store.finish, Action.change, Handle.read_of_connect hconnect, hrows]

end Service
end SyntaxGraph
