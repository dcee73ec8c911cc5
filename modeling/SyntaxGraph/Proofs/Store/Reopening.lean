import Mathlib
import SyntaxGraph.Proofs.Store.Seated
import SyntaxGraph.Proofs.Store.Stepwise

/-!
# What was left is found again

A store that was opened for writing, written to and closed rests.  Opening it again, for reading or for
writing, and closing it leaves it at rest, with the same content; what may change is whether the
database says that it is logged.

## What is here

* `Store.Reopens` — opening a store once more, and closing it if that succeeds; `Store.rests_of_reopens`
  and `Store.rests_of_visits` — what this leaves.
* `Store.open_finds_what_was_left` — what was written through the first handle is found by a reader, if
  the store had a seat before it was opened.
* `Sample.Forgets`, `Store.open_may_forget` — stores that are not found again, and why.
-/

set_option autoImplicit false
namespace SyntaxGraph
namespace Store

variable {p : Path} {b d d' : Disk} {x : RealPath} {id : FileId} {db : Database}

/-! ## Opening a store that rests -/

/-- **A store that rests and holds a graph is opened for reading.** -/
theorem openExisting_of_rests (hx : Berth x) (hp : p.LeadsTo b x) (h : Disk.Rests b x id d db)
    (hgraph : db.hasGraph = true) :
    ∃ f d', openExisting p d = ⟨.ok (some ⟨p, .shared f, none⟩), d', []⟩ ∧
      f.Holds b x id true d' db := by
  have hexists := hp.pathExists_eq h.hosts
  have hattach : attachOrFail p .read d = ⟨.ok ⟨p, .shared (.upon x id true none), none⟩, d, []⟩ :=
    attachOrFail_of_ok (hp.attach_eq h.hosts (by decide))
  obtain ⟨f, d', hread, hholds⟩ := OpenFile.Holds.read p
    (.inl ⟨rfl, h⟩ : OpenFile.Holds b x id true _ d db) hx fun db => .ok db.hasGraph
  have hholdsGraph : holdsGraph ⟨p, .shared (.upon x id true none), none⟩ d =
      (.ok true, ⟨p, .shared f, none⟩, d') := by
    rw [holdsGraph, hread, hgraph]
  exact ⟨f, d', openExisting_of_ok hexists hattach hholdsGraph, hholds⟩

/-- What opening a store for writing, or trying to, leaves of a store that holds the database `db`. -/
def Retains (p : Path) (b : Disk) (x : RealPath) (id : FileId) (db : Database)
    (outcome : Outcome Handle) : Prop :=
  match outcome with
  | ⟨.ok h, d, _⟩ => ∃ f, h = ⟨p, .shared f, none⟩ ∧ f.Holds b x id false d db
  | ⟨.error _, d, _⟩ => Disk.Rests b x id d db

/-- **A store that rests and holds a graph is opened for writing**, or that fails; in either case it
goes on holding what it held. -/
theorem retains_of_rests (hx : Berth x) (hp : p.LeadsTo b x) (h : Disk.Rests b x id d db)
    (hgraph : db.hasGraph = true) (hindexed : db.indexed = true) :
    ∃ logged, Retains p b x id { db with logged := logged } (openOrCreate p d) := by
  have hattach : attachOrFail p .create d = ⟨.ok ⟨p, .shared (.upon x id false none), none⟩, d, []⟩ :=
    attachOrFail_of_ok (hp.attach_eq h.hosts (by decide))
  have hstart : OpenFile.Holds b x id false (.upon x id false none) d db := .inl ⟨rfl, h⟩
  cases hset : (OpenFile.upon x id false none).configure d with
  | mk result rest =>
    obtain ⟨f, d₁⟩ := rest
    obtain ⟨logged, hholds⟩ := hstart.configure hx hset
    have hconfigure : Handle.configure ⟨p, .shared (.upon x id false none), none⟩ d =
        (result, ⟨p, .shared f, none⟩, d₁) := by
      simp only [Handle.configure, hset]
    refine ⟨logged, ?_⟩
    cases result with
    | error e =>
      simp only [openOrCreate, Action.bind_apply, hp.makeParent_eq h.hosts, hattach,
        prepare_of_error hconfigure]
      exact hholds.close hx
    | ok u =>
      -- nothing is missing, so nothing is made
      have hwhole : ({ db with logged := logged } : Database).LacksNothing :=
        Database.lacksNothing_of_hasGraph hgraph hindexed
      obtain ⟨r, f', d₂, htables, hholds'⟩ := hholds.apply p hx
        Connection.ensureTables fun c hstored hidle _ => by
          have hview : c.view = { db with logged := logged } := by
            rw [Connection.view, hidle, hstored, Option.getD_none]
          rw [Connection.ensureTables_of_lacksNothing (hview ▸ hwhole)]
      have hensured : ensureTables ⟨p, .shared f, none⟩ d₁ = (r, ⟨p, .shared f', none⟩, d₂) := htables
      cases r with
      | error e =>
        simp only [openOrCreate, Action.bind_apply, hp.makeParent_eq h.hosts, hattach,
          prepare_of_ok hconfigure, prepare_of_error hensured]
        exact hholds'.close hx
      | ok u =>
        rw [openOrCreate_of_ok (hp.makeParent_eq h.hosts) hattach hconfigure hensured]
        exact ⟨f', rfl, hholds'⟩

/-! ## Opening it again and again -/

/-- Opening a store once more, for reading or for writing, and closing it if that succeeds. -/
inductive Reopens (p : Path) : Disk → Disk → Prop where
  | reader {d d' : Disk} {h : Handle} {log : List Message}
    (hopen : openExisting p d = ⟨.ok (some h), d', log⟩) : Reopens p d (h.close d')
  | writer {d d' : Disk} {h : Handle} {log : List Message}
    (hopen : openOrCreate p d = ⟨.ok h, d', log⟩) : Reopens p d (h.close d')
  | failed {d d' : Disk} {e : Failure} {log : List Message}
    (hopen : openOrCreate p d = ⟨.error e, d', log⟩) : Reopens p d d'

/-- **One visit** leaves a store at rest, with what it held. -/
theorem rests_of_reopens (hx : Berth x) (hp : p.LeadsTo b x) (h : Disk.Rests b x id d db)
    (hgraph : db.hasGraph = true) (hindexed : db.indexed = true) (hvisit : Reopens p d d') :
    ∃ logged, Disk.Rests b x id d' { db with logged := logged } := by
  cases hvisit with
  | reader hopen =>
    obtain ⟨f, d₁, hagain, hholds⟩ := openExisting_of_rests hx hp h hgraph
    cases hagain.symm.trans hopen
    exact ⟨db.logged, hholds.close hx⟩
  | writer hopen =>
    obtain ⟨logged, hleft⟩ := retains_of_rests hx hp h hgraph hindexed
    rw [hopen] at hleft
    obtain ⟨f, rfl, hholds⟩ := hleft
    exact ⟨logged, hholds.close hx⟩
  | failed hopen =>
    obtain ⟨logged, hleft⟩ := retains_of_rests hx hp h hgraph hindexed
    rw [hopen] at hleft
    exact ⟨logged, hleft⟩

/-- **Any number of visits** do. -/
theorem rests_of_visits (hx : Berth x) (hp : p.LeadsTo b x) (h : Disk.Rests b x id d db)
    (hgraph : db.hasGraph = true) (hindexed : db.indexed = true)
    (hvisits : Relation.ReflTransGen (Reopens p) d d') :
    ∃ logged, Disk.Rests b x id d' { db with logged := logged } := by
  induction hvisits with
  | refl => exact ⟨db.logged, h⟩
  | tail _ hvisit ih =>
    obtain ⟨logged, hrests⟩ := ih
    obtain ⟨logged', hrests'⟩ := rests_of_reopens hx hp hrests hgraph hindexed hvisit
    exact ⟨logged', hrests'⟩

/-- **What open writes, open existing finds.**  Let a path and a disk be such that the store has a seat;
the directories on the way, the file and the tables may be missing.  Open the store for writing.
Whatever rows are added through the handle, once it is closed, and however often the store is opened
and closed again, a reader is given that sees the same nodes and edges as the first handle saw. -/
theorem open_finds_what_was_left {d₁ d₂ d₃ : Disk} {h h₂ : Handle} {msgs : List Message}
    {calls : List StoreCall} (hd : d.Sound) (hstocked : d.Stocked) (hseat : Seat p d x)
    (hopen : openOrCreate p d = ⟨.ok h, d₁, msgs⟩)
    (hcalls : ∀ call ∈ calls, call.isClear = false)
    (hleft : StoreCall.performAll h d₁ calls = (h₂, d₂))
    (hvisits : Relation.ReflTransGen (Reopens p) (h₂.close d₂) d₃) :
    ∃ reader d₄, openExisting p d₃ = ⟨.ok (some reader), d₄, []⟩ ∧
      (∀ order, (reader.read d₄ (·.allNodes order)).1 = (h₂.read d₂ (·.allNodes order)).1) ∧
      (reader.read d₄ (·.allEdges)).1 = (h₂.read d₂ (·.allEdges)).1 := by
  obtain ⟨b, id, log, db, rfl, hx, hp, hlogging, hindexed, hgraph⟩ :=
    exists_writer_of_openOrCreate hd hstocked hseat hopen
  have hsees {α : Type} {d : Disk} {db : Database} (hd : Disk.Logging b x id log d db)
      (g : Database → Except Fault α) : ((Handle.writer p x id log).read d g).1 = g db := by
    obtain ⟨f', d', hread, -⟩ :=
      OpenFile.Holds.read p (.inr ⟨log, rfl, hd⟩ : OpenFile.Holds b x id false _ d db) hx g
    rw [Handle.writer, hread]
  obtain ⟨d₅, db', hall, hwritten, hframe⟩ := StoreCall.performAll_writer p hlogging hcalls
  rw [hall] at hleft
  cases hleft
  have hrests : Disk.Rests b x id ((Handle.writer p x id log).close d₂) db' :=
    hwritten.close hx false
  have hgraph' : db'.hasGraph = true := hframe.hasGraph_eq.trans hgraph
  obtain ⟨logged, hrests'⟩ :=
    rests_of_visits hx hp hrests hgraph' (hframe.indexed_eq.trans hindexed) hvisits
  obtain ⟨f, d₄, hagain, hholds⟩ := openExisting_of_rests hx hp hrests' hgraph'
  have hfinds {α : Type} (g : Database → Except Fault α) :
      (Handle.read ⟨p, .shared f, none⟩ d₄ g).1 = g { db' with logged := logged } := by
    obtain ⟨f', d', hread, -⟩ := hholds.read p hx g
    rw [hread]
  refine ⟨_, d₄, hagain, fun order => ?_, ?_⟩
  · rw [hfinds, hsees hwritten]
    rfl
  · rw [hfinds, hsees hwritten]
    rfl

end Store

/-! ## Single disks -/

namespace Sample

/-- The place of a store. -/
def berth : RealPath :=
  [Utf8.ofString "g"]

/-- A disk with a store at rest, and with contents that nothing stands for any more. -/
def resting (db : Database) (old : List Content) : Disk :=
  ⟨[(Utf8.ofString "g", .file 0)], .database db :: old, [], []⟩

/-- The log of the store, once it is open. -/
def opened (old : List Content) : OpenLog :=
  ⟨some (old.length + 1), true⟩

/-- The disk once the log is made, and its index is not. -/
def logMade (db : Database) (old : List Content) : Disk :=
  ⟨[(Utf8.ofString "g", .file 0), (Utf8.ofString "g-wal", .file (old.length + 1))],
    .database db :: (old ++ [.bytes []]), [], []⟩

/-- The disk while the log is open and holds the content `c`. -/
def logging (db : Database) (old : List Content) (c : Content) : Disk :=
  ⟨[(Utf8.ofString "g", .file 0), (Utf8.ofString "g-wal", .file (old.length + 1)),
    (Utf8.ofString "g-shm", .file (old.length + 2))],
    .database db :: (old ++ [c, .bytes indexMark]), [], [(0, opened old)]⟩

variable {db db' : Database} {old : List Content} {p : Path}

/-- Before the first statement the log is opened. -/
theorem lock_resting (hlogged : db.logged = true) (readOnly : Bool) :
    (OpenFile.upon berth 0 readOnly none).lock (resting db old) =
      (.ok (), .upon berth 0 readOnly (some (opened old)), logging db old (.bytes [])) := by
  have hfile : (resting db old).pathExists (Disk.spell berth) = true := by cbv
  have hlog : (OpenFile.upon berth 0 readOnly none).openLogFile (resting db old) =
      .ok ((opened old).file, logMade db old) := rfl
  have hindex : (OpenFile.upon berth 0 readOnly none).openIndex (logMade db old) =
      .ok ((opened old).writable, { logging db old (.bytes []) with openLogs := [] }) := by
    have hmade : ((logMade db old).addFile (Part.index.placeAt berth) (.bytes indexMark)).2 =
        ⟨[(Utf8.ofString "g", .file 0), (Utf8.ofString "g-wal", .file (old.length + 1)),
          (Utf8.ofString "g-shm", .file ((old ++ [Content.bytes []]).length + 1))],
          .database db :: ((old ++ [.bytes []]) ++ [.bytes indexMark]), [], []⟩ := rfl
    rw [List.length_append, List.append_assoc] at hmade
    exact congrArg (fun d => Except.ok (true, d)) hmade
  have hisLogged : (OpenFile.upon berth 0 readOnly none).isLogged (resting db old) = true := hlogged
  exact OpenFile.lock_of_isLogged readOnly (by cbv) (by cbv) hisLogged hfile hlog hindex rfl

theorem content_logging (c : Content) : (logging db old c).content (old.length + 1) = c := by
  simp [Disk.content, logging]

theorem database?_logging (readOnly : Bool) :
    (OpenFile.upon berth 0 readOnly (some (opened old))).database? (logging db old (.bytes [])) =
      some db := by
  rw [OpenFile.database?]
  simp only [OpenFile.loggedDatabase?, OpenFile.upon, opened, content_logging]
  rfl

/-- **The store is opened for writing**, if a path leads to it. -/
theorem openOrCreate_resting
    (hparent : Store.makeParent p (resting db old) = ⟨.ok (), resting db old, []⟩)
    (hattach : Store.attach p .create (resting db old) =
      (.ok ⟨p, .shared (.upon berth 0 false none), none⟩, resting db old))
    (hlogged : db.logged = true) (hwhole : db.LacksNothing) :
    Store.openOrCreate p (resting db old) =
      ⟨.ok (.writer p berth 0 (opened old)), logging db old (.bytes []), [.opened p]⟩ :=
  Store.openOrCreate_of_lock hparent hattach (lock_resting hlogged false) (database?_logging false)
    hwhole

/-- What is attached to by the proper name. -/
theorem attach_berth {d : Disk} {access : Access} (haccess : access ≠ .memory)
    (hsettle : d.settle (Path.ofString "g") = some berth) (hfile : d.shape? berth = some (.file 0)) :
    Store.attach (Path.ofString "g") access d =
      (.ok ⟨Path.ofString "g", .shared (.upon berth 0 (access == .read) none), none⟩, d) :=
  Store.attach_of_file (by decide) haccess (by decide) (by decide) (by decide) hsettle hfile

/-- **Closing it** carries the log over. -/
theorem close_logging (p : Path) :
    (Handle.writer p berth 0 (opened old)).close (logging db old (.log db')) =
      resting db' (old ++ [.log db', .bytes indexMark]) := by
  have hplace : (OpenFile.upon berth 0 false (some (opened old))).isInPlace
      { logging db old (.log db') with openLogs := [] } = true := by
    cbv
  have hlogged : (OpenFile.upon berth 0 false (some (opened old))).loggedDatabase?
      { logging db old (.log db') with openLogs := [] } = some db' := by
    have hcontent : (logging db old (.log db')).content (old.length + 1) = .log db' :=
      content_logging _
    simp only [Disk.content, OpenFile.loggedDatabase?, OpenFile.upon, opened] at hcontent ⊢
    simp only [hcontent]
  have hcarried : (OpenFile.upon berth 0 false (some (opened old))).carryOver
      { logging db old (.log db') with openLogs := [] } =
        resting db' (old ++ [.log db', .bytes indexMark]) := by
    rw [OpenFile.carryOver, hlogged]
    rfl
  show (OpenFile.upon berth 0 false (some (opened old))).close _ = _
  rw [OpenFile.close_of_isInPlace rfl rfl hplace, hcarried]

/-- **Opening it for reading**, by its proper name. -/
theorem openExisting_resting (hlogged : db.logged = true) :
    Store.openExisting (Path.ofString "g") (resting db old) =
      if db.hasGraph then
        ⟨.ok (some ⟨Path.ofString "g", .shared (.upon berth 0 true (some (opened old))), none⟩),
          logging db old (.bytes []), []⟩
      else
        ⟨.ok none, (OpenFile.upon berth 0 true (some (opened old))).close (logging db old (.bytes [])),
          [.noGraph (Path.ofString "g")]⟩ := by
  have hsettle : (resting db old).settle (Path.ofString "g") = some berth := by cbv
  exact Store.openExisting_of_lock (by cbv) (attach_berth (by decide) hsettle rfl)
    (lock_resting hlogged true) (database?_logging true)

end Sample

namespace Disk

variable {top : List (Bytes × Entry)} {contents : List Content}

/-- What stands on a disk without directories. -/
theorem of_shape?_flat (hflat : ∀ m ∈ top, m.2.shape ≠ .dir) {x : RealPath} {s : Shape}
    (h : (Disk.mk top contents [] []).shape? x = some s) :
    x = [] ∨ ∃ n e, x = [n] ∧ (n, e) ∈ top ∧ e.shape = s := by
  cases x with
  | nil => exact .inl rfl
  | cons n y =>
    obtain ⟨e, he, rfl⟩ := Option.map_eq_some_iff.1 h
    rw [ entry?, Entry.at?_cons, getName, Option.bind_eq_some_iff] at he
    obtain ⟨e', hlookup, he⟩ := he
    have hmem : (n, e') ∈ top := by
      obtain ⟨l₁, l₂, rfl, -⟩ := List.lookup_eq_some_iff.1 hlookup
      simp
    cases y with
    | nil =>
      cases he
      exact .inr ⟨n, e, rfl, hmem, rfl⟩
    | cons m y =>
      rw [Entry.at?_of_shape_ne (hflat _ hmem)] at he
      cases he

theorem sound_flat (hflat : ∀ m ∈ top, ProperName m.1 ∧ m.2.shape ≠ .dir) :
    (Disk.mk top contents [] []).Sound := by
  refine ⟨fun x n hsome => ?_, rfl, rfl⟩
  obtain ⟨s, hs⟩ := Option.ne_none_iff_exists'.1 hsome
  rcases of_shape?_flat (fun m hm => (hflat m hm).2) hs with hnil | ⟨m, e, heq, hmem, -⟩
  · simp at hnil
  · obtain ⟨-, rfl⟩ : x = [] ∧ n = m := by simpa [List.append_eq_singleton_iff] using heq
    exact (hflat _ hmem).1

theorem stocked_flat (hflat : ∀ m ∈ top, m.2.shape ≠ .dir ∧
    ∀ k, m.2.shape = .file k → k < contents.length) : (Disk.mk top contents [] []).Stocked := by
  intro x k hk
  rcases of_shape?_flat (fun m hm => (hflat m hm).1) hk with rfl | ⟨n, e, -, hmem, he⟩
  · cases hk
  · exact (hflat _ hmem).2 k he

end Disk

namespace Sample

variable {db : Database} {old : List Content}

/-- Two empty tables. -/
def graph : Database :=
  { Database.fresh with logged := true }

/-- A database whose tables have other names, but for upper and lower case. -/
def loudGraph : Database :=
  { graph with nodes := some (.table ⟨"NODES", true, []⟩), edges := some (.table ⟨"EDGES", true, []⟩) }

/-- A database in which a view stands for the nodes. -/
def viewGraph : Database :=
  { graph with nodes := some .view }

/-- The tables with two rows. -/
def filledGraph : Database :=
  graph.fill [nodeUpTo "program" ⟨1, 0⟩] [edgeBetween "program" "identifier"]

/-- Adding the rows. -/
def rows : List StoreCall :=
  [.write (.node (nodeUpTo "program" ⟨1, 0⟩)), .write (.edge (edgeBetween "program" "identifier"))]

theorem sound_resting (db : Database) (old : List Content) : (resting db old).Sound := by
  refine Disk.sound_flat fun m hm => ?_
  rw [List.mem_singleton.1 hm]
  exact ⟨⟨by decide, by decide, by decide, by decide⟩, by decide⟩

theorem stocked_resting (db : Database) (old : List Content) : (resting db old).Stocked :=
  Disk.stocked_flat (by simp [Entry.shape])

/-- The place of a store whose directory is yet to be made. -/
def farBerth : RealPath :=
  [Utf8.ofString "s", Utf8.ofString "g"]

/-- A disk with nothing but the directory and what is in it. -/
def farDisk (files : List (Bytes × Entry)) (contents : List Content) : Disk :=
  ⟨[(Utf8.ofString "s", .dir files)], contents, [], []⟩

/-- The database before the tables are made. -/
def bare : Database :=
  { Database.blank with logged := true }

/-- The disk while the log is open and holds the content `c`. -/
def farLogging (c : Content) : Disk :=
  { farDisk [(Utf8.ofString "g", .file 0), (Utf8.ofString "g-wal", .file 1),
      (Utf8.ofString "g-shm", .file 2)] [.database bare, c, .bytes indexMark] with
    openLogs := [(0, opened [])] }

theorem makeParent_far :
    Store.makeParent (Path.ofString "s/g") (Disk.empty []) = ⟨.ok (), farDisk [] [], []⟩ := by
  cbv

/-- On an empty disk there is a seat. -/
theorem seat_far : Store.Seat (Path.ofString "s/g") (Disk.empty []) farBerth := by
  have hnothing (part : Part) : (Disk.empty []).shape? (part.placeAt farBerth) = none := by
    cases part <;> rfl
  have hmade : (Disk.empty []).MakesDirs (farDisk [] []) := by
    have h := Store.makesDirs_makeParent (Path.ofString "s/g") (Disk.empty [])
    rwa [makeParent_far] at h
  have hway : (farDisk [] []).Leads Disk.linkLimit [] [Utf8.ofString "s"] [] [Utf8.ofString "s"]
      Disk.linkLimit :=
    .down (by decide) (by decide) rfl (.done _ _)
  have hend : (Disk.empty []).descend .reach Disk.linkLimit [Utf8.ofString "s"] [Utf8.ofString "g"] =
      .ok (.missing [Utf8.ofString "s"] (Utf8.ofString "g")) := by
    cbv
  refine ⟨by decide, by decide, ⟨by decide, [Utf8.ofString "s"], Utf8.ofString "g", _, _, _, _, _, rfl,
    hmade, hway, hend, rfl, by simp [Place.shape?]⟩, fun part _ target hlink => ?_,
    fun part part' k hk _ => ?_, fun id db hthere _ => ?_⟩
  · cases (hnothing part).symm.trans hlink
  · cases (hnothing part).symm.trans hk
  · cases (hnothing .file).symm.trans hthere

/-- The file that has just been made says nothing of a log. -/
theorem lock_farMade :
    (OpenFile.upon farBerth 0 false none).lock (farDisk [(Utf8.ofString "g", .file 0)] [.bytes []]) =
      (.ok (), .upon farBerth 0 false none, farDisk [(Utf8.ofString "g", .file 0)] [.bytes []]) :=
  OpenFile.lock_of_isBlank false (by cbv) (by cbv) rfl

/-- As a logged database it has one. -/
theorem lock_farBare :
    (OpenFile.upon farBerth 0 false none).lock
        (farDisk [(Utf8.ofString "g", .file 0)] [.database bare]) =
      (.ok (), .upon farBerth 0 false (some (opened [])), farLogging (.bytes [])) := by
  have hfile : (OpenFile.upon farBerth 0 false none).openLogFile
      (farDisk [(Utf8.ofString "g", .file 0)] [.database bare]) = .ok ((opened []).file,
        farDisk [(Utf8.ofString "g", .file 0), (Utf8.ofString "g-wal", .file 1)]
          [.database bare, .bytes []]) := rfl
  have hindex : (OpenFile.upon farBerth 0 false none).openIndex
      (farDisk [(Utf8.ofString "g", .file 0), (Utf8.ofString "g-wal", .file 1)]
        [.database bare, .bytes []]) =
      .ok ((opened []).writable, { farLogging (.bytes []) with openLogs := [] }) := rfl
  exact OpenFile.lock_of_isLogged false (by cbv) (by cbv) rfl (by cbv) hfile hindex rfl

/-- The store is made, with its directory, and opened. -/
theorem openOrCreate_far :
    Store.openOrCreate (Path.ofString "s/g") (Disk.empty []) =
      ⟨.ok (.writer (Path.ofString "s/g") farBerth 0 (opened [])), farLogging (.log graph),
        [.opened (Path.ofString "s/g")]⟩ := by
  have hsettle : (farDisk [] []).settle (Path.ofString "s/g") = some farBerth := by cbv
  have hattach : Store.attach (Path.ofString "s/g") .create (farDisk [] []) =
      (.ok ⟨Path.ofString "s/g", .shared (.upon farBerth 0 false none), none⟩,
        farDisk [(Utf8.ofString "g", .file 0)] [.bytes []]) :=
    Store.attach_of_fileAt (by decide) (by decide) (by decide) (by decide) (by decide) hsettle rfl
  have hfree := OpenFile.obstacle?_of_isBlank (x := farBerth) (show ((farDisk
    [(Utf8.ofString "g", .file 0)] [.bytes []]).content 0).isBlank = true from rfl) (by cbv) rfl rfl
  exact Store.openOrCreate_of_isBlank makeParent_far hattach lock_farMade rfl hfree lock_farBare rfl

theorem performAll_far :
    StoreCall.performAll (.writer (Path.ofString "s/g") farBerth 0 (opened [])) (farLogging (.log graph))
        rows =
      (.writer (Path.ofString "s/g") farBerth 0 (opened []), farLogging (.log filledGraph)) :=
  rfl

end Sample

open Sample in
/-- Two rows are written to a store that is made for them on an empty disk, and that a reader opens and
closes before it is read. -/
theorem Store.open_finds_what_was_left_rows :
    ∃ h d₁ h₂ d₂ d₃ reader d₄,
      openOrCreate (Path.ofString "s/g") (Disk.empty []) =
          ⟨.ok h, d₁, [.opened (Path.ofString "s/g")]⟩ ∧
        StoreCall.performAll h d₁ rows = (h₂, d₂) ∧
        Reopens (Path.ofString "s/g") (h₂.close d₂) d₃ ∧
        openExisting (Path.ofString "s/g") d₃ = ⟨.ok (some reader), d₄, []⟩ ∧
        (∀ order, (reader.read d₄ (·.allNodes order)).1 = .ok [nodeUpTo "program" ⟨1, 0⟩]) ∧
        (reader.read d₄ (·.allEdges)).1 = .ok [edgeBetween "program" "identifier"] := by
  have hsound : (Disk.empty []).Sound := Disk.sound_empty (by simp)
  have hstocked : (Disk.empty []).Stocked := Disk.stocked_flat (by simp)
  have hcalls : ∀ call ∈ rows, call.isClear = false := by simp [rows, StoreCall.isClear]
  obtain ⟨visitor, d, hvisitor, -, -⟩ := open_finds_what_was_left hsound hstocked seat_far
    openOrCreate_far hcalls performAll_far .refl
  have hvisit := Reopens.reader hvisitor
  obtain ⟨reader, d₄, hfound, hnodes, hedges⟩ := open_finds_what_was_left hsound hstocked seat_far
    openOrCreate_far hcalls performAll_far (.single hvisit)
  refine ⟨_, _, _, _, _, reader, d₄, openOrCreate_far, performAll_far, hvisit, hfound,
    fun order => ?_, ?_⟩
  · rw [hnodes]
    show filledGraph.allNodes order = _
    rw [filledGraph, Database.allNodes_fill (by decide)]
    cases order <;> simp [Node.ordered]
  · rw [hedges]
    rfl

namespace Sample

variable {p : Path}

/-- The rows are added to the log. -/
theorem performAll_logging (p : Path) :
    StoreCall.performAll (.writer p berth 0 (opened [])) (logging graph [] (.bytes [])) rows =
      (.writer p berth 0 (opened []), logging graph [] (.log filledGraph)) :=
  rfl

/-- A store that is opened for writing, has rows written to it, is closed, and is not found then. -/
def Forgets (p : Path) (d : Disk) : Prop :=
  d.Sound ∧ d.Stocked ∧ ∃ h d₁ msgs h₂ d₂, Store.openOrCreate p d = ⟨.ok h, d₁, msgs⟩ ∧
    StoreCall.performAll h d₁ rows = (h₂, d₂) ∧
    ∀ reader d₃ msgs', Store.openExisting p (h₂.close d₂) ≠ ⟨.ok (some reader), d₃, msgs'⟩

/-! ### Paths that the file system does not follow -/

/-- A store at rest is forgotten by a path that opens it, if the file system finds nothing there. -/
theorem forgets_of_absent
    (hparent : Store.makeParent p (resting graph []) = ⟨.ok (), resting graph [], []⟩)
    (hattach : Store.attach p .create (resting graph []) =
      (.ok ⟨p, .shared (.upon berth 0 false none), none⟩, resting graph []))
    (habsent : ∀ db old, (resting db old).pathExists p = false) : Forgets p (resting graph []) := by
  refine ⟨sound_resting _ _, stocked_resting _ _, _, _, _, _, _,
    openOrCreate_resting hparent hattach rfl ⟨rfl, rfl, rfl⟩, performAll_logging p,
    fun reader d₃ msgs hfound => ?_⟩
  rw [close_logging, Store.openExisting_of_missing (habsent _ _)] at hfound
  cases hfound

theorem forgets_slash : Forgets (Path.ofString "g/") (resting graph []) := by
  have hsettle : (resting graph []).settle (Path.ofString "g/") = some berth := by cbv
  have hattach : Store.attach (Path.ofString "g/") .create (resting graph []) =
      (.ok ⟨Path.ofString "g/", .shared (.upon berth 0 false none), none⟩, resting graph []) :=
    Store.attach_of_file (by decide) (by decide) (by decide) (by decide) (by decide) hsettle rfl
  exact forgets_of_absent (by cbv) hattach fun db old => by cbv

theorem forgets_marked : Forgets (Path.ofString "file:g") (resting graph []) := by
  have hread : Location.read (Path.ofString "file:g") .create =
      .ok ⟨Path.ofString "g", .create, false, false, false, false⟩ := rfl
  have hsettle : (resting graph []).settle (Path.ofString "g") = some berth := by cbv
  have hattach : Store.attach (Path.ofString "file:g") .create (resting graph []) =
      (.ok ⟨Path.ofString "file:g", .shared (.upon berth 0 false none), none⟩, resting graph []) := by
    simp only [Store.attach, hread, Disk.openFile, hsettle]
    rfl
  exact forgets_of_absent (by cbv) hattach fun db old => by cbv

/-- A path to the store that is spelled at length. -/
def longPath (n : Nat) : Path :=
  ⟨Path.stays (n + 1) ++ Utf8.ofString "g"⟩

theorem splitSlash_longPath (n : Nat) :
    Path.splitSlash (longPath n).bytes = List.replicate (n + 1) [Path.dot] ++ [Utf8.ofString "g"] := by
  rw [longPath, Path.splitSlash_stays]
  rfl

/-- The store finds its place, however long the path to it is. -/
theorem settle_longPath (n : Nat) : (resting graph []).settle (longPath n) = some berth := by
  have hsteps : (resting graph []).settleSteps Disk.settleLimit [] (Path.splitSlash (longPath n).bytes) =
      (resting graph []).settleSteps Disk.settleLimit [] [Utf8.ofString "g"] := by
    rw [splitSlash_longPath]
    refine Disk.settleSteps_stays (fun m hm => ?_) _
    rw [List.eq_of_mem_replicate hm]
    rfl
  rw [Disk.settle, show (resting graph []).origin (longPath n) = [] from rfl, hsteps]
  cbv

/-- Its directory is the working directory. -/
theorem parent?_longPath (n : Nat) : (longPath n).parent? = some ⟨[Path.dot]⟩ := by
  have htrim : ∀ k, Path.trimBlank (List.replicate (k + 1) [Path.dot]) = [[Path.dot]] := by
    intro k
    induction k with
    | zero => rfl
    | succ k ih => exact ih
  rw [Path.parent?, Path.ancestors, splitSlash_longPath, List.reverse_append, List.reverse_replicate]
  show some (Path.ofReversed (List.replicate (n + 1) [Path.dot])) = _
  rw [Path.ofReversed, htrim]
  rfl

theorem forgets_longPath {n : Nat} (h : Disk.pathLimit < (longPath n).bytes.length) :
    Forgets (longPath n) (resting graph []) := by
  have hzero : 0 ∉ (longPath n).bytes := by
    rw [longPath, List.mem_append, not_or]
    exact ⟨Path.zero_notMem_stays _, by decide⟩
  have hattach : Store.attach (longPath n) .create (resting graph []) =
      (.ok ⟨longPath n, .shared (.upon berth 0 false none), none⟩, resting graph []) :=
    Store.attach_of_file rfl (by decide) hzero (List.cons_ne_nil _ _)
      (fun heq => absurd (List.cons.inj heq).1 (by decide)) (settle_longPath n) rfl
  have hparent : Store.makeParent (longPath n) (resting graph []) = ⟨.ok (), resting graph [], []⟩ :=
    Store.makeParent_of_ensureDir (parent?_longPath n) (List.cons_ne_nil _ _) (by cbv)
  exact forgets_of_absent hparent hattach fun db old => (resting db old).pathExists_of_pathLimit_lt h

/-! ### Tables by other names -/

/-- Tables with other names, and views, are no graph, though rows can be written to them. -/
theorem forgets_resting {db db' : Database} (hlogged : db.logged = true) (hwhole : db.LacksNothing)
    (hleft : StoreCall.performAll (.writer (Path.ofString "g") berth 0 (opened []))
      (logging db [] (.bytes [])) rows =
        (.writer (Path.ofString "g") berth 0 (opened []), logging db [] (.log db')))
    (hlogged' : db'.logged = true) (hnone : db'.hasGraph = false) :
    Forgets (Path.ofString "g") (resting db []) := by
  have hsettle : (resting db []).settle (Path.ofString "g") = some berth := by cbv
  refine ⟨sound_resting _ _, stocked_resting _ _, _, _, _, _, _,
    openOrCreate_resting (by cbv) (attach_berth (by decide) hsettle rfl) hlogged hwhole, hleft,
    fun reader d₃ msgs hfound => ?_⟩
  rw [close_logging, openExisting_resting hlogged', if_neg (by simp [hnone])] at hfound
  cases hfound

/-! ### Entries beside the store -/

/-- The journal of a store as a second name of the log. -/
def secondName : List (Bytes × Entry) :=
  [(Utf8.ofString "g-journal", .file 1)]

/-- The journal as a link to a second name of the log. -/
def linkToSecond : List (Bytes × Entry) :=
  [(Utf8.ofString "k", .file 1), (Utf8.ofString "g-journal", .link (Path.ofString "k"))]

/-- A link to the store through a directory that is missing. -/
def linkThroughMissing : List (Bytes × Entry) :=
  [(Utf8.ofString "l", .link (Path.ofString "t/../g"))]

/-- The names of links, each longer than the one before. -/
def chainName (n : Nat) : Bytes :=
  List.replicate n 0x6C

/-- Links that lead to each other, the first one to the store: one more than the file system follows. -/
def chain : List (Bytes × Entry) :=
  (List.range 41).map fun i =>
    (chainName (i + 1), .link (if i = 0 then Path.ofString "g" else ⟨chainName i⟩))

/-- What may stand beside a store on a single disk. -/
def extras : List (List (Bytes × Entry)) :=
  [secondName, linkToSecond, linkThroughMissing, chain]

/-- A disk with a store and something beside it. -/
def tied (extra : List (Bytes × Entry)) : Disk :=
  ⟨(Utf8.ofString "g", .file 0) :: (Utf8.ofString "g-wal", .file 1) :: extra,
    [.database graph, .bytes []], [], []⟩

/-- The disk while the log is open and holds the content `c`. -/
def tiedLogging (extra : List (Bytes × Entry)) (c : Content) : Disk :=
  ⟨(Utf8.ofString "g", .file 0) :: (Utf8.ofString "g-wal", .file 1) ::
      (extra ++ [(Utf8.ofString "g-shm", .file 2)]),
    [.database graph, c, .bytes indexMark], [], [(0, opened [])]⟩

/-- The disk once the rows are written and the store is closed: its log is gone, but for other names. -/
def tiedLeft (extra : List (Bytes × Entry)) : Disk :=
  ⟨(Utf8.ofString "g", .file 0) :: extra,
    [.database filledGraph, .log filledGraph, .bytes indexMark], [], []⟩

variable {extra : List (Bytes × Entry)}

theorem properName_chainName {n : Nat} (h : n < Disk.nameLimit) :
    Disk.ProperName (chainName (n + 1)) := by
  have hletters : ∀ b ∈ chainName (n + 1), b = 0x6C := fun b hb => List.eq_of_mem_replicate hb
  refine ⟨⟨?_, fun heq => ?_⟩, fun hslash => ?_, fun hzero => ?_, ?_⟩
  · simp [isStay, chainName, List.replicate_succ, Path.dot]
  · exact absurd (hletters Path.dot (heq ▸ List.mem_cons_self)) (by decide)
  · exact absurd (hletters _ hslash) (by decide)
  · exact absurd (hletters _ hzero) (by decide)
  · rw [chainName, List.length_replicate]
    exact h

theorem of_mem_extras {m : Bytes × Entry} (hextra : extra ∈ extras) (hm : m ∈ extra) :
    Disk.ProperName m.1 ∧ m.2.shape ≠ .dir ∧ ∀ k, m.2.shape = .file k → k = 1 := by
  simp only [extras, List.mem_cons, List.not_mem_nil, or_false] at hextra
  rcases hextra with rfl | rfl | rfl | rfl
  · obtain rfl := List.mem_singleton.1 hm
    exact ⟨⟨by decide, by decide, by decide, by decide⟩, by decide, by simp [Entry.shape]⟩
  · simp only [linkToSecond, List.mem_cons, List.not_mem_nil, or_false] at hm
    rcases hm with rfl | rfl <;>
      exact ⟨⟨by decide, by decide, by decide, by decide⟩, by decide, by simp [Entry.shape]⟩
  · obtain rfl := List.mem_singleton.1 hm
    exact ⟨⟨by decide, by decide, by decide, by decide⟩, by decide, by simp [Entry.shape]⟩
  · obtain ⟨i, hi, rfl⟩ := List.mem_map.1 hm
    have hlimit : i < Disk.nameLimit := (List.mem_range.1 hi).trans (by decide)
    exact ⟨properName_chainName hlimit, by simp [Entry.shape], by simp [Entry.shape]⟩

theorem sound_tied (hextra : extra ∈ extras) : (tied extra).Sound := by
  refine Disk.sound_flat fun m hm => ?_
  rcases List.mem_cons.1 hm with rfl | hm
  · exact ⟨⟨by decide, by decide, by decide, by decide⟩, by decide⟩
  rcases List.mem_cons.1 hm with rfl | hm
  · exact ⟨⟨by decide, by decide, by decide, by decide⟩, by decide⟩
  · exact ⟨(of_mem_extras hextra hm).1, (of_mem_extras hextra hm).2.1⟩

theorem stocked_tied (hextra : extra ∈ extras) : (tied extra).Stocked := by
  refine Disk.stocked_flat fun m hm => ?_
  rcases List.mem_cons.1 hm with rfl | hm
  · simp [Entry.shape]
  rcases List.mem_cons.1 hm with rfl | hm
  · simp [Entry.shape]
  · refine ⟨(of_mem_extras hextra hm).2.1, fun k hk => ?_⟩
    rw [(of_mem_extras hextra hm).2.2 k hk]
    decide

theorem openOrCreate_tied (hextra : extra ∈ extras)
    (hparent : Store.makeParent p (tied extra) = ⟨.ok (), tied extra, []⟩)
    (hattach : Store.attach p .create (tied extra) =
      (.ok ⟨p, .shared (.upon berth 0 false none), none⟩, tied extra)) :
    Store.openOrCreate p (tied extra) =
      ⟨.ok (.writer p berth 0 (opened [])), tiedLogging extra (.bytes []), [.opened p]⟩ := by
  simp only [extras, List.mem_cons, List.not_mem_nil, or_false] at hextra
  have hjournal : (tied extra).holdsSomething (Part.journal.placeAt berth) = false := by
    rcases hextra with rfl | rfl | rfl | rfl <;> cbv
  have hlog : (tied extra).holdsSomething (Part.log.placeAt berth) = false := by
    rcases hextra with rfl | rfl | rfl | rfl <;> cbv
  have hexists : (tied extra).pathExists (Disk.spell berth) = true := by
    rcases hextra with rfl | rfl | rfl | rfl <;> cbv
  have hfile : (OpenFile.upon berth 0 false none).openLogFile (tied extra) =
      .ok ((opened []).file, tied extra) := rfl
  have hindex : (OpenFile.upon berth 0 false none).openIndex (tied extra) =
      .ok ((opened []).writable, { tiedLogging extra (.bytes []) with openLogs := [] }) := by
    rcases hextra with rfl | rfl | rfl | rfl <;> rfl
  exact Store.openOrCreate_of_lock hparent hattach
    (OpenFile.lock_of_isLogged false hjournal hlog rfl hexists hfile hindex rfl) rfl ⟨rfl, rfl, rfl⟩

theorem performAll_tied (p : Path) :
    StoreCall.performAll (.writer p berth 0 (opened [])) (tiedLogging extra (.bytes [])) rows =
      (.writer p berth 0 (opened []), tiedLogging extra (.log filledGraph)) :=
  rfl

theorem close_tied (hextra : extra ∈ extras) :
    (Handle.writer p berth 0 (opened [])).close (tiedLogging extra (.log filledGraph)) =
      tiedLeft extra := by
  simp only [extras, List.mem_cons, List.not_mem_nil, or_false] at hextra
  have hplace : (OpenFile.upon berth 0 false (some (opened []))).isInPlace
      { tiedLogging extra (.log filledGraph) with openLogs := [] } = true := by
    rcases hextra with rfl | rfl | rfl | rfl <;> cbv
  refine (OpenFile.close_of_isInPlace rfl rfl hplace).trans ?_
  rcases hextra with rfl | rfl | rfl | rfl <;> rfl

/-- Such a store is forgotten by a path that opens it, if a reader does not come to it afterwards. -/
theorem forgets_tied (hextra : extra ∈ extras)
    (hparent : Store.makeParent p (tied extra) = ⟨.ok (), tied extra, []⟩)
    (hattach : Store.attach p .create (tied extra) =
      (.ok ⟨p, .shared (.upon berth 0 false none), none⟩, tied extra))
    (hfails : ∀ reader d msgs,
      Store.openExisting p (tiedLeft extra) ≠ ⟨.ok (some reader), d, msgs⟩) :
    Forgets p (tied extra) := by
  refine ⟨sound_tied hextra, stocked_tied hextra, _, _, _, _, _,
    openOrCreate_tied hextra hparent hattach, performAll_tied p, ?_⟩
  rw [close_tied hextra]
  exact hfails

/-- The log that is still there under another name is a journal that tells of a change that was not
finished. -/
theorem forgets_hotJournal (hextra : extra = secondName ∨ extra = linkToSecond) :
    Forgets (Path.ofString "g") (tied extra) := by
  have hsettle : (tied extra).settle (Path.ofString "g") = some berth := by
    rcases hextra with rfl | rfl <;> cbv
  have hparent : Store.makeParent (Path.ofString "g") (tied extra) = ⟨.ok (), tied extra, []⟩ := by
    rcases hextra with rfl | rfl <;> cbv
  have hmember : extra ∈ extras := by
    rcases hextra with rfl | rfl <;> simp [extras]
  refine forgets_tied hmember hparent (attach_berth (by decide) hsettle rfl)
    fun reader d msgs hfound => ?_
  have hholds : (tiedLeft extra).holdsSomething (Part.journal.placeAt berth) = true := by
    rcases hextra with rfl | rfl <;> cbv
  have hexists : (tiedLeft extra).pathExists (Disk.spell berth) = true := by
    rcases hextra with rfl | rfl <;> cbv
  have hwritten : ((tiedLeft extra).content 0).isBlank = false := rfl
  have hhot : (∃ target, (tiedLeft extra).shape? (Part.journal.placeAt berth) = some (.link target)) ∨
      ∃ k, (tiedLeft extra).shape? (Part.journal.placeAt berth) = some (.file k) ∧
        ((tiedLeft extra).content k).raw.head? ≠ some 0 := by
    rcases hextra with rfl | rfl
    · exact .inr ⟨1, rfl, by decide⟩
    · exact .inl ⟨_, rfl⟩
  have hthere : (tiedLeft extra).pathExists (Path.ofString "g") = true := by
    rcases hextra with rfl | rfl <;> cbv
  have hsettle' : (tiedLeft extra).settle (Path.ofString "g") = some berth := by
    rcases hextra with rfl | rfl <;> cbv
  rw [Store.openExisting_of_lock_error hthere (attach_berth (by decide) hsettle' rfl)
    (OpenFile.lock_of_hotJournal hholds hexists hwritten hhot)] at hfound
  cases hfound

theorem forgets_linkThroughMissing : Forgets (Path.ofString "l") (tied linkThroughMissing) := by
  have hsettle : (tied linkThroughMissing).settle (Path.ofString "l") = some berth := by cbv
  have habsent : (tiedLeft linkThroughMissing).pathExists (Path.ofString "l") = false := by cbv
  refine forgets_tied (by simp [extras]) (by cbv)
    (Store.attach_of_file (by decide) (by decide) (by decide) (by decide) (by decide) hsettle rfl)
    fun reader d msgs hfound => ?_
  rw [Store.openExisting_of_missing habsent] at hfound
  cases hfound

theorem forgets_chain : Forgets ⟨chainName 41⟩ (tied chain) := by
  have hsettle : (tied chain).settle ⟨chainName 41⟩ = some berth := by cbv
  have habsent : (tiedLeft chain).pathExists ⟨chainName 41⟩ = false := by cbv
  refine forgets_tied (by simp [extras]) (by cbv)
    (Store.attach_of_file (by decide) (by decide) (by decide) (by decide) (by decide) hsettle rfl)
    fun reader d msgs hfound => ?_
  rw [Store.openExisting_of_missing habsent] at hfound
  cases hfound

/-- A link in the place of the log of a store that is not there yet. -/
def linkedLog (files : List (Bytes × Entry)) (contents : List Content) : Disk :=
  ⟨(Utf8.ofString "g-wal", .link (Path.ofString ".")) :: files, contents, [], []⟩

/-- A blank file takes the link for a log that means nothing. -/
theorem lock_linkedLog :
    (OpenFile.upon berth 0 false none).lock (linkedLog [(Utf8.ofString "g", .file 0)] [.bytes []]) =
      (.ok (), .upon berth 0 false none, ⟨[(Utf8.ofString "g", .file 0)], [.bytes []], [], []⟩) :=
  OpenFile.lock_of_isBlank_of_log false (by cbv) (by cbv) rfl rfl

theorem openOrCreate_linkedLog :
    Store.openOrCreate (Path.ofString "g-wal/g") (linkedLog [] []) =
      ⟨.ok (.writer (Path.ofString "g-wal/g") berth 0 (opened [])), logging bare [] (.log graph),
        [.opened (Path.ofString "g-wal/g")]⟩ := by
  have hparent : Store.makeParent (Path.ofString "g-wal/g") (linkedLog [] []) =
      ⟨.ok (), linkedLog [] [], []⟩ := by
    cbv
  have hsettle : (linkedLog [] []).settle (Path.ofString "g-wal/g") = some berth := by cbv
  have hattach : Store.attach (Path.ofString "g-wal/g") .create (linkedLog [] []) =
      (.ok ⟨Path.ofString "g-wal/g", .shared (.upon berth 0 false none), none⟩,
        linkedLog [(Utf8.ofString "g", .file 0)] [.bytes []]) :=
    Store.attach_of_fileAt (by decide) (by decide) (by decide) (by decide) (by decide) hsettle rfl
  have hblank : ((Disk.mk [(Utf8.ofString "g", .file 0)] [.bytes []] [] []).content 0).isBlank = true :=
    rfl
  have hfree := OpenFile.obstacle?_of_isBlank (x := berth) hblank (by cbv) rfl rfl
  exact Store.openOrCreate_of_isBlank hparent hattach lock_linkedLog rfl hfree (lock_resting rfl false)
    (database?_logging false)

theorem forgets_linkedLog : Forgets (Path.ofString "g-wal/g") (linkedLog [] []) := by
  have hleft : StoreCall.performAll (.writer (Path.ofString "g-wal/g") berth 0 (opened []))
      (logging bare [] (.log graph)) rows =
        (.writer (Path.ofString "g-wal/g") berth 0 (opened []), logging bare [] (.log filledGraph)) :=
    rfl
  refine ⟨Disk.sound_flat fun m hm => ?_, Disk.stocked_flat (by simp [Entry.shape]), _, _, _, _, _,
    openOrCreate_linkedLog, hleft, fun reader d₃ msgs hfound => ?_⟩
  · obtain rfl := List.mem_singleton.1 hm
    exact ⟨⟨by decide, by decide, by decide, by decide⟩, by decide⟩
  · have habsent (old : List Content) :
        (resting filledGraph old).pathExists (Path.ofString "g-wal/g") = false := by
      cbv
    rw [close_logging, Store.openExisting_of_missing (habsent _)] at hfound
    cases hfound

end Sample

open Sample in
/-- **Not every store is found again.**  It is not under a path that the file system does not follow as
the store does: with a slash at the end, with a mark that the store takes off, longer than the file
system allows, over too many links, over a link through a directory that is missing, or over a link
that the store takes for its log.  It is not where there are tables whose names are spelled in upper
case, or where a view stands for the nodes; and not where the journal is the log, or a link to it. -/
theorem Store.open_may_forget :
    Forgets (Path.ofString "g/") (resting graph []) ∧
      Forgets (Path.ofString "file:g") (resting graph []) ∧
      Forgets (Path.ofString "g") (resting loudGraph []) ∧
      Forgets (Path.ofString "g") (resting viewGraph []) ∧
      Forgets (Path.ofString "g") (tied secondName) ∧
      Forgets (Path.ofString "g") (tied linkToSecond) ∧
      Forgets (longPath 2047) (resting graph []) ∧
      Forgets ⟨chainName 41⟩ (tied chain) ∧
      Forgets (Path.ofString "l") (tied linkThroughMissing) ∧
      Forgets (Path.ofString "g-wal/g") (linkedLog [] []) := by
  have hlong : Disk.pathLimit < (longPath 2047).bytes.length := by
    rw [longPath, List.length_append, Path.length_stays]
    decide
  exact ⟨forgets_slash, forgets_marked, forgets_resting rfl ⟨rfl, rfl, rfl⟩ rfl rfl (by decide),
    forgets_resting rfl ⟨rfl, rfl, rfl⟩ rfl rfl (by decide), forgets_hotJournal (.inl rfl),
    forgets_hotJournal (.inr rfl), forgets_longPath hlong, forgets_chain, forgets_linkThroughMissing,
    forgets_linkedLog⟩

end SyntaxGraph
