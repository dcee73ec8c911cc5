import SyntaxGraph.Proofs.Refusals
import SyntaxGraph.Proofs.Store.Detached
import SyntaxGraph.Proofs.Store.Resting

/-!
# What making tables and adding rows leaves

Making the tables of a store, inserting a row and inserting rows through a writer all end alike: no
transaction is open, and either nothing has been changed, or nothing stood in the way and a new
database takes the place of the old one (`Connection.Ends`).  Rows that are added leave the frame of the
database, so that it goes on holding a graph.

## What is here

* `Database.SameFrame.hasGraph_eq`, `Database.SameFrame.indexed_eq` — what is a matter of the frame.
* `Database.SpellsTables` — a database in which nothing is taken for a table of the graph that is none.
* `Connection.Ends` — how the use of a connection ends; `Connection.ensureTables_eq_ok`,
  `Connection.write_ends`, `Connection.batch_ends`.
* `Connection.ensureTables_of_lacksNothing` — where nothing is missing nothing is made.
* `StoreCall.perform_writer`, `StoreCall.performAll_writer` — rows that are added to a store whose log is
  open.
-/

set_option autoImplicit false
namespace SyntaxGraph

/-! ## Frames -/

namespace Database

variable {db db' : Database}

/-- Which tables there are, and how their names are spelled, is a matter of the frame. -/
theorem SameFrame.hasGraph_eq (h : db.SameFrame db') : db.hasGraph = db'.hasGraph := by
  have hfill (db : Database) : (db.fill [] []).hasGraph = db.hasGraph := by
    rcases db with ⟨_ | (_ | _), _ | (_ | _), rules, indexed, logged⟩ <;> rfl
  rw [← hfill db, ← hfill db', h]

/-- So is whether the edges are indexed. -/
theorem SameFrame.indexed_eq (h : db.SameFrame db') : db.indexed = db'.indexed :=
  show (db.fill [] []).indexed = (db'.fill [] []).indexed from congrArg indexed h

/-- A row more leaves the frame. -/
theorem Adds.sameFrame (h : db.Adds db') : db'.SameFrame db := by
  rcases h with ⟨n, hn⟩ | ⟨e, he⟩
  · rcases db.insertNode_cases n with ⟨-, f, hf⟩ | ⟨-, outcome, db₁, hok, hframe⟩
    · cases hn.symm.trans hf
    · cases hn.symm.trans hok
      exact hframe
  · rcases db.insertEdge_cases e with ⟨-, f, hf⟩ | ⟨-, db₁, hok, hframe⟩
    · cases he.symm.trans hf
    · cases he.symm.trans hok
      exact hframe

/-- Afterwards the edges are indexed. -/
theorem addIndex?_eq_ok {made : Option Database} (h : db.addIndex? = .ok made) :
    (made = none ∧ db.indexed = true) ∨ ∃ db', made = some db' ∧ db'.indexed = true := by
  rw [addIndex?] at h
  split at h
  · cases h
  · cases h
    split
    · rename_i hindexed
      exact .inl ⟨rfl, hindexed⟩
    · exact .inr ⟨_, rfl, rfl⟩

/-- Whether nothing is missing: there is something under the names of both tables, and the edges are
indexed. -/
structure LacksNothing (db : Database) : Prop where
  nodes : db.addNodes? = none
  edges : db.addEdges? = none
  index : db.addIndex? = .ok none

theorem lacksNothing_of_hasGraph (hgraph : db.hasGraph = true) (hindexed : db.indexed = true) :
    db.LacksNothing := by
  obtain ⟨nodes, edges, rules, indexed, logged⟩ := db
  rw [hasGraph, Bool.and_eq_true] at hgraph
  cases hindexed
  match nodes, edges, hgraph with
  | some (.table _), some (.table _), _ => exact ⟨rfl, rfl, rfl⟩

/-- Whether a table is what stands under its name, or nothing is. -/
def IsOwn {ρ : Type} (name : TableName) (relation : Option (Relation ρ)) : Prop :=
  relation = none ∨ isTableNamed name relation = true

/-- A database that has nothing under the names of the graph's tables but tables, spelled exactly so. -/
structure SpellsTables (db : Database) : Prop where
  nodes : IsOwn .nodes db.nodes
  edges : IsOwn .edges db.edges

theorem spellsTables_blank : blank.SpellsTables :=
  ⟨.inl rfl, .inl rfl⟩

/-- A table that is made where there was none has its name. -/
theorem SpellsTables.addNodes? (h : db.SpellsTables) :
    isTableNamed .nodes (db.addNodes?.getD db).nodes = true ∧
      IsOwn .edges (db.addNodes?.getD db).edges := by
  obtain ⟨nodes, edges, rules, indexed, logged⟩ := db
  cases nodes with
  | none => exact ⟨rfl, h.edges⟩
  | some relation => exact ⟨h.nodes.resolve_left (Option.some_ne_none _), h.edges⟩

theorem hasGraph_addEdges? (hnodes : isTableNamed .nodes db.nodes = true)
    (hedges : IsOwn .edges db.edges) : (db.addEdges?.getD db).hasGraph = true := by
  obtain ⟨nodes, edges, rules, indexed, logged⟩ := db
  rw [hasGraph, Bool.and_eq_true]
  cases edges with
  | none => exact ⟨hnodes, rfl⟩
  | some relation => exact ⟨hnodes, hedges.resolve_left (Option.some_ne_none _)⟩

/-- Indexing the edges leaves the tables. -/
theorem hasGraph_addIndex? {made : Option Database} (h : db.addIndex? = .ok made) :
    (made.getD db).hasGraph = db.hasGraph := by
  rw [addIndex?] at h
  split at h
  · cases h
  · cases h
    split <;> rfl

end Database

/-! ## How the use of a connection ends -/

namespace Connection

variable {c c' c'' : Connection} {db db' : Database}

/-- The use of the connection `c` has ended in `c'`, with `db` stored: no transaction is open, and a
database other than the old one is stored only if nothing stood in the way. -/
structure Ends (c c' : Connection) (db : Database) : Prop where
  idle : c'.working = none
  obstacle : c'.obstacle = c.obstacle
  stored : c'.stored = db
  free : c'.changed = true → c.obstacle = none
  same : c'.changed = false → db = c.stored

/-- A connection on which nothing has been done. -/
structure Fresh (c : Connection) : Prop where
  idle : c.working = none
  unchanged : c.changed = false

theorem Fresh.ends (h : c.Fresh) : c.Ends c c.stored :=
  ⟨h.idle, rfl, rfl, fun hchanged => (Bool.false_ne_true (h.unchanged.symm.trans hchanged)).elim,
    fun _ => rfl⟩

/-- Nothing is in the way of a change that is made outside a transaction. -/
theorem obstacle_eq_none_of_change (hidle : c.working = none) (hbefore : c.faultBefore? = none)
    (hchange : c.faultOfChange? = none) : c.obstacle = none := by
  obtain ⟨obstacle, stored, working, changed⟩ := c
  cases hidle
  cases obstacle with
  | none => rfl
  | some o =>
    obtain ⟨stage, fault⟩ := o
    cases stage <;> simp [faultBefore?, faultOfChange?, faultAt?] at hbefore hchange

/-- Outside a transaction, a change is stored. -/
theorem put_of_idle (hidle : c.working = none) (db : Database) :
    c.put db = { c with stored := db, changed := true } := by
  rw [put, hidle]

/-! ### Making tables -/

/-- Making something that is missing, on a connection that has ended with `db`. -/
theorem Ends.make (h : c.Ends c' db) {made : Option Database} (hmake : c'.make made = (.ok (), c'')) :
    c.Ends c'' (made.getD db) := by
  cases made with
  | none =>
    cases hmake
    exact h
  | some db' =>
    rw [Connection.make] at hmake
    split at hmake
    · cases hmake
    · rename_i hbefore
      rw [change] at hmake
      split at hmake
      · cases hmake
      · rename_i hchange
        have hfree : c.obstacle = none :=
          h.obstacle ▸ obstacle_eq_none_of_change h.idle hbefore hchange
        rw [put_of_idle h.idle] at hmake
        cases hmake
        exact ⟨h.idle, h.obstacle, rfl, fun _ => hfree, fun hsame => by cases hsame⟩

/-- **The tables have been made**, unless something else stood under their names, and the edges are
indexed. -/
theorem ensureTables_eq_ok (hfresh : c.Fresh) (h : c.ensureTables = (.ok (), c')) :
    ∃ db, c.Ends c' db ∧ db.indexed = true ∧ (c.stored.SpellsTables → db.hasGraph = true) := by
  rw [ensureTables] at h
  split at h
  · cases h
  rename_i c₁ hnodes
  have h₁ := hfresh.ends.make hnodes
  split at h
  · cases h
  rename_i c₂ hedges
  have h₂ := h₁.make hedges
  split at h
  · cases h
  rename_i made hindex
  have h₃ := h₂.make h
  rw [view, h₂.idle, Option.getD_none, h₂.stored] at hindex
  refine ⟨_, h₃, ?_, fun hspells => ?_⟩
  · rcases Database.addIndex?_eq_ok hindex with ⟨rfl, hindexed⟩ | ⟨db', rfl, hindexed⟩
    · exact hindexed
    · exact hindexed
  · have hview : c.view = c.stored := by
      rw [view, hfresh.idle, Option.getD_none]
    have hview₁ : c₁.view = c.view.addNodes?.getD c.stored := by
      rw [view, h₁.idle, Option.getD_none, h₁.stored]
    rw [hview] at hview₁
    obtain ⟨hnodes, hedges⟩ := hspells.addNodes?
    rw [Database.hasGraph_addIndex? hindex, hview, hview₁]
    exact Database.hasGraph_addEdges? hnodes hedges

/-- Where nothing is missing nothing is made. -/
theorem ensureTables_of_lacksNothing (h : c.view.LacksNothing) : c.ensureTables = (.ok (), c) := by
  simp only [ensureTables, h.nodes, make, h.edges, h.index]

/-! ### Adding rows -/

/-- **Writing a row** leaves the frame. -/
theorem write_ends (hfresh : c.Fresh) (w : Write) :
    ∃ db, c.Ends (c.write w).2 db ∧ db.SameFrame c.stored := by
  rcases write_snd c w with hsame | ⟨db, hadds, hbefore, hchange, hput⟩
  · rw [hsame]
    exact ⟨_, hfresh.ends, rfl⟩
  · have hview : c.view = c.stored := by
      rw [view, hfresh.idle, Option.getD_none]
    refine ⟨db, ?_, hview ▸ hadds.sameFrame⟩
    rw [hput, put_of_idle hfresh.idle]
    exact ⟨hfresh.idle, rfl, rfl, fun _ => obstacle_eq_none_of_change hfresh.idle hbefore hchange,
      fun hsame => by cases hsame⟩

/-- A writer that has come from the connection `c`: it works on a view with the frame of what is stored,
and has changed something only if nothing showed up to then. -/
structure Drafts (c c' : Connection) : Prop where
  obstacle : c'.obstacle = c.obstacle
  stored : c'.stored = c.stored
  view : ∃ db, c'.working = some db ∧ db.SameFrame c.stored
  same : c'.changed = false → c'.working = some c.stored
  free : c'.changed = true → ∀ stage, stage ≠ .commit → c.faultAt? stage = none

/-- One row more. -/
theorem Drafts.write (h : c.Drafts c') (w : Write) : c.Drafts (c'.write w).2 := by
  rcases write_snd c' w with hsame | ⟨db, hadds, hbefore, hchange, hput⟩
  · rw [hsame]
    exact h
  · obtain ⟨view, hview, hframe⟩ := h.view
    have hsees : c'.view = view := by
      rw [Connection.view, hview, Option.getD_some]
    rw [hput, put, hview]
    refine ⟨h.obstacle, h.stored, ⟨db, rfl, (hsees ▸ hadds.sameFrame).trans hframe⟩,
      fun hsame => (by cases hsame), fun _ stage hstage => ?_⟩
    have hfault : c'.faultAt? stage = none := by
      rw [faultBefore?] at hbefore
      rw [faultOfChange?] at hchange
      cases stage with
      | statement => simp_all
      | transaction => simp_all
      | change => simp_all
      | commit => exact absurd rfl hstage
    rwa [faultAt?, h.obstacle] at hfault

/-- Any number of rows. -/
theorem Drafts.writes (h : c.Drafts c') (ws : List Write) : c.Drafts (c'.writes ws).2 := by
  induction ws generalizing c' with
  | nil => exact h
  | cons w ws ih => exact ih (h.write w)

/-- A writer that does not commit leaves everything as it was. -/
theorem Drafts.rollback (h : c.Drafts c') : c.Ends c'.rollback c.stored :=
  ⟨rfl, h.obstacle, h.stored, fun hchanged => (by cases hchanged), fun _ => rfl⟩

/-- A writer that commits leaves the frame, and so does one that cannot. -/
theorem Drafts.commit (h : c.Drafts c') :
    ∃ db, c.Ends c'.commit.2 db ∧ db.SameFrame c.stored := by
  obtain ⟨db, hview, hframe⟩ := h.view
  rw [Connection.commit]
  split
  · exact ⟨_, h.rollback, rfl⟩
  · rename_i hcases
    refine ⟨db, ⟨rfl, h.obstacle, ?_, fun hchanged => ?_, fun hchanged => ?_⟩, hframe⟩
    · rw [Connection.view, hview, Option.getD_some]
    · refine obstacle_eq_none fun stage => ?_
      by_cases hstage : stage = .commit
      · subst hstage
        cases hfault : c'.faultAt? .commit with
        | none => rwa [faultAt?, h.obstacle] at hfault
        | some f => exact absurd hfault (hcases f hchanged)
      · exact h.free hchanged stage hstage
    · have hsame := h.same hchanged
      rw [hview, Option.some_inj] at hsame
      exact hsame

/-- **A writer** leaves the frame, whether or not it commits. -/
theorem batch_ends (hfresh : c.Fresh) (ws : List Write) (commits : Bool) :
    ∃ db, c.Ends (c.batch ws commits).2 db ∧ db.SameFrame c.stored := by
  have hbegin : c.begin = .ok { c with working := some c.stored } := by
    rw [begin, hfresh.idle]
  have hstart : c.Drafts { c with working := some c.stored } :=
    ⟨rfl, rfl, ⟨c.stored, rfl, rfl⟩, fun _ => rfl,
      fun hchanged => (Bool.false_ne_true (hfresh.unchanged.symm.trans hchanged)).elim⟩
  have hdone := hstart.writes ws
  rw [batch, hbegin]
  cases commits with
  | false => exact ⟨_, hdone.rollback, rfl⟩
  | true =>
    have hcommit := hdone.commit
    simp only [if_true]
    split <;> rename_i heq <;> rwa [heq] at hcommit

theorem fresh_ofDatabase (obstacle : Option Obstacle) (db : Database) :
    (ofDatabase obstacle db).Fresh :=
  ⟨rfl, rfl⟩

end Connection

/-! ## Stores whose log is open -/

/-- A handle for writing, with its log open. -/
def Handle.writer (p : Path) (x : RealPath) (id : FileId) (log : OpenLog) : Handle :=
  ⟨p, .shared (.upon x id false (some log)), none⟩

section Logging

variable {b d : Disk} {x : RealPath} {id : FileId} {log : OpenLog} {db db' : Database}

namespace Handle

/-- A handle whose log is open is connected as it is. -/
theorem connect_writer (p : Path) (h : Disk.Logging b x id log d db) :
    connect (writer p x id log) d =
      (.ok (.ofDatabase ((OpenFile.upon x id false (some log)).obstacle? d) db),
        writer p x id log, d) := by
  simp only [writer, connect, lock, Disk.Logging.lock, stored?, h.database?_eq false]
  rfl

theorem apply_writer {α : Type} (p : Path) (h : Disk.Logging b x id log d db)
    (g : Connection → Except Fault α × Connection) :
    (apply (writer p x id log) d g).2 = keep (writer p x id log) d
      (g (.ofDatabase ((OpenFile.upon x id false (some log)).obstacle? d) db)).2 := by
  rw [apply, connect_writer p h]

/-- **What a connection has stored is in the log.** -/
theorem keep_writer (p : Path) (h : Disk.Logging b x id log d db) {c : Connection}
    (hends : Connection.Ends (.ofDatabase ((OpenFile.upon x id false (some log)).obstacle? d) db)
      c db') :
    ∃ d', keep (writer p x id log) d c = (writer p x id log, d') ∧
      Disk.Logging b x id log d' db' := by
  cases hchanged : c.changed with
  | false =>
    rw [keep_of_unchanged hchanged, hends.idle, hends.same hchanged]
    exact ⟨d, rfl, h⟩
  | true =>
    refine ⟨_, ?_, h.store (hends.free hchanged) db'⟩
    simp only [keep, hchanged, hends.idle, hends.stored]
    rfl

end Handle

/-- **One call** that adds rows leaves the log open and the frame as it is. -/
theorem StoreCall.perform_writer (p : Path) (h : Disk.Logging b x id log d db)
    {call : StoreCall} (hcall : call.isClear = false) :
    ∃ d' db', (call.perform (.writer p x id log) d).2 = (.writer p x id log, d') ∧
      Disk.Logging b x id log d' db' ∧ db'.SameFrame db := by
  have hfresh := Connection.fresh_ofDatabase ((OpenFile.upon x id false (some log)).obstacle? d) db
  cases call with
  | write w =>
    obtain ⟨db', hends, hframe⟩ := Connection.write_ends hfresh w
    obtain ⟨d', hkeep, h'⟩ := Handle.keep_writer p h hends
    refine ⟨d', db', ?_, h', hframe⟩
    rw [← hkeep, ← Handle.apply_writer p h (·.write w)]
    rfl
  | batch ws commits =>
    obtain ⟨db', hends, hframe⟩ := Connection.batch_ends hfresh ws commits
    obtain ⟨d', hkeep, h'⟩ := Handle.keep_writer p h hends
    refine ⟨d', db', ?_, h', hframe⟩
    rw [← hkeep, ← Handle.apply_writer p h (·.batch ws commits)]
    rfl
  | clear => cases hcall

/-- **Calls that add rows** leave the log open and the frame as it is. -/
theorem StoreCall.performAll_writer (p : Path) (h : Disk.Logging b x id log d db)
    {calls : List StoreCall} (hcalls : ∀ call ∈ calls, call.isClear = false) :
    ∃ d' db', performAll (.writer p x id log) d calls = (.writer p x id log, d') ∧
      Disk.Logging b x id log d' db' ∧ db'.SameFrame db := by
  induction calls generalizing d db with
  | nil => exact ⟨d, db, rfl, h, rfl⟩
  | cons call calls ih =>
    obtain ⟨d₁, db₁, hperform, h₁, hframe₁⟩ := perform_writer p h (hcalls call (by simp))
    obtain ⟨d₂, db₂, hall, h₂, hframe₂⟩ := ih h₁ fun call hcall => hcalls call (by simp [hcall])
    refine ⟨d₂, db₂, ?_, h₂, hframe₂.trans hframe₁⟩
    rw [performAll, List.foldl_cons, hperform]
    exact hall

end Logging
end SyntaxGraph
