import Mathlib.Logic.Relation
import SyntaxGraph.Index.Run
import SyntaxGraph.Proofs.Replay

/-!
# Clearing that fails

Clearing either empties the store or fails, and one that fails stores nothing.  But it is made of
several statements, and if one of the deletions fails, the transaction they stand in stays open on the
handle.  The handle is then *detached*: it works on a private copy of the store, made when clearing
began, without the edges if only the deletion of the nodes failed.  Whatever happens to the store from
then on, by whomever, the handle does not see; what is written through it reaches nobody; and no
transaction can be begun on it any more, so that clearing, index runs and writers fail for ever after,
for another reason than the first time.

Only where clearing fails before its transaction begins, or when it ends, is the handle left as a
reader leaves it.

## What is here

* `Connection.FailsOutright`, `Connection.FailsInside` — the two ways in which clearing fails;
  `Connection.clearAll_eq_error` says that there is no third.
* `Later` — all that may happen to a handle and around it afterwards.
* `Handle.Detached` — what a handle with an open transaction answers; `Handle.detached_of_working`.
* `Handle.working_of_later` — the transaction stays open, and its view grows by the handle's own rows.
* `failed_clear_detaches` — what becomes of a handle on which clearing, or an index run, has failed.
-/

set_option autoImplicit false
namespace SyntaxGraph

/-! ## How clearing fails -/

namespace Connection

variable {c c' : Connection} {e : Fault}

/-- Clearing fails with nothing done: a transaction is open already, or none can be begun, or its
changes cannot be stored. -/
def FailsOutright (c : Connection) (e : Fault) : Prop :=
  (c.working ≠ none ∧ e = .nestedTransaction) ∨
    (c.working = none ∧ (c.faultAt? .transaction = some e ∨
      (c.stored.HasTables ∧ c.faultAt? .commit = some e)))

/-- Clearing fails inside its transaction, in which `view` is to be seen: at the edges, and then all is
as it was, or at the nodes, and then the edges are gone. -/
def FailsInside (c : Connection) (e : Fault) (view : Database) : Prop :=
  c.working = none ∧ c.faultAt? .transaction = none ∧
    ((view = c.stored ∧ (c.stored.deleteEdges = .error e ∨ c.faultAt? .statement = some e ∨
        c.faultAt? .change = some e)) ∨
      (c.stored.deleteEdges = .ok view ∧ view.deleteNodes = .error e))

/-- **Clearing that fails** leaves the connection as it is, or leaves its transaction open. -/
theorem clearAll_eq_error (h : c.clearAll = (.error e, c')) :
    (c.FailsOutright e ∧ c' = c) ∨
      ∃ view, c.FailsInside e view ∧ c' = { c with working := some view } := by
  rw [clearAll] at h
  split at h
  · rename_i hw
    cases h
    exact .inl ⟨.inl ⟨by rw [hw]; exact Option.some_ne_none _, rfl⟩, rfl⟩
  · rename_i hw ht
    cases h
    exact .inl ⟨.inr ⟨hw, .inl ht⟩, rfl⟩
  · rename_i hw ht
    split at h
    · rename_i he
      cases h
      exact .inr ⟨c.stored, ⟨hw, ht, .inl ⟨rfl, .inl he⟩⟩, rfl⟩
    · rename_i f _ hf
      cases h
      have hshows : c.faultAt? .statement = some e ∨ c.faultAt? .change = some e := by
        cases hs : c.faultAt? .statement <;> simp_all
      exact .inr ⟨c.stored, ⟨hw, ht, .inl ⟨rfl, .inr hshows⟩⟩, rfl⟩
    · rename_i db₁ h₁ _
      split at h
      · rename_i hn
        cases h
        exact .inr ⟨db₁, ⟨hw, ht, .inr ⟨h₁, hn⟩⟩, rfl⟩
      · rename_i h₂ hm
        cases h
        exact .inl ⟨.inr ⟨hw, .inr ⟨(Database.delete_eq_fill h₁ h₂).2, hm⟩⟩, rfl⟩
      · cases h

/-- No transaction is begun inside another. -/
theorem clearAll_of_working {view : Database} (hw : c.working = some view) :
    c.clearAll = (.error .nestedTransaction, c) := by
  rw [clearAll, hw]

theorem batch_of_working {view : Database} (hw : c.working = some view) (ws : List Write)
    (commits : Bool) : c.batch ws commits = (.error .nestedTransaction, c) := by
  simp only [batch, begin, hw]

end Connection

/-! ## Rows that are added -/

/-- Whether one row more makes the one database the other. -/
def Database.Adds (db db' : Database) : Prop :=
  (∃ n, db.insertNode n = .ok (.inserted, db')) ∨ ∃ e, db.insertEdge e = .ok db'

namespace Connection

variable {c : Connection}

theorem change_snd (c : Connection) (db : Database) :
    (c.change db).2 = c ∨ c.faultOfChange? = none ∧ (c.change db).2 = c.put db := by
  rw [change]
  split
  · exact .inl rfl
  · rename_i hfault
    exact .inr ⟨hfault, rfl⟩

/-- Writing a row adds it, with nothing in the way, or changes nothing. -/
theorem write_snd (c : Connection) (w : Write) :
    (c.write w).2 = c ∨ ∃ db, c.view.Adds db ∧ c.faultBefore? = none ∧ c.faultOfChange? = none ∧
      (c.write w).2 = c.put db := by
  cases w with
  | node n =>
    simp only [write, insertNode]
    split
    · exact .inl rfl
    · exact .inl rfl
    · rename_i hbefore
      split
      · exact .inl rfl
      · exact .inl rfl
      · rename_i db hdb
        have hchange := change_snd c db
        split <;> rename_i heq <;> rw [heq] at hchange
        · exact hchange.imp_right fun hput => ⟨db, .inl ⟨n, hdb⟩, hbefore, hput⟩
        · exact hchange.imp_right fun hput => ⟨db, .inl ⟨n, hdb⟩, hbefore, hput⟩
  | edge e =>
    simp only [write, insertEdge]
    split
    · exact .inl rfl
    · exact .inl rfl
    · rename_i hbefore
      split
      · exact .inl rfl
      · rename_i db hdb
        exact (change_snd c db).imp_right fun hput => ⟨db, .inr ⟨e, hdb⟩, hbefore, hput⟩

end Connection

/-! ## Handles -/

namespace Handle

variable {α : Type} {h h' : Handle} {d d' : Disk} {c : Connection} {view db : Database}

/-- A connection starts where its handle is. -/
theorem connect_eq_ok (hc : h.connect d = (.ok c, h', d')) :
    c.working = h'.working ∧ c.changed = false := by
  rw [connect] at hc
  split at hc
  · cases hc
  · split at hc
    · cases hc
    · cases hc
      exact ⟨rfl, rfl⟩

/-- What was not changed is not stored, and the handle is in the transaction its connection is in. -/
theorem keep_of_unchanged (hc : c.changed = false) :
    h.keep d c = ({ h with working := c.working }, d) := by
  rw [keep, hc]
  rfl

/-- A reader leaves what connecting leaves. -/
theorem read_snd (h : Handle) (d : Disk) (f : Database → Except Fault α) :
    (h.read d f).2 = (h.connect d).2 := by
  rw [read, apply]
  split
  · rename_i heq
    rw [heq]
  · rename_i heq
    obtain ⟨hw, hc⟩ := connect_eq_ok heq
    rw [heq]
    simp only [keep_of_unchanged hc, hw]

theorem eq_of_working (hw : h.working = some view) : { h with working := some view } = h := by
  rw [← hw]

/-- Inside a transaction nothing happens before a statement. -/
theorem lock_of_working (hw : h.working = some view) : h.lock d = (.ok (), h, d) := by
  rw [lock, hw]

theorem connect_of_working (hw : h.working = some view) (hstored : h.stored? d = some db) :
    h.connect d = (.ok ⟨h.obstacle? d, db, some view, false⟩, h, d) := by
  simp only [connect, lock_of_working hw, hstored, hw]

theorem apply_of_unreadable (hw : h.working = some view) (hstored : h.stored? d = none)
    (g : Connection → Except Fault α × Connection) :
    h.apply d g = (.error .notADatabase, h, d) := by
  simp only [apply, connect, lock_of_working hw, hstored]

/-- What is done inside a transaction stays there. -/
theorem apply_of_working (hw : h.working = some view) (hstored : h.stored? d = some db)
    {g : Connection → Except Fault α × Connection} {view' : Database}
    (hview : (g ⟨h.obstacle? d, db, some view, false⟩).2.working = some view') :
    h.apply d g =
      ((g ⟨h.obstacle? d, db, some view, false⟩).1, { h with working := some view' }, d) := by
  rw [apply, connect_of_working hw hstored]
  simp [keep, hview]

/-- A call that fails at once leaves the handle in its transaction. -/
theorem apply_nested (hw : h.working = some view) (hstored : h.stored? d ≠ none)
    {g : Connection → Except Fault α × Connection}
    (hg : ∀ c, c.working = some view → g c = (.error .nestedTransaction, c)) :
    h.apply d g = (.error .nestedTransaction, h, d) := by
  obtain ⟨db, hdb⟩ := Option.ne_none_iff_exists'.1 hstored
  have hfails := hg ⟨h.obstacle? d, db, some view, false⟩ rfl
  rw [apply_of_working hw hdb (by rw [hfails]), hfails, eq_of_working hw]

/-! ## What a detached handle answers -/

/-- What a handle answers that has a transaction open, in which `view` is to be seen: as long as there is
something to be read at all, readers see the view, and no transaction can be begun.  Nothing the handle
does reaches the disk, and closing it drops the view. -/
structure Detached (h : Handle) (d : Disk) (view : Database) : Prop where
  reads : h.stored? d ≠ none → ∀ {α : Type} (f : Database → Except Fault α),
    h.read d f = (f view, h, d)
  clears : h.stored? d ≠ none → h.apply d (·.clearAll) = (.error .nestedTransaction, h, d)
  runs : h.stored? d ≠ none → ∀ parser root, Index.onHandle parser root h d =
    ((.error (.store (some .clearing) .nestedTransaction), Index.opening), h, d)
  batches : h.stored? d ≠ none → ∀ ws commits,
    h.apply d (·.batch ws commits) = (.error .nestedTransaction, h, d)
  keeps : ∀ call : StoreCall, (call.perform h d).2.2 = d
  closes : h.close d = Handle.close { h with working := none } d

/-- **One call** of a handle with an open transaction leaves it open and does not reach the disk; all it
may do is to add rows to the view. -/
theorem perform_of_working (hw : h.working = some view) (call : StoreCall) :
    (call.perform h d).2.2 = d ∧ ∃ view', Relation.ReflTransGen Database.Adds view view' ∧
      (call.perform h d).2.1 = { h with working := some view' } := by
  have hstays {s : Handle × Disk} (hs : s = (h, d)) :
      s.2 = d ∧ ∃ view', Relation.ReflTransGen Database.Adds view view' ∧
        s.1 = { h with working := some view' } := by
    subst hs
    exact ⟨rfl, view, .refl, (eq_of_working hw).symm⟩
  cases hstored : h.stored? d with
  | none =>
    refine hstays ?_
    cases call with
    | write w =>
      simp only [StoreCall.perform, applyChange, hstored, apply_of_unreadable hw hstored]
      split <;> rfl
    | batch ws commits => rw [StoreCall.perform, apply_of_unreadable hw hstored]
    | clear => rw [StoreCall.perform, apply_of_unreadable hw hstored]
  | some db =>
    have hreadable : h.stored? d ≠ none := by rw [hstored]; exact Option.some_ne_none db
    cases call with
    | write w =>
      rw [StoreCall.perform, applyChange]
      split
      · rw [hstored]
        exact hstays rfl
      · rcases Connection.write_snd ⟨h.obstacle? d, db, some view, false⟩ w with
          hw' | ⟨db', hadds, -, -, hw'⟩
        · rw [apply_of_working hw hstored (by rw [hw'])]
          exact ⟨rfl, view, .refl, rfl⟩
        · rw [apply_of_working hw hstored (by rw [hw']; rfl)]
          exact ⟨rfl, db', .single hadds, rfl⟩
    | batch ws commits =>
      refine hstays ?_
      rw [StoreCall.perform, apply_nested hw hreadable fun c hc => Connection.batch_of_working hc _ _]
    | clear =>
      refine hstays ?_
      rw [StoreCall.perform, apply_nested hw hreadable fun c hc => Connection.clearAll_of_working hc]

/-- An index run on a store that cannot be cleared fails as clearing does, and does nothing else. -/
theorem onHandle_of_clear_error {e : Fault} (hfail : h.apply d (·.clearAll) = (.error e, h', d'))
    (parser : Parser) (root : Path) :
    Index.onHandle parser root h d =
      ((.error (.store (some .clearing) e), Index.opening), h', d') := by
  cases hconnect : h.connect d with
  | mk result rest =>
    obtain ⟨h₁, d₁⟩ := rest
    cases result with
    | error e' =>
      simp only [apply, hconnect] at hfail
      cases hfail
      simp only [Index.onHandle, hconnect]
    | ok c =>
      cases hclear : c.clearAll with
      | mk result c₂ =>
        simp only [apply, hconnect, hclear, Prod.mk.injEq] at hfail
        obtain ⟨rfl, hkeep⟩ := hfail
        simp only [Index.onHandle, hconnect, Index.project, hclear, hkeep]

/-- A handle with an open transaction is detached. -/
theorem detached_of_working (hw : h.working = some view) : h.Detached d view where
  reads hreadable α f := by
    obtain ⟨db, hdb⟩ := Option.ne_none_iff_exists'.1 hreadable
    rw [read, apply_of_working hw hdb rfl, eq_of_working hw]
    rfl
  clears hreadable := apply_nested hw hreadable fun c hc => Connection.clearAll_of_working hc
  runs hreadable parser root := onHandle_of_clear_error
    (apply_nested hw hreadable fun c hc => Connection.clearAll_of_working hc) parser root
  batches hreadable ws commits :=
    apply_nested hw hreadable fun c hc => Connection.batch_of_working hc ws commits
  keeps call := (perform_of_working hw call).1
  closes := rfl

end Handle

/-! ## What happens afterwards -/

/-- What may happen to a handle and around it: a call, an index run, and any change of the disk, by
whomever. -/
inductive Later : Handle × Disk → Handle × Disk → Prop
  | call (call : StoreCall) (h : Handle) (d : Disk) : Later (h, d) (call.perform h d).2
  | run (parser : Parser) (root : Path) (h : Handle) (d : Disk) :
    Later (h, d) (Index.onHandle parser root h d).2
  | edit (h : Handle) (d d' : Disk) : Later (h, d) (h, d')

namespace Handle

variable {h : Handle} {d : Disk} {view : Database} {s s' : Handle × Disk}

/-- One step leaves the transaction open. -/
theorem working_of_step (hstep : Later s s') (hw : s.1.working = some view) :
    ∃ view', Relation.ReflTransGen Database.Adds view view' ∧
      s'.1 = { s.1 with working := some view' } := by
  cases hstep with
  | call call h d => exact (perform_of_working hw call).2
  | run parser root h d =>
    refine ⟨view, .refl, ?_⟩
    cases hstored : h.stored? d with
    | none =>
      rw [onHandle_of_clear_error (apply_of_unreadable hw hstored _), eq_of_working hw]
    | some db =>
      rw [(detached_of_working hw).runs (by rw [hstored]; exact Option.some_ne_none db),
        eq_of_working hw]
  | edit h d d' => exact ⟨view, .refl, (eq_of_working hw).symm⟩

/-- **The transaction stays open**, whatever happens, and its view grows by the handle's own rows. -/
theorem working_of_later (hsteps : Relation.ReflTransGen Later s s')
    (hw : s.1.working = some view) :
    ∃ view', Relation.ReflTransGen Database.Adds view view' ∧
      s'.1 = { s.1 with working := some view' } := by
  induction hsteps with
  | refl => exact ⟨view, .refl, (eq_of_working hw).symm⟩
  | tail _ hstep ih =>
    obtain ⟨view₁, hadds, heq⟩ := ih
    obtain ⟨view₂, hadds', heq'⟩ := working_of_step hstep (by rw [heq])
    exact ⟨view₂, hadds.trans hadds', by rw [heq', heq]⟩

/-- What clearing that fails leaves: the disk as a reader leaves it, and the handle likewise or with a
transaction open. -/
theorem clear_eq_error {e : Fault} {h' : Handle} {d' : Disk}
    (hfail : h.apply d (·.clearAll) = (.error e, h', d')) :
    d' = (h.connect d).2.2 ∧
      ((h' = (h.connect d).2.1 ∧ ∀ c, (h.connect d).1 = .ok c → c.FailsOutright e) ∨
        ∃ c view, (h.connect d).1 = .ok c ∧ c.FailsInside e view ∧
          h' = { (h.connect d).2.1 with working := some view }) := by
  rw [apply] at hfail
  split at hfail
  · rename_i heq
    cases hfail
    rw [heq]
    exact ⟨rfl, .inl ⟨rfl, by intro c hc; cases hc⟩⟩
  · rename_i c h₁ d₁ heq
    obtain ⟨hw, hunchanged⟩ := connect_eq_ok heq
    rw [heq]
    cases hclear : c.clearAll with
    | mk result c₂ =>
      simp only [hclear, Prod.mk.injEq] at hfail
      obtain ⟨rfl, hkeep⟩ := hfail
      rcases Connection.clearAll_eq_error hclear with ⟨houtright, rfl⟩ | ⟨view, hinside, rfl⟩
      · rw [keep_of_unchanged hunchanged, hw] at hkeep
        cases hkeep
        refine ⟨rfl, .inl ⟨rfl, ?_⟩⟩
        intro c' hc'
        cases hc'
        exact houtright
      · rw [keep_of_unchanged (by exact hunchanged)] at hkeep
        cases hkeep
        exact ⟨rfl, .inr ⟨c, view, rfl, hinside, rfl⟩⟩

end Handle

/-- **Clearing that fails stores nothing, but may detach the handle.**  An index run fails with it, in
the same way.  The disk is as a reader leaves it.  If clearing failed before its transaction began or
when it ended, so is the handle.  If it failed inside, the handle is detached for good: whatever happens
to it or to the disk from then on, it answers from the view of that transaction, to which only its own
rows are added. -/
theorem failed_clear_detaches {h h' : Handle} {d d' : Disk} {e : Fault}
    (hfail : h.apply d (·.clearAll) = (.error e, h', d')) :
    (∀ parser root, Index.onHandle parser root h d =
        ((.error (.store (some .clearing) e), Index.opening), h', d')) ∧
      (∀ {α : Type} (f : Database → Except Fault α), d' = (h.read d f).2.2) ∧
      (((∀ {α : Type} (f : Database → Except Fault α), h' = (h.read d f).2.1) ∧
          ∀ c, (h.connect d).1 = .ok c → c.FailsOutright e) ∨
        ∃ c view, (h.connect d).1 = .ok c ∧ c.FailsInside e view ∧
          (∀ {α : Type} (f : Database → Except Fault α),
            h' = { (h.read d f).2.1 with working := some view }) ∧
          ∀ h'' d'', Relation.ReflTransGen Later (h', d') (h'', d'') →
            ∃ view', Relation.ReflTransGen Database.Adds view view' ∧
              h'' = { h' with working := some view' } ∧ h''.Detached d'' view') := by
  obtain ⟨hdisk, hhandle⟩ := Handle.clear_eq_error hfail
  refine ⟨Handle.onHandle_of_clear_error hfail, fun f => by rw [Handle.read_snd, hdisk], ?_⟩
  rcases hhandle with ⟨hspared, houtright⟩ | ⟨c, view, hc, hinside, hdetached⟩
  · exact .inl ⟨fun f => by rw [Handle.read_snd, hspared], houtright⟩
  · refine .inr ⟨c, view, hc, hinside, fun f => by rw [Handle.read_snd, hdetached], ?_⟩
    intro h'' d'' hlater
    have hw : h'.working = some view := by rw [hdetached]
    obtain ⟨view', hadds, heq⟩ := Handle.working_of_later hlater hw
    exact ⟨view', hadds, heq, Handle.detached_of_working (by rw [show h'' = _ from heq])⟩

/-! ## A reader, and a store the nodes of which are a view -/

namespace Sample

/-- A reader of the store on the shelf. -/
def reader : Handle :=
  ⟨Path.ofString "g", .shared ⟨0, [Utf8.ofString "g"], true, false, false, false,
    some ⟨some 1, true⟩⟩, none⟩

/-- The handle after clearing was tried, on the shelf as it is. -/
def cleared (h : Handle) (d : Disk) : Handle :=
  (h.apply d (·.clearAll)).2.1

/-- The shelf after a node was written to the store. -/
def filledShelf : Disk :=
  shelf.setContent 1 (.log (Database.fresh.fill [nodeUpTo "program" ⟨1, 0⟩] []))

/-- The shelf with a store in which a view stands for the nodes, and which has one edge. -/
def viewShelf : Disk :=
  shelf.setContent 1 (.log { Database.fresh.fill [] [edgeBetween "program" "identifier"] with
    nodes := some .view })

end Sample

open Sample in
/-- A reader is detached by clearing. -/
theorem failed_clear_detaches_reader :
    reader.apply shelf (·.clearAll) = (.error .readOnly, cleared reader shelf, shelf) ∧
      ∃ view, (cleared reader shelf).working = some view ∧
        ∀ h d, Relation.ReflTransGen Later (cleared reader shelf, shelf) (h, d) →
          ∃ view', Relation.ReflTransGen Database.Adds view view' ∧ h.Detached d view' := by
  have hfail : reader.apply shelf (·.clearAll) = (.error .readOnly, cleared reader shelf, shelf) :=
    rfl
  obtain ⟨-, -, ⟨hspared, -⟩ | ⟨c, view, -, -, hview, hlater⟩⟩ := failed_clear_detaches hfail
  · cases congrArg Handle.working (hspared Database.stats)
  · refine ⟨hfail, view, by rw [hview Database.stats], ?_⟩
    intro h d hsteps
    obtain ⟨view', hadds, -, hdetached⟩ := hlater h d hsteps
    exact ⟨view', hadds, hdetached⟩

open Sample in
/-- **Clearing that fails shows in what the handle answers later.**  A reader is refused a second clearing
for another reason; it does not see what others write; and where the nodes are a view, the edges are
gone for the handle, though clearing failed. -/
theorem failed_clear_shows :
    ((reader.apply shelf (·.clearAll)).1 = .error .readOnly ∧
        ((cleared reader shelf).apply shelf (·.clearAll)).1 = .error .nestedTransaction) ∧
      ((reader.read filledShelf (·.allNodes .natural)).1 = .ok [nodeUpTo "program" ⟨1, 0⟩] ∧
        ((cleared reader shelf).read filledShelf (·.allNodes .natural)).1 = .ok []) ∧
      ((shelved.apply viewShelf (·.clearAll)).1 = .error (.isView .nodes) ∧
        (shelved.read viewShelf (·.allEdges)).1 = .ok [edgeBetween "program" "identifier"] ∧
        ((cleared shelved viewShelf).read viewShelf (·.allEdges)).1 = .ok []) :=
  ⟨⟨rfl, rfl⟩, ⟨rfl, rfl⟩, rfl, rfl, rfl⟩

end SyntaxGraph
