import SyntaxGraph.Proofs.Disk.Removal
import SyntaxGraph.Proofs.Store.Use
import SyntaxGraph.Service

/-!
# What a call of a service touches

A call of a service works at a few places that can be told beforehand, from the path of the service
and the disk it finds: the directories it makes, the files of the store where the store's own reading
of the path leads, and the files that the file system finds under the names that are removed.  These
are the places of `Service.Touches`.  Whatever a call does and however it ends, it leaves the disk the
same outside these places, and no log open (`Call.atRest`).

The proof follows the calls step by step.  `Outcome.Leaves` says what an action leaves, and is closed
under doing one thing after the other; what a store does while it is open is known from
`Handle.KeepsTo`.

## What is here

* `Call` — the calls of a service.
* `Service.Touches`, `Call.atRest` — the places, and that nothing else changes.
-/

set_option autoImplicit false
namespace SyntaxGraph

/-- A call of a service. -/
inductive Call where
  | index (root : Path)
  | exportContext (order : ExportOrder) (format : ExportFormat)
  | tryExport (order : ExportOrder) (format : ExportFormat)
  | stats
  | clear
deriving DecidableEq, Repr

/-- The disk after a call. -/
def Call.disk (parser : Parser) (s : Service) (d : Disk) : Call → Disk
  | .index root => (s.index parser root d).disk
  | .exportContext order format => (s.exportContext order format d).disk
  | .tryExport order format => (s.tryExport order format d).disk
  | .stats => (s.stats d).disk
  | .clear => (s.clear d).disk

/-- The places that a call of the service on the store at `q` may touch. -/
inductive Service.Touches (q : Path) (d : Disk) : RealPath → Prop where
  /-- A directory that is made on the way to the store. -/
  | made {x : RealPath} (hnone : d.shape? x = none)
      (hdir : (Store.makeParent q d).disk.shape? x = some .dir) : Touches q d x
  /-- A file of the store, as the store reads the path: before its directory is made, or after. -/
  | used {x real : RealPath} {access : Access} {l : Location} {d' : Disk}
      (hd : d' = d ∨ d' = (Store.makeParent q d).disk) (hl : Location.read q access = .ok l)
      (hreal : d'.settle l.name = some real) (hx : x ∈ storePlaces real) : Touches q d x
  /-- A file that is removed. -/
  | removed {x : RealPath} {side : Path} (hside : side ∈ q :: Cache.sideFiles q)
      (hx : d.home? side = some x) : Touches q d x

/-! ## What actions leave -/

namespace Outcome

variable {α β : Type} {S : RealPath → Prop} {d₀ d : Disk}

/-- What an outcome leaves behind: something said of its value, or, after a failure, a disk at rest. -/
def Leaves (S : RealPath → Prop) (d₀ : Disk) (post : α → Disk → Prop) (o : Outcome α) : Prop :=
  match o.result with
  | .ok a => post a o.disk
  | .error _ => Disk.AtRest S d₀ o.disk

/-- One thing after the other. -/
theorem leaves_bind {a : Action α} {f : α → Action β} {mid : α → Disk → Prop}
    {post : β → Disk → Prop} (ha : (a d).Leaves S d₀ mid)
    (hf : ∀ x d', mid x d' → (f x d').Leaves S d₀ post) : ((a >>= f) d).Leaves S d₀ post := by
  rw [Action.bind_apply]
  cases hres : a d with
  | mk result d' log =>
    rw [hres] at ha
    cases result with
    | error e => exact ha
    | ok x => exact hf x d' ha

/-- An action that leaves a disk at rest whatever becomes of it. -/
theorem atRest_of_leaves {o : Outcome α} (h : o.Leaves S d₀ fun _ d => Disk.AtRest S d₀ d) :
    Disk.AtRest S d₀ o.disk := by
  rw [Leaves] at h
  split at h <;> exact h

end Outcome

/-! ## Opening and closing -/

namespace Store

open Outcome

variable {α : Type} {S : RealPath → Prop} {d₀ d : Disk} {q : Path}

/-- What is opened is used at the places where the path leads. -/
theorem leaves_attachOrFail {access : Access} (hrest : Disk.AtRest S d₀ d)
    (hS : ∀ l real, Location.read q access = .ok l → d.settle l.name = some real →
      ∀ x ∈ storePlaces real, S x) :
    (attachOrFail q access d).Leaves S d₀ fun h d' => h.Uses S d₀ d' := by
  unfold attachOrFail attach Action.change
  cases hl : Location.read q access with
  | error f => exact hrest
  | ok l =>
    by_cases hprivate : l.isPrivate
    · simp only [hprivate, if_true]
      exact hrest
    simp only [hprivate]
    cases hopen : d.openFile q l with
    | error f => exact hrest
    | ok opened =>
      obtain ⟨file, d'⟩ := opened
      obtain ⟨real, id, hreal, hfile, rfl⟩ := Disk.openFile_eq_ok hopen
      have hplaces := hS l real hl hreal
      have hself : S real := hplaces real (by simp [storePlaces])
      rcases Disk.fileAt_eq_ok hfile with ⟨he, rfl⟩ | ⟨he, rfl, rfl⟩
      · exact ⟨hrest.same, hplaces, hrest.same.within real _ hself (Disk.shape?_eq_file.2 he),
          (fun _ _ hlog => by cases hlog), hrest.idle⟩
      · have hold : d.shape? real ≠ some .dir := by
          rw [Disk.shape?_eq_none.2 he]
          exact (Option.some_ne_none _).symm
        exact ⟨hrest.same.addFile hself hold _, hplaces, .inl hrest.same.length,
          (fun _ _ hlog => by cases hlog), hrest.idle⟩

theorem leaves_prepare {doing : Activity} {f : Handle → Disk → Except Fault α × Handle × Disk}
    (hf : Handle.KeepsTo S d₀ f) {h : Handle} (hu : h.Uses S d₀ d) :
    (prepare doing f h d).Leaves S d₀ fun x d' => x.2.Uses S d₀ d' := by
  simp only [prepare, Action.change]
  cases heq : f h d with
  | mk result rest =>
    obtain ⟨h', d'⟩ := rest
    have hu' := hf hu heq
    cases result with
    | ok a => exact hu'
    | error e => exact Handle.atRest_close hu'

theorem leaves_finish {f : Handle → Disk → Except Fault α × Handle × Disk}
    (hf : Handle.KeepsTo S d₀ f) {h : Handle} (hu : h.Uses S d₀ d) :
    (finish f h d).Leaves S d₀ fun _ d' => Disk.AtRest S d₀ d' := by
  simp only [finish, Action.change]
  cases heq : f h d with
  | mk result rest =>
    obtain ⟨h', d'⟩ := rest
    have hclosed := Handle.atRest_close (hf hu heq)
    cases result with
    | ok a => exact hclosed
    | error e => exact hclosed

/-- **Opening a store for writing** touches what the service touches. -/
theorem leaves_openOrCreate (hidle : d.openLogs = []) :
    (openOrCreate q d).Leaves (Service.Touches q d) d fun h d' =>
      h.Uses (Service.Touches q d) d d' := by
  have hmakes := makesDirs_makeParent q d
  have hmade : Disk.AtRest (Service.Touches q d) d (makeParent q d).disk :=
    ⟨hmakes.sameOutside fun x hnone hdir => .made hnone hdir, hmakes.openLogs.trans hidle⟩
  have hparent : (makeParent q d).Leaves (Service.Touches q d) d
      fun _ d' => d' = (makeParent q d).disk := by
    rw [Leaves]
    split
    · rfl
    · exact hmade
  refine leaves_bind hparent fun _ d' hd' => ?_
  subst hd'
  refine leaves_bind (leaves_attachOrFail hmade fun l real hl hreal x hx =>
    .used (.inr rfl) hl hreal hx) fun h d₁ hu => ?_
  refine leaves_bind (leaves_prepare Handle.keepsTo_configure hu) fun x d₂ hu => ?_
  refine leaves_bind (leaves_prepare (Handle.keepsTo_apply _) hu) fun x d₃ hu => ?_
  exact hu

/-- **Opening a store for reading** touches what the service touches. -/
theorem leaves_openExisting (hidle : d.openLogs = []) :
    (openExisting q d).Leaves (Service.Touches q d) d fun h? d' =>
      match h? with
      | none => Disk.AtRest (Service.Touches q d) d d'
      | some h => h.Uses (Service.Touches q d) d d' := by
  have hrest : Disk.AtRest (Service.Touches q d) d d := ⟨.refl _ d, hidle⟩
  have hlook : (Action.look (·.pathExists q) d).Leaves (Service.Touches q d) d
      fun _ d' => d' = d := rfl
  rw [openExisting]
  refine leaves_bind hlook fun found d' hd' => ?_
  subst hd'
  cases found with
  | false => exact hrest
  | true =>
    refine leaves_bind (leaves_attachOrFail hrest fun l real hl hreal x hx =>
      .used (.inl rfl) hl hreal hx) fun h d₁ hu => ?_
    refine leaves_bind (leaves_prepare (Handle.keepsTo_read _) hu) fun x d₂ hu => ?_
    obtain ⟨graph, h'⟩ := x
    cases graph with
    | true => exact hu
    | false => exact Handle.atRest_close hu

end Store

/-! ## Removing -/

/-- Removing a database touches what the service touches. -/
theorem Cache.atRest_clear {d : Disk} (q : Path) (hidle : d.openLogs = []) :
    Disk.AtRest (Service.Touches q d) d (clear q d).1 := by
  have hlost : Disk.Loses (Service.Touches q d) d (clear q d).1 :=
    Disk.loses_clear fun side hside x hx => .removed hside hx
  exact ⟨hlost.sameOutside, hlost.openLogs.trans hidle⟩

/-! ## Whole calls -/

namespace Service

open Outcome

variable {d : Disk} {s : Service}

theorem leaves_indexWith {S : RealPath → Prop} {d₀ : Disk} {h : Handle} (hu : h.Uses S d₀ d)
    (parser : Parser) (root : Path) :
    (indexWith parser root h d).Leaves S d₀ fun _ d' => Disk.AtRest S d₀ d' := by
  have hrest : Disk.AtRest S d₀ (indexWith parser root h d).disk := by
    unfold indexWith Index.onHandle
    cases hconnect : h.connect d with
    | mk result rest =>
      obtain ⟨h', d'⟩ := rest
      have hu' := Handle.keepsTo_connect hu hconnect
      cases result with
      | error f => exact Handle.atRest_close hu'
      | ok c => exact Handle.atRest_close (Handle.uses_keep hu' _)
  rw [Leaves]
  split <;> exact hrest

theorem leaves_tryExport (hidle : d.openLogs = []) (order : ExportOrder) (format : ExportFormat) :
    (s.tryExport order format d).Leaves (Touches s.path d) d fun _ d' =>
      Disk.AtRest (Touches s.path d) d d' := by
  rw [tryExport]
  refine leaves_bind (Store.leaves_openExisting hidle) fun h? d' hu => ?_
  cases h? with
  | none => exact hu
  | some h => exact Store.leaves_finish (Handle.keepsTo_read _) hu

end Service

/-- **A call leaves the disk the same outside the places it touches**, and no log open. -/
theorem Call.atRest (parser : Parser) (s : Service) {d : Disk} (hidle : d.openLogs = []) (c : Call) :
    Disk.AtRest (Service.Touches s.path d) d (c.disk parser s d) := by
  cases c with
  | index root =>
    refine Outcome.atRest_of_leaves (α := Report) ?_
    rw [Service.index]
    refine Outcome.leaves_bind (Store.leaves_openOrCreate hidle) fun h d' hu => ?_
    refine Outcome.leaves_bind (Service.leaves_indexWith hu parser root) fun report d' hrest => ?_
    exact hrest
  | exportContext order format =>
    have htry := Outcome.atRest_of_leaves (Service.leaves_tryExport (s := s) hidle order format)
    show Disk.AtRest _ _ (s.exportContext order format d).disk
    rw [Service.exportContext]
    rw [Action.bind_apply]
    simp only [Action.attempt]
    cases (s.tryExport order format d).result with
    | ok text => exact htry
    | error f => exact htry
  | tryExport order format =>
    exact Outcome.atRest_of_leaves (Service.leaves_tryExport hidle order format)
  | stats =>
    refine Outcome.atRest_of_leaves (α := Option Stats) ?_
    rw [Service.stats]
    refine Outcome.leaves_bind (Store.leaves_openExisting hidle) fun h? d' hu => ?_
    cases h? with
    | none => exact hu
    | some h =>
      refine Outcome.leaves_bind (Store.leaves_finish (Handle.keepsTo_read _) hu)
        fun stats d' hrest => ?_
      exact hrest
  | clear => exact Cache.atRest_clear s.path hidle

end SyntaxGraph
