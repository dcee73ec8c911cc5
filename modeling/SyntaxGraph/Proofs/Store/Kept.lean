import SyntaxGraph.Store.Handle

/-!
# What an open store keeps

An open store does three things to a disk: it drops its journal or its log, it opens the log, and it
stores a database.  Everything else that it does, before a statement, for a statement and to set
itself up, is made of these.  So whatever the three keep is kept by an open store altogether
(`OpenFile.Kept`); it may speak of the file that is open and of the disk.

## What is here

* `OpenFile.Kept` — something that the three keep; `Kept.lock` and `Kept.configure` for open files.
* `Handle.Has`, `Handle.Keeps` — the same for handles, with `Kept.connect`, `Kept.keep`, `Kept.apply`.
-/

set_option autoImplicit false
namespace SyntaxGraph

namespace OpenFile

/-- Something that an open file keeps when it drops a file beside it, opens its log, and stores a
database. -/
structure Kept (I : OpenFile → Disk → Prop) : Prop where
  dropFile : ∀ {f : OpenFile} {d : Disk} {x : RealPath}, I f d → x = f.journal ∨ x = f.logPlace →
    I f (d.dropFile x)
  openLog : ∀ {f f' : OpenFile} {d d' : Disk} {r : Except Fault Unit}, I f d → f.log = none →
    f.openLog d = (r, f', d') → I f' d'
  store : ∀ {f : OpenFile} {d : Disk}, I f d → ∀ db, I f (f.store db d)

namespace Kept

variable {I : OpenFile → Disk → Prop} {f f' : OpenFile} {d d' : Disk} {r : Except Fault Unit}

theorem settleJournal (hI : Kept I) (h : I f d) (heq : f.settleJournal d = .ok d') : I f d' := by
  have hdrop : I f (d.dropFile f.journal) := hI.dropFile h (.inl rfl)
  rw [OpenFile.settleJournal] at heq
  split at heq
  · cases heq
    exact h
  split at heq
  · cases heq
    split
    · exact h
    · exact hdrop
  split at heq
  · cases heq
  split at heq
  · cases heq
  · cases heq
  · split at heq
    · cases heq
      exact h
    split at heq
    · cases heq
    · cases heq
      exact hdrop
  · cases heq
    exact h

theorem seekLog (hI : Kept I) (h : I f d) (hlog : f.log = none) (heq : f.seekLog d = (r, f', d')) :
    I f' d' := by
  rw [OpenFile.seekLog] at heq
  split at heq
  · split at heq
    · split at heq
      · cases heq
        exact h
      · cases heq
        exact hI.dropFile h (.inr rfl)
    · exact hI.openLog h hlog heq
  · split at heq
    · exact hI.openLog h hlog heq
    · cases heq
      exact h

/-- **What happens before a statement.** -/
theorem lock (hI : Kept I) (h : I f d) (heq : f.lock d = (r, f', d')) : I f' d' := by
  rw [OpenFile.lock] at heq
  split at heq
  · cases heq
    exact h
  · rename_i hopen
    have hlog : f.log = none := by
      rw [Bool.or_eq_true, not_or, Bool.not_eq_true, Option.isSome_eq_false_iff] at hopen
      exact Option.isNone_iff_eq_none.1 hopen.1
    split at heq
    · cases heq
      exact h
    · rename_i d₁ hjournal
      exact hI.seekLog (hI.settleJournal h hjournal) hlog heq

/-- **Making the database a logged one.** -/
theorem configure (hI : Kept I) (h : I f d) (heq : f.configure d = (r, f', d')) : I f' d' := by
  rw [OpenFile.configure] at heq
  split at heq
  · rename_i hlock
    cases heq
    exact hI.lock h hlock
  · rename_i f₁ d₁ hlock
    have h₁ := hI.lock h hlock
    split at heq
    · cases heq
      exact h₁
    split at heq
    · cases heq
      exact h₁
    split at heq
    · cases heq
      exact h₁
    · cases heq
      exact hI.store h₁ _

end Kept
end OpenFile

/-! ## Handles -/

namespace Handle

/-- What holds of a handle: something of its file and the disk or, where no file backs it, something
of the disk. -/
def Has (I : OpenFile → Disk → Prop) (J : Disk → Prop) (h : Handle) (d : Disk) : Prop :=
  match h.backing with
  | .own _ _ => J d
  | .shared f => I f d

/-- A function on handles that keeps it. -/
def Keeps {α : Type} (I : OpenFile → Disk → Prop) (J : Disk → Prop)
    (f : Handle → Disk → Except Fault α × Handle × Disk) : Prop :=
  ∀ {h h' : Handle} {d d' : Disk} {r : Except Fault α}, h.Has I J d → f h d = (r, h', d') →
    h'.Has I J d'

end Handle

namespace OpenFile.Kept

open Handle (Has Keeps)

variable {I : OpenFile → Disk → Prop} {J : Disk → Prop}

theorem handle_lock (hI : Kept I) : Keeps I J Handle.lock := by
  intro h h' d d' r hu heq
  obtain ⟨path, backing, working⟩ := h
  cases backing with
  | own db readOnly =>
    cases working <;> cases heq <;> exact hu
  | shared f =>
    cases working with
    | some db =>
      cases heq
      exact hu
    | none =>
      cases hl : f.lock d with
      | mk result rest =>
        obtain ⟨f₁, d₁⟩ := rest
        simp only [Handle.lock, hl] at heq
        cases heq
        exact hI.lock hu hl

theorem handle_configure (hI : Kept I) : Keeps I J Handle.configure := by
  intro h h' d d' r hu heq
  obtain ⟨path, backing, working⟩ := h
  cases backing with
  | own db readOnly =>
    cases heq
    exact hu
  | shared f =>
    cases hc : f.configure d with
    | mk result rest =>
      obtain ⟨f₁, d₁⟩ := rest
      simp only [Handle.configure, hc] at heq
      cases heq
      exact hI.configure hu hc

/-- **Connecting.** -/
theorem connect (hI : Kept I) : Keeps I J Handle.connect := by
  intro h h' d d' r hu heq
  rw [Handle.connect] at heq
  split at heq
  · rename_i hlock
    cases heq
    exact hI.handle_lock hu hlock
  · rename_i h₁ d₁ hlock
    have hu₁ := hI.handle_lock hu hlock
    split at heq
    · cases heq
      exact hu₁
    · cases heq
      exact hu₁

theorem keep (hI : Kept I) {h : Handle} {d : Disk} (hu : h.Has I J d) (c : Connection) :
    (h.keep d c).1.Has I J (h.keep d c).2 := by
  obtain ⟨path, backing, working⟩ := h
  rw [Handle.keep]
  simp only
  split
  · cases backing with
    | own db readOnly => exact hu
    | shared f => exact hI.store hu _
  · exact hu

/-- **Doing something on a connection.** -/
theorem apply (hI : Kept I) {α : Type} (f : Connection → Except Fault α × Connection) :
    Keeps I J fun h d => h.apply d f := by
  intro h h' d d' r hu heq
  simp only [Handle.apply] at heq
  split at heq
  · rename_i hconnect
    cases heq
    exact hI.connect hu hconnect
  · rename_i c h₁ d₁ hconnect
    have hkeep := hI.keep (hI.connect hu hconnect) (f c).2
    rw [(Prod.mk.inj heq).2] at hkeep
    exact hkeep

end OpenFile.Kept
end SyntaxGraph
