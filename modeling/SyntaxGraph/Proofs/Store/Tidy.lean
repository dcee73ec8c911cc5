import SyntaxGraph.Proofs.Disk.Names
import SyntaxGraph.Proofs.Store.Kept

/-!
# Stores on a tidy disk

Before a project is walked its store is opened, which puts entries on the disk: directories on the
way to the store, the file of the store, and files beside it.  Their names come from a path that is
cut at its slashes, from links, and from the working directory, and the names beside the store's file
are longer than its own; so they are segments, and the disk stays tidy.

## What is here

* `OpenFile.Tidy` — an open file with a place that segments lead to, on a tidy disk; an open file
  keeps this (`OpenFile.Tidy.kept`).
* `Action.bind_eq_ok`, `Store.prepare_eq_ok` and their companions — what it takes that an action
  succeeds.
* `Store.tidy_makeParent`, `Store.tidy_openOrCreate` — a disk stays tidy while a store is opened.
-/

set_option autoImplicit false
namespace SyntaxGraph

open SyntaxGraph.Path (IsSegment)

/-- The names on the way to a file beside another. -/
theorem isSegment_beside {real : RealPath} (h : ∀ n ∈ real, IsSegment n) {suffix : String}
    (hne : Utf8.ofString suffix ≠ []) (hplain : Path.slash ∉ Utf8.ofString suffix) :
    ∀ n ∈ beside real suffix, IsSegment n := by
  refine List.forall_mem_append.2 ⟨fun n hn => h n (List.dropLast_subset _ hn), fun n hn => ?_⟩
  obtain ⟨m, hm, rfl⟩ := List.mem_map.1 hn
  have hm := h m (List.mem_of_mem_getLast? (Option.mem_toList.1 hm))
  have hsolid : isStay (m ++ Utf8.ofString suffix) = false := by
    obtain ⟨a, as, hm⟩ := List.exists_cons_of_ne_nil hm.nonempty
    obtain ⟨b, bs, hs⟩ := List.exists_cons_of_ne_nil hne
    simp [hm, hs, isStay]
  refine ⟨hsolid, fun hslash => ?_⟩
  rcases List.mem_append.1 hslash with hslash | hslash
  · exact hm.plain hslash
  · exact hplain hslash

/-! ## Open files -/

namespace OpenFile

/-- An open file on a tidy disk, at a place that segments lead to. -/
structure Tidy (f : OpenFile) (d : Disk) : Prop where
  disk : d.Tidy
  place : ∀ n ∈ f.real, IsSegment n

namespace Tidy

variable {f f' : OpenFile} {d d' : Disk}

theorem openLogFile (h : f.Tidy d) {file : Option FileId} (heq : f.openLogFile d = .ok (file, d')) :
    f.Tidy d' := by
  rw [OpenFile.openLogFile] at heq
  split at heq
  · cases heq
  split at heq
  · cases heq
    exact h
  · cases heq
    exact h
  · cases heq
  · cases heq
    exact ⟨h.disk.addFile (isSegment_beside h.place (by decide) (by decide)) _, h.place⟩

theorem openIndex (h : f.Tidy d) {writable : Bool} (heq : f.openIndex d = .ok (writable, d')) :
    f.Tidy d' := by
  rw [OpenFile.openIndex] at heq
  split at heq
  · cases heq
    exact h
  split at heq
  · cases heq
    exact h
  split at heq
  · cases heq
    exact ⟨h.disk.setContent _ _, h.place⟩
  · cases heq
    exact h
  · cases heq
  · cases heq
  · cases heq
    exact ⟨h.disk.addFile (isSegment_beside h.place (by decide) (by decide)) _, h.place⟩

theorem openLog (h : f.Tidy d) {r : Except Fault Unit} (heq : f.openLog d = (r, f', d')) :
    f'.Tidy d' := by
  rw [OpenFile.openLog] at heq
  split at heq
  · cases heq
    exact h
  split at heq
  · cases heq
    exact h
  split at heq
  · cases heq
    exact h
  · rename_i file d₁ hfile
    have h₁ := h.openLogFile hfile
    split at heq
    · cases heq
      exact h₁
    · rename_i writable d₂ hindex
      have h₂ := h₁.openIndex hindex
      cases heq
      exact ⟨h₂.disk.setLogs _, h.place⟩

theorem store (h : f.Tidy d) (db : Database) : f.Tidy (f.store db d) := by
  rw [OpenFile.store]
  split
  · exact ⟨h.disk.setContent _ _, h.place⟩
  · exact h
  · exact ⟨(h.disk.setContent f.id _).dropFile f.journal, h.place⟩

/-- **An open file keeps the disk tidy.** -/
theorem kept : Kept Tidy where
  dropFile h _ := ⟨h.disk.dropFile _, h.place⟩
  openLog h _ heq := h.openLog heq
  store h db := h.store db

end Tidy
end OpenFile

/-- A handle on a tidy disk. -/
def Handle.Tidy (h : Handle) (d : Disk) : Prop :=
  h.Has OpenFile.Tidy Disk.Tidy d

theorem Handle.Tidy.disk {h : Handle} {d : Disk} (hd : h.Tidy d) : d.Tidy := by
  obtain ⟨path, backing, working⟩ := h
  cases backing with
  | own db readOnly => exact hd
  | shared f => exact OpenFile.Tidy.disk hd

/-! ## Actions that succeed -/

/-- One thing after the other succeeds if both do. -/
theorem Action.bind_eq_ok {α β : Type} {a : Action α} {f : α → Action β} {d d' : Disk} {y : β}
    {log : List Message} (h : (a >>= f) d = ⟨.ok y, d', log⟩) :
    ∃ x d₁ log₁ log₂, a d = ⟨.ok x, d₁, log₁⟩ ∧ f x d₁ = ⟨.ok y, d', log₂⟩ := by
  rw [Action.bind_apply] at h
  split at h
  · cases h
  · rename_i x d₁ log₁ ha
    rw [Outcome.mk.injEq] at h
    exact ⟨x, d₁, log₁, (f x d₁).log, ha, by rw [← h.1, ← h.2.1]⟩

namespace Store

variable {d d' : Disk} {p : Path} {h : Handle} {log : List Message}

theorem attachOrFail_eq_ok {access : Access} (heq : attachOrFail p access d = ⟨.ok h, d', log⟩) :
    attach p access d = (.ok h, d') := by
  simp only [attachOrFail, Action.change, Outcome.mk.injEq] at heq
  obtain ⟨hresult, hdisk, -⟩ := heq
  split at hresult
  · rename_i hattach
    rw [hattach] at hdisk ⊢
    cases hresult
    cases hdisk
    rfl
  · cases hresult

theorem prepare_eq_ok {α : Type} {doing : Activity}
    {f : Handle → Disk → Except Fault α × Handle × Disk} {x : α × Handle}
    (heq : prepare doing f h d = ⟨.ok x, d', log⟩) : f h d = (.ok x.1, x.2, d') := by
  simp only [prepare, Action.change, Outcome.mk.injEq] at heq
  obtain ⟨hresult, hdisk, -⟩ := heq
  split at hresult
  · rename_i hf
    rw [hf] at hdisk ⊢
    cases hresult
    cases hdisk
    rfl
  · cases hresult

/-! ## Opening -/

/-- Making the directory of a store. -/
theorem tidy_makeParent (hd : d.Tidy) (p : Path) : (makeParent p d).disk.Tidy := by
  cases hdir : p.parent? with
  | none =>
    simp only [makeParent, hdir]
    exact hd
  | some dir =>
    by_cases hne : dir.bytes = []
    · simp only [makeParent, hdir, if_pos hne]
      exact hd
    · rw [(makeParent_of_parent? hdir hne).1]
      exact hd.makeDirBelow dir dir.ancestors

theorem tidy_fileAt (hd : d.Tidy) {access : Access} {real : RealPath}
    (hreal : ∀ n ∈ real, IsSegment n) {id : FileId} (heq : d.fileAt p access real = .ok (id, d')) : d'.Tidy := by
  rcases Disk.fileAt_eq_ok heq with ⟨-, rfl⟩ | ⟨-, -, rfl⟩
  · exact hd
  · exact hd.addFile hreal _

/-- Opening what backs a store. -/
theorem tidy_attach (hd : d.Tidy) {access : Access} (heq : attach p access d = (.ok h, d')) :
    h.Tidy d' := by
  rw [attach] at heq
  split at heq
  · cases heq
  split at heq
  · cases heq
    exact hd
  split at heq
  · cases heq
  · rename_i file d₁ hopen
    cases heq
    obtain ⟨real, id, hreal, hfile, rfl⟩ := Disk.openFile_eq_ok hopen
    have hnames := hd.of_settle hreal
    exact ⟨tidy_fileAt hd hnames hfile, hnames⟩

/-- What it takes that a store is opened for writing. -/
theorem openOrCreate_eq_ok (heq : openOrCreate p d = ⟨.ok h, d', log⟩) :
    (makeParent p d).result = .ok () ∧
      ∃ h₁ d₁ h₂ d₂, attach p .create (makeParent p d).disk = (.ok h₁, d₁) ∧
        h₁.configure d₁ = (.ok (), h₂, d₂) ∧ ensureTables h₂ d₂ = (.ok (), h, d') := by
  obtain ⟨_, d₁, _, _, hparent, heq⟩ := Action.bind_eq_ok heq
  obtain ⟨h₁, d₂, _, _, hattach, heq⟩ := Action.bind_eq_ok heq
  obtain ⟨⟨_, h₂⟩, d₃, _, _, hconfigure, heq⟩ := Action.bind_eq_ok heq
  obtain ⟨⟨_, h₃⟩, d₄, _, _, htables, heq⟩ := Action.bind_eq_ok heq
  cases heq
  rw [hparent]
  exact ⟨rfl, h₁, d₂, h₂, d₃, attachOrFail_eq_ok hattach, prepare_eq_ok hconfigure,
    prepare_eq_ok htables⟩

/-- **A disk stays tidy while a store is opened** for writing. -/
theorem tidy_openOrCreate (hd : d.Tidy) (heq : openOrCreate p d = ⟨.ok h, d', log⟩) : h.Tidy d' := by
  obtain ⟨-, h₁, d₁, h₂, d₂, hattach, hconfigure, htables⟩ := openOrCreate_eq_ok heq
  have hopened : h₁.Tidy d₁ := tidy_attach (tidy_makeParent hd p) hattach
  have hconfigured : h₂.Tidy d₂ := OpenFile.Tidy.kept.handle_configure hopened hconfigure
  exact OpenFile.Tidy.kept.apply Connection.ensureTables hconfigured htables

end Store
end SyntaxGraph
