import SyntaxGraph.Proofs.Disk.Outside
import SyntaxGraph.Proofs.Store.Kept

/-!
# A store in use keeps to its places

An open store works on its file and on three places beside it: the log, the index of the log and the
journal.  `OpenFile.Uses` says that so far only these places have been touched, that the store holds no
other files than those, and that no log is open but its own.  Every function on an open file keeps
this, whatever it finds at those places and whether it succeeds or not; closing the file ends it with
no log open.

## What is here

* `storePlaces`, `OpenFile.Uses` — the places, and what holds while they are used.
* `OpenFile.Uses.openLog`, `OpenFile.Uses.store`, `OpenFile.Uses.close` — opening the log, storing a
  database, closing; all else that an open file does follows (`OpenFile.Uses.kept`).
* `Handle.Uses` — the same for handles.
-/

set_option autoImplicit false
namespace SyntaxGraph

/-- The file of a store and the files beside it. -/
def storePlaces (real : RealPath) : List RealPath :=
  [real, beside real logSuffix, beside real indexSuffix, beside real journalSuffix]

/-- A disk on which no log is open, and which differs from another at some places only. -/
structure Disk.AtRest (S : RealPath → Prop) (d₀ d : Disk) : Prop where
  same : Disk.SameOutside S d₀ d
  idle : d.openLogs = []

theorem Disk.openLogs_dropFile (d : Disk) (x : RealPath) : (d.dropFile x).openLogs = d.openLogs := by
  rw [Disk.dropFile]
  split <;> rfl

namespace OpenFile

/-- An open file in use, at some places. -/
structure Uses (S : RealPath → Prop) (d₀ : Disk) (f : OpenFile) (d : Disk) : Prop where
  same : Disk.SameOutside S d₀ d
  places : ∀ x ∈ storePlaces f.real, S x
  file : d₀.Within S f.id
  log : ∀ id writable, f.log = some ⟨some id, writable⟩ → d₀.Within S id
  logs : d.openLogs = f.log.toList.map fun l => (f.id, l)

namespace Uses

variable {S : RealPath → Prop} {d₀ d d' : Disk} {f f' : OpenFile}

theorem journal_place (h : Uses S d₀ f d) : S f.journal :=
  h.places _ (by simp [storePlaces, journal])

theorem log_place (h : Uses S d₀ f d) : S f.logPlace :=
  h.places _ (by simp [storePlaces, logPlace])

theorem index_place (h : Uses S d₀ f d) : S f.indexPlace :=
  h.places _ (by simp [storePlaces, indexPlace])

/-- Only the disk changes. -/
theorem of_same (h : Uses S d₀ f d) (hs : Disk.SameOutside S d₀ d') (hl : d'.openLogs = d.openLogs) :
    Uses S d₀ f d' :=
  ⟨hs, h.places, h.file, h.log, hl.trans h.logs⟩

theorem dropFile (h : Uses S d₀ f d) {x : RealPath} (hx : S x) : Uses S d₀ f (d.dropFile x) :=
  h.of_same (h.same.dropFile hx) (d.openLogs_dropFile x)

theorem addFile (h : Uses S d₀ f d) {x : RealPath} (hx : S x) (hnone : d.entry? x = none)
    (c : Content) : Uses S d₀ f (d.addFile x c).2 := by
  refine h.of_same (h.same.addFile hx ?_ c) rfl
  rw [Disk.shape?_eq_none.2 hnone]
  exact Option.some_ne_none _ |>.symm

theorem setContent (h : Uses S d₀ f d) {id : FileId} (hid : d₀.Within S id) (c : Content) :
    Uses S d₀ f (d.setContent id c) :=
  h.of_same (h.same.setContent hid c) rfl

/-! ## Opening the log -/

/-- The file of the log stands at the log's place. -/
theorem openLogFile (h : Uses S d₀ f d) {file : Option FileId}
    (heq : f.openLogFile d = .ok (file, d')) :
    Uses S d₀ f d' ∧ ∀ id, file = some id → d₀.Within S id := by
  rw [OpenFile.openLogFile] at heq
  split at heq
  · cases heq
  split at heq
  · rename_i id he
    cases heq
    refine ⟨h, fun id' hid => ?_⟩
    cases hid
    exact h.same.within _ id h.log_place (Disk.shape?_eq_file.2 he)
  · cases heq
    exact ⟨h, fun id hid => by cases hid⟩
  · cases heq
  · rename_i hnone
    cases heq
    refine ⟨h.addFile h.log_place hnone _, fun id hid => ?_⟩
    cases hid
    exact .inl h.same.length

theorem openIndex (h : Uses S d₀ f d) {writable : Bool} (heq : f.openIndex d = .ok (writable, d')) :
    Uses S d₀ f d' := by
  rw [OpenFile.openIndex] at heq
  split at heq
  · cases heq
    exact h
  split at heq
  · cases heq
    exact h
  split at heq
  · rename_i id he
    cases heq
    exact h.setContent (h.same.within _ id h.index_place (Disk.shape?_eq_file.2 he)) _
  · cases heq
    exact h
  · cases heq
  · cases heq
  · rename_i hnone
    cases heq
    exact h.addFile h.index_place hnone _

theorem openLog (h : Uses S d₀ f d) (hlog : f.log = none) {r : Except Fault Unit}
    (heq : f.openLog d = (r, f', d')) : Uses S d₀ f' d' := by
  rw [OpenFile.openLog] at heq
  split at heq
  · cases heq
    exact h
  split at heq
  · cases heq
    exact h
  split at heq
  · cases heq
    exact h
  · rename_i file d₁ hfile
    obtain ⟨h₁, hwithin⟩ := h.openLogFile hfile
    split at heq
    · cases heq
      exact h₁
    · rename_i writable d₂ hindex
      have h₂ := h₁.openIndex hindex
      cases heq
      refine ⟨h₂.same.setLogs _, h.places, h.file, fun id w hid => ?_, ?_⟩
      · cases hid
        exact hwithin id rfl
      · have hlogs := h₂.logs
        rw [hlog] at hlogs
        show d₂.openLogs ++ [(f.id, ⟨file, writable⟩)] = _
        rw [hlogs]
        rfl

/-! ## Writing and closing -/

theorem store (h : Uses S d₀ f d) (db : Database) : Uses S d₀ f (f.store db d) := by
  rw [OpenFile.store]
  split
  · rename_i id w hlog
    exact h.setContent (h.log id w hlog) _
  · exact h
  · exact (h.setContent h.file _).dropFile h.journal_place

/-- **An open file keeps to its places**, whatever it does. -/
theorem kept : Kept (Uses S d₀) where
  dropFile h hx := by
    rcases hx with rfl | rfl
    · exact h.dropFile h.journal_place
    · exact h.dropFile h.log_place
  openLog h hlog heq := h.openLog hlog heq
  store h db := h.store db

theorem carryOver (h : Disk.SameOutside S d₀ d) (hplaces : ∀ x ∈ storePlaces f.real, S x)
    (hfile : d₀.Within S f.id) : Disk.SameOutside S d₀ (f.carryOver d) := by
  have hlog : S f.logPlace := hplaces _ (by simp [storePlaces, logPlace])
  have hindex : S f.indexPlace := hplaces _ (by simp [storePlaces, indexPlace])
  unfold OpenFile.carryOver
  simp only
  split <;> split
  · exact (h.setContent hfile _).dropFile hlog
  · exact h.dropFile hlog
  · exact ((h.setContent hfile _).dropFile hlog).dropFile hindex
  · exact (h.dropFile hlog).dropFile hindex

/-- **Closing the file** leaves no log open. -/
theorem close (h : Uses S d₀ f d) : Disk.AtRest S d₀ (f.close d) := by
  have hlogs := h.logs
  rw [OpenFile.close]
  split
  · rename_i hlog
    rw [hlog] at hlogs
    exact ⟨h.same, hlogs⟩
  · rename_i log hlog
    have hidle : d.openLogs.erase (f.id, log) = [] := by
      rw [hlogs, hlog]
      simp
    have hsame := h.same.setLogs (d.openLogs.erase (f.id, log))
    simp only
    split
    · refine ⟨carryOver hsame h.places h.file, ?_⟩
      unfold OpenFile.carryOver
      simp only
      split <;> split <;> simp only [Disk.openLogs_dropFile, Disk.setContent, hidle]
    · exact ⟨hsame, hidle⟩

end Uses
end OpenFile

/-! ## Handles -/

namespace Handle

/-- A handle in use, at some places. -/
def Uses (S : RealPath → Prop) (d₀ : Disk) (h : Handle) (d : Disk) : Prop :=
  match h.backing with
  | .own _ _ => Disk.AtRest S d₀ d
  | .shared f => f.Uses S d₀ d

/-- A function on a handle that keeps to the places of the handle. -/
def KeepsTo {α : Type} (S : RealPath → Prop) (d₀ : Disk)
    (f : Handle → Disk → Except Fault α × Handle × Disk) : Prop :=
  ∀ {h h' : Handle} {d d' : Disk} {r : Except Fault α}, h.Uses S d₀ d → f h d = (r, h', d') →
    h'.Uses S d₀ d'

variable {S : RealPath → Prop} {d₀ : Disk}

theorem keepsTo_connect : KeepsTo S d₀ connect :=
  OpenFile.Uses.kept.connect

theorem uses_keep {h : Handle} {d : Disk} (hu : h.Uses S d₀ d) (c : Connection) :
    (h.keep d c).1.Uses S d₀ (h.keep d c).2 :=
  OpenFile.Uses.kept.keep hu c

theorem keepsTo_apply {α : Type} (f : Connection → Except Fault α × Connection) :
    KeepsTo S d₀ fun h d => h.apply d f :=
  OpenFile.Uses.kept.apply f

theorem keepsTo_read {α : Type} (f : Database → Except Fault α) :
    KeepsTo S d₀ fun h d => h.read d f :=
  keepsTo_apply _

theorem keepsTo_configure : KeepsTo S d₀ configure :=
  OpenFile.Uses.kept.handle_configure

/-- Closing a handle leaves no log open. -/
theorem atRest_close {h : Handle} {d : Disk} (hu : h.Uses S d₀ d) : Disk.AtRest S d₀ (h.close d) := by
  obtain ⟨path, backing, working⟩ := h
  cases backing with
  | own db readOnly => exact hu
  | shared f => exact OpenFile.Uses.close hu

end Handle
end SyntaxGraph
