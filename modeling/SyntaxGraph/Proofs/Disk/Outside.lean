import SyntaxGraph.Proofs.Disk.Way

/-!
# What stays the same outside some places

A store works on a handful of places: its file, the files beside it, and the directories it makes on
its way.  Whatever it does there, the rest of the disk stays the same.  `Disk.SameOutside` says so
for a set of places: elsewhere all shapes are the same, no directory disappears, and the contents of
all files are the same but for those that stand at such a place or are new.  It is proved of every
single change of the disk, and follows for all that is made of such changes.

What a path leads to is then the same as well, as long as the links on the way are not among the places
(`SameOutside.keeps`).
-/

set_option autoImplicit false
namespace SyntaxGraph
namespace Disk

/-- Files that belong to some places: those that stand there, and those that are yet to be made. -/
def Within (d : Disk) (S : RealPath → Prop) (id : FileId) : Prop :=
  d.contents.length ≤ id ∨ ∃ x, S x ∧ d.shape? x = some (.file id)

/-- The disk `d` has come from the disk `d₀` by changes at some places. -/
structure SameOutside (S : RealPath → Prop) (d₀ d : Disk) : Prop where
  shape : ∀ x, ¬S x → d.shape? x = d₀.shape? x
  dirs : ∀ x, d₀.shape? x = some .dir → d.shape? x = some .dir
  within : ∀ x id, S x → d.shape? x = some (.file id) → d₀.Within S id
  content : ∀ id, ¬d₀.Within S id → d.content id = d₀.content id
  length : d₀.contents.length ≤ d.contents.length
  cwd : d.cwd = d₀.cwd

namespace SameOutside

variable {S : RealPath → Prop} {d₀ d : Disk} {x : RealPath}

theorem refl (S : RealPath → Prop) (d : Disk) : SameOutside S d d where
  shape _ _ := rfl
  dirs _ h := h
  within x _ hx h := .inr ⟨x, hx, h⟩
  content _ _ := rfl
  length := Nat.le_refl _
  cwd := rfl

/-- Making a file. -/
theorem addFile (h : SameOutside S d₀ d) (hx : S x) (hold : d.shape? x ≠ some .dir) (c : Content) :
    SameOutside S d₀ (d.addFile x c).2 where
  shape y hy := by
    have hne : y ≠ x := fun he => hy (he ▸ hx)
    rw [shape?_addFile_of_ne c hold hne]
    exact h.shape y hy
  dirs y hy := by
    have hne : y ≠ x := fun he => hold (he ▸ h.dirs y hy)
    rw [shape?_addFile_of_ne c hold hne]
    exact h.dirs y hy
  within y id hy hid := by
    by_cases hne : y = x
    · subst hne
      rcases shape?_addFile d y c with hnew | hsame
      · rw [hnew, Option.some_inj, Shape.file.injEq] at hid
        exact .inl (hid ▸ h.length)
      · exact h.within y id hy (hsame ▸ hid)
    · rw [shape?_addFile_of_ne c hold hne] at hid
      exact h.within y id hy hid
  content id hid := by
    have hlt : id < d.contents.length :=
      Nat.lt_of_lt_of_le (Nat.lt_of_not_le fun hle => hid (.inl hle)) h.length
    rw [content_addFile_of_lt hlt]
    exact h.content id hid
  length := by
    rw [length_addFile]
    exact Nat.le_succ_of_le h.length
  cwd := h.cwd

/-- Putting in the place of something that is no directory something that is no file. -/
theorem setEntry (h : SameOutside S d₀ d) (hx : S x) (hold : d.shape? x ≠ some .dir)
    {new : Option Entry} (hnew : ∀ e ∈ new, e.isBare) (hfile : ∀ id, Entry.file id ∉ new) :
    SameOutside S d₀ (d.setEntry x new) where
  shape y hy := by
    have hne : y ≠ x := fun he => hy (he ▸ hx)
    rw [shape?_setEntry_of_ne hold hnew hne]
    exact h.shape y hy
  dirs y hy := by
    have hne : y ≠ x := fun he => hold (he ▸ h.dirs y hy)
    rw [shape?_setEntry_of_ne hold hnew hne]
    exact h.dirs y hy
  within y id hy hid := by
    by_cases hne : y = x
    · subst hne
      rcases List.eq_nil_or_concat y with rfl | ⟨z, n, rfl⟩
      · exact absurd (shape?_nil d) hold
      · rw [List.concat_eq_append] at hid hold hy
        by_cases hz : d.shape? z = some .dir
        · rw [shape?_eq_file, entry?_setEntry_self n new hz] at hid
          exact absurd hid (hfile id)
        · rw [setEntry_eq_self n new hz] at hid
          exact h.within _ id hy hid
    · rw [shape?_setEntry_of_ne hold hnew hne] at hid
      exact h.within y id hy hid
  content id hid := h.content id hid
  length := h.length
  cwd := h.cwd

/-- Dropping a file. -/
theorem dropFile (h : SameOutside S d₀ d) (hx : S x) : SameOutside S d₀ (d.dropFile x) := by
  by_cases hdir : d.shape? x = some .dir
  · rw [dropFile_of_shape?_eq_dir hdir]
    exact h
  by_cases hnone : d.shape? x = none
  · rw [dropFile_of_shape?_eq_none hnone]
    exact h
  have hdrop : d.dropFile x = d.setEntry x none := by
    rw [Disk.dropFile]
    split
    · rename_i es he
      exact absurd (shape?_eq_dir.2 ⟨es, he⟩) hdir
    · rfl
    · rename_i he
      exact absurd (shape?_eq_none.2 he) hnone
  rw [hdrop]
  exact h.setEntry hx hdir (by simp) (by simp)

/-- Writing to a file. -/
theorem setContent (h : SameOutside S d₀ d) {id : FileId} (hid : d₀.Within S id) (c : Content) :
    SameOutside S d₀ (d.setContent id c) where
  shape y hy := h.shape y hy
  dirs y hy := h.dirs y hy
  within y id' hy hid' := h.within y id' hy hid'
  content id' hid' := by
    have hne : id' ≠ id := fun he => hid' (he ▸ hid)
    rw [content_setContent_of_ne hne]
    exact h.content id' hid'
  length := by
    rw [Disk.length_setContent]
    exact h.length
  cwd := h.cwd

/-- Opening and closing logs. -/
theorem setLogs (h : SameOutside S d₀ d) (logs : List (FileId × OpenLog)) :
    SameOutside S d₀ { d with openLogs := logs } :=
  ⟨h.shape, h.dirs, h.within, h.content, h.length, h.cwd⟩

/-- A way over links outside the places is still there. -/
theorem keeps (h : SameOutside S d₀ d) {through : List RealPath} (hout : ∀ x ∈ through, ¬S x) :
    d₀.Keeps through d :=
  ⟨h.dirs, fun x hx => h.shape x (hout x hx)⟩

end SameOutside
end Disk
end SyntaxGraph
