import Mathlib.Data.List.Basic
import SyntaxGraph.Store.SideFile

/-!
# What a change of the tree shows

Following a path asks of each entry only what sort of thing it is: a file and which content it has, a
link and its target, a pipe, or a directory.  This is the *shape* of an entry.  It leaves out what a
directory holds, so that putting something into a directory does not change the shape of the
directory.  Every change the program makes puts a file or an empty directory where no directory
stands, or takes away something that is no directory; such a change shows at its own place and
nowhere else (`shape?_setEntry_of_ne`).

## What is here

* `Shape`, `Disk.shape?` — shapes, and that what stands below something stands in a directory.
* `Disk.entry?_setEntry_self`, `Disk.shape?_setEntry_of_ne` — a change at a place, there and elsewhere.
* `Disk.shape?_addFile_self`, `Disk.shape?_dropFile_self` and their companions — the changes the
  program makes, and what becomes of contents.
* `Disk.find_setContent` — where a path leads has nothing to do with contents.
-/

set_option autoImplicit false
namespace SyntaxGraph

/-- What sort of thing an entry is. -/
inductive Shape where
  | file (id : FileId)
  | link (target : Path)
  | pipe
  | dir
deriving DecidableEq, Repr

/-- The shape of an entry. -/
def Entry.shape : Entry → Shape
  | .file id => .file id
  | .link target => .link target
  | .pipe => .pipe
  | .dir _ => .dir

/-! ## Entries of a directory -/

theorem getName_putName (es : List (Bytes × Entry)) (n m : Bytes) (e : Entry) :
    getName (putName es n e) m = if m = n then some e else getName es m := by
  induction es with
  | nil =>
    by_cases h : m = n
    · simp [getName, putName, h]
    · simp [getName, putName, h, List.lookup_cons, beq_false_of_ne h]
  | cons x es ih =>
    obtain ⟨k, old⟩ := x
    rw [putName]
    by_cases hk : k = n
    · subst hk
      rw [if_pos rfl]
      by_cases h : m = k
      · simp [getName, h]
      · simp [getName, h, List.lookup_cons, beq_false_of_ne h]
    · rw [if_neg hk]
      by_cases h : m = k
      · subst h
        simp [getName, hk]
      · simp only [getName, List.lookup_cons, beq_false_of_ne h] at ih ⊢
        exact ih

/-- Putting an entry where it is changes nothing. -/
theorem putName_self {es : List (Bytes × Entry)} {n : Bytes} {e : Entry} (h : getName es n = some e) :
    putName es n e = es := by
  induction es with
  | nil => cases h
  | cons x es ih =>
    obtain ⟨k, old⟩ := x
    rw [putName]
    by_cases hk : k = n
    · subst hk
      simp only [getName, List.lookup_cons_self, Option.some.injEq] at h
      rw [if_pos rfl, h]
    · rw [if_neg hk, ih]
      simpa [getName, List.lookup_cons, beq_false_of_ne (Ne.symm hk)] using h

theorem getName_eraseName (es : List (Bytes × Entry)) (n m : Bytes) :
    getName (eraseName es n) m = if m = n then none else getName es m := by
  induction es with
  | nil => simp [getName, eraseName]
  | cons x es ih =>
    obtain ⟨k, old⟩ := x
    rw [eraseName] at ih ⊢
    by_cases hk : k = n
    · subst hk
      rw [List.filter_cons_of_neg (by simp), ih]
      by_cases h : m = k
      · simp [h]
      · simp [getName, h, List.lookup_cons, beq_false_of_ne h]
    · rw [List.filter_cons_of_pos (by simpa using hk)]
      by_cases h : m = k
      · subst h
        simp [getName, hk]
      · simp only [getName, List.lookup_cons, beq_false_of_ne h] at ih ⊢
        exact ih

theorem getName_setName (es : List (Bytes × Entry)) (n m : Bytes) (new : Option Entry) :
    getName (setName es n new) m = if m = n then new else getName es m := by
  cases new with
  | none => exact getName_eraseName es n m
  | some e => exact getName_putName es n m e

theorem Entry.at?_cons (es : List (Bytes × Entry)) (n : Bytes) (ns : RealPath) :
    (Entry.dir es).at? (n :: ns) = (getName es n).bind (·.at? ns) := by
  rw [Entry.at?]
  cases getName es n <;> rfl

/-- Only directories have something below them. -/
theorem Entry.at?_of_shape_ne {e : Entry} (h : e.shape ≠ .dir) (n : Bytes) (ns : RealPath) :
    e.at? (n :: ns) = none := by
  cases e with
  | dir es => exact absurd rfl h
  | file id => rfl
  | link target => rfl
  | pipe => rfl

theorem Entry.at?_append (e : Entry) (x y : RealPath) : e.at? (x ++ y) = (e.at? x).bind (·.at? y) := by
  induction x generalizing e with
  | nil => simp [Entry.at?]
  | cons n x ih =>
    cases e with
    | dir es =>
      rw [List.cons_append, Entry.at?_cons, Entry.at?_cons]
      cases getName es n with
      | none => rfl
      | some e => exact ih e
    | file id => rfl
    | link target => rfl
    | pipe => rfl

/-! ## A change at a place -/

/-- An entry with nothing below it. -/
def Entry.isBare : Entry → Bool
  | .dir es => es.isEmpty
  | _ => true

theorem Entry.at?_of_isBare {e : Entry} (h : e.isBare) (n : Bytes) (ns : RealPath) :
    e.at? (n :: ns) = none := by
  cases e with
  | dir es =>
    rw [List.isEmpty_iff.1 h]
    rfl
  | file id => rfl
  | link target => rfl
  | pipe => rfl

/-- A change is seen at its own place. -/
theorem at?_setAt_self {es sub : List (Bytes × Entry)} {x : RealPath} (n : Bytes)
    (new : Option Entry) (h : (Entry.dir es).at? x = some (.dir sub)) :
    (Entry.dir (setAt es (x ++ [n]) new)).at? (x ++ [n]) = new := by
  induction x generalizing es with
  | nil =>
    rw [List.nil_append, Entry.at?_cons, setAt, getName_setName, if_pos rfl]
    cases new <;> rfl
  | cons m x ih =>
    rw [Entry.at?_cons] at h
    cases hm : getName es m with
    | none => simp [hm] at h
    | some e =>
      rw [hm, Option.bind_some] at h
      cases e with
      | dir below =>
        have hset : setAt es (m :: x ++ [n]) new =
            putName es m (.dir (setAt below (x ++ [n]) new)) := by
          cases x <;> simp [setAt, hm]
        rw [hset, List.cons_append, Entry.at?_cons, getName_putName, if_pos rfl, Option.bind_some]
        exact ih h
      | file id => cases x <;> cases h
      | link target => cases x <;> cases h
      | pipe => cases x <;> cases h

/-- Where there is no directory, nothing is changed. -/
theorem setAt_eq_self {es : List (Bytes × Entry)} {x : RealPath} (n : Bytes) (new : Option Entry)
    (h : ∀ sub, (Entry.dir es).at? x ≠ some (.dir sub)) : setAt es (x ++ [n]) new = es := by
  induction x generalizing es with
  | nil => exact absurd rfl (h es)
  | cons m x ih =>
    cases hm : getName es m with
    | none => cases x <;> simp [setAt, hm]
    | some e =>
      cases e with
      | dir below =>
        have hset : setAt below (x ++ [n]) new = below := by
          refine ih fun sub hsub => h sub ?_
          rw [Entry.at?_cons, hm]
          exact hsub
        have hput : setAt es (m :: x ++ [n]) new =
            putName es m (.dir (setAt below (x ++ [n]) new)) := by
          cases x <;> simp [setAt, hm]
        rw [hput, hset]
        exact putName_self hm
      | file id => cases x <;> simp [setAt, hm]
      | link target => cases x <;> simp [setAt, hm]
      | pipe => cases x <;> simp [setAt, hm]

/-- **A change is not seen anywhere else**, if it puts something bare in the place of something that is
no directory. -/
theorem shape_at?_setAt {es : List (Bytes × Entry)} {x y : RealPath} {new : Option Entry}
    (hold : ∀ e ∈ (Entry.dir es).at? x, e.shape ≠ .dir) (hnew : ∀ e ∈ new, e.isBare) (hne : y ≠ x) :
    ((Entry.dir (setAt es x new)).at? y).map Entry.shape =
      ((Entry.dir es).at? y).map Entry.shape := by
  induction x generalizing es y with
  | nil => exact absurd rfl (hold (.dir es) rfl)
  | cons n x ih =>
    cases y with
    | nil => rfl
    | cons m y =>
      rw [Entry.at?_cons, Entry.at?_cons]
      rw [Entry.at?_cons] at hold
      cases x with
      | nil =>
        rw [setAt, getName_setName]
        by_cases hm : m = n
        · -- below the place there was nothing before, and there is nothing now
          subst hm
          obtain ⟨k, y, rfl⟩ := List.exists_cons_of_ne_nil fun h : y = [] => hne (h ▸ rfl)
          have hbefore : (getName es m).bind (·.at? (k :: y)) = none := by
            cases he : getName es m with
            | none => rfl
            | some e => exact Entry.at?_of_shape_ne (hold e (by simp [he, Entry.at?])) k y
          have hafter : new.bind (·.at? (k :: y)) = none := by
            cases new with
            | none => rfl
            | some e => exact Entry.at?_of_isBare (hnew e rfl) k y
          rw [if_pos rfl, hbefore, hafter]
        · rw [if_neg hm]
      | cons k x =>
        cases hn : getName es n with
        | none => simp [setAt, hn]
        | some e =>
          cases e with
          | dir sub =>
            have hset : setAt es (n :: k :: x) new =
                putName es n (.dir (setAt sub (k :: x) new)) := by
              simp [setAt, hn]
            rw [hset, getName_putName]
            by_cases hm : m = n
            · subst hm
              rw [if_pos rfl, hn, Option.bind_some, Option.bind_some]
              refine ih (fun e he => hold e ?_) fun h => hne (h ▸ rfl)
              rw [hn]
              exact he
            · rw [if_neg hm]
          | file id => simp [setAt, hn]
          | link target => simp [setAt, hn]
          | pipe => simp [setAt, hn]

/-! ## Shapes on a disk -/

namespace Disk

/-- The shape of what stands at a real path. -/
def shape? (d : Disk) (x : RealPath) : Option Shape :=
  (d.entry? x).map Entry.shape

theorem shape?_nil (d : Disk) : d.shape? [] = some .dir := rfl

theorem shape?_eq_none {d : Disk} {x : RealPath} : d.shape? x = none ↔ d.entry? x = none := by
  rw [shape?, Option.map_eq_none_iff]

theorem shape?_eq_file {d : Disk} {x : RealPath} {id : FileId} :
    d.shape? x = some (.file id) ↔ d.entry? x = some (.file id) := by
  rw [shape?, Option.map_eq_some_iff]
  constructor
  · rintro ⟨e, he, hs⟩
    cases e <;> cases hs
    exact he
  · intro h
    exact ⟨_, h, rfl⟩

theorem shape?_eq_link {d : Disk} {x : RealPath} {target : Path} :
    d.shape? x = some (.link target) ↔ d.entry? x = some (.link target) := by
  rw [shape?, Option.map_eq_some_iff]
  constructor
  · rintro ⟨e, he, hs⟩
    cases e <;> cases hs
    exact he
  · intro h
    exact ⟨_, h, rfl⟩

theorem shape?_eq_dir {d : Disk} {x : RealPath} :
    d.shape? x = some .dir ↔ ∃ es, d.entry? x = some (.dir es) := by
  rw [shape?, Option.map_eq_some_iff]
  constructor
  · rintro ⟨e, he, hs⟩
    cases e <;> cases hs
    exact ⟨_, he⟩
  · rintro ⟨es, he⟩
    exact ⟨_, he, rfl⟩

theorem isRealDir_iff {d : Disk} {x : RealPath} : d.isRealDir x ↔ d.shape? x = some .dir := by
  rw [isRealDir, shape?]
  cases d.entry? x with
  | none => simp
  | some e => cases e <;> simp [Entry.shape]

/-- What stands below something stands in a directory. -/
theorem shape?_of_append {d : Disk} {x y : RealPath} (hy : y ≠ []) (h : d.shape? (x ++ y) ≠ none) :
    d.shape? x = some .dir := by
  obtain ⟨n, y, rfl⟩ := List.exists_cons_of_ne_nil hy
  rw [Ne, shape?_eq_none, entry?, Entry.at?_append] at h
  cases he : (Entry.dir d.top).at? x with
  | none =>
    rw [he] at h
    exact absurd rfl h
  | some e =>
    rw [he, Option.bind_some] at h
    by_cases hs : e.shape = .dir
    · rw [shape?, entry?, he, Option.map_some, hs]
    · exact absurd (Entry.at?_of_shape_ne hs n y) h

theorem shape?_of_concat {d : Disk} {x : RealPath} {n : Bytes} {s : Shape}
    (h : d.shape? (x ++ [n]) = some s) : d.shape? x = some .dir :=
  shape?_of_append (List.cons_ne_nil n []) (by rw [h]; exact Option.some_ne_none s)

/-- A directory that is gone up from is below one. -/
theorem shape?_dropLast {d : Disk} {x : RealPath} (h : d.shape? x = some .dir) :
    d.shape? x.dropLast = some .dir := by
  rcases List.eq_nil_or_concat x with rfl | ⟨y, n, rfl⟩
  · exact h
  · rw [List.concat_eq_append] at h ⊢
    rw [List.dropLast_concat]
    exact shape?_of_concat h

/-- A place at which something stands that is no directory has a directory above it. -/
theorem exists_directory {d : Disk} {x : RealPath} {s : Shape} (h : d.shape? x = some s)
    (hs : s ≠ .dir) : ∃ y n, x = y ++ [n] ∧ d.shape? y = some .dir := by
  rcases List.eq_nil_or_concat x with rfl | ⟨y, n, rfl⟩
  · rw [shape?_nil, Option.some_inj] at h
    exact absurd h.symm hs
  · rw [List.concat_eq_append] at h ⊢
    exact ⟨y, n, rfl, shape?_of_concat h⟩

/-! ## Changes on a disk -/

theorem entry?_setEntry_self {d : Disk} {x : RealPath} (n : Bytes) (new : Option Entry)
    (h : d.shape? x = some .dir) : Disk.entry? (d.setEntry (x ++ [n]) new) (x ++ [n]) = new := by
  obtain ⟨es, he⟩ := shape?_eq_dir.1 h
  exact at?_setAt_self n new he

theorem shape?_setEntry_of_ne {d : Disk} {x y : RealPath} {new : Option Entry}
    (hold : d.shape? x ≠ some .dir) (hnew : ∀ e ∈ new, e.isBare) (hne : y ≠ x) :
    (d.setEntry x new).shape? y = d.shape? y := by
  refine shape_at?_setAt (fun e he hs => hold ?_) hnew hne
  rw [shape?, entry?, Option.mem_def.1 he, Option.map_some, hs]

/-- Where there is no directory, nothing is changed. -/
theorem setEntry_eq_self {d : Disk} {x : RealPath} (n : Bytes) (new : Option Entry)
    (h : d.shape? x ≠ some .dir) : d.setEntry (x ++ [n]) new = d := by
  have hset : setAt d.top (x ++ [n]) new = d.top :=
    setAt_eq_self n new fun sub hsub => h (shape?_eq_dir.2 ⟨sub, hsub⟩)
  rw [setEntry, hset]

theorem shape?_addFile_of_ne {d : Disk} {x y : RealPath} (c : Content)
    (hold : d.shape? x ≠ some .dir) (hne : y ≠ x) : (d.addFile x c).2.shape? y = d.shape? y :=
  shape?_setEntry_of_ne hold (by simp [Entry.isBare]) hne

theorem shape?_addFile_self {d : Disk} {x : RealPath} (n : Bytes) (c : Content)
    (h : d.shape? x = some .dir) :
    (d.addFile (x ++ [n]) c).2.shape? (x ++ [n]) = some (.file d.contents.length) :=
  shape?_eq_file.2 (entry?_setEntry_self n _ h)

/-- At the place of a new file stands the new file, or what stood there. -/
theorem shape?_addFile (d : Disk) (x : RealPath) (c : Content) :
    (d.addFile x c).2.shape? x = some (.file d.contents.length) ∨
      (d.addFile x c).2.shape? x = d.shape? x := by
  rcases List.eq_nil_or_concat x with rfl | ⟨y, n, rfl⟩
  · exact .inr rfl
  · rw [List.concat_eq_append]
    by_cases hy : d.shape? y = some .dir
    · exact .inl (shape?_addFile_self n c hy)
    · refine .inr ?_
      show (d.setEntry (y ++ [n]) _).shape? (y ++ [n]) = _
      rw [setEntry_eq_self n _ hy]

theorem shape?_dropFile_of_ne {d : Disk} {x y : RealPath} (hne : y ≠ x) :
    (d.dropFile x).shape? y = d.shape? y := by
  rw [dropFile]
  split
  · rfl
  · rename_i e hdir he
    refine shape?_setEntry_of_ne (fun h => ?_) (by simp) hne
    obtain ⟨es, hes⟩ := shape?_eq_dir.1 h
    rw [he, Option.some_inj] at hes
    exact hdir es hes
  · rfl

/-- Nothing is left at the place of a dropped file, unless it is a directory. -/
theorem shape?_dropFile_self {d : Disk} {x : RealPath} (h : d.shape? x ≠ some .dir) :
    (d.dropFile x).shape? x = none := by
  rw [dropFile]
  split
  · rename_i es he
    exact absurd (shape?_eq_dir.2 ⟨es, he⟩) h
  · rename_i e hdir he
    have hs : d.shape? x = some e.shape := by rw [shape?, he, Option.map_some]
    obtain ⟨y, n, rfl, hy⟩ := exists_directory hs fun h' => h (h' ▸ hs)
    exact shape?_eq_none.2 (entry?_setEntry_self n none hy)
  · rename_i he
    exact shape?_eq_none.2 he

theorem dropFile_of_shape?_eq_dir {d : Disk} {x : RealPath} (h : d.shape? x = some .dir) :
    d.dropFile x = d := by
  obtain ⟨es, he⟩ := shape?_eq_dir.1 h
  rw [dropFile, he]

theorem dropFile_of_shape?_eq_none {d : Disk} {x : RealPath} (h : d.shape? x = none) :
    d.dropFile x = d := by
  rw [dropFile, shape?_eq_none.1 h]

/-! ## Contents -/

theorem contents_dropFile (d : Disk) (x : RealPath) : (d.dropFile x).contents = d.contents := by
  rw [dropFile]
  split <;> rfl

@[simp] theorem content_dropFile (d : Disk) (x : RealPath) (id : FileId) :
    (d.dropFile x).content id = d.content id := by
  rw [content, contents_dropFile, content]

theorem content_setContent_self {d : Disk} {id : FileId} (h : id < d.contents.length) (c : Content) :
    (d.setContent id c).content id = c := by
  simp [content, setContent, h]

theorem content_setContent_of_ne {d : Disk} {id id' : FileId} (h : id' ≠ id) (c : Content) :
    (d.setContent id c).content id' = d.content id' := by
  simp [content, setContent, List.getElem?_set_ne h.symm]

theorem content_addFile_self (d : Disk) (x : RealPath) (c : Content) :
    (d.addFile x c).2.content d.contents.length = c := by
  simp [content, addFile]

theorem length_setContent (d : Disk) (id : FileId) (c : Content) :
    (d.setContent id c).contents.length = d.contents.length :=
  List.length_set

theorem length_addFile (d : Disk) (x : RealPath) (c : Content) :
    (d.addFile x c).2.contents.length = d.contents.length + 1 :=
  List.length_append

theorem content_addFile_of_lt {d : Disk} {id : FileId} (h : id < d.contents.length) (x : RealPath)
    (c : Content) : (d.addFile x c).2.content id = d.content id := by
  simp [content, addFile, List.getElem?_append_left h]

theorem descend_setContent (d : Disk) (id : FileId) (c : Content) (purpose : Purpose)
    (links : Nat) (here : RealPath) (steps : List Bytes) :
    (d.setContent id c).descend purpose links here steps = d.descend purpose links here steps := by
  have hentry (x : RealPath) : Disk.entry? (d.setContent id c) x = d.entry? x := rfl
  fun_induction descend d purpose links here steps <;> rw [descend] <;> grind

/-- Where a path leads has nothing to do with contents. -/
theorem find_setContent (d : Disk) (id : FileId) (c : Content) (p : Path) (purpose : Purpose) :
    (d.setContent id c).find p purpose = d.find p purpose := by
  have horigin : (d.setContent id c).origin p = d.origin p := rfl
  simp only [find, locate, horigin, descend_setContent]

end Disk
end SyntaxGraph
