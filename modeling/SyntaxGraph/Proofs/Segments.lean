import Mathlib.Data.List.Basic
import SyntaxGraph.Config
import SyntaxGraph.Disk.Edit
import SyntaxGraph.Store.Location

/-!
# Segments of a path

How the segments of a path come from the way it was put together: appending behind a slash appends
segments, and appending a name without a slash lengthens the last segment or the first.  From this
the steps, the last step and the parent of a path below a directory can be read off.

## What is here

* `Path.splitSlash_append`, `Path.splitSlash_prepend`, `Path.splitSlash_flatMap` — segments of longer byte
  sequences; `Path.stays`, segments that lead nowhere.
* `Path.Below` — a path that is a directory, a slash and a name; its steps, its last step, its parent.
* `Config.below_databasePath` — the database path is one.
-/

set_option autoImplicit false
namespace SyntaxGraph
namespace Path

theorem splitSlash_slash (bs : Bytes) : splitSlash (slash :: bs) = [] :: splitSlash bs := by
  rw [splitSlash, if_pos rfl]

/-- Bytes without a slash lengthen the first segment. -/
theorem splitSlash_prepend {n bs s : Bytes} {ss : List Bytes} (hn : slash ∉ n)
    (h : splitSlash bs = s :: ss) : splitSlash (n ++ bs) = (n ++ s) :: ss := by
  induction n with
  | nil => exact h
  | cons b n ih =>
    have hb : b ≠ slash := fun hb => hn (hb ▸ List.mem_cons_self)
    rw [List.cons_append, splitSlash, if_neg hb, ih fun hm => hn (List.mem_cons_of_mem b hm)]
    rfl

theorem splitSlash_of_notMem {n : Bytes} (hn : slash ∉ n) : splitSlash n = [n] := by
  have h := splitSlash_prepend hn (show splitSlash [] = [[]] from rfl)
  rwa [List.append_nil] at h

/-- A slash divides segments from segments. -/
theorem splitSlash_append (a b : Bytes) :
    splitSlash (a ++ slash :: b) = splitSlash a ++ splitSlash b := by
  induction a with
  | nil => exact splitSlash_slash b
  | cons c a ih =>
    rw [List.cons_append]
    by_cases hc : c = slash
    · subst hc
      rw [splitSlash_slash, splitSlash_slash, ih, List.cons_append]
    · cases ha : splitSlash a with
      | nil => exact absurd ha (splitSlash_ne_nil a)
      | cons s ss =>
        rw [splitSlash, if_neg hc, ih, ha, splitSlash, if_neg hc, ha]
        rfl

/-- The spelling of steps that stay where they are. -/
def stays (n : Nat) : Bytes :=
  (List.replicate n [dot, slash]).flatten

theorem length_stays (n : Nat) : (stays n).length = 2 * n := by
  simp [stays, Nat.mul_comm]

theorem zero_notMem_stays (n : Nat) : 0 ∉ stays n := by
  intro h
  obtain ⟨step, hstep, hzero⟩ := List.mem_flatten.1 h
  rw [List.eq_of_mem_replicate hstep] at hzero
  exact absurd hzero (by decide)

theorem splitSlash_stays (n : Nat) (bs : Bytes) :
    splitSlash (stays n ++ bs) = List.replicate n [dot] ++ splitSlash bs := by
  induction n with
  | zero => rfl
  | succ n ih =>
    have hfirst : stays (n + 1) ++ bs = [dot] ++ slash :: (stays n ++ bs) := rfl
    rw [hfirst, splitSlash_append, ih]
    rfl

/-- Segments are the stretches between the slashes that join them. -/
theorem splitSlash_flatMap {n : Bytes} {ss : List Bytes} (hn : slash ∉ n)
    (hss : ∀ s ∈ ss, slash ∉ s) : splitSlash (n ++ ss.flatMap (slash :: ·)) = n :: ss := by
  induction ss generalizing n with
  | nil => rw [List.flatMap_nil, List.append_nil, splitSlash_of_notMem hn]
  | cons s ss ih =>
    have hrest := ih (hss s List.mem_cons_self) fun t ht => hss t (List.mem_cons_of_mem s ht)
    rw [List.flatMap_cons, List.cons_append, splitSlash_append, splitSlash_of_notMem hn, hrest,
      List.singleton_append]

/-- A path whose spelling is that of a directory, a slash and a name.  The last segment of the
directory is a name too, so the directory is the parent. -/
structure Below (p : Path) (directory : Bytes) (name : Bytes) : Prop where
  spelling : p.bytes = directory ++ slash :: name
  plain : slash ∉ name
  nonempty : name ≠ []
  solid : ∃ front last, splitSlash directory = front ++ [last] ∧ isBlank last = false ∧
    last ≠ [dot, dot]

namespace Below

variable {p : Path} {directory name : Bytes}

theorem splitSlash_eq (h : p.Below directory name) :
    splitSlash p.bytes = splitSlash directory ++ [name] := by
  rw [h.spelling, splitSlash_append, splitSlash_of_notMem h.plain]

theorem getLast?_ne_slash (h : p.Below directory name) : p.bytes.getLast? ≠ some slash := by
  rw [h.spelling, List.getLast?_append_of_ne_nil _ (List.cons_ne_nil _ _),
    List.getLast?_cons_of_ne_nil h.nonempty]
  exact fun hl => h.plain (List.mem_of_mem_getLast? hl)

theorem steps_eq (h : p.Below directory name) :
    p.steps = (splitSlash directory).filter (· ≠ []) ++ [name] := by
  rw [steps, h.splitSlash_eq, List.filter_append, List.filter_cons_of_pos (by simpa using h.nonempty),
    if_neg h.getLast?_ne_slash, List.append_nil]
  rfl

theorem lastStep?_eq (h : p.Below directory name) :
    p.lastStep? = some ⟨(splitSlash directory).filter (· ≠ []), name, false⟩ := by
  rw [lastStep?, h.splitSlash_eq, List.filter_append,
    List.filter_cons_of_pos (by simpa using h.nonempty), List.filter_nil, List.reverse_append]
  simp [h.getLast?_ne_slash]

theorem directory_ne_nil (h : p.Below directory name) : directory ≠ [] := by
  rintro rfl
  obtain ⟨front, last, hsegs, hlast, -⟩ := h.solid
  rw [show splitSlash [] = [] ++ [[]] from rfl] at hsegs
  have hempty := (List.append_inj' hsegs rfl).2
  rw [List.cons.injEq] at hempty
  rw [← hempty.1] at hlast
  exact absurd hlast (by decide)

theorem directory_getLast?_ne_slash (h : p.Below directory name) :
    directory.getLast? ≠ some slash := by
  intro hl
  obtain ⟨front, last, hsegs, hlast, -⟩ := h.solid
  obtain ⟨init, rfl⟩ := List.getLast?_eq_some_iff.1 hl
  rw [splitSlash_append] at hsegs
  have hempty := (List.append_inj' hsegs rfl).2
  rw [show splitSlash [] = [[]] from rfl, List.cons.injEq] at hempty
  rw [← hempty.1] at hlast
  exact absurd hlast (by decide)

theorem directory_steps (h : p.Below directory name) :
    (Path.mk directory).steps = (splitSlash directory).filter (· ≠ []) := by
  rw [steps, if_neg h.directory_getLast?_ne_slash, List.append_nil]

/-- The directory is the parent. -/
theorem parent?_eq (h : p.Below directory name) (hname : isBlank name = false) :
    p.parent? = some ⟨directory⟩ := by
  obtain ⟨front, last, hsegs, hlast, -⟩ := h.solid
  have htrim : trimBlank (splitSlash directory).reverse = (splitSlash directory).reverse := by
    rw [hsegs, List.reverse_append]
    cases hf : front.reverse with
    | nil => rfl
    | cons s ss => simp [trimBlank, hlast]
  have hof : ofReversed (splitSlash directory).reverse = ⟨directory⟩ := by
    rw [ofReversed, htrim, List.reverse_reverse]
    split
    · rename_i hsingle
      rw [hsegs, ← List.nil_append [[]]] at hsingle
      have hempty := (List.append_inj' hsingle rfl).2
      rw [List.cons.injEq] at hempty
      rw [hempty.1] at hlast
      exact absurd hlast (by decide)
    · rw [joinSlash_splitSlash]
  rw [parent?, ancestors, h.splitSlash_eq, List.reverse_append, List.reverse_singleton,
    List.singleton_append]
  cases hr : (splitSlash directory).reverse with
  | nil => exact absurd (List.reverse_eq_nil_iff.1 hr) (splitSlash_ne_nil directory)
  | cons s ss =>
    rw [outer, if_neg (by rw [hname]; exact Bool.false_ne_true), ← hr, hof]
    rfl

/-- A suffix of the path is a suffix of the name. -/
theorem append (h : p.Below directory name) {suffix : Bytes} (hs : slash ∉ suffix) :
    (Path.mk (p.bytes ++ suffix)).Below directory (name ++ suffix) where
  spelling := by
    rw [h.spelling, List.append_assoc]
    rfl
  plain := by
    rw [List.mem_append, not_or]
    exact ⟨h.plain, hs⟩
  nonempty := by
    intro he
    exact h.nonempty (List.append_eq_nil_iff.1 he).1
  solid := h.solid

end Below
end Path

/-! ## The database path -/

namespace Config

/-- The name of the database file. -/
def databaseName : Bytes :=
  Utf8.ofString "graphdb.sqlite"

/-- Joining a name puts a slash in between, unless there is one or nothing stands before it. -/
theorem joinText_bytes (p : Path) (s : String) (h : (Path.ofString s).isAbsolute = false) :
    (p.joinText s).bytes =
      if p.bytes = [] ∨ p.bytes.getLast? = some Path.slash then p.bytes ++ Utf8.ofString s
      else p.bytes ++ Path.slash :: Utf8.ofString s := by
  rw [Path.joinText, Path.join, if_neg (by rw [h]; exact Bool.false_ne_true)]
  split <;> rfl

/-- The directory of the database, below a base directory. -/
theorem splitSlash_joinText (base : Path) {s : String} (h : Path.slash ∉ Utf8.ofString s) :
    ∃ front, Path.splitSlash (base.joinText s).bytes = front ++ [Utf8.ofString s] := by
  have habsolute : (Path.ofString s).isAbsolute = false := by
    rw [Path.isAbsolute, beq_eq_false_iff_ne]
    exact fun hhead => h (List.mem_of_mem_head? hhead)
  rw [joinText_bytes base s habsolute]
  split
  · rename_i hend
    rcases hend with hempty | hslash
    · exact ⟨[], by rw [hempty, List.nil_append, Path.splitSlash_of_notMem h, List.nil_append]⟩
    · obtain ⟨init, hinit⟩ := List.getLast?_eq_some_iff.1 hslash
      rw [hinit, List.append_assoc]
      exact ⟨Path.splitSlash init, by
        rw [List.singleton_append, Path.splitSlash_append, Path.splitSlash_of_notMem h]⟩
  · exact ⟨Path.splitSlash base.bytes, by rw [Path.splitSlash_append, Path.splitSlash_of_notMem h]⟩

/-- The database file stands below a directory that is its parent. -/
theorem below_databasePath (base : Path) :
    (databasePath base).Below (base.joinText "sqlite").bytes databaseName := by
  obtain ⟨front, hfront⟩ := @splitSlash_joinText base "sqlite" (by decide)
  have hend : (base.joinText "sqlite").bytes.getLast? = some 0x65 := by
    rw [joinText_bytes base "sqlite" (by decide)]
    split
    · exact List.getLast?_append_of_ne_nil _ (by decide)
    · exact List.getLast?_append_of_ne_nil _ (List.cons_ne_nil _ _)
  refine ⟨?_, by decide, by decide, front, _, hfront, by decide, by decide⟩
  rw [databasePath, joinText_bytes _ _ (by decide), if_neg]
  · rfl
  · rw [hend]
    rintro (hempty | hslash)
    · rw [hempty] at hend
      cases hend
    · exact absurd hslash (by decide)

/-- The database path is taken as it stands, if the base directory is. -/
theorem mark_databasePath {base : Path} (h : Location.mark.isPrefixOf base.bytes = false) :
    Location.mark.isPrefixOf (databasePath base).bytes = false := by
  rw [← Bool.not_eq_true, List.isPrefixOf_iff_prefix] at h ⊢
  intro hmark
  -- what is put behind the base begins with a byte that the mark does not hold
  have hrest : ∃ b rest, (databasePath base).bytes = base.bytes ++ b :: rest ∧ b ∉ Location.mark := by
    rw [(below_databasePath base).spelling, joinText_bytes base "sqlite" (by decide)]
    split
    · exact ⟨0x73, _, by rw [List.append_assoc]; rfl, by decide⟩
    · exact ⟨Path.slash, _, by rw [List.append_assoc]; rfl, by decide⟩
  obtain ⟨b, rest, hbytes, hb⟩ := hrest
  rw [hbytes] at hmark
  obtain ⟨more, hmore⟩ := hmark
  rcases List.append_eq_append_iff.1 hmore with ⟨m, hm, -⟩ | ⟨m, hm, htail⟩
  · exact h ⟨m, hm.symm⟩
  · cases m with
    | nil =>
      rw [List.append_nil] at hm
      exact h ⟨[], by rw [List.append_nil, hm]⟩
    | cons c m =>
      rw [List.cons_append, List.cons.injEq] at htail
      exact hb (htail.1 ▸ hm ▸ List.mem_append_right base.bytes List.mem_cons_self)

end Config
end SyntaxGraph
