import Mathlib.Algebra.BigOperators.Group.List.Basic
import Mathlib.Algebra.Order.BigOperators.Group.List
import Mathlib.Data.List.Induction
import SyntaxGraph.Proofs.Collisions
import SyntaxGraph.Proofs.Rebuild

/-!
# What a run announces

A run tells how far it has come after every file of a known language, whenever the number of indexed
files is a multiple of a hundred.  A file that fails leaves that number as it is, so a milestone is
announced once when it is reached, and once more for every file that fails before the next file is
indexed.  Files of no known language, and entries that are no files, make no difference.

So each multiple of a hundred up to the number of indexed files is announced, in order, and nothing
else is; but it is announced once only if no file fails while the run stands at it.

## What is here

* `announced` — the numbers a log announces.
* `failuresAt` — how many files of a walk fail while a given number of files has been indexed.
* `milestones` — the multiples of a hundred, each as often as it is announced.
* `Visit.filterMap_run` — a visit reports nothing but rows that were refused.
* `Index.announced_entry` — what one entry of a walk adds; `Index.announced_build` — what a whole walk
  announces; `Index.project_announces` — what a run announces.
-/

set_option autoImplicit false
namespace SyntaxGraph

/-- The numbers of files that a log announces, in order. -/
def announced (log : List Message) : List Nat :=
  log.filterMap fun
    | .progress n => some n
    | _ => none

theorem announced_append (a b : List Message) : announced (a ++ b) = announced a ++ announced b :=
  List.filterMap_append

/-! ## Failing files -/

/-- How many files an entry of a walk adds to the indexed ones. -/
def Walked.indexed (w : Walked) : Nat :=
  w.files.2.1

/-- How many files an entry of a walk adds to the failed ones. -/
def Walked.failed (w : Walked) : Nat :=
  w.files.2.2.2

/-- An entry is at most one file, and a file is indexed or fails, not both. -/
theorem Walked.indexed_add_failed_le (w : Walked) : w.indexed + w.failed ≤ 1 := by
  rw [indexed, failed]
  cases w with
  | unreadable path error => exact Nat.zero_le 1
  | other path => exact Nat.zero_le 1
  | file path content | unopened path error =>
    rw [files]
    split <;> decide

/-- How many files of a walk are indexed. -/
def indexedIn (ws : List Walked) : Nat :=
  (ws.map Walked.indexed).sum

/-- How many files of a walk fail while exactly `n` files have been indexed. -/
def failuresAt : Nat → List Walked → Nat
  | _, [] => 0
  | n, w :: ws =>
    (if n = 0 then w.failed else 0) + (if n < w.indexed then 0 else failuresAt (n - w.indexed) ws)

theorem indexedIn_concat (ws : List Walked) (w : Walked) :
    indexedIn (ws ++ [w]) = indexedIn ws + w.indexed := by
  rw [indexedIn, List.map_append, List.sum_append, List.map_singleton, List.sum_singleton, indexedIn]

/-- One more entry at the end. -/
theorem failuresAt_concat (n : Nat) (ws : List Walked) (w : Walked) :
    failuresAt n (ws ++ [w]) = failuresAt n ws + if indexedIn ws = n then w.failed else 0 := by
  induction ws generalizing n with
  | nil =>
    have hempty : (indexedIn [] = n) = (n = 0) := propext eq_comm
    simp [failuresAt, hempty]
  | cons v ws ih =>
    have hindexed : indexedIn (v :: ws) = v.indexed + indexedIn ws := by
      rw [indexedIn, List.map_cons, List.sum_cons, indexedIn]
    rw [List.cons_append, failuresAt, failuresAt, ih, hindexed]
    split_ifs <;> omega

/-- None fails where the walk has not come. -/
theorem failuresAt_eq_zero {n : Nat} {ws : List Walked} (h : indexedIn ws < n) :
    failuresAt n ws = 0 := by
  induction ws using List.reverseRecOn with
  | nil => rfl
  | append_singleton ws w ih =>
    rw [indexedIn_concat] at h
    rw [failuresAt_concat, ih (by omega), if_neg (by omega)]

/-! ## Multiples of a hundred -/

/-- The first `k` multiples of a hundred, each once and once more for every failure at it. -/
def milestones (failures : Nat → Nat) (k : Nat) : List Nat :=
  (List.range k).flatMap fun i =>
    List.replicate (1 + failures (100 * (i + 1))) (100 * (i + 1))

section Milestones

variable {f : Nat → Nat} {k : Nat}

theorem milestones_succ (f : Nat → Nat) (k : Nat) :
    milestones f (k + 1) =
      milestones f k ++ List.replicate (1 + f (100 * (k + 1))) (100 * (k + 1)) := by
  rw [milestones, List.range_succ, List.flatMap_append, List.flatMap_singleton, milestones]

/-- Failures elsewhere make no difference. -/
theorem milestones_add_of_ne {n : Nat} (h : ∀ i < k, n ≠ 100 * (i + 1)) (x : Nat) :
    milestones (fun m => f m + if n = m then x else 0) k = milestones f k := by
  rw [milestones, milestones]
  refine List.flatMap_congr fun i hi => ?_
  rw [if_neg (h i (List.mem_range.1 hi)), Nat.add_zero]

theorem length_milestones (f : Nat → Nat) (k : Nat) :
    (milestones f k).length = k + ((List.range k).map fun i => f (100 * (i + 1))).sum := by
  induction k with
  | zero => rfl
  | succ k ih =>
    rw [milestones_succ, List.length_append, ih, List.length_replicate, List.range_succ,
      List.map_append, List.sum_append, List.map_singleton, List.sum_singleton]
    omega

/-- Every milestone is announced once exactly if nothing fails at one. -/
theorem milestones_eq_iff :
    milestones f k = (List.range k).map (fun i => 100 * (i + 1)) ↔
      ∀ i < k, f (100 * (i + 1)) = 0 := by
  constructor
  · intro heq i hi
    have hlength := congrArg List.length heq
    rw [length_milestones, List.length_map, List.length_range] at hlength
    have hsum : ((List.range k).map fun i => f (100 * (i + 1))).sum = 0 := by omega
    exact List.sum_eq_zero_iff.1 hsum _ (List.mem_map.2 ⟨i, List.mem_range.2 hi, rfl⟩)
  · intro hzero
    rw [milestones, List.map_eq_flatMap]
    refine List.flatMap_congr fun i hi => ?_
    rw [hzero i (List.mem_range.1 hi)]
    rfl

end Milestones

/-- What an entry of a walk announces, after `n` files have been indexed. -/
def Walked.announces (n : Nat) (w : Walked) : List Nat :=
  if 0 < w.indexed + w.failed ∧ 0 < n + w.indexed ∧ (n + w.indexed) % 100 = 0 then [n + w.indexed]
  else []

/-- **One more entry** adds to the milestones what it announces: a file that is indexed, the next
milestone if that is reached; a file that fails, the milestone the walk stands at. -/
theorem milestones_concat (ws : List Walked) (w : Walked) :
    milestones (failuresAt · (ws ++ [w])) (indexedIn (ws ++ [w]) / 100) =
      milestones (failuresAt · ws) (indexedIn ws / 100) ++ w.announces (indexedIn ws) := by
  have hle := w.indexed_add_failed_le
  simp only [failuresAt_concat, indexedIn_concat]
  rw [Walked.announces]
  rcases Nat.eq_zero_or_pos w.failed with hfailed | hfailed
  · -- no file fails, so only the next milestone can be new
    simp only [hfailed, ite_self, Nat.add_zero]
    split_ifs with hnew
    · obtain ⟨k, hk⟩ : ∃ k, indexedIn ws + w.indexed = 100 * (k + 1) :=
        ⟨(indexedIn ws + w.indexed) / 100 - 1, by omega⟩
      have hreached : (indexedIn ws + w.indexed) / 100 = indexedIn ws / 100 + 1 := by omega
      have hbefore : indexedIn ws / 100 = k := by omega
      rw [hreached, milestones_succ, hbefore, failuresAt_eq_zero (by omega), hk]
      rfl
    · have hsame : (indexedIn ws + w.indexed) / 100 = indexedIn ws / 100 := by omega
      rw [hsame, List.append_nil]
  · have hindexed : w.indexed = 0 := by omega
    have hone : w.failed = 1 := by omega
    simp only [hindexed, hone, Nat.add_zero]
    split_ifs with hstands
    · -- the walk stands at a milestone, which is announced once more
      obtain ⟨k, hk⟩ : ∃ k, indexedIn ws = 100 * (k + 1) := ⟨indexedIn ws / 100 - 1, by omega⟩
      have hreached : indexedIn ws / 100 = k + 1 := by omega
      rw [hreached, milestones_succ, milestones_succ, milestones_add_of_ne (by intro i hi; omega),
        if_pos hk, List.append_assoc, ← hk, ← Nat.add_assoc, List.replicate_succ']
    · rw [milestones_add_of_ne (by intro i hi; omega), List.append_nil]

/-! ## Visits report refusals only -/

/-- A reading of messages that passes over the rows that were refused. -/
structure SkipsRefusals {α : Type} (read : Message → Option α) : Prop where
  node : ∀ id f, read (.nodeRefused id f) = none
  edge : ∀ e f, read (.edgeRefused e f) = none

namespace Visit

variable {α : Type} {read : Message → Option α}

theorem filterMap_writeNode (h : SkipsRefusals read) (n : Node) (s : Progress Database) :
    (writeNode Database.sink n s).log.filterMap read = s.log.filterMap read := by
  rw [writeNode]
  split
  · rfl
  · rfl
  · rw [say, List.filterMap_append, List.filterMap_cons_none (h.node _ _), List.filterMap_nil,
      List.append_nil]

theorem filterMap_writeEdge (h : SkipsRefusals read) (e : Edge) (s : Progress Database) :
    (writeEdge Database.sink e s).log.filterMap read = s.log.filterMap read := by
  rw [writeEdge]
  split
  · rfl
  · rw [say, List.filterMap_append, List.filterMap_cons_none (h.edge _ _), List.filterMap_nil,
      List.append_nil]

theorem filterMap_enter (h : SkipsRefusals read) (filepath : String) (t : SyntaxTree)
    (parent : Option String) (s : Progress Database) :
    (enter Database.sink filepath t parent s).log.filterMap read = s.log.filterMap read := by
  cases parent with
  | none => exact filterMap_writeNode h _ _
  | some p => exact (filterMap_writeEdge h _ _).trans (filterMap_writeNode h _ _)

/-- A visit adds nothing that is read, if refusals are passed over. -/
theorem filterMap_run (h : SkipsRefusals read) (filepath : String) (stack : List Pending)
    (s : Progress Database) :
    (run Database.sink filepath stack s).log.filterMap read = s.log.filterMap read := by
  induction stack, s using run.induct Database.sink filepath with
  | case1 s => rw [run]
  | case2 s t parent rest ih => rw [run, ih, filterMap_enter h]

end Visit

/-! ## Runs -/

namespace Index

/-- A file that cannot be read announces nothing itself. -/
theorem announced_countFailed {m : Message} (hm : announced [m] = []) (s : Progress Database) :
    announced (countFailed m s).log = announced s.log := by
  refine (announced_append _ _).trans ?_
  rw [hm, List.append_nil]

/-- A file of a known language announces nothing while it is dealt with. -/
theorem announced_file (parser : Parser) (language : Language) (path : Path) (content : Bytes)
    (s : Progress Database) :
    announced (file parser Database.sink language path content s).log = announced s.log := by
  rw [file]
  split
  · exact announced_countFailed rfl s
  · exact (announced_append _ _).trans ((List.append_nil _).trans
      (Visit.filterMap_run ⟨fun _ _ => rfl, fun _ _ => rfl⟩ _ _ s))

/-- What is announced after a file. -/
theorem announced_announce (s : Progress Database) :
    announced (announce s).log = announced s.log ++
      if 0 < s.report.filesIndexed ∧ s.report.filesIndexed % 100 = 0 then [s.report.filesIndexed]
      else [] := by
  rw [announce]
  split
  · exact announced_append _ _
  · exact (List.append_nil _).symm

/-- What a regular file announces, if dealing with it announces nothing itself. -/
theorem announced_regular {path : Path} {deal : Language → Progress Database → Progress Database}
    (hdeal : ∀ l s, announced (deal l s).log = announced s.log) (s : Progress Database) :
    announced (regular path deal s).log = announced s.log ++
      if (Language.ofPath? path).isSome ∧ 0 < (regular path deal s).report.filesIndexed ∧
          (regular path deal s).report.filesIndexed % 100 = 0 then
        [(regular path deal s).report.filesIndexed]
      else [] := by
  rw [regular]
  cases Language.ofPath? path with
  | none => exact (List.append_nil _).symm
  | some language =>
    simp only [Option.isSome_some, true_and, announce_report]
    rw [announced_announce, hdeal]
    rfl

theorem filesIndexed_entry (parser : Parser) (s : Progress Database) (w : Walked) :
    (entry parser Database.sink s w).report.filesIndexed = s.report.filesIndexed + w.indexed :=
  congrArg (·.2.1) (files_entry parser s w)

/-- **One entry** of a walk. -/
theorem announced_entry (parser : Parser) (s : Progress Database) (w : Walked) :
    announced (entry parser Database.sink s w).log =
      announced s.log ++ w.announces s.report.filesIndexed := by
  have hindexed := filesIndexed_entry parser s w
  rw [Walked.announces, ← hindexed]
  cases w with
  | unreadable path error => exact announced_append _ _
  | other path => exact (List.append_nil _).symm
  | file path content =>
    have hread : 0 < Walked.indexed (.file path content) + Walked.failed (.file path content) ↔
        (Language.ofPath? path).isSome := by
      simp only [Walked.indexed, Walked.failed, Walked.files]
      cases Language.ofPath? path with
      | none => simp
      | some language => cases Utf8.text? content <;> simp
    simp only [hread]
    exact announced_regular (fun l => announced_file parser l path content) s
  | unopened path error =>
    have hread : 0 < Walked.indexed (.unopened path error) + Walked.failed (.unopened path error) ↔
        (Language.ofPath? path).isSome := by
      simp only [Walked.indexed, Walked.failed, Walked.files]
      cases Language.ofPath? path <;> simp
    simp only [hread]
    exact announced_regular (fun _ => announced_countFailed rfl) s

/-- **A whole walk** announces the milestones it comes by. -/
theorem announced_build (parser : Parser) (ws : List Walked) (db : Database) :
    (build parser ws db).report.filesIndexed = indexedIn ws ∧
      announced (build parser ws db).log = milestones (failuresAt · ws) (indexedIn ws / 100) := by
  induction ws using List.reverseRecOn with
  | nil => exact ⟨rfl, rfl⟩
  | append_singleton ws w ih =>
    have hlast : build parser (ws ++ [w]) db =
        entry parser Database.sink (build parser ws db) w := by
      rw [build, entries, List.foldl_append]
      rfl
    obtain ⟨hindexed, hannounced⟩ := ih
    rw [hlast, filesIndexed_entry, announced_entry, hindexed, hannounced, milestones_concat,
      indexedIn_concat]
    exact ⟨rfl, rfl⟩

/-- The messages at the end of a run announce nothing. -/
theorem announced_summary (r : Report) : announced (summary r) = [] := by
  rw [summary]
  split <;> rfl

/-- **What a run announces.**  A run that fails announces nothing.  One that succeeds announces every
multiple of a hundred up to the number of files it indexes, in order, each once and once more for every
file that fails while exactly so many files have been indexed; so each is announced once exactly if no
file fails at one of them. -/
theorem project_announces (parser : Parser) (ws : List Walked) (c : Connection) :
    match (project parser ws c).1 with
    | (.error _, log) => announced log = []
    | (.ok r, log) =>
      r.filesIndexed = indexedIn ws ∧
        announced log = milestones (failuresAt · ws) (r.filesIndexed / 100) ∧
        (announced log = (List.range (r.filesIndexed / 100)).map (fun i => 100 * (i + 1)) ↔
          ∀ i < r.filesIndexed / 100, failuresAt (100 * (i + 1)) ws = 0) := by
  rw [project]
  split
  · rename_i heq
    split at heq <;> cases heq
    rfl
  · rename_i r log heq
    split at heq
    · cases heq
    · rename_i c₁ _
      cases heq
      obtain ⟨hindexed, hannounced⟩ := announced_build parser ws c₁.stored
      have hlog : announced (opening ++ [.cleared] ++ (build parser ws c₁.stored).log ++
          summary (build parser ws c₁.stored).report) =
            milestones (failuresAt · ws)
              ((build parser ws c₁.stored).report.filesIndexed / 100) := by
        rw [announced_append, announced_append, announced_summary, hannounced, List.append_nil,
          hindexed]
        rfl
      exact ⟨hindexed, hlog, hlog ▸ milestones_eq_iff⟩

end Index

/-! ## A file that fails at a milestone -/

namespace Sample

/-- A hundred empty files, and one that is not text. -/
def stalling : List Walked :=
  List.replicate 100 (.file (Path.ofString "a.js") []) ++ [.file (Path.ofString "b.js") [0xFF]]

end Sample

open Sample in
/-- A milestone is announced again by a file that fails at it. -/
theorem Index.project_announces_again :
    ∃ r log c, project rootParser stalling newStore = ((.ok r, log), c) ∧
      r.filesIndexed = 100 ∧ r.filesFailed = 1 ∧ announced log = [100, 100] := by
  have hnew : newStore.Clearable := Connection.Writable.clearable ⟨rfl, rfl, rfl⟩
  obtain ⟨hindexed, hannounced⟩ := announced_build rootParser stalling (newStore.stored.fill [] [])
  have hfiles := files_entries rootParser ⟨newStore.stored.fill [] [], {}, []⟩ stalling
  have hcount : indexedIn stalling = 100 := by decide +kernel
  rw [project, Connection.clearAll_of_clearable hnew]
  refine ⟨_, _, _, rfl, hindexed.trans hcount, ?_, ?_⟩
  · exact congrArg (·.2.2.2) hfiles
  · rw [announced_append, announced_append, announced_summary, hannounced, hcount]
    decide +kernel

end SyntaxGraph
