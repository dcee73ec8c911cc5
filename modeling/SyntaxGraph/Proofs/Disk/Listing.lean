import Mathlib.Data.List.Nodup
import SyntaxGraph.Proofs.Disk.Found
import SyntaxGraph.Proofs.Disk.Names

/-!
# The files that a walk finds

The walk of a root goes down the tree that stands there, directory by directory, and never over a link.
So it comes to every place below the root exactly once, whatever the links are, and it reports the place
under the names that lead there.  Names without slashes that are joined to one path give different paths
unless they are the same; so a file is found once, although a link may give it to the program again under
another path.

What is found at a place is a file if a regular file stands there, or a link that leads to one.

## What is here

* `Path.joinAll`, `Path.joinAll_inj` — the paths of a walk.
* `Entry.Distinct`, `Disk.IsTree` — every directory holds a name once.
* `foundFiles` — the paths of the files that a walk reports.
* `Disk.ListsOn` — the directories on a way can be listed.
* `Disk.FileFrom`, `Disk.Considers` — the files that are to be found; `Disk.mem_foundFiles_walk` and
  `Disk.nodup_foundFiles_walk` — these are found, and once each.
-/

set_option autoImplicit false
namespace SyntaxGraph

open SyntaxGraph.Path (IsSegment)

/-! ## Joining names -/

namespace Path

variable {p : Path} {n : Bytes} {ns ms : List Bytes}

/-- The path that names lead to, one after the other. -/
def joinAll (p : Path) (ns : List Bytes) : Path :=
  ns.foldl (fun q n => q.join ⟨n⟩) p

/-- What comes between a path and a name that is joined to it. -/
def gap (p : Path) : Bytes :=
  if p.bytes = [] ∨ p.bytes.getLast? = some slash then [] else [slash]

theorem bytes_join (p : Path) (hn : IsSegment n) : (p.join ⟨n⟩).bytes = p.bytes ++ p.gap ++ n := by
  rw [join, isAbsolute_of_isSegment hn, if_neg Bool.false_ne_true, gap]
  split <;> simp

theorem gap_join (p : Path) (hn : IsSegment n) : (p.join ⟨n⟩).gap = [slash] := by
  rw [gap, if_neg]
  rw [bytes_join p hn, List.getLast?_append_of_ne_nil _ hn.nonempty]
  rintro (hnil | hslash)
  · exact hn.nonempty (List.append_eq_nil_iff.1 hnil).2
  · exact hn.plain (List.mem_of_mem_getLast? hslash)

theorem bytes_joinAll (p : Path) (hns : ∀ m ∈ n :: ns, IsSegment m) :
    (p.joinAll (n :: ns)).bytes = p.bytes ++ p.gap ++ (n ++ ns.flatMap (slash :: ·)) := by
  induction ns generalizing p n with
  | nil =>
    rw [List.flatMap_nil, List.append_nil]
    exact bytes_join p (hns n List.mem_cons_self)
  | cons m ns ih =>
    have hn := hns n List.mem_cons_self
    have hstep : p.joinAll (n :: m :: ns) = (p.join ⟨n⟩).joinAll (m :: ns) := rfl
    rw [hstep, ih (p.join ⟨n⟩) fun k hk => hns k (List.mem_cons_of_mem n hk), gap_join p hn,
      bytes_join p hn, List.flatMap_cons]
    simp only [List.append_assoc, List.cons_append, List.nil_append]

/-- **Names that are joined to a path can be told from it.** -/
theorem joinAll_inj (hns : ∀ m ∈ ns, IsSegment m) (hms : ∀ m ∈ ms, IsSegment m)
    (h : p.joinAll ns = p.joinAll ms) : ns = ms := by
  have hlonger {n : Bytes} {ns : List Bytes} (hns : ∀ m ∈ n :: ns, IsSegment m) :
      p ≠ p.joinAll (n :: ns) := by
    intro heq
    have hbytes := congrArg Path.bytes heq
    rw [bytes_joinAll p hns, List.append_assoc, List.self_eq_append_right] at hbytes
    exact (hns n List.mem_cons_self).nonempty
      (List.append_eq_nil_iff.1 (List.append_eq_nil_iff.1 hbytes).2).1
  cases ns with
  | nil =>
    cases ms with
    | nil => rfl
    | cons m ms => exact absurd h (hlonger hms)
  | cons n ns =>
    cases ms with
    | nil => exact absurd h.symm (hlonger hns)
    | cons m ms =>
      have hbytes := congrArg Path.bytes h
      rw [bytes_joinAll p hns, bytes_joinAll p hms, List.append_cancel_left_eq] at hbytes
      have hsplit {k : Bytes} {ks : List Bytes} (hks : ∀ m ∈ k :: ks, IsSegment m) :
          splitSlash (k ++ ks.flatMap (slash :: ·)) = k :: ks :=
        splitSlash_flatMap (hks k List.mem_cons_self).plain
          fun s hs => (hks s (List.mem_cons_of_mem k hs)).plain
      rw [← hsplit hns, hbytes, hsplit hms]

end Path

/-! ## Names held once -/

/-- An entry below which every directory holds a name once. -/
inductive Entry.Distinct : Entry → Prop where
  | file (id : FileId) : Distinct (.file id)
  | link (target : Path) : Distinct (.link target)
  | pipe : Distinct .pipe
  | dir {es : List (Bytes × Entry)} (names : (es.map Prod.fst).Nodup)
    (below : ∀ x ∈ es, Distinct x.2) : Distinct (.dir es)

/-- Where a name is held once, it is the name of one entry. -/
theorem getName_of_mem {es : List (Bytes × Entry)} (hes : (es.map Prod.fst).Nodup)
    {x : Bytes × Entry} (hx : x ∈ es) : getName es x.1 = some x.2 := by
  induction es with
  | nil => cases hx
  | cons y es ih =>
    rw [List.map_cons, List.nodup_cons] at hes
    rw [getName, List.lookup_cons]
    rcases List.mem_cons.1 hx with rfl | hx
    · rw [beq_self_eq_true]
    · have hne : x.1 ≠ y.1 := fun heq => hes.1 (heq ▸ List.mem_map_of_mem hx)
      rw [beq_false_of_ne hne]
      exact ih hes.2 hx

/-- What stands below. -/
theorem Entry.Distinct.at? {e : Entry} (h : e.Distinct) {x : RealPath} {e' : Entry}
    (he : e.at? x = some e') : e'.Distinct := by
  induction x generalizing e with
  | nil => exact Option.some.inj he ▸ h
  | cons n x ih =>
    cases h with
    | @dir es names below =>
      rw [Entry.at?_cons, Option.bind_eq_some_iff] at he
      obtain ⟨sub, hsub, he⟩ := he
      exact ih (below _ (mem_of_getName hsub)) he
    | file id => cases he
    | link target => cases he
    | pipe => cases he

/-- The names that lead to what stands below. -/
theorem Entry.Named.isSegment_of_at? {e : Entry} (h : e.Named) {x : RealPath} {e' : Entry}
    (he : e.at? x = some e') : ∀ n ∈ x, IsSegment n := by
  induction x generalizing e with
  | nil => exact List.forall_mem_nil _
  | cons n x ih =>
    cases e with
    | dir es =>
      rw [Entry.at?_cons, Option.bind_eq_some_iff] at he
      obtain ⟨sub, hsub, he⟩ := he
      have hmem := h.of_mem (mem_of_getName hsub)
      exact List.forall_mem_cons.2 ⟨hmem.1, ih hmem.2 he⟩
    | file id => cases he
    | link target => cases he
    | pipe => cases he

/-- With nothing below it, an entry is all there is. -/
theorem Entry.exists_at?_of_isBare {e : Entry} (he : e.isBare) {P : RealPath → Entry → Prop} :
    (∃ ns e', e.at? ns = some e' ∧ P ns e') ↔ P [] e := by
  constructor
  · rintro ⟨ns, e', hat, hP⟩
    cases ns with
    | nil =>
      cases hat
      exact hP
    | cons n ns =>
      rw [Entry.at?_of_isBare he] at hat
      cases hat
  · exact fun hP => ⟨[], e, rfl, hP⟩

/-! ## Below an entry -/

/-- The path of a file, if the walk reports one. -/
def Walked.file? : Walked → Option Path
  | .file p _ => some p
  | .unopened p _ => some p
  | _ => none

/-- The paths of the files that the walk reports. -/
def foundFiles (ws : List Walked) : List Path :=
  ws.filterMap Walked.file?

namespace Disk

variable {d : Disk} {p root : Path} {e : Entry}

/-- Whether what stands at a path counts as a file. -/
def CountsAt (d : Disk) (p : Path) : Entry → Prop
  | .file _ => True
  | .link _ => d.isFile p
  | _ => False

theorem foundFiles_walkEntries (d : Disk) (p : Path) (es : List (Bytes × Entry)) :
    foundFiles (d.walkEntries p es) =
      es.flatMap fun x => foundFiles (d.walkEntry (p.join ⟨x.1⟩) x.2) := by
  induction es with
  | nil => rfl
  | cons x es ih =>
    obtain ⟨n, e⟩ := x
    rw [walkEntries, foundFiles, List.filterMap_append, ← foundFiles, ← foundFiles, ih, walkNamed,
      List.flatMap_cons]

theorem foundFiles_walkFile (d : Disk) (p : Path) (id : FileId) :
    foundFiles (d.walkEntry p (.file id)) = [p] := by
  rw [walkEntry]
  split <;> rfl

theorem foundFiles_walkDir (d : Disk) (p : Path) (es : List (Bytes × Entry)) :
    foundFiles (d.walkEntry p (.dir es)) =
      if pathLimit < p.bytes.length then []
      else es.flatMap fun x => foundFiles (d.walkEntry (p.join ⟨x.1⟩) x.2) := by
  rw [← foundFiles_walkEntries, walkEntry]
  split <;> rfl

/-- Whether all directories on the way that names lead from a path can be listed: their paths are not too
long. -/
def ListsOn (p : Path) (ns : List Bytes) : Prop :=
  ∀ above, above <+: ns → above ≠ ns → (p.joinAll above).bytes.length ≤ pathLimit

theorem listsOn_nil (p : Path) : ListsOn p [] :=
  fun _ habove hne => absurd (List.prefix_nil.1 habove) hne

/-- A way goes through the directory that it starts from. -/
theorem listsOn_cons {n : Bytes} {ns : List Bytes} :
    ListsOn p (n :: ns) ↔ p.bytes.length ≤ pathLimit ∧ ListsOn (p.join ⟨n⟩) ns := by
  constructor
  · refine fun h => ⟨h [] List.nil_prefix (List.cons_ne_nil n ns).symm, fun above habove hne => ?_⟩
    exact h (n :: above) (List.cons_prefix_cons.2 ⟨rfl, habove⟩) fun heq => hne (List.cons.inj heq).2
  · rintro ⟨hp, h⟩ above habove hne
    cases above with
    | nil => exact hp
    | cons m above =>
      obtain ⟨rfl, hbelow⟩ := List.cons_prefix_cons.1 habove
      exact h above hbelow fun heq => hne (by rw [heq])

/-- **The files below an entry** stand at the places that names lead to. -/
theorem mem_foundFiles_walkEntry (he : e.Named) (hdistinct : e.Distinct) {q : Path} :
    q ∈ foundFiles (d.walkEntry p e) ↔
      ∃ ns e', e.at? ns = some e' ∧ ListsOn p ns ∧ d.CountsAt (p.joinAll ns) e' ∧
        q = p.joinAll ns := by
  induction he generalizing p with
  | file id =>
    rw [Entry.exists_at?_of_isBare rfl, foundFiles_walkFile]
    simp [CountsAt, Path.joinAll, listsOn_nil]
  | link target =>
    rw [Entry.exists_at?_of_isBare rfl, walkEntry]
    by_cases hfile : d.isFile p <;>
      simp [foundFiles, Walked.file?, CountsAt, Path.joinAll, hfile, listsOn_nil]
  | pipe =>
    rw [Entry.exists_at?_of_isBare rfl, walkEntry]
    simp [foundFiles, Walked.file?, CountsAt]
  | @dir es names below ih =>
    cases hdistinct with
    | dir once distinct =>
    rw [foundFiles_walkDir]
    constructor
    · intro hq
      split at hq
      · cases hq
      rename_i hlists
      obtain ⟨x, hx, hq⟩ := List.mem_flatMap.1 hq
      obtain ⟨ns, e', hat, hway, hcounts, rfl⟩ := (ih x hx (distinct x hx)).1 hq
      refine ⟨x.1 :: ns, e', ?_, listsOn_cons.2 ⟨Nat.not_lt.1 hlists, hway⟩, hcounts, rfl⟩
      rw [Entry.at?_cons, getName_of_mem once hx]
      exact hat
    · rintro ⟨ns, e', hat, hway, hcounts, rfl⟩
      cases ns with
      | nil =>
        cases hat
        exact hcounts.elim
      | cons n ns =>
        obtain ⟨hlists, hway⟩ := listsOn_cons.1 hway
        rw [Entry.at?_cons, Option.bind_eq_some_iff] at hat
        obtain ⟨sub, hsub, hat⟩ := hat
        have hmem := mem_of_getName hsub
        rw [if_neg (Nat.not_lt.2 hlists)]
        exact List.mem_flatMap.2
          ⟨(n, sub), hmem, (ih _ hmem (distinct _ hmem)).2 ⟨ns, e', hat, hway, hcounts, rfl⟩⟩

/-- **A file is found once.** -/
theorem nodup_foundFiles_walkEntry (he : e.Named) (hdistinct : e.Distinct) :
    (foundFiles (d.walkEntry p e)).Nodup := by
  induction he generalizing p with
  | file id =>
    rw [foundFiles_walkFile]
    exact List.nodup_singleton p
  | link target =>
    rw [walkEntry]
    split
    · exact List.nodup_singleton _
    · exact List.nodup_nil
  | pipe => exact List.nodup_nil
  | @dir es names below ih =>
    cases hdistinct with
    | dir once distinct =>
    rw [foundFiles_walkDir]
    split
    · exact List.nodup_nil
    rw [List.nodup_flatMap]
    refine ⟨fun x hx => ih x hx (distinct x hx), ?_⟩
    refine (List.pairwise_map.1 once).imp_of_mem fun {x y} hx hy hne => ?_
    -- a path tells the names that lead to it, and these begin with different ones
    intro q hqx hqy
    have hwhere {z : Bytes × Entry} (hz : z ∈ es)
        (hq : q ∈ foundFiles (d.walkEntry (p.join ⟨z.1⟩) z.2)) :
        ∃ ns, (∀ n ∈ z.1 :: ns, IsSegment n) ∧ q = p.joinAll (z.1 :: ns) := by
      obtain ⟨ns, e', hat, -, -, rfl⟩ :=
        (mem_foundFiles_walkEntry (below z hz) (distinct z hz)).1 hq
      exact ⟨ns, List.forall_mem_cons.2 ⟨names z hz, (below z hz).isSegment_of_at? hat⟩, rfl⟩
    obtain ⟨ns, hns, hq⟩ := hwhere hx hqx
    obtain ⟨ms, hms, hq'⟩ := hwhere hy hqy
    exact hne (List.cons.inj (Path.joinAll_inj hns hms (hq.symm.trans hq'))).1

/-! ## Below a root -/

/-- A disk on which all names are segments and every directory holds a name once, with a working
directory. -/
structure IsTree (d : Disk) : Prop where
  tidy : d.Tidy
  distinct : (Entry.dir d.top).Distinct
  cwd : d.shape? d.cwd = some .dir

/-- What is found has a path that is not too long. -/
theorem length_le_of_find {purpose : Purpose} {x : RealPath} (h : d.find p purpose = .ok (x, e)) :
    p.bytes.length ≤ pathLimit := by
  have hspelled := (find_eq_ok_iff.1 h).1
  rw [spellingError?] at hspelled
  split_ifs at hspelled with hzero hempty hlong
  exact Nat.not_lt.1 hlong

/-- The walk of a root that leads somewhere is that of what it leads to. -/
theorem walk_of_find {x : RealPath} (hroot : isStandardInput root = false)
    (h : d.find root .reach = .ok (x, e)) : d.walk root = d.walkEntry root e := by
  rw [walk, hroot, if_neg Bool.false_ne_true]
  split
  · rename_i hfile
    obtain ⟨x', id, hfound⟩ := isFile_iff.1 hfile
    cases h.symm.trans hfound
    rw [walkEntry, fileBytes, h, if_neg (Nat.not_lt.2 (length_le_of_find h))]
  · obtain ⟨x', e', hinspect⟩ := find_inspect_of_reach h
    cases e' with
    | link target => simp only [hinspect, h]
    | file id | pipe | dir es =>
      cases h.symm.trans (find_reach_of_inspect (by simp) hinspect)
      simp only [hinspect]

/-- The walk of a root that leads nowhere finds nothing. -/
theorem foundFiles_walk_of_error {error : OsError} (h : d.find root .reach = .error error) :
    foundFiles (d.walk root) = [] := by
  have hfile : d.isFile root = false := by rw [isFile, h]
  rw [walk, hfile]
  split
  · rfl
  · rw [if_neg Bool.false_ne_true]
    cases hinspect : d.find root .inspect with
    | error error' => rfl
    | ok found =>
      obtain ⟨x, e⟩ := found
      cases e with
      | link target => simp only [h]; rfl
      | file id | pipe | dir es =>
        cases h.symm.trans (find_reach_of_inspect (by simp) hinspect)

/-- The files that a root gives: the root itself if it leads to a regular file, and else every place
below the directory that it leads to, with directories on the way that can be listed and a regular file
at its end or a link to one. -/
def FileFrom (d : Disk) (root p : Path) : Prop :=
  d.isFile root ∧ p = root ∨
    ∃ x es ns, d.find root .reach = .ok (x, .dir es) ∧ ns ≠ [] ∧ p = root.joinAll ns ∧
      (∀ above, above <+: ns → above ≠ [] → above ≠ ns → d.isRealDir (x ++ above)) ∧
      ListsOn root ns ∧
      ((∃ id, d.entry? (x ++ ns) = some (.file id)) ∨
        (∃ target, d.entry? (x ++ ns) = some (.link target)) ∧ d.isFile p)

/-- The files that are to be found: those that the root gives, unless it stands for standard input. -/
def Considers (d : Disk) (root p : Path) : Prop :=
  isStandardInput root = false ∧ d.FileFrom root p

/-- On the way to something stand directories. -/
theorem isRealDir_of_isPrefix {x ns above : RealPath} (h : d.entry? (x ++ ns) = some e)
    (habove : above <+: ns) (hne : above ≠ ns) : d.isRealDir (x ++ above) := by
  obtain ⟨rest, rfl⟩ := habove
  have hrest : rest ≠ [] := fun hnil => hne (by rw [hnil, List.append_nil])
  rw [isRealDir_iff]
  refine shape?_of_append hrest ?_
  rw [List.append_assoc, Ne, shape?_eq_none, h]
  exact Option.some_ne_none e

/-- The files that a root gives, if it leads somewhere. -/
theorem fileFrom_iff {x : RealPath} (hfound : d.find root .reach = .ok (x, e))
    (hentry : d.entry? x = some e) :
    d.FileFrom root p ↔
      ∃ ns e', e.at? ns = some e' ∧ ListsOn root ns ∧ d.CountsAt (root.joinAll ns) e' ∧
        p = root.joinAll ns := by
  have hbelow (ns : RealPath) : d.entry? (x ++ ns) = e.at? ns := by
    have happend := Entry.at?_append (.dir d.top) x ns
    change d.entry? (x ++ ns) = (d.entry? x).bind _ at happend
    rw [happend, hentry, Option.bind_some]
  constructor
  · rintro (⟨hfile, rfl⟩ | ⟨x', es, ns, hfound', -, rfl, -, hway, hend⟩)
    · obtain ⟨x', id, hfound'⟩ := isFile_iff.1 hfile
      cases hfound.symm.trans hfound'
      exact ⟨[], .file id, rfl, listsOn_nil p, trivial, rfl⟩
    · cases hfound.symm.trans hfound'
      rw [hbelow] at hend
      rcases hend with ⟨id, hat⟩ | ⟨⟨target, hat⟩, hfile⟩
      · exact ⟨ns, .file id, hat, hway, trivial, rfl⟩
      · exact ⟨ns, .link target, hat, hway, hfile, rfl⟩
  · rintro ⟨ns, e', hat, hway, hcounts, rfl⟩
    cases ns with
    | nil =>
      cases hat
      refine .inl ⟨?_, rfl⟩
      cases e with
      | file id => exact isFile_iff.2 ⟨x, id, hfound⟩
      | link target => exact hcounts
      | pipe | dir es => exact hcounts.elim
    | cons n ns =>
      cases e with
      | dir es =>
        have hat' := (hbelow (n :: ns)).trans hat
        refine .inr ⟨x, es, n :: ns, hfound, List.cons_ne_nil n ns, rfl, ?_, hway, ?_⟩
        · exact fun above habove _ hne => isRealDir_of_isPrefix hat' habove hne
        · cases e' with
          | file id => exact .inl ⟨id, hat'⟩
          | link target => exact .inr ⟨⟨target, hat'⟩, hcounts⟩
          | pipe | dir es' => exact hcounts.elim
      | file id | link target | pipe => cases hat

/-- **The walk of a root finds the files that are to be found.** -/
theorem mem_foundFiles_walk (hd : d.IsTree) : p ∈ foundFiles (d.walk root) ↔ d.Considers root p := by
  cases hroot : isStandardInput root with
  | true =>
    rw [walk, hroot, if_pos rfl]
    refine ⟨fun hmem => absurd hmem List.not_mem_nil, fun h => ?_⟩
    exact absurd (hroot.symm.trans h.1) (by decide)
  | false =>
    cases hfound : d.find root .reach with
    | error error =>
      rw [foundFiles_walk_of_error hfound]
      refine ⟨fun hmem => absurd hmem List.not_mem_nil, ?_⟩
      rintro ⟨-, ⟨hfile, -⟩ | ⟨x, es, ns, hfound', -⟩⟩
      · obtain ⟨x, id, hfound'⟩ := isFile_iff.1 hfile
        cases hfound.symm.trans hfound'
      · cases hfound.symm.trans hfound'
    | ok found =>
      obtain ⟨x, e⟩ := found
      have hentry := entry?_of_find hd.cwd hfound
      rw [walk_of_find hroot hfound, Considers, and_iff_right hroot, fileFrom_iff hfound hentry]
      exact mem_foundFiles_walkEntry (hd.tidy.entry? hentry) (hd.distinct.at? hentry)

/-- **The walk of a root finds a file once.** -/
theorem nodup_foundFiles_walk (hd : d.IsTree) (root : Path) : (foundFiles (d.walk root)).Nodup := by
  cases hroot : isStandardInput root with
  | true =>
    rw [walk, hroot, if_pos rfl]
    exact List.nodup_nil
  | false =>
    cases hfound : d.find root .reach with
    | error error =>
      rw [foundFiles_walk_of_error hfound]
      exact List.nodup_nil
    | ok found =>
      obtain ⟨x, e⟩ := found
      have hentry := entry?_of_find hd.cwd hfound
      rw [walk_of_find hroot hfound]
      exact nodup_foundFiles_walkEntry (hd.tidy.entry? hentry) (hd.distinct.at? hentry)

end Disk
end SyntaxGraph
