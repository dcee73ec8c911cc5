import SyntaxGraph.Proofs.Resolve
import SyntaxGraph.Walk

/-!
# The names on a disk

The walk of a directory reports every entry that the directory holds, and spells its path with the
name that it has there.  So what the walk spells is canonical if all names on the disk are segments:
not only the names that a path can lead to, but all that are held anywhere.  Such a disk is *tidy*
(`Disk.Tidy`).

## What is here

* `Entry.Named`, `Disk.Tidy` — all names are segments; the changes of a disk keep it so, and so does
  making directories.
* `Disk.spelledFrom_of_mem_walk` — what the walk of a canonical spelling spells.
* `Disk.Tidy.of_settle` — a settled path consists of segments.
-/

set_option autoImplicit false
namespace SyntaxGraph

open SyntaxGraph.Path (IsSegment)

/-! ## Entries -/

/-- An entry below which all names are segments. -/
inductive Entry.Named : Entry → Prop where
  | file (id : FileId) : Named (.file id)
  | link (target : Path) : Named (.link target)
  | pipe : Named .pipe
  | dir {es : List (Bytes × Entry)} (names : ∀ x ∈ es, IsSegment x.1) (below : ∀ x ∈ es, Named x.2) :
    Named (.dir es)

theorem mem_of_getName {es : List (Bytes × Entry)} {n : Bytes} {e : Entry}
    (h : getName es n = some e) : (n, e) ∈ es := by
  obtain ⟨before, after, hes, -⟩ := List.lookup_eq_some_iff.1 h
  exact hes ▸ List.mem_append_right before List.mem_cons_self

theorem of_mem_putName {es : List (Bytes × Entry)} {n : Bytes} {e : Entry} {x : Bytes × Entry}
    (h : x ∈ putName es n e) : x = (n, e) ∨ x ∈ es := by
  induction es with
  | nil => exact .inl (List.mem_singleton.1 h)
  | cons y es ih =>
    obtain ⟨m, old⟩ := y
    rw [putName] at h
    split at h
    · exact (List.mem_cons.1 h).imp_right (List.mem_cons_of_mem _)
    · rcases List.mem_cons.1 h with rfl | h
      · exact .inr List.mem_cons_self
      · exact (ih h).imp_right (List.mem_cons_of_mem _)

namespace Entry.Named

variable {es : List (Bytes × Entry)} {e : Entry} {n : Bytes}

theorem of_mem (h : (Entry.dir es).Named) {x : Bytes × Entry} (hx : x ∈ es) :
    IsSegment x.1 ∧ x.2.Named := by
  cases h with
  | dir names below => exact ⟨names x hx, below x hx⟩

theorem of_forall (h : ∀ x ∈ es, IsSegment x.1 ∧ x.2.Named) : (Entry.dir es).Named :=
  .dir (fun x hx => (h x hx).1) fun x hx => (h x hx).2

/-- An entry with nothing below it. -/
theorem of_isBare (h : e.isBare) : e.Named := by
  cases e with
  | file id => exact .file id
  | link target => exact .link target
  | pipe => exact .pipe
  | dir es =>
    rw [List.isEmpty_iff.1 h]
    exact .of_forall (by simp)

/-- What stands below. -/
theorem at? (h : e.Named) {x : RealPath} {e' : Entry} (he : e.at? x = some e') : e'.Named := by
  induction x generalizing e with
  | nil => exact Option.some.inj he ▸ h
  | cons n x ih =>
    cases e with
    | dir es =>
      rw [Entry.at?_cons, Option.bind_eq_some_iff] at he
      obtain ⟨sub, hsub, he⟩ := he
      exact ih (h.of_mem (mem_of_getName hsub)).2 he
    | file id => cases he
    | link target => cases he
    | pipe => cases he

theorem putName (h : (Entry.dir es).Named) (hn : IsSegment n) (he : e.Named) :
    (Entry.dir (putName es n e)).Named := by
  refine .of_forall fun x hx => ?_
  rcases of_mem_putName hx with rfl | hx
  · exact ⟨hn, he⟩
  · exact h.of_mem hx

theorem setName (h : (Entry.dir es).Named) {new : Option Entry}
    (hnew : ∀ e ∈ new, e.Named ∧ IsSegment n) : (Entry.dir (setName es n new)).Named := by
  cases new with
  | none => exact .of_forall fun x hx => h.of_mem (List.mem_filter.1 hx).1
  | some e => exact h.putName (hnew e rfl).2 (hnew e rfl).1

/-- **A change at a place** brings in one name, the last on the way there. -/
theorem setAt (h : (Entry.dir es).Named) {x : RealPath} {new : Option Entry}
    (hnew : ∀ e ∈ new, e.Named ∧ ∀ n ∈ x.getLast?, IsSegment n) :
    (Entry.dir (setAt es x new)).Named := by
  induction x generalizing es with
  | nil => exact h
  | cons m x ih =>
    cases x with
    | nil => exact h.setName fun e he => ⟨(hnew e he).1, (hnew e he).2 m rfl⟩
    | cons k x =>
      rw [SyntaxGraph.setAt]
      · split
        · rename_i sub hsub
          have hmem := h.of_mem (mem_of_getName hsub)
          exact h.putName hmem.1 (ih hmem.2 hnew)
        · exact h
      · exact List.cons_ne_nil k x

end Entry.Named

/-! ## Disks -/

namespace Disk

/-- A disk on which every name is a segment, and so is every name on the way to the working
directory. -/
structure Tidy (d : Disk) : Prop where
  tree : (Entry.dir d.top).Named
  cwd : ∀ n ∈ d.cwd, IsSegment n

namespace Tidy

variable {d d' : Disk} {x : RealPath}

theorem entry? (h : d.Tidy) {e : Entry} (he : d.entry? x = some e) : e.Named :=
  h.tree.at? he

theorem setEntry (h : d.Tidy) {new : Option Entry}
    (hnew : ∀ e ∈ new, e.Named ∧ ∀ n ∈ x.getLast?, IsSegment n) : (d.setEntry x new).Tidy :=
  ⟨h.tree.setAt hnew, h.cwd⟩

theorem dropFile (h : d.Tidy) (x : RealPath) : (d.dropFile x).Tidy := by
  rw [Disk.dropFile]
  split
  · exact h
  · exact h.setEntry (by simp)
  · exact h

theorem addFile (h : d.Tidy) (hx : ∀ n ∈ x, IsSegment n) (c : Content) :
    (d.addFile x c).2.Tidy := by
  have hset : (d.setEntry x (some (.file d.contents.length))).Tidy := by
    refine h.setEntry fun e he => ?_
    cases he
    exact ⟨.file _, fun n hn => hx n (List.mem_of_mem_getLast? hn)⟩
  exact ⟨hset.tree, hset.cwd⟩

theorem setContent (h : d.Tidy) (id : FileId) (c : Content) : (d.setContent id c).Tidy :=
  ⟨h.tree, h.cwd⟩

theorem setLogs (h : d.Tidy) (logs : List (FileId × OpenLog)) : Tidy { d with openLogs := logs } :=
  ⟨h.tree, h.cwd⟩

end Tidy

/-! ## Walks -/

/-- Where an entry of the walk stands: at a canonical spelling that goes on from that of the root. -/
def SpelledFrom (x : RealPath) (p : Path) : Prop :=
  ∃ y, p = spell (x ++ y) ∧ ∀ n ∈ x ++ y, IsSegment n

theorem SpelledFrom.refl {x : RealPath} (hx : ∀ n ∈ x, IsSegment n) : SpelledFrom x (spell x) :=
  ⟨[], by rw [List.append_nil], by rwa [List.append_nil]⟩

theorem SpelledFrom.below {x y : RealPath} {p : Path} (h : SpelledFrom (x ++ y) p) :
    SpelledFrom x p := by
  obtain ⟨z, rfl, hz⟩ := h
  exact ⟨y ++ z, by rw [List.append_assoc], by rwa [← List.append_assoc]⟩

end Disk

/-- The path that the walk reports something about. -/
def Walked.path : Walked → Path
  | .unreadable p _ => p
  | .file p _ => p
  | .unopened p _ => p
  | .other p => p

namespace Disk

variable {d : Disk} {x : RealPath}

theorem mem_walkEntries {p : Path} {es : List (Bytes × Entry)} {w : Walked}
    (hw : w ∈ d.walkEntries p es) : ∃ y ∈ es, w ∈ d.walkEntry (p.join ⟨y.1⟩) y.2 := by
  induction es with
  | nil => cases hw
  | cons y es ih =>
    rw [walkEntries, List.mem_append] at hw
    rcases hw with hw | hw
    · obtain ⟨n, e⟩ := y
      rw [walkNamed] at hw
      exact ⟨(n, e), List.mem_cons_self, hw⟩
    · obtain ⟨z, hz, hw⟩ := ih hw
      exact ⟨z, List.mem_cons_of_mem y hz, hw⟩

/-- What the walk of an entry spells. -/
theorem spelledFrom_of_mem_walkEntry {e : Entry} (he : e.Named) (hx : ∀ n ∈ x, IsSegment n)
    {w : Walked} (hw : w ∈ d.walkEntry (spell x) e) : SpelledFrom x w.path := by
  induction he generalizing x with
  | file id =>
    rw [walkEntry] at hw
    split at hw <;> exact List.mem_singleton.1 hw ▸ .refl hx
  | link target =>
    rw [walkEntry] at hw
    split at hw <;> exact List.mem_singleton.1 hw ▸ .refl hx
  | pipe =>
    rw [walkEntry, List.mem_singleton] at hw
    exact hw ▸ .refl hx
  | @dir es names below ih =>
    rw [walkEntry, List.mem_cons] at hw
    rcases hw with rfl | hw
    · exact .refl hx
    split at hw
    · exact List.mem_singleton.1 hw ▸ .refl hx
    · obtain ⟨y, hy, hw⟩ := mem_walkEntries hw
      have hname := names y hy
      rw [Path.join_spell hx hname] at hw
      have hxy : ∀ n ∈ x ++ [y.1], IsSegment n :=
        List.forall_mem_append.2 ⟨hx, List.forall_mem_singleton.2 hname⟩
      exact (ih y hy hxy hw).below

/-- What a path is found to lead to. -/
theorem Tidy.of_descend (h : d.Tidy) {purpose : Purpose} {links : Nat} {here real : RealPath}
    {steps : List Bytes} {e : Entry}
    (hfound : d.descend purpose links here steps = .ok (.found real e)) : e.Named := by
  fun_induction descend d purpose links here steps with
  | case1 links here =>
    cases hfound
    cases he : d.entry? real with
    | none => exact .of_isBare rfl
    | some e => exact h.entry? he
  | case2 links here n rest hn ih => exact ih hfound
  | case3 links here rest hn ih => exact ih hfound
  | case8 links here n rest hn hup hwrite hlength es he ih => exact ih hfound
  | case9 links here n rest hn hup hwrite hlength target he hend =>
    cases hfound
    exact .link target
  | case11 here n rest hn hup hwrite hlength target he hend links ih => exact ih hfound
  | case12 links here n hn hup hlength e' hdir hlink he hend =>
    cases hfound
    exact h.entry? he
  | case4 | case5 | case6 | case7 | case10 | case13 => cases hfound

theorem Tidy.of_find (h : d.Tidy) {p : Path} {purpose : Purpose} {real : RealPath} {e : Entry}
    (hfound : d.find p purpose = .ok (real, e)) : e.Named :=
  h.of_descend (find_eq_ok_iff.1 hfound).2

/-- **What the walk of a canonical spelling spells** goes on from there, segment by segment. -/
theorem spelledFrom_of_mem_walk (h : d.Tidy) (hx : ∀ n ∈ x, IsSegment n) {w : Walked}
    (hw : w ∈ d.walk (spell x)) : SpelledFrom x w.path := by
  rw [walk] at hw
  split at hw
  · cases hw
  split at hw
  · exact List.mem_singleton.1 hw ▸ .refl hx
  split at hw
  · exact List.mem_singleton.1 hw ▸ .refl hx
  · split at hw
    · exact List.mem_singleton.1 hw ▸ .refl hx
    · rename_i hfind
      exact spelledFrom_of_mem_walkEntry (h.of_find hfind) hx hw
  · rename_i hfind
    exact spelledFrom_of_mem_walkEntry (h.of_find hfind) hx hw

/-! ## Directories -/

theorem Tidy.makeDir (h : d.Tidy) {p : Path} {d' : Disk} (hmade : d.makeDir p = .ok d') :
    d'.Tidy := by
  obtain ⟨last, dir, -, -, hname, -, rfl⟩ := makeDir_eq_ok hmade
  refine h.setEntry fun e he => ?_
  cases he
  refine ⟨.of_isBare rfl, fun n hn => ?_⟩
  rw [List.getLast?_concat, Option.mem_some] at hn
  exact hn ▸ ⟨hname.step.1, hname.plain⟩

theorem Tidy.ensureDir (h : d.Tidy) (p : Path) : (d.ensureDir p).2.Tidy := by
  rw [Disk.ensureDir]
  split
  · exact h
  split
  · rename_i hmade
    exact h.makeDir hmade
  · exact h

theorem Tidy.makeDirBelow (h : d.Tidy) (p : Path) (above : List Path) :
    (d.makeDirBelow p above).2.Tidy := by
  induction above generalizing p with
  | nil => exact h.ensureDir p
  | cons q rest ih =>
    rw [Disk.makeDirBelow]
    split
    · have habove := ih q
      split
      · rename_i hfail
        rw [hfail] at habove
        exact habove
      · rename_i hmade
        rw [hmade] at habove
        exact habove.ensureDir p
    · exact h.ensureDir p

/-! ## Settled paths -/

theorem isSegment_of_settleSteps {links : Nat} {here real : RealPath} {steps : List Bytes}
    (hhere : ∀ n ∈ here, IsSegment n) (hsteps : ∀ n ∈ steps, Path.slash ∉ n)
    (hreal : d.settleSteps links here steps = some real) : ∀ n ∈ real, IsSegment n := by
  -- what is settled so far consists of segments, and what is to be settled has no slashes
  have hdown {here : RealPath} {n : Bytes} {rest : List Bytes} (hhere : ∀ m ∈ here, IsSegment m)
      (hsteps : ∀ m ∈ n :: rest, Path.slash ∉ m) (hn : ¬isStay n) :
      ∀ m ∈ here ++ [n], IsSegment m :=
    List.forall_mem_append.2 ⟨hhere, List.forall_mem_singleton.2
      ⟨Bool.not_eq_true _ ▸ hn, hsteps n List.mem_cons_self⟩⟩
  fun_induction settleSteps d links here steps with
  | case1 links here =>
    cases hreal
    exact hhere
  | case2 links here n rest hn ih => exact ih hhere (List.forall_mem_cons.1 hsteps).2 hreal
  | case3 links here rest hn ih =>
    exact ih (fun n hn => hhere n (List.dropLast_subset _ hn)) (List.forall_mem_cons.1 hsteps).2
      hreal
  | case5 links here n rest hn hup hroom hnone ih =>
    exact ih (hdown hhere hsteps hn) (List.forall_mem_cons.1 hsteps).2 hreal
  | case8 here n rest hn hup hroom es hdir hlength target hlink links ih =>
    refine ih ?_ (List.forall_mem_append.2 ⟨fun m hm hslash => ?_, ?_⟩) hreal
    · split
      · exact List.forall_mem_nil _
      · exact hhere
    · exact (Path.of_mem_splitSlash hm hslash).2 rfl
    · exact (List.forall_mem_cons.1 hsteps).2
  | case9 links here n rest hn hup hroom es hdir hlength hlink ih =>
    exact ih (hdown hhere hsteps hn) (List.forall_mem_cons.1 hsteps).2 hreal
  | case4 | case6 | case7 | case10 => cases hreal

/-- **A settled path** consists of segments. -/
theorem Tidy.of_settle (h : d.Tidy) {p : Path} {real : RealPath} (hreal : d.settle p = some real) :
    ∀ n ∈ real, IsSegment n := by
  rw [settle] at hreal
  split at hreal
  · cases hreal
  · rename_i hsteps
    split at hreal
    · cases hreal
    · cases hreal
      refine isSegment_of_settleSteps ?_ ?_ hsteps
      · rw [origin]
        split
        · exact List.forall_mem_nil _
        · exact h.cwd
      · exact fun n hn hslash => (Path.of_mem_splitSlash hn hslash).2 rfl

end Disk

end SyntaxGraph
