import SyntaxGraph.Cache
import SyntaxGraph.Proofs.Disk.Found
import SyntaxGraph.Proofs.Disk.Outside

/-!
# Removing entries

A file is removed where the last step of its path stands, and a link there is not followed; that is the
place where the path, followed to see what stands at its end, finds it (`Disk.find_inspect_iff`).  What
is removed is never a directory, so all directories stay, and a path leads to nothing new: whatever it
finds after entries are gone, it found in the same place before (`Disk.Loses.find`).

## What is here

* `Disk.find_inspect_iff`, `Disk.unlink_of_dir`, `Disk.unlink_of_shape_ne` — what removing a file does.
* `Disk.Loses` — a disk from which entries are gone; `Loses.home?`, `Loses.find` — what paths lead to
  there.
-/

set_option autoImplicit false
namespace SyntaxGraph
namespace Disk

variable {d d₀ : Disk} {links : Nat} {here x : RealPath} {steps : List Bytes} {n : Bytes}
  {e : Entry} {p : Path}

/-! ## The last steps -/

/-- A single step to a name. -/
theorem descend_inspect_single (hn : IsStep n) (hlength : n.length ≤ nameLimit) :
    d.descend .inspect links here [n] =
      match d.entry? (here ++ [n]) with
      | none => .ok (.missing here n)
      | some e => .ok (.found (here ++ [n]) e) := by
  rw [descend, if_neg (by rw [hn.1]; exact Bool.false_ne_true), if_neg hn.2, if_neg (by simp),
    if_neg (by omega)]
  cases he : d.entry? (here ++ [n]) with
  | none => rfl
  | some e =>
    cases e with
    | dir es =>
      simp only
      rw [descend, he, Option.getD_some]
    | link target => rfl
    | file id => rfl
    | pipe => rfl

/-! ## Where a path finds something -/

/-- The steps of a path that no slash ends. -/
theorem steps_of_lastStep? {last : LastStep} (hp : p.bytes.getLast? ≠ some Path.slash)
    (hlast : p.lastStep? = some last) : p.steps = last.before ++ [last.name] := by
  rw [Path.steps, if_neg hp, List.append_nil, Path.segments_of_lastStep? hlast]

/-- A path without a last step takes none. -/
theorem steps_of_lastStep?_eq_none (hp : p.bytes.getLast? ≠ some Path.slash)
    (hlast : p.lastStep? = none) : p.steps = [] := by
  rw [Path.steps, if_neg hp, List.append_nil]
  rw [Path.lastStep?] at hlast
  split at hlast
  · rename_i hnil
    exact List.reverse_eq_nil_iff.1 hnil
  · cases hlast

/-- No slashes follow the last step of a path that no slash ends. -/
theorem slashes_of_lastStep? {last : LastStep} (hp : p.bytes.getLast? ≠ some Path.slash)
    (hlast : p.lastStep? = some last) : last.slashes = false := by
  rw [Path.lastStep?] at hlast
  split at hlast
  · cases hlast
  · cases hlast
    simpa using hp

/-- **What stands at the end of a path** that no slash ends and whose last step is a name stands where
the last step does. -/
theorem find_inspect_iff {last : LastStep} (hp : p.bytes.getLast? ≠ some Path.slash)
    (hlast : p.lastStep? = some last) (hname : IsStep last.name) :
    d.find p .inspect = .ok (x, e) ↔
      last.name.length ≤ nameLimit ∧ d.home? p = some x ∧ d.entry? x = some e := by
  rw [find_eq_ok_iff, steps_of_lastStep? hp hlast, descend_append_eq_ok (by decide) (List.cons_ne_nil _ _),
    home?_eq_some]
  constructor
  · rintro ⟨hspelled, through, left, dir, hway, hend⟩
    have hlength : last.name.length ≤ nameLimit := by
      by_contra hlong
      rw [descend_long (by decide) hname (Nat.not_le.1 hlong)] at hend
      cases hend
    rw [descend_inspect_single hname hlength] at hend
    split at hend
    · cases hend
    · rename_i he
      cases hend
      exact ⟨hlength, ⟨last, dir, hlast, directoryOf_eq_ok.2 ⟨hspelled, through, left, hway⟩, rfl⟩, he⟩
  · rintro ⟨hlength, ⟨last', dir, hlast', hdir, rfl⟩, he⟩
    cases hlast.symm.trans hlast'
    obtain ⟨hspelled, through, left, hway⟩ := directoryOf_eq_ok.1 hdir
    refine ⟨hspelled, through, left, dir, hway, ?_⟩
    rw [descend_inspect_single hname hlength, he]

/-- Where the last step of a path is no name, a directory stands. -/
theorem shape_of_find_inspect (hcwd : d.shape? d.cwd = some .dir)
    (hp : p.bytes.getLast? ≠ some Path.slash)
    (hname : ∀ last, p.lastStep? = some last → ¬IsStep last.name)
    (h : d.find p .inspect = .ok (x, e)) : e.shape = .dir := by
  have horigin := shape?_origin hcwd p
  have hx : d.shape? x = some .dir := by
    have hdescend := (find_eq_ok_iff.1 h).2
    cases hlast : p.lastStep? with
    | none =>
      rw [steps_of_lastStep?_eq_none hp hlast, descend] at hdescend
      cases hdescend
      exact horigin
    | some last =>
      rw [steps_of_lastStep? hp hlast, descend_append_eq_ok (by decide) (List.cons_ne_nil _ _)] at hdescend
      obtain ⟨through, left, there, hway, hend⟩ := hdescend
      have hthere := hway.isDir horigin
      by_cases hstay : isStay last.name
      · rw [descend_stay hstay, descend] at hend
        cases hend
        exact hthere
      · have hup : last.name = [Path.dot, Path.dot] := by
          by_contra hup
          exact hname last hlast ⟨by simpa using hstay, hup⟩
        rw [hup, descend_up, descend] at hend
        cases hend
        exact shape?_dropLast hthere
  rw [shape?, entry?_of_find hcwd h, Option.map_some] at hx
  exact Option.some_inj.1 hx

/-! ## Removing a file -/

theorem isStep_iff {last : LastStep} (hlast : p.lastStep? = some last) :
    IsStep last.name ↔ isName last.name := by
  have hne := (Path.lastStep?_name hlast).2
  simp [IsStep, isStay, isName, hne]

/-- What removing takes where the last step of a path is a name. -/
theorem unlink_of_home? {last : LastStep} (hp : p.bytes.getLast? ≠ some Path.slash)
    (hlast : p.lastStep? = some last) (hname : IsStep last.name)
    (hlength : last.name.length ≤ nameLimit) (hx : d.home? p = some x) (he : d.entry? x = some e) :
    d.unlink p = if e.shape = .dir then .error .isADirectory else .ok (d.setEntry x none) := by
  obtain ⟨last', dir, hlast', hdir, rfl⟩ := home?_eq_some.1 hx
  cases hlast.symm.trans hlast'
  have hslashes := slashes_of_lastStep? hp hlast
  have hisName := (isStep_iff hlast).1 hname
  simp only [unlink, hlast, hdir, hisName, Nat.not_lt.2 hlength, and_false, if_false, if_true, he,
    hslashes, Bool.false_eq_true]
  cases e <;> rfl

/-- **A directory is not removed.** -/
theorem unlink_of_dir (hp : p.bytes.getLast? ≠ some Path.slash) {es : List (Bytes × Entry)}
    (h : d.find p .inspect = .ok (x, .dir es)) : ∃ error, d.unlink p = .error error := by
  cases hlast : p.lastStep? with
  | none => exact ⟨_, by rw [unlink, hlast]⟩
  | some last =>
    by_cases hname : IsStep last.name
    · obtain ⟨hlength, hx, he⟩ := (find_inspect_iff hp hlast hname).1 h
      exact ⟨_, (unlink_of_home? hp hlast hname hlength hx he).trans (if_pos rfl)⟩
    · have hisName : isName last.name = false := by
        rwa [isStep_iff hlast, Bool.not_eq_true] at hname
      rw [unlink, hlast]
      simp only [hisName, Bool.false_eq_true, false_and, if_false]
      split
      · exact ⟨_, rfl⟩
      · exact ⟨_, rfl⟩

/-- **Anything else is removed**, where the last step of its path stands. -/
theorem unlink_of_shape_ne (hcwd : d.shape? d.cwd = some .dir)
    (hp : p.bytes.getLast? ≠ some Path.slash) (h : d.find p .inspect = .ok (x, e))
    (he : e.shape ≠ .dir) : d.home? p = some x ∧ d.unlink p = .ok (d.setEntry x none) := by
  obtain ⟨last, hlast, hname⟩ : ∃ last, p.lastStep? = some last ∧ IsStep last.name := by
    by_contra hnone
    exact he (shape_of_find_inspect hcwd hp (fun last hlast hname => hnone ⟨last, hlast, hname⟩) h)
  obtain ⟨hlength, hx, hentry⟩ := (find_inspect_iff hp hlast hname).1 h
  exact ⟨hx, (unlink_of_home? hp hlast hname hlength hx hentry).trans (if_neg he)⟩

/-- What removing a file takes and does. -/
theorem unlink_eq_ok {d' : Disk} (h : d.unlink p = .ok d') :
    ∃ x, d.home? p = some x ∧ d.shape? x ≠ some .dir ∧ d' = d.setEntry x none := by
  rw [unlink] at h
  split at h
  · cases h
  rename_i last hlast
  split at h
  · cases h
  rename_i dir hdir
  split at h
  · cases h
  split at h
  · split at h
    · cases h
    · cases h
    rename_i e hfile he
    split at h
    · cases h
    · cases h
      refine ⟨_, home?_eq_some.2 ⟨last, dir, hlast, hdir, rfl⟩, fun hs => ?_, rfl⟩
      obtain ⟨es, hes⟩ := shape?_eq_dir.1 hs
      rw [he, Option.some_inj] at hes
      exact hfile es hes
  · cases h

/-! ## Entries that are gone -/

/-- The disk `d` has come from the disk `d₀` by removing entries at some places, and no directories. -/
structure Loses (S : RealPath → Prop) (d₀ d : Disk) : Prop where
  shape : ∀ x, d.shape? x = d₀.shape? x ∨ S x ∧ d.shape? x = none
  dirs : ∀ x, d₀.shape? x = some .dir → d.shape? x = some .dir
  contents : d.contents = d₀.contents
  cwd : d.cwd = d₀.cwd
  openLogs : d.openLogs = d₀.openLogs

namespace Loses

variable {S : RealPath → Prop} {purpose : Purpose}

theorem refl (S : RealPath → Prop) (d : Disk) : Loses S d d where
  shape _ := .inl rfl
  dirs _ h := h
  contents := rfl
  cwd := rfl
  openLogs := rfl

theorem trans {d' : Disk} (h : Loses S d₀ d) (h' : Loses S d d') : Loses S d₀ d' where
  shape x := by
    rcases h'.shape x with hsame | hlost
    · rw [hsame]
      exact h.shape x
    · exact .inr hlost
  dirs x hx := h'.dirs x (h.dirs x hx)
  contents := h'.contents.trans h.contents
  cwd := h'.cwd.trans h.cwd
  openLogs := h'.openLogs.trans h.openLogs

/-- What is there was there before. -/
theorem shape_of_ne_none (h : Loses S d₀ d) (hx : d.shape? x ≠ none) : d₀.shape? x = d.shape? x := by
  rcases h.shape x with heq | ⟨-, hnone⟩
  · exact heq.symm
  · exact absurd hnone hx

theorem shape_of_some (h : Loses S d₀ d) {s : Shape} (hx : d.shape? x = some s) :
    d₀.shape? x = some s :=
  (h.shape_of_ne_none (by rw [hx]; exact Option.some_ne_none s)).trans hx

/-- Removing one more entry. -/
theorem setEntry (h : Loses S d₀ d) (hS : S x) (hold : d.shape? x ≠ some .dir) :
    Loses S d₀ (d.setEntry x none) where
  shape y := by
    by_cases hy : y = x
    · subst hy
      rcases List.eq_nil_or_concat y with rfl | ⟨z, n, rfl⟩
      · exact absurd (shape?_nil d) hold
      · rw [List.concat_eq_append] at hold hS ⊢
        by_cases hz : d.shape? z = some .dir
        · exact .inr ⟨hS, shape?_eq_none.2 (entry?_setEntry_self n none hz)⟩
        · rw [setEntry_eq_self n none hz]
          exact h.shape _
    · rw [shape?_setEntry_of_ne hold (by simp) hy]
      exact h.shape y
  dirs y hy := by
    have hne : y ≠ x := fun heq => hold (heq ▸ h.dirs y hy)
    rw [shape?_setEntry_of_ne hold (by simp) hne]
    exact h.dirs y hy
  contents := h.contents
  cwd := h.cwd
  openLogs := h.openLogs

/-- Dropping one more file. -/
theorem dropFile (h : Loses S d₀ d) (hS : S x) : Loses S d₀ (d.dropFile x) := by
  by_cases hdir : d.shape? x = some .dir
  · rw [dropFile_of_shape?_eq_dir hdir]
    exact h
  · rw [Disk.dropFile]
    split
    · exact h
    · exact h.setEntry hS hdir
    · exact h

/-- **Where the last step of a path stands**, it stood before. -/
theorem home? (h : Loses S d₀ d) (hx : d.home? p = some x) : d₀.home? p = some x := by
  obtain ⟨last, dir, hlast, hdir, rfl⟩ := home?_eq_some.1 hx
  obtain ⟨hspelled, through, left, hway⟩ := directoryOf_eq_ok.1 hdir
  have hkeeps : d.Keeps through d₀ := by
    refine ⟨fun y hy => h.shape_of_some hy, fun y hy => ?_⟩
    obtain ⟨target, hlink⟩ := hway.link_of_mem hy
    exact (h.shape_of_some hlink).trans hlink.symm
  have horigin : d.origin p = d₀.origin p := by
    rw [origin, origin, h.cwd]
  rw [horigin] at hway
  exact home?_eq_some.2
    ⟨last, dir, hlast, directoryOf_eq_ok.2 ⟨hspelled, through, left, hway.of_keeps hkeeps⟩, rfl⟩

theorem descend (h : Loses S d₀ d) (hhere : d.shape? here = some .dir)
    (hfound : d.descend purpose links here steps = .ok (.found x e)) :
    ∃ e₀, d₀.descend purpose links here steps = .ok (.found x e₀) ∧ e₀.shape = e.shape := by
  have hentry {y : RealPath} {e : Entry} (he : d.entry? y = some e) :
      ∃ e₀, d₀.entry? y = some e₀ ∧ e₀.shape = e.shape :=
    Option.map_eq_some_iff.1 (h.shape_of_some (s := e.shape) (by rw [shape?, he, Option.map_some]))
  fun_induction Disk.descend d purpose links here steps with
  | case1 links here =>
    cases hfound
    obtain ⟨es, hes⟩ := shape?_eq_dir.1 hhere
    obtain ⟨es₀, hes₀⟩ := shape?_eq_dir.1 (h.shape_of_some hhere)
    rw [Disk.descend, hes, hes₀]
    exact ⟨_, rfl, rfl⟩
  | case2 links here n rest hn ih =>
    rw [descend_stay hn]
    exact ih hhere hfound
  | case3 links here rest hn ih =>
    rw [descend_up]
    exact ih (shape?_dropLast hhere) hfound
  | case8 links here n rest hn hup hwrite hlength es he ih =>
    have hdir := shape?_eq_dir.2 ⟨es, he⟩
    obtain ⟨es₀, hes₀⟩ := shape?_eq_dir.1 (h.shape_of_some hdir)
    rw [Disk.descend, if_neg hn, if_neg hup, if_neg hwrite, if_neg hlength, hes₀]
    exact ih hdir hfound
  | case9 links here n rest hn hup hwrite hlength target he hend =>
    cases hfound
    have hlink := shape?_eq_link.1 (h.shape_of_some (shape?_eq_link.2 he))
    rw [Disk.descend, if_neg hn, if_neg hup, if_neg hwrite, if_neg hlength, hlink]
    exact ⟨.link target, if_pos hend, rfl⟩
  | case11 here n rest hn hup hwrite hlength target he hend links ih =>
    have hlink := shape?_eq_link.1 (h.shape_of_some (shape?_eq_link.2 he))
    rw [Disk.descend, if_neg hn, if_neg hup, if_neg hwrite, if_neg hlength, hlink]
    simp only [if_neg hend]
    exact ih (shape?_jump hhere target) hfound
  | case12 links here n hn hup hlength e' hdir hlink he hwrite =>
    cases hfound
    obtain ⟨e₀, he₀, hshape⟩ := hentry he
    rw [Disk.descend, if_neg hn, if_neg hup, if_neg hwrite, if_neg hlength, he₀]
    cases e with
    | dir es => exact absurd rfl (hdir es)
    | link target => exact absurd rfl (hlink target)
    | file id | pipe =>
      cases e₀ <;> cases hshape
      exact ⟨_, rfl, rfl⟩
  | case4 | case5 | case6 | case7 | case10 | case13 => cases hfound

/-- **What a path finds**, it found before in the same place. -/
theorem find (h : Loses S d₀ d) (hcwd : d.shape? d.cwd = some .dir)
    (hfound : d.find p purpose = .ok (x, e)) :
    ∃ e₀, d₀.find p purpose = .ok (x, e₀) ∧ e₀.shape = e.shape := by
  obtain ⟨hspelled, hdescend⟩ := find_eq_ok_iff.1 hfound
  obtain ⟨e₀, hdescend₀, hshape⟩ := h.descend (shape?_origin hcwd p) hdescend
  have horigin : d.origin p = d₀.origin p := by
    rw [origin, origin, h.cwd]
  rw [horigin] at hdescend₀
  exact ⟨e₀, find_eq_ok_iff.2 ⟨hspelled, hdescend₀⟩, hshape⟩

/-- Elsewhere everything stays the same. -/
theorem sameOutside (h : Loses S d₀ d) : SameOutside S d₀ d where
  shape x hx := (h.shape x).resolve_right fun hlost => hx hlost.1
  dirs := h.dirs
  within x id hx hid := .inr ⟨x, hx, h.shape_of_some hid⟩
  content id _ := by rw [content, content, h.contents]
  length := Nat.le_of_eq (congrArg List.length h.contents.symm)
  cwd := h.cwd

/-! ## The files of a database -/

/-- Removing one more file. -/
theorem remove (h : Loses S d₀ d) (hS : ∀ x, d₀.home? p = some x → S x) :
    Loses S d₀ (Cache.remove d p).1 := by
  rw [Cache.remove]
  split
  · split
    · rename_i hunlink
      obtain ⟨x, hx, hold, rfl⟩ := unlink_eq_ok hunlink
      exact h.setEntry (hS x (h.home? hx)) hold
    · exact h
  · exact h

/-- Removing more files. -/
theorem removeSideFiles (h : Loses S d₀ d) {ps : List Path}
    (hS : ∀ p ∈ ps, ∀ x, d₀.home? p = some x → S x) :
    Loses S d₀ (Cache.removeSideFiles d ps).1 := by
  induction ps generalizing d with
  | nil => exact h
  | cons p ps ih =>
    exact ih (h.remove (hS p List.mem_cons_self)) fun p' hp' => hS p' (List.mem_cons_of_mem p hp')

end Loses

/-- **Removing a database** removes entries where the last steps of its paths stand. -/
theorem loses_clear {S : RealPath → Prop}
    (hS : ∀ q ∈ p :: Cache.sideFiles p, ∀ x, d.home? q = some x → S x) :
    Loses S d (Cache.clear p d).1 := by
  have hfile : Loses S d (Cache.remove d p).1 := (Loses.refl S d).remove (hS p List.mem_cons_self)
  rw [Cache.clear]
  simp only
  split
  · rename_i hremove
    rw [hremove] at hfile
    exact hfile
  · rename_i hremove
    rw [hremove] at hfile
    exact hfile.removeSideFiles fun q hq => hS q (List.mem_cons_of_mem p hq)

end Disk
end SyntaxGraph
