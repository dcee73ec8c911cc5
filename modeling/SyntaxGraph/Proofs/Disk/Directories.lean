import SyntaxGraph.Proofs.Disk.Outside
import SyntaxGraph.Store.Open

/-!
# Making directories

Before a store is opened for writing, and when a service is built, the directory of the store is made
with its ancestors.  Whether or not this succeeds, it puts directories where nothing was and does
nothing else (`Disk.MakesDirs`).  Where the directory is there already it does nothing at all
(`Store.makeParent_of_home?`).

## What is here

* `Disk.WellNamed`, `Disk.Sound` — every entry has a name that a directory can hold, and more that the
  program may rely on.
* `Disk.MakesDirs` — what making directories does, and that it keeps a disk well named;
  `MakesDirs.leads_unique`: which of them are made has no say in where a path leads.
* `Store.makesDirs_makeParent`, `Store.makeParent_of_home?` — the directory of a store.
-/

set_option autoImplicit false
namespace SyntaxGraph

/-- The bytes of a segment are bytes of the path, and none of them is a slash. -/
theorem Path.of_mem_splitSlash {bs s : Bytes} (hs : s ∈ splitSlash bs) {b : UInt8} (hb : b ∈ s) :
    b ∈ bs ∧ b ≠ slash := by
  induction bs generalizing s with
  | nil =>
    rw [splitSlash, List.mem_singleton] at hs
    subst hs
    cases hb
  | cons c bs ih =>
    by_cases hc : c = slash
    · rw [hc, splitSlash_slash, List.mem_cons] at hs
      rcases hs with rfl | hs
      · cases hb
      · exact ⟨List.mem_cons_of_mem c (ih hs hb).1, (ih hs hb).2⟩
    · cases hsplit : splitSlash bs with
      | nil => exact absurd hsplit (splitSlash_ne_nil bs)
      | cons t ts =>
        rw [splitSlash, if_neg hc, hsplit, List.mem_cons] at hs
        rcases hs with rfl | hs
        · rcases List.mem_cons.1 hb with rfl | hb
          · exact ⟨List.mem_cons_self, hc⟩
          · have := ih (hsplit ▸ List.mem_cons_self) hb
            exact ⟨List.mem_cons_of_mem c this.1, this.2⟩
        · have := ih (hsplit ▸ List.mem_cons_of_mem t hs) hb
          exact ⟨List.mem_cons_of_mem c this.1, this.2⟩

/-- The segments that are not empty are the steps up to the last one. -/
theorem Path.segments_of_lastStep? {p : Path} {last : LastStep} (h : p.lastStep? = some last) :
    (splitSlash p.bytes).filter (· ≠ []) = last.before ++ [last.name] := by
  rw [lastStep?] at h
  split at h
  · cases h
  · rename_i n ns hsegs
    cases h
    rw [← List.reverse_cons, ← hsegs, List.reverse_reverse]

/-- The last step of a path is one of its segments. -/
theorem Path.lastStep?_name {p : Path} {last : LastStep} (h : p.lastStep? = some last) :
    last.name ∈ splitSlash p.bytes ∧ last.name ≠ [] := by
  have hmem : last.name ∈ (splitSlash p.bytes).filter (· ≠ []) := by
    rw [segments_of_lastStep? h]
    simp
  simpa using hmem

namespace Disk

/-- A path without a zero byte, if nothing is wrong with its spelling. -/
theorem zero_notMem_of_spellingError? {p : Path} (h : spellingError? p = none) : 0 ∉ p.bytes := by
  intro hzero
  rw [spellingError?, if_pos (List.contains_iff_mem.2 hzero)] at h
  cases h

/-- Nothing is found at a path that is too long. -/
theorem pathExists_of_pathLimit_lt (d : Disk) {p : Path} (h : pathLimit < p.bytes.length) :
    d.pathExists p = false := by
  have hspelled : ∃ e, spellingError? p = some e := by
    rw [spellingError?]
    split_ifs <;> exact ⟨_, rfl⟩
  obtain ⟨e, he⟩ := hspelled
  simp only [pathExists, find, locate, he]

/-- The last step of a well-spelled path is a name that a directory can hold, unless it is `.` or
`..`, or too long. -/
theorem properName_lastStep {p : Path} {last : LastStep} (h : p.lastStep? = some last)
    (hspelled : spellingError? p = none) (hname : isName last.name)
    (hshort : last.name.length ≤ nameLimit) : ProperName last.name := by
  obtain ⟨hmem, hne⟩ := Path.lastStep?_name h
  rw [isName, Bool.and_eq_true, bne_iff_ne, bne_iff_ne] at hname
  refine ⟨⟨?_, hname.2⟩, fun hslash => ?_, fun hzero => ?_, hshort⟩
  · simp [isStay, hne, hname.1]
  · exact (Path.of_mem_splitSlash hmem hslash).2 rfl
  · exact zero_notMem_of_spellingError? hspelled (Path.of_mem_splitSlash hmem hzero).1

/-! ## Directories and nothing else -/

/-- Every entry has a name that a directory can hold. -/
def WellNamed (d : Disk) : Prop :=
  ∀ x n, d.shape? (x ++ [n]) ≠ none → ProperName n

/-- All names that lead to something are such names. -/
theorem WellNamed.of_shape? {d : Disk} (h : d.WellNamed) {x : RealPath} (hx : d.shape? x ≠ none) :
    ∀ n ∈ x, ProperName n := by
  intro n hn
  obtain ⟨y, z, rfl⟩ := List.append_of_mem hn
  refine h y n ?_
  by_cases hz : z = []
  · subst hz
    exact hx
  · rw [List.append_cons] at hx
    rw [shape?_of_append hz hx]
    exact Option.some_ne_none _

/-- A disk as the program finds it: names are names, the working directory is there, and no log is
open. -/
structure Sound (d : Disk) : Prop where
  named : d.WellNamed
  cwd : d.shape? d.cwd = some .dir
  idle : d.openLogs = []

/-- It stays so when something is put under a name, unless a directory is there or is put there filled. -/
theorem Sound.setEntry {d : Disk} (h : d.Sound) {x : RealPath} {n : Bytes} {new : Option Entry}
    (hn : ProperName n) (hold : d.shape? (x ++ [n]) ≠ some .dir) (hnew : ∀ e ∈ new, e.isBare) :
    (d.setEntry (x ++ [n]) new).Sound := by
  have helse : ∀ y, y ≠ x ++ [n] → (d.setEntry (x ++ [n]) new).shape? y = d.shape? y :=
    fun y hy => shape?_setEntry_of_ne hold hnew hy
  refine ⟨fun y m hm => ?_, ?_, h.idle⟩
  · by_cases hy : y ++ [m] = x ++ [n]
    · obtain rfl : m = n := by simpa using (List.append_inj' hy rfl).2
      exact hn
    · exact h.named y m (helse _ hy ▸ hm)
  · exact (helse d.cwd fun hcwd => hold (hcwd ▸ h.cwd)).trans h.cwd

/-- Below directories that hold only the next one, there is nothing but the way down. -/
theorem isPrefix_of_at? {cwd x : RealPath}
    (h : (cwd.foldr (fun n e => Entry.dir [(n, e)]) (.dir [])).at? x ≠ none) : x <+: cwd := by
  induction cwd generalizing x with
  | nil =>
    cases x with
    | nil => exact List.prefix_refl []
    | cons m x => exact absurd rfl h
  | cons n cwd ih =>
    cases x with
    | nil => exact List.nil_prefix
    | cons m x =>
      rw [List.foldr_cons, Entry.at?_cons, getName] at h
      by_cases hm : m = n
      · subst hm
        rw [List.lookup_cons_self, Option.bind_some] at h
        exact List.cons_prefix_cons.2 ⟨rfl, ih h⟩
      · rw [List.lookup_cons, beq_false_of_ne hm] at h
        exact absurd rfl h

theorem sound_empty {cwd : RealPath} (h : ∀ n ∈ cwd, ProperName n) : (Disk.empty cwd).Sound := by
  have htop : Entry.dir (Disk.empty cwd).top =
      cwd.foldr (fun n e => Entry.dir [(n, e)]) (.dir []) := by
    cases cwd <;> rfl
  refine ⟨fun x n hsome => h n ?_, ?_, rfl⟩
  · rw [Ne, shape?_eq_none, entry?, htop] at hsome
    exact (isPrefix_of_at? hsome).subset (by simp)
  · have hcwd : (cwd.foldr (fun n e => Entry.dir [(n, e)]) (.dir [])).at? cwd = some (.dir []) := by
      clear htop h
      induction cwd with
      | nil => rfl
      | cons n cwd ih =>
        rw [List.foldr_cons, Entry.at?_cons, getName, List.lookup_cons_self, Option.bind_some, ih]
    refine shape?_eq_dir.2 ⟨[], ?_⟩
    rw [ entry?, htop]
    exact hcwd

/-- The disk `d'` has come from the disk `d` by making directories. -/
structure MakesDirs (d d' : Disk) : Prop where
  shape : ∀ x, d'.shape? x = d.shape? x ∨ d.shape? x = none ∧ d'.shape? x = some .dir
  names : ∀ x n, d.shape? (x ++ [n]) = none → d'.shape? (x ++ [n]) = some .dir → ProperName n
  contents : d'.contents = d.contents
  cwd : d'.cwd = d.cwd
  openLogs : d'.openLogs = d.openLogs

namespace MakesDirs

variable {d d' d'' : Disk}

theorem refl (d : Disk) : MakesDirs d d where
  shape _ := .inl rfl
  names x n hnone hdir := by
    rw [hnone] at hdir
    cases hdir
  contents := rfl
  cwd := rfl
  openLogs := rfl

theorem trans (h : MakesDirs d d') (h' : MakesDirs d' d'') : MakesDirs d d'' where
  shape x := by
    rcases h.shape x with hx | ⟨hnone, hdir⟩
    · rw [← hx]
      exact h'.shape x
    · rcases h'.shape x with hx' | ⟨hnone', -⟩
      · exact .inr ⟨hnone, hx'.trans hdir⟩
      · rw [hdir] at hnone'
        cases hnone'
  names x n hnone hdir := by
    rcases h.shape (x ++ [n]) with hx | ⟨-, hdir'⟩
    · exact h'.names x n (hx.trans hnone) hdir
    · exact h.names x n hnone hdir'
  contents := h'.contents.trans h.contents
  cwd := h'.cwd.trans h.cwd
  openLogs := h'.openLogs.trans h.openLogs

theorem wellNamed (h : MakesDirs d d') (hd : d.WellNamed) : d'.WellNamed := by
  intro x n hsome
  rcases h.shape (x ++ [n]) with hx | ⟨hnone, hdir⟩
  · exact hd x n (hx ▸ hsome)
  · exact h.names x n hnone hdir

theorem content (h : MakesDirs d d') (id : FileId) : d'.content id = d.content id := by
  rw [Disk.content, h.contents, Disk.content]

theorem dirs (h : MakesDirs d d') (x : RealPath) (hx : d.shape? x = some .dir) :
    d'.shape? x = some .dir := by
  rcases h.shape x with hsame | ⟨-, hdir⟩
  · exact hsame.trans hx
  · exact hdir

theorem sound (h : MakesDirs d d') (hd : d.Sound) : d'.Sound := by
  refine ⟨h.wellNamed hd.named, ?_, h.openLogs.trans hd.idle⟩
  rw [h.cwd]
  exact h.dirs _ hd.cwd

/-- Ways stay. -/
theorem keeps (h : MakesDirs d d') {through : List RealPath}
    (hlinks : ∀ x ∈ through, ∃ target, d.shape? x = some (.link target)) : d.Keeps through d' where
  dirs := h.dirs
  links x hx := by
    obtain ⟨target, hlink⟩ := hlinks x hx
    rcases h.shape x with hsame | ⟨hnone, -⟩
    · exact hsame
    · rw [hlink] at hnone
      cases hnone

/-- Elsewhere than at the new directories, all stays the same. -/
theorem sameOutside (h : MakesDirs d d') {S : RealPath → Prop}
    (hS : ∀ x, d.shape? x = none → d'.shape? x = some .dir → S x) : SameOutside S d d' where
  shape x hx := by
    rcases h.shape x with hsame | ⟨hnone, hdir⟩
    · exact hsame
    · exact absurd (hS x hnone hdir) hx
  dirs := h.dirs
  within x id hx hid := by
    rcases h.shape x with hsame | ⟨-, hdir⟩
    · exact .inr ⟨x, hx, hsame ▸ hid⟩
    · rw [hdir] at hid
      cases hid
  content id _ := h.content id
  length := Nat.le_of_eq (congrArg List.length h.contents.symm)
  cwd := h.cwd

theorem origin (h : MakesDirs d d') (p : Path) : d'.origin p = d.origin p := by
  rw [Disk.origin, Disk.origin, h.cwd]

/-- Nothing but directories is made. -/
theorem shape?_eq_some (h : MakesDirs d d') {x : RealPath} {s : Shape} (hs : s ≠ .dir) :
    d'.shape? x = some s ↔ d.shape? x = some s := by
  rcases h.shape x with hx | ⟨hnone, hdir⟩
  · rw [hx]
  · simp [hnone, hdir, hs.symm]

theorem shape?_eq_link (h : MakesDirs d d') {x : RealPath} {target : Path} :
    d'.shape? x = some (.link target) ↔ d.shape? x = some (.link target) :=
  h.shape?_eq_some (by simp)

/-- **However many directories are made, a path goes one way**: two disks on which they are there agree
on it. -/
theorem leads_unique (h : MakesDirs d d') (h' : MakesDirs d d'') {links left left' : Nat}
    {here there there' : RealPath} {steps : List Bytes} {through through' : List RealPath}
    (hway : d'.Leads links here steps through there left)
    (hway' : d''.Leads links here steps through' there' left') : there = there' ∧ left = left' := by
  -- a step goes down on the one disk exactly if it does on the other
  have hjump {x : RealPath} {target : Path} (hdir : d'.shape? x = some .dir)
      (hlink : d''.shape? x = some (.link target)) : False := by
    cases hdir.symm.trans (h.shape?_eq_link.2 (h'.shape?_eq_link.1 hlink))
  have hdown {x : RealPath} {target : Path} (hlink : d'.shape? x = some (.link target))
      (hdir : d''.shape? x = some .dir) : False := by
    cases hdir.symm.trans (h'.shape?_eq_link.2 (h.shape?_eq_link.1 hlink))
  induction hway generalizing through' with
  | done links here =>
    cases hway'
    exact ⟨rfl, rfl⟩
  | stay hn hway ih =>
    cases hway' with
    | stay _ hway' => exact ih hway'
    | up _ => cases hn
    | down hn' _ _ _ | jump hn' _ _ _ =>
      rw [hn'.1] at hn
      cases hn
  | up hway ih =>
    cases hway' with
    | stay hn _ => cases hn
    | up hway' => exact ih hway'
    | down hn _ _ _ | jump hn _ _ _ => exact absurd rfl hn.2
  | down hn _ hdir hway ih =>
    cases hway' with
    | stay hn' _ =>
      rw [hn.1] at hn'
      cases hn'
    | up _ => exact absurd rfl hn.2
    | down _ _ _ hway' => exact ih hway'
    | jump _ _ hlink _ => exact (hjump hdir hlink).elim
  | jump hn _ hlink hway ih =>
    cases hway' with
    | stay hn' _ =>
      rw [hn.1] at hn'
      cases hn'
    | up _ => exact absurd rfl hn.2
    | down _ _ hdir _ => exact (hdown hlink hdir).elim
    | jump _ _ hlink' hway' =>
      cases (h.shape?_eq_link.1 hlink).symm.trans (h'.shape?_eq_link.1 hlink')
      exact ih hway'

end MakesDirs

/-! ## One directory, and all on the way -/

/-- What making a directory takes and does. -/
theorem makeDir_eq_ok {d d' : Disk} {p : Path} (h : d.makeDir p = .ok d') :
    ∃ last dir, p.lastStep? = some last ∧ d.directoryOf p last = .ok dir ∧
      ProperName last.name ∧ d.shape? (dir ++ [last.name]) = none ∧
      d' = d.setEntry (dir ++ [last.name]) (some (.dir [])) := by
  rw [makeDir] at h
  split at h
  · cases h
  rename_i last hlast
  split at h
  · cases h
  rename_i dir hdir
  split at h
  · cases h
  rename_i hlong
  split at h
  · rename_i hname
    cases h
    have hshort := Nat.le_of_not_lt fun hlt => hlong ⟨hname.1, hlt⟩
    exact ⟨last, dir, hlast, hdir,
      properName_lastStep hlast (directoryOf_eq_ok.1 hdir).1 hname.1 hshort,
      shape?_eq_none.2 (Option.isNone_iff_eq_none.1 hname.2), rfl⟩
  · cases h

theorem makesDirs_makeDir {d d' : Disk} {p : Path} (h : d.makeDir p = .ok d') : MakesDirs d d' := by
  obtain ⟨last, dir, -, -, hproper, hnone, rfl⟩ := makeDir_eq_ok h
  have helse : ∀ x, x ≠ dir ++ [last.name] →
      (d.setEntry (dir ++ [last.name]) (some (.dir []))).shape? x = d.shape? x := by
    intro x hx
    refine shape?_setEntry_of_ne ?_ (by simp [Entry.isBare]) hx
    rw [hnone]
    exact (Option.some_ne_none _).symm
  refine ⟨fun x => ?_, fun x n hx hxdir => ?_, rfl, rfl, rfl⟩
  · by_cases hx : x = dir ++ [last.name]
    · subst hx
      by_cases habove : d.shape? dir = some .dir
      · exact .inr ⟨hnone, shape?_eq_dir.2 ⟨[], entry?_setEntry_self _ _ habove⟩⟩
      · exact .inl (by rw [setEntry_eq_self _ _ habove])
    · exact .inl (helse x hx)
  · by_cases hne : x ++ [n] = dir ++ [last.name]
    · obtain ⟨-, hn⟩ := List.append_inj' hne rfl
      rw [List.cons.injEq] at hn
      exact hn.1 ▸ hproper
    · rw [helse _ hne, hx] at hxdir
      cases hxdir

theorem makesDirs_ensureDir (d : Disk) (p : Path) : MakesDirs d (d.ensureDir p).2 := by
  rw [ensureDir]
  split
  · exact .refl d
  split
  · rename_i d' hmade
    exact makesDirs_makeDir hmade
  · exact .refl d

theorem makesDirs_makeDirBelow (d : Disk) (p : Path) (above : List Path) :
    MakesDirs d (d.makeDirBelow p above).2 := by
  induction above generalizing p with
  | nil => exact makesDirs_ensureDir d p
  | cons q rest ih =>
    rw [makeDirBelow]
    split
    · have habove := ih q
      split
      · rename_i e d' hfail
        rw [hfail] at habove
        exact habove
      · rename_i d' hmade
        rw [hmade] at habove
        exact habove.trans (makesDirs_ensureDir d' p)
    · exact makesDirs_ensureDir d p

/-- A directory that a path leads to is not made again. -/
theorem ensureDir_of_leads {d : Disk} {p : Path} {through : List RealPath} {dir : RealPath}
    {left : Nat} (hspelled : spellingError? p = none) (hend : p.bytes.getLast? ≠ some Path.slash)
    (hway : Leads d linkLimit (d.origin p) p.steps through dir left)
    (hdir : d.shape? dir = some .dir) : d.ensureDir p = (.ok (), d) := by
  obtain ⟨es, he⟩ := shape?_eq_dir.1 hdir
  have hfound : d.descend .reach linkLimit (d.origin p) p.steps = .ok (.found dir (.dir es)) := by
    have hway := hway.descend_eq []
    rw [List.append_nil, descend.eq_1, he] at hway
    exact hway
  have hisDir : d.isDir p := isDir_iff.2 ⟨dir, es, find_eq_ok_iff.2 ⟨hspelled, hfound⟩⟩
  have hne : p.bytes ≠ [] := by
    intro hnil
    rw [spellingError?, hnil] at hspelled
    cases hspelled
  rw [ensureDir, if_neg hne]
  cases hmake : d.makeDir p with
  | error e => simp only [hisDir, if_true]
  | ok d' =>
    -- what can be made is missing and not found
    exfalso
    obtain ⟨last, above, hlast, habove, hproper, hnone, -⟩ := makeDir_eq_ok hmake
    obtain ⟨-, through', left', hway'⟩ := directoryOf_eq_ok.1 habove
    have hmissing := hway'.descend_eq [last.name]
    rw [descend_of_none hproper hnone, ← Path.segments_of_lastStep? hlast] at hmissing
    rw [Path.steps, if_neg hend, List.append_nil, hmissing] at hfound
    cases hfound

/-- A path leads to a directory once it has been made. -/
theorem leads_of_ensureDir {d d' : Disk} {p : Path} (hne : p.bytes ≠ [])
    (hend : p.bytes.getLast? ≠ some Path.slash) (hcwd : d.shape? d.cwd = some .dir)
    (h : d.ensureDir p = (.ok (), d')) :
    spellingError? p = none ∧
      ∃ through dir left, Leads d' linkLimit (d'.origin p) p.steps through dir left := by
  rw [ensureDir, if_neg hne] at h
  split at h
  · rename_i made hmake
    cases h
    have hmakes := makesDirs_makeDir hmake
    obtain ⟨last, above, hlast, habove, hproper, hnone, rfl⟩ := makeDir_eq_ok hmake
    obtain ⟨hspelled, through, left, hway⟩ := directoryOf_eq_ok.1 habove
    have hdir : d.shape? above = some .dir := hway.isDir (shape?_jump hcwd p)
    have hkeeps : d.Keeps through (d.setEntry (above ++ [last.name]) (some (.dir []))) :=
      hmakes.keeps fun x hx => hway.link_of_mem hx
    have hmade : (d.setEntry (above ++ [last.name]) (some (.dir []))).shape? (above ++ [last.name]) =
        some .dir :=
      shape?_eq_dir.2 ⟨[], entry?_setEntry_self _ _ hdir⟩
    have hlonger := (hway.of_keeps hkeeps).append
      (.down hproper.step hproper.short hmade (.done left _))
    rw [Path.steps, if_neg hend, List.append_nil, Path.segments_of_lastStep? hlast]
    exact ⟨hspelled, _, _, _, hlonger⟩
  · cases hisDir : d.isDir p with
    | false => simp [hisDir] at h
    | true =>
      rw [← (Prod.mk.inj h).2]
      obtain ⟨real, es, hfound⟩ := isDir_iff.1 hisDir
      obtain ⟨hspelled, hdescend⟩ := find_eq_ok_iff.1 hfound
      obtain ⟨through, left, hway⟩ := leads_of_descend (descend_slash hdescend)
      exact ⟨hspelled, through, real, left, hway⟩

/-- The directory asked for is made last. -/
theorem exists_ensureDir_of_makeDirBelow {d d' : Disk} {p : Path} {above : List Path}
    (h : d.makeDirBelow p above = (.ok (), d')) :
    ∃ e, MakesDirs d e ∧ e.ensureDir p = (.ok (), d') := by
  cases above with
  | nil => exact ⟨d, .refl d, h⟩
  | cons q rest =>
    rw [makeDirBelow] at h
    split at h
    · have hmakes := makesDirs_makeDirBelow d q rest
      split at h
      · cases h
      · rename_i e hmade
        rw [hmade] at hmakes
        exact ⟨e, hmakes, h⟩
    · exact ⟨d, .refl d, h⟩

/-! ## Paths below a directory -/

section Below

variable {d : Disk} {p : Path} {directory name : Bytes}

/-- A path starts where its beginning does. -/
theorem origin_of_append {front rest : Bytes} (hp : p.bytes = front ++ rest) (hne : front ≠ []) :
    d.origin p = d.origin ⟨front⟩ := by
  obtain ⟨b, bs, rfl⟩ := List.exists_cons_of_ne_nil hne
  rw [origin, origin, Path.isAbsolute, Path.isAbsolute, hp]
  rfl

theorem origin_directory (d : Disk) (h : p.Below directory name) :
    d.origin ⟨directory⟩ = d.origin p :=
  (origin_of_append h.spelling h.directory_ne_nil).symm

/-- The beginning of a well-spelled path is well spelled. -/
theorem spellingError?_of_append (h : spellingError? p = none) {front tail : Bytes}
    (hp : p.bytes = front ++ tail) (hne : front ≠ []) : spellingError? ⟨front⟩ = none := by
  have hzero := zero_notMem_of_spellingError? h
  rw [hp, List.mem_append, not_or] at hzero
  have hlength : front.length ≤ pathLimit := by
    by_contra hlong
    have hlong' : pathLimit < p.bytes.length := by
      rw [hp, List.length_append]
      omega
    rw [spellingError?, if_pos hlong'] at h
    split at h
    · cases h
    · split at h <;> cases h
  rw [spellingError?, if_neg (by simpa using hzero.1), if_neg hne, if_neg (Nat.not_lt.2 hlength)]

theorem spellingError?_directory (h : p.Below directory name) (hp : spellingError? p = none) :
    spellingError? ⟨directory⟩ = none :=
  spellingError?_of_append hp h.spelling h.directory_ne_nil

/-- Such a path has a home exactly if it is well spelled and there is a way to its directory. -/
theorem home?_of_below (h : p.Below directory name) {x : RealPath} :
    d.home? p = some x ↔ spellingError? p = none ∧ ∃ through dir left,
      Leads d linkLimit (d.origin p) (Path.mk directory).steps through dir left ∧
      x = dir ++ [name] := by
  rw [home?_eq_some, h.directory_steps]
  constructor
  · rintro ⟨last, dir, hlast, hdir, rfl⟩
    rw [h.lastStep?_eq, Option.some_inj] at hlast
    subst hlast
    obtain ⟨hspelled, through, left, hway⟩ := directoryOf_eq_ok.1 hdir
    exact ⟨hspelled, through, dir, left, hway, rfl⟩
  · rintro ⟨hspelled, through, dir, left, hway, rfl⟩
    exact ⟨_, dir, h.lastStep?_eq, directoryOf_eq_ok.2 ⟨hspelled, through, left, hway⟩, rfl⟩

/-- Its directory is there. -/
theorem shape?_of_home? (h : p.Below directory name) {dir : RealPath}
    (hhome : d.home? p = some (dir ++ [name])) : d.shape? dir = some .dir := by
  obtain ⟨-, through, dir', left, hway, heq⟩ := (home?_of_below h).1 hhome
  obtain ⟨rfl, -⟩ := List.append_inj' heq rfl
  obtain ⟨front, last, hsegs, hlast, hup⟩ := h.solid
  refine hway.isDir_of_step (n := last) ?_ ⟨hlast, hup⟩
  rw [h.directory_steps, List.mem_filter, hsegs, decide_eq_true_eq]
  refine ⟨by simp, ?_⟩
  rintro rfl
  exact absurd hlast (by decide)

end Below
end Disk

namespace Store

variable {p : Path} {d : Disk}

/-- The directory of a store is made, if the path has one. -/
theorem makeParent_of_parent? {dir : Path} (hdir : p.parent? = some dir) (hne : dir.bytes ≠ []) :
    (makeParent p d).disk = (d.makeDirs dir).2 ∧
      ((makeParent p d).result = .ok () ↔ (d.makeDirs dir).1 = .ok ()) := by
  simp only [makeParent, hdir, if_neg hne, Action.change]
  cases hmade : d.makeDirs dir with
  | mk result d' =>
    cases result with
    | ok u => simp
    | error e => simp

/-- Where the directory is there, nothing is done. -/
theorem makeParent_of_ensureDir {dir : Path} (hdir : p.parent? = some dir) (hne : dir.bytes ≠ [])
    (hthere : d.ensureDir dir = (.ok (), d)) : makeParent p d = ⟨.ok (), d, []⟩ := by
  have hmade : d.makeDirs dir = (.ok (), d) := by
    rw [Disk.makeDirs]
    cases dir.ancestors with
    | nil => exact hthere
    | cons q rest => rw [Disk.makeDirBelow, hthere]
  simp only [makeParent, hdir, if_neg hne, Action.change, hmade]

/-- **Making the directory of a store** makes directories and does nothing else. -/
theorem makesDirs_makeParent (p : Path) (d : Disk) : Disk.MakesDirs d (makeParent p d).disk := by
  cases hdir : p.parent? with
  | none =>
    simp only [makeParent, hdir]
    exact .refl d
  | some dir =>
    by_cases hne : dir.bytes = []
    · simp only [makeParent, hdir, if_pos hne]
      exact .refl d
    · rw [(makeParent_of_parent? hdir hne).1]
      exact Disk.makesDirs_makeDirBelow d dir dir.ancestors

section Below

variable {directory name : Bytes}

/-- Where there is a way to the directory of a store, nothing is done. -/
theorem makeParent_of_leads (h : p.Below directory name) (hname : Path.isBlank name = false)
    (hspelled : Disk.spellingError? ⟨directory⟩ = none) {through : List RealPath} {dir : RealPath}
    {left : Nat}
    (hway : Disk.Leads d Disk.linkLimit (d.origin p) (Path.mk directory).steps through dir left)
    (hdir : d.shape? dir = some .dir) : makeParent p d = ⟨.ok (), d, []⟩ := by
  rw [← Disk.origin_directory d h] at hway
  exact makeParent_of_ensureDir (h.parent?_eq hname) h.directory_ne_nil
    (Disk.ensureDir_of_leads hspelled h.directory_getLast?_ne_slash hway hdir)

/-- Where a store has a home there is such a way. -/
theorem makeParent_of_home? (h : p.Below directory name) (hname : Path.isBlank name = false)
    {dir : RealPath} (hhome : d.home? p = some (dir ++ [name])) :
    makeParent p d = ⟨.ok (), d, []⟩ := by
  obtain ⟨hspelled, through, dir', left, hway, heq⟩ := (Disk.home?_of_below h).1 hhome
  obtain ⟨rfl, -⟩ := List.append_inj' heq rfl
  exact makeParent_of_leads h hname (Disk.spellingError?_directory h hspelled) hway
    (Disk.shape?_of_home? h hhome)

/-- Once the directory of a store is made, the store has a home. -/
theorem home?_of_makeParent (h : p.Below directory name) (hname : Disk.ProperName name)
    (hlength : p.bytes.length ≤ Disk.pathLimit) (hcwd : d.shape? d.cwd = some .dir)
    (hok : (makeParent p d).result = .ok ()) :
    ∃ dir, (makeParent p d).disk.home? p = some (dir ++ [name]) := by
  have hparent := makeParent_of_parent? (d := d) (h.parent?_eq hname.step.1) h.directory_ne_nil
  rw [hparent.2] at hok
  rw [hparent.1]
  obtain ⟨e, hmakes, hmade⟩ := Disk.exists_ensureDir_of_makeDirBelow (Prod.ext hok rfl)
  have hcwd' : e.shape? e.cwd = some .dir := by
    rw [hmakes.cwd]
    exact hmakes.dirs _ hcwd
  obtain ⟨hdirectory, through, dir, left, hway⟩ :=
    Disk.leads_of_ensureDir h.directory_ne_nil h.directory_getLast?_ne_slash hcwd' hmade
  have hspelled : Disk.spellingError? p = none := by
    have hzero : p.bytes.contains 0 = false := by
      rw [← Bool.not_eq_true, List.contains_iff_mem, h.spelling, List.mem_append, List.mem_cons]
      rintro (hfront | hslash | hend)
      · exact Disk.zero_notMem_of_spellingError? hdirectory hfront
      · exact absurd hslash (by decide)
      · exact hname.nonzero hend
    have hne : p.bytes ≠ [] := by
      rw [h.spelling]
      simp
    rw [Disk.spellingError?, hzero, if_neg Bool.false_ne_true, if_neg hne,
      if_neg (Nat.not_lt.2 hlength)]
  rw [Disk.origin_directory _ h] at hway
  exact ⟨dir, (Disk.home?_of_below h).2 ⟨hspelled, through, dir, left, hway, rfl⟩⟩

end Below
end Store
end SyntaxGraph
