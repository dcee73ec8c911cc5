import SyntaxGraph.Proofs.Disk.Directories

/-!
# Ways to a file

A path that is followed to a file takes a way through directories and over links, and then one last
step.  All that such a way depends on are the directories and the links of the disk: files may come and
go beside it, and the file at its end may be another one or missing.  So on any disk that still has
the directories and the links, the file system and the store find the same place, and the directory
of the store is there.

## What is here

* `Disk.Arrives` — ways that end with a step to a place; `arrives_of_descend` and `Arrives.find_eq`: the
  file system finds a file exactly along such a way.
* `Disk.KeepsWays` — a disk that has the directories and the links of another; ways stay
  (`Arrives.of_keepsWays`).
* `Arrives.settle_eq` — the store settles a path at the place where the way ends, or gives up on it;
  which of the two depends on the way alone.
* `Store.makeParent_of_arrives` — there is nothing to be made on the way.
-/

set_option autoImplicit false
namespace SyntaxGraph

/-! ## The directory that a path is spelled with -/

namespace Path

/-- A path is a name, or a name behind its last slash. -/
theorem exists_lastSlash (bs : Bytes) :
    slash ∉ bs ∨ ∃ front name, bs = front ++ slash :: name ∧ slash ∉ name := by
  by_cases h : slash ∈ bs
  · obtain ⟨name, front, heq, hname⟩ := List.eq_append_cons_of_mem (List.mem_reverse.2 h)
    refine .inr ⟨front.reverse, name.reverse, ?_, by simpa using hname⟩
    have := congrArg List.reverse heq
    simpa using this
  · exact .inl h

/-- Blank segments at the end of a spelling are dropped with the slashes before them; what is left is a
spelling that does not end with a slash. -/
theorem exists_trimmed (bs : Bytes) :
    ∃ front tail blanks, bs = front ++ tail ∧
      trimBlank (splitSlash bs).reverse = (splitSlash front).reverse ∧
      splitSlash bs = splitSlash front ++ blanks ∧ (∀ s ∈ blanks, isBlank s) ∧
        front.getLast? ≠ some slash := by
  induction hlength : bs.length using Nat.strongRecOn generalizing bs with
  | ind n ih =>
    rcases exists_lastSlash bs with hplain | ⟨front, name, rfl, hname⟩
    · refine ⟨bs, [], [], by simp, ?_, by simp, by simp,
        fun hl => hplain (List.mem_of_mem_getLast? hl)⟩
      rw [splitSlash_of_notMem hplain]
      rfl
    · have hsplit : splitSlash (front ++ slash :: name) = splitSlash front ++ [name] := by
        rw [splitSlash_append, splitSlash_of_notMem hname]
      have htrim : trimBlank (splitSlash (front ++ slash :: name)).reverse =
          if isBlank name then trimBlank (splitSlash front).reverse
          else (splitSlash (front ++ slash :: name)).reverse := by
        rw [hsplit, List.reverse_append, List.reverse_singleton, List.singleton_append]
        cases hr : (splitSlash front).reverse with
        | nil => exact absurd (List.reverse_eq_nil_iff.1 hr) (splitSlash_ne_nil front)
        | cons s ss => rw [trimBlank]
      cases hblank : isBlank name with
      | true =>
        rw [hblank, if_pos rfl] at htrim
        have hshorter : front.length < n := by
          rw [← hlength, List.length_append, List.length_cons]
          omega
        obtain ⟨front', tail, blanks, hfront, htrim', hsplit', hblanks, hend⟩ :=
          ih _ hshorter front rfl
        refine ⟨front', tail ++ slash :: name, blanks ++ [name], ?_, htrim.trans htrim', ?_, ?_, hend⟩
        · rw [← List.append_assoc, ← hfront]
        · rw [hsplit, hsplit', List.append_assoc]
        · exact List.forall_mem_append.2 ⟨hblanks, by simpa using hblank⟩
      | false =>
        rw [hblank, if_neg Bool.false_ne_true] at htrim
        have hne : name ≠ [] := by
          rintro rfl
          exact absurd hblank (by decide)
        refine ⟨_, [], [], by simp, htrim, by simp, by simp, ?_⟩
        rw [List.getLast?_append_of_ne_nil _ (List.cons_ne_nil _ _),
          List.getLast?_cons_of_ne_nil hne]
        exact fun hl => hname (List.mem_of_mem_getLast? hl)

/-- The parent of a path that ends with a name behind a slash. -/
theorem parent?_of_slash {p : Path} {front name : Bytes} (hp : p.bytes = front ++ slash :: name)
    (hname : slash ∉ name) (hblank : isBlank name = false) :
    p.parent? = some (ofReversed (splitSlash front).reverse) := by
  rw [parent?, ancestors, hp, splitSlash_append, splitSlash_of_notMem hname, List.reverse_append,
    List.reverse_singleton, List.singleton_append]
  cases hr : (splitSlash front).reverse with
  | nil => exact absurd (List.reverse_eq_nil_iff.1 hr) (splitSlash_ne_nil front)
  | cons s ss =>
    rw [outer, if_neg (by rw [hblank]; exact Bool.false_ne_true)]
    rfl

theorem splitSlash_eq_singleton_nil {bs : Bytes} : splitSlash bs = [[]] ↔ bs = [] := by
  constructor
  · intro h
    rw [← joinSlash_splitSlash bs, h]
    rfl
  · rintro rfl
    rfl

/-- The path that segments spell is the root or what they were split from. -/
theorem ofReversed_of_trimBlank {ss : List Bytes} {front : Bytes}
    (h : trimBlank ss = (splitSlash front).reverse) :
    ofReversed ss = if front = [] then ⟨[slash]⟩ else ⟨front⟩ := by
  rw [ofReversed, h, List.reverse_reverse]
  split
  · rename_i hroot
    rw [if_pos (splitSlash_eq_singleton_nil.1 hroot)]
  · rename_i hroot
    rw [if_neg fun hnil => hroot (splitSlash_eq_singleton_nil.2 hnil), joinSlash_splitSlash]

/-- The steps of a path have no slashes. -/
theorem slash_notMem_of_mem_steps {p : Path} {n : Bytes} (hn : n ∈ p.steps) : slash ∉ n := by
  intro hslash
  rcases List.mem_append.1 hn with hn | hn
  · exact (of_mem_splitSlash (List.mem_filter.1 hn).1 hslash).2 rfl
  · split at hn
    · rw [List.mem_singleton.1 hn] at hslash
      cases hslash
    · cases hn

end Path

/-! ## Ways -/

/-- Whether a way can go through something. -/
def Shape.isWay : Shape → Bool
  | .dir => true
  | .link _ => true
  | .file _ => false
  | .pipe => false

/-- The real path of a place. -/
def Place.real : Place → RealPath
  | found x _ => x
  | missing dir n => dir ++ [n]

/-- The shape of what stands at a place. -/
def Place.shape? : Place → Option Shape
  | found _ e => some e.shape
  | missing _ _ => none

namespace Disk

/-- A way from the directory `here` along steps, the last of which goes to the place `x`.  The number says
how many links may be gone over. -/
inductive Arrives (d : Disk) (x : RealPath) : Nat → RealPath → List Bytes → Prop where
  | last {links : Nat} {here : RealPath} {n : Bytes} (hn : IsStep n) (hlength : n.length ≤ nameLimit)
      (hx : x = here ++ [n]) : Arrives d x links here [n]
  | stay {links : Nat} {here : RealPath} {n : Bytes} {rest : List Bytes} (hn : isStay n)
      (h : Arrives d x links here rest) : Arrives d x links here (n :: rest)
  | up {links : Nat} {here : RealPath} {rest : List Bytes}
      (h : Arrives d x links here.dropLast rest) :
      Arrives d x links here ([Path.dot, Path.dot] :: rest)
  | down {links : Nat} {here : RealPath} {n : Bytes} {rest : List Bytes} (hn : IsStep n)
      (hlength : n.length ≤ nameLimit) (hdir : d.shape? (here ++ [n]) = some .dir)
      (h : Arrives d x links (here ++ [n]) rest) : Arrives d x links here (n :: rest)
  | jump {links : Nat} {here : RealPath} {n : Bytes} {rest : List Bytes} {target : Path}
      (hn : IsStep n) (hlength : n.length ≤ nameLimit)
      (hlink : d.shape? (here ++ [n]) = some (.link target))
      (h : Arrives d x links (if target.isAbsolute then [] else here) (target.steps ++ rest)) :
      Arrives d x (links + 1) here (n :: rest)

/-- The disk `d'` has all directories and links of the disk `d`. -/
def KeepsWays (d d' : Disk) : Prop :=
  ∀ x s, s.isWay → d.shape? x = some s → d'.shape? x = some s

variable {d d' : Disk} {x here : RealPath} {links : Nat} {steps : List Bytes} {id : FileId}

theorem KeepsWays.refl (d : Disk) : d.KeepsWays d :=
  fun _ _ _ h => h

theorem KeepsWays.trans {d'' : Disk} (h : d.KeepsWays d') (h' : d'.KeepsWays d'') :
    d.KeepsWays d'' :=
  fun x s hs hx => h' x s hs (h x s hs hx)

theorem KeepsWays.dir (h : d.KeepsWays d') (hx : d.shape? x = some .dir) :
    d'.shape? x = some .dir :=
  h x .dir rfl hx

/-- A file stands in a directory. -/
theorem shape?_dropLast_of_file (h : d.shape? x = some (.file id)) :
    d.shape? x.dropLast = some .dir := by
  obtain ⟨dir, n, rfl, hdir⟩ := exists_directory h (by simp)
  rwa [List.dropLast_concat]

/-- **Where the file system follows a path to its end, there is a way**, also once directories have been
made that were missing.  The end is a place where no directory stands, and so no link either. -/
theorem arrives_of_descend (hmakes : d.MakesDirs d') (hhere : d'.shape? here = some .dir)
    {place : Place} (h : d.descend .reach links here steps = .ok place)
    (hplace : place.shape? ≠ some .dir) :
    Arrives d' place.real links here steps ∧
      ∀ target, d'.shape? place.real ≠ some (.link target) := by
  fun_induction descend d .reach links here steps with
  | case1 links here =>
    cases h
    refine absurd ?_ hplace
    rcases hmakes.shape here with hsame | ⟨hnone, -⟩
    · obtain ⟨es, he⟩ := shape?_eq_dir.1 (hsame.symm.trans hhere)
      rw [he]
      rfl
    · rw [shape?_eq_none.1 hnone]
      rfl
  | case2 links here n rest hstay ih => exact (ih hhere h).imp_left (.stay hstay)
  | case3 links here rest hstay ih => exact (ih (shape?_dropLast hhere) h).imp_left .up
  | case6 links here n hstay hup hlength he =>
    cases h
    refine ⟨.last ⟨by simpa using hstay, hup⟩ (Nat.not_lt.1 hlength) rfl, fun target hthere => ?_⟩
    cases (shape?_eq_none.2 he).symm.trans (hmakes.shape?_eq_link.1 hthere)
  | case8 links here n rest hstay hup hwrite hlength es he ih =>
    have hdir := hmakes.dirs _ (shape?_eq_dir.2 ⟨es, he⟩)
    exact (ih hdir h).imp_left (.down ⟨by simpa using hstay, hup⟩ (Nat.not_lt.1 hlength) hdir)
  | case11 here n rest hstay hup hwrite hlength target he hend links ih =>
    have hlink := hmakes.shape?_eq_link.2 (shape?_eq_link.2 he)
    exact (ih (shape?_jump hhere target) h).imp_left
      (.jump ⟨by simpa using hstay, hup⟩ (Nat.not_lt.1 hlength) hlink)
  | case12 links here n hstay hup hlength e hdir hlink he hwrite =>
    cases h
    refine ⟨.last ⟨by simpa using hstay, hup⟩ (Nat.not_lt.1 hlength) rfl, fun target hthere => ?_⟩
    cases he.symm.trans (shape?_eq_link.1 (hmakes.shape?_eq_link.1 hthere))
    exact hlink target rfl
  | case9 links here n rest hstay hup hwrite hlength target he hend => cases hend.2
  | case4 | case5 | case7 | case10 | case13 => cases h

/-- A way to a directory, and on from there. -/
theorem Leads.arrives {through : List RealPath} {there : RealPath} {left : Nat} {more : List Bytes}
    (h : Leads d links here steps through there left) (h' : Arrives d x left there more) :
    Arrives d x links here (steps ++ more) := by
  induction h with
  | done links here => exact h'
  | stay hn h ih => exact .stay hn (ih h')
  | up h ih => exact .up (ih h')
  | down hn hlength hdir h ih => exact .down hn hlength hdir (ih h')
  | jump hn hlength hlink h ih =>
    have hmore := ih h'
    rw [List.append_assoc] at hmore
    exact .jump hn hlength hlink hmore

namespace Arrives

/-- Along a way, the file system finds the file at its end. -/
theorem descend_eq (h : Arrives d x links here steps) (hx : d.shape? x = some (.file id)) :
    d.descend .reach links here steps = .ok (.found x (.file id)) := by
  induction h with
  | last hn hlength heq =>
    rw [descend_name hn hlength, ← heq, shape?_eq_file.1 hx]
    rfl
  | stay hn h ih => rw [descend_stay hn, ih]
  | up h ih => rw [descend_up, ih]
  | down hn hlength hdir h ih => rw [descend_down hn hlength hdir, ih]
  | jump hn hlength hlink h ih => rw [descend_jump hn hlength hlink, ih]

/-- **A way is still there** where the directories and the links are. -/
theorem of_keepsWays (h : Arrives d x links here steps) (hk : d.KeepsWays d') :
    Arrives d' x links here steps := by
  induction h with
  | last hn hlength heq => exact .last hn hlength heq
  | stay hn h ih => exact .stay hn ih
  | up h ih => exact .up ih
  | down hn hlength hdir h ih => exact .down hn hlength (hk _ _ rfl hdir) ih
  | jump hn hlength hlink h ih => exact .jump hn hlength (hk _ _ rfl hlink) ih

/-- The last step is one to a name. -/
theorem isStep_getLast (h : Arrives d x links here steps) :
    ∃ n, steps.getLast? = some n ∧ IsStep n := by
  induction h with
  | last hn hlength heq => exact ⟨_, rfl, hn⟩
  | stay hn h ih | down hn hlength hdir h ih =>
    obtain ⟨n, hlast, hstep⟩ := ih
    exact ⟨n, by rw [List.getLast?_cons, hlast]; rfl, hstep⟩
  | up h ih =>
    obtain ⟨n, hlast, hstep⟩ := ih
    exact ⟨n, by rw [List.getLast?_cons, hlast]; rfl, hstep⟩
  | @jump links here n rest target hn hlength hlink h ih =>
    obtain ⟨m, hlast, hstep⟩ := ih
    cases rest with
    | nil => exact ⟨n, rfl, hn⟩
    | cons k rest =>
      rw [List.getLast?_append_of_ne_nil _ (List.cons_ne_nil k rest)] at hlast
      exact ⟨m, by rw [List.getLast?_cons, hlast]; rfl, hstep⟩

/-- The last name on a way is a name, but for a zero byte. -/
theorem exists_name (h : Arrives d x links here steps) (hsteps : ∀ n ∈ steps, Path.slash ∉ n) :
    ∃ dir n, x = dir ++ [n] ∧ IsStep n ∧ n.length ≤ nameLimit ∧ Path.slash ∉ n := by
  induction h with
  | @last links here n hn hlength heq => exact ⟨here, n, heq, hn, hlength, hsteps n (by simp)⟩
  | stay hn h ih | up h ih | down hn hlength hdir h ih =>
    exact ih fun m hm => hsteps m (List.mem_cons_of_mem _ hm)
  | @jump links here n rest target hn hlength hlink h ih =>
    refine ih fun m hm => ?_
    rcases List.mem_append.1 hm with hm | hm
    · exact Path.slash_notMem_of_mem_steps hm
    · exact hsteps m (List.mem_cons_of_mem _ hm)

/-- A place that a way from a directory goes to stands in a directory. -/
theorem directory (h : Arrives d x links here steps) (hhere : d.shape? here = some .dir) :
    d.shape? x.dropLast = some .dir := by
  induction h with
  | last hn hlength heq =>
    rw [heq, List.dropLast_concat]
    exact hhere
  | stay hn h ih => exact ih hhere
  | up h ih => exact ih (shape?_dropLast hhere)
  | down hn hlength hdir h ih => exact ih hdir
  | jump hn hlength hlink h ih => exact ih (shape?_jump hhere _)

/-- The first steps, up to the one before the last, are a way to a directory. -/
theorem leads (h : Arrives d x links here steps) {front rest : List Bytes}
    (hsteps : steps = front ++ rest) (hrest : rest ≠ []) :
    ∃ through there left, Leads d links here front through there left := by
  induction h generalizing front with
  | last hn hlength heq =>
    rcases List.append_eq_singleton_iff.1 hsteps.symm with ⟨rfl, -⟩ | ⟨-, hnil⟩
    · exact ⟨_, _, _, .done _ _⟩
    · exact absurd hnil hrest
  | stay hn h ih =>
    rcases List.cons_eq_append_iff.1 hsteps with ⟨rfl, -⟩ | ⟨front, rfl, hfront⟩
    · exact ⟨_, _, _, .done _ _⟩
    · obtain ⟨through, there, left, hway⟩ := ih hfront
      exact ⟨_, _, _, .stay hn hway⟩
  | up h ih =>
    rcases List.cons_eq_append_iff.1 hsteps with ⟨rfl, -⟩ | ⟨front, rfl, hfront⟩
    · exact ⟨_, _, _, .done _ _⟩
    · obtain ⟨through, there, left, hway⟩ := ih hfront
      exact ⟨_, _, _, .up hway⟩
  | down hn hlength hdir h ih =>
    rcases List.cons_eq_append_iff.1 hsteps with ⟨rfl, -⟩ | ⟨front, rfl, hfront⟩
    · exact ⟨_, _, _, .done _ _⟩
    · obtain ⟨through, there, left, hway⟩ := ih hfront
      exact ⟨_, _, _, .down hn hlength hdir hway⟩
  | @jump links here n tail target hn hlength hlink h ih =>
    rcases List.cons_eq_append_iff.1 hsteps with ⟨rfl, -⟩ | ⟨front, rfl, hfront⟩
    · exact ⟨_, _, _, .done _ _⟩
    · have hmore : target.steps ++ tail = (target.steps ++ front) ++ rest := by
        rw [hfront, List.append_assoc]
      obtain ⟨through, there, left, hway⟩ := ih hmore
      exact ⟨_, _, _, .jump hn hlength hlink hway⟩

/-! ## The store takes the same way -/

/-- **The store takes a way as the file system does**, or gives up on it, on every disk that has the
directories and the links, and no link at the end. -/
theorem settleSteps_eq (h : Arrives d x links here steps) (room : Nat) {segs : List Bytes}
    (hs : solid segs = solid steps) :
    ∃ settled : Option RealPath, (settled = none ∨ settled = some x) ∧
      ∀ d', d.KeepsWays d' → d'.shape? x.dropLast = some .dir →
        (∀ target, d'.shape? x ≠ some (.link target)) → d'.settleSteps room here segs = settled := by
  -- each step to a name may make the path too long
  have hlimit {y : RealPath} {settled : Option RealPath} (h : settled = none ∨ settled = some x) :
      (if settlingRoom < spelledLength y then none else settled) = none ∨
        (if settlingRoom < spelledLength y then none else settled) = some x := by
    split
    · exact .inl rfl
    · exact h
  induction h generalizing room segs with
  | @last links here n hn hlength heq =>
    obtain ⟨stays, segs', rfl, hstays, hsegs⟩ := exists_stays hn.1 hs
    refine ⟨_, hlimit (y := x) (.inr rfl), fun d' hk hdir hlink => ?_⟩
    subst heq
    rw [List.dropLast_concat] at hdir
    have hblank : ∀ m ∈ segs', isStay m := by
      simpa [solid] using hsegs
    rw [settleSteps_stays hstays, settleSteps_last hn hlength hdir hlink hblank]
  | stay hn h ih => exact ih room (hs.trans (List.filter_cons_of_neg (by simp [hn])))
  | up h ih =>
    obtain ⟨stays, segs', rfl, hstays, hsegs⟩ := exists_stays (by decide) hs
    obtain ⟨settled, hcases, hsettled⟩ := ih room hsegs
    refine ⟨settled, hcases, fun d' hk hdir hlink => ?_⟩
    rw [settleSteps_stays hstays, settleSteps_up, hsettled d' hk hdir hlink]
  | @down links here n rest hn hlength hdown h ih =>
    obtain ⟨stays, segs', rfl, hstays, hsegs⟩ := exists_stays hn.1 hs
    obtain ⟨settled, hcases, hsettled⟩ := ih room hsegs
    refine ⟨_, hlimit (y := here ++ [n]) hcases, fun d' hk hdir hlink => ?_⟩
    rw [settleSteps_stays hstays, settleSteps_down hn hlength (hk.dir hdown),
      hsettled d' hk hdir hlink]
  | @jump links here n rest target hn hlength hjump h ih =>
    obtain ⟨stays, segs', rfl, hstays, hsegs⟩ := exists_stays hn.1 hs
    have hmore : solid (Path.splitSlash target.bytes ++ segs') = solid (target.steps ++ rest) := by
      rw [solid_append, solid_append, solid_steps, hsegs]
    cases room with
    | zero =>
      refine ⟨_, hlimit (y := here ++ [n]) (.inl rfl), fun d' hk hdir hlink => ?_⟩
      rw [settleSteps_stays hstays, settleSteps_jump hn hlength (hk _ _ rfl hjump)]
    | succ room =>
      obtain ⟨settled, hcases, hsettled⟩ := ih room hmore
      refine ⟨_, hlimit (y := here ++ [n]) hcases, fun d' hk hdir hlink => ?_⟩
      rw [settleSteps_stays hstays, settleSteps_jump hn hlength (hk _ _ rfl hjump)]
      simp only [hsettled d' hk hdir hlink]

end Arrives

/-! ## Paths -/

section Paths

variable {p : Path}

theorem shape?_origin (hcwd : d.shape? d.cwd = some .dir) (p : Path) :
    d.shape? (d.origin p) = some .dir :=
  shape?_jump hcwd p

/-- **The file system finds the file** at the end of a way. -/
theorem Arrives.find_eq (h : Arrives d x linkLimit (d.origin p) p.steps)
    (hspelled : spellingError? p = none) (hx : d.shape? x = some (.file id)) :
    d.find p .reach = .ok (x, .file id) :=
  find_eq_ok_iff.2 ⟨hspelled, h.descend_eq hx⟩

/-- **Where the store settles a path depends on the way alone.** -/
theorem Arrives.settle_eq (h : Arrives d x linkLimit (d.origin p) p.steps) :
    ∃ settled : Option RealPath, (settled = none ∨ settled = some x) ∧
      ∀ d', d.KeepsWays d' → d'.cwd = d.cwd → d'.shape? x.dropLast = some .dir →
        (∀ target, d'.shape? x ≠ some (.link target)) → d'.settle p = settled := by
  obtain ⟨settled, hcases, hsettled⟩ := h.settleSteps_eq settleLimit (solid_steps p).symm
  refine ⟨settled.bind fun real =>
    if real = [] ∨ settledRoom < spelledLength real then none else some real, ?_, ?_⟩
  · rcases hcases with rfl | rfl
    · exact .inl rfl
    · rw [Option.bind_some]
      split
      · exact .inl rfl
      · exact .inr rfl
  · intro d' hk hcwd hdir hlink
    have horigin : d'.origin p = d.origin p := by
      rw [origin, origin, hcwd]
    rw [settle, horigin, hsettled d' hk hdir hlink]
    cases settled <;> rfl

/-- The root is there. -/
theorem ensureDir_root (d : Disk) : d.ensureDir ⟨[Path.slash]⟩ = (.ok (), d) := by
  have hisDir : d.isDir ⟨[Path.slash]⟩ = true := by
    have hfound : d.descend .reach linkLimit [] [[]] = .ok (.found [] (.dir d.top)) := by
      rw [descend_stay rfl, descend]
      rfl
    have hlocate : d.locate ⟨[Path.slash]⟩ .reach = d.descend .reach linkLimit [] [[]] := rfl
    simp only [isDir, find, hlocate, hfound]
  rw [ensureDir, if_neg (List.cons_ne_nil _ _)]
  simp only [show d.makeDir ⟨[Path.slash]⟩ = .error .alreadyExists from rfl, hisDir, if_true]

end Paths
end Disk

/-! ## The directory of a store -/

namespace Store

variable {d : Disk} {x : RealPath} {p : Path}

/-- The last segment of a path whose last step is one to a name is that name. -/
theorem splitSlash_of_isStep {n : Bytes} (hlast : p.steps.getLast? = some n) (hn : IsStep n)
    {front name : Bytes} (hp : p.bytes = front ++ Path.slash :: name) (hname : Path.slash ∉ name) :
    Path.isBlank name = false ∧ p.steps = (Path.splitSlash front).filter (· ≠ []) ++ [name] := by
  have hsplit : Path.splitSlash p.bytes = Path.splitSlash front ++ [name] := by
    rw [hp, Path.splitSlash_append, Path.splitSlash_of_notMem hname]
  by_cases hempty : name = []
  · -- a slash at the end is a step that stays where it is
    subst hempty
    rw [Path.steps, if_pos (by rw [hp, List.getLast?_concat]), List.getLast?_concat,
      Option.some_inj] at hlast
    subst hlast
    exact absurd hn.1 (by decide)
  · have hend : p.bytes.getLast? ≠ some Path.slash := by
      rw [hp, List.getLast?_append_of_ne_nil _ (List.cons_ne_nil _ _),
        List.getLast?_cons_of_ne_nil hempty]
      exact fun hl => hname (List.mem_of_mem_getLast? hl)
    have hsteps : p.steps = (Path.splitSlash front).filter (· ≠ []) ++ [name] := by
      rw [Path.steps, if_neg hend, List.append_nil, hsplit, List.filter_append,
        List.filter_cons_of_pos (by simpa using hempty), List.filter_nil]
    rw [hsteps, List.getLast?_concat, Option.some_inj] at hlast
    exact ⟨hlast ▸ hn.1, hsteps⟩

/-- A mere name has no directory to be made. -/
theorem makeParent_of_plain (hspelled : Disk.spellingError? p = none)
    (hplain : Path.slash ∉ p.bytes) : makeParent p d = ⟨.ok (), d, []⟩ := by
  have hne : p.bytes ≠ [] := by
    intro hnil
    rw [Disk.spellingError?, hnil] at hspelled
    cases hspelled
  have hparent : p.parent? = some ⟨[]⟩ := by
    rw [Path.parent?, Path.ancestors, Path.splitSlash_of_notMem hplain, List.reverse_singleton,
      Path.outer, if_neg hne]
    rfl
  simp only [makeParent, hparent, if_true]
  rfl

/-- A directory that the spelling of a path begins with is there, if the path leads to a file over it. -/
theorem ensureDir_of_arrives (hspelled : Disk.spellingError? p = none)
    (hcwd : d.shape? d.cwd = some .dir) (h : d.Arrives x Disk.linkLimit (d.origin p) p.steps)
    {directory rest : Bytes} {more : List Bytes} (hp : p.bytes = directory ++ rest)
    (hne : directory ≠ []) (hend : directory.getLast? ≠ some Path.slash)
    (hsteps : p.steps = (Path.splitSlash directory).filter (· ≠ []) ++ more) (hmore : more ≠ []) :
    d.ensureDir ⟨directory⟩ = (.ok (), d) := by
  obtain ⟨through, there, left, hway⟩ := h.leads hsteps hmore
  have hdir := hway.isDir (Disk.shape?_origin hcwd p)
  have horigin := Disk.origin_of_append (d := d) hp hne
  have hstepsDirectory : (Path.mk directory).steps =
      (Path.splitSlash directory).filter (· ≠ []) := by
    rw [Path.steps, if_neg hend, List.append_nil]
  rw [horigin, ← hstepsDirectory] at hway
  exact Disk.ensureDir_of_leads (Disk.spellingError?_of_append hspelled hp hne) hend hway hdir

/-- **Where a path leads to a file, its directory is there** and is not made. -/
theorem makeParent_of_arrives (hspelled : Disk.spellingError? p = none)
    (hcwd : d.shape? d.cwd = some .dir)
    (h : d.Arrives x Disk.linkLimit (d.origin p) p.steps) : makeParent p d = ⟨.ok (), d, []⟩ := by
  rcases Path.exists_lastSlash p.bytes with hplain | ⟨front, name, hp, hname⟩
  · exact makeParent_of_plain hspelled hplain
  obtain ⟨n, hlast, hn⟩ := h.isStep_getLast
  obtain ⟨hblank, hsteps⟩ := splitSlash_of_isStep hlast hn hp hname
  obtain ⟨directory, tail, blanks, hfront, htrim, hsplit, -, hend⟩ := Path.exists_trimmed front
  have hparent := Path.parent?_of_slash hp hname hblank
  rw [Path.ofReversed_of_trimBlank htrim] at hparent
  by_cases hne : directory = []
  · -- only the root is in front of the name
    rw [if_pos hne] at hparent
    exact makeParent_of_ensureDir hparent (List.cons_ne_nil _ _) d.ensureDir_root
  · rw [if_neg hne] at hparent
    have hbytes : p.bytes = directory ++ (tail ++ Path.slash :: name) := by
      rw [hp, hfront, List.append_assoc]
    have hfirst : p.steps = (Path.splitSlash directory).filter (· ≠ []) ++
        (blanks.filter (· ≠ []) ++ [name]) := by
      rw [hsteps, hsplit, List.filter_append, List.append_assoc]
    exact makeParent_of_ensureDir hparent hne
      (ensureDir_of_arrives hspelled hcwd h hbytes hne hend hfirst (by simp))

/-- Steps that stay lead nowhere else. -/
theorem leads_stays {links : Nat} {here : RealPath} {stays : List Bytes}
    (h : ∀ n ∈ stays, isStay n) : d.Leads links here stays [] here links := by
  induction stays with
  | nil => exact .done links here
  | cons n stays ih =>
    exact .stay (h n List.mem_cons_self) (ih fun m hm => h m (List.mem_cons_of_mem n hm))

/-- **Once the directory of a path is made**, there is a way up to the last step of the path. -/
theorem leads_of_makeParent {before : List Bytes} {name : Bytes} (hcwd : d.shape? d.cwd = some .dir)
    (hsteps : p.steps = before ++ [name]) (hname : IsStep name)
    (hok : (makeParent p d).result = .ok ()) :
    ∃ through there left,
      (makeParent p d).disk.Leads Disk.linkLimit (d.origin p) before through there left := by
  have hlast : p.steps.getLast? = some name := by
    rw [hsteps, List.getLast?_concat]
  rcases Path.exists_lastSlash p.bytes with hplain | ⟨front, n, hp, hn⟩
  · -- a mere name has no steps before it
    have hlength : p.steps.length ≤ 1 := by
      have hend : p.bytes.getLast? ≠ some Path.slash := fun hl =>
        hplain (List.mem_of_mem_getLast? hl)
      rw [Path.steps, if_neg hend, List.append_nil, Path.splitSlash_of_notMem hplain]
      exact List.length_filter_le _ _
    rw [hsteps, List.length_append, List.length_singleton] at hlength
    rw [List.length_eq_zero_iff.1 (show before.length = 0 by omega)]
    exact ⟨_, _, _, .done _ _⟩
  obtain ⟨hblank, hsegs⟩ := splitSlash_of_isStep hlast hname hp hn
  rw [hsegs] at hsteps
  obtain ⟨rfl, -⟩ := List.append_inj' hsteps rfl
  obtain ⟨directory, tail, blanks, hfront, htrim, hsplit, hblanks, hend⟩ := Path.exists_trimmed front
  have hstays : ∀ s ∈ blanks.filter (· ≠ []), isStay s := fun s hs => hblanks s (List.mem_filter.1 hs).1
  rw [hsplit, List.filter_append]
  by_cases hne : directory = []
  · -- only the root, or nothing, is in front of the name
    subst hne
    exact ⟨_, _, _, leads_stays hstays⟩
  have hparent := Path.parent?_of_slash hp hn hblank
  rw [Path.ofReversed_of_trimBlank htrim, if_neg hne] at hparent
  have hmade := makeParent_of_parent? (d := d) hparent hne
  rw [hmade.2] at hok
  rw [hmade.1]
  obtain ⟨e, hmakes, hlastMade⟩ := Disk.exists_ensureDir_of_makeDirBelow (Prod.ext hok rfl)
  have hcwd' : e.shape? e.cwd = some .dir := by
    rw [hmakes.cwd]
    exact hmakes.dirs _ hcwd
  obtain ⟨-, through, there, left, hway⟩ := Disk.leads_of_ensureDir hne hend hcwd' hlastMade
  have hbytes : p.bytes = directory ++ (tail ++ Path.slash :: n) := by
    rw [hp, hfront, List.append_assoc]
  rw [(Disk.makesDirs_makeDirBelow d ⟨directory⟩ _).origin, ← Disk.origin_of_append hbytes hne,
    Path.steps, if_neg hend, List.append_nil] at hway
  exact ⟨_, _, _, hway.append (leads_stays hstays)⟩

end Store
end SyntaxGraph
