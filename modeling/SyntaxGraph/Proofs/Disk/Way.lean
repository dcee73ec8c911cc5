import SyntaxGraph.Proofs.Disk.Tree
import SyntaxGraph.Proofs.Segments

/-!
# Ways

Two functions follow a path, and each has its own rules: `Disk.descend` for the file system, and
`Disk.settleSteps` for the store.  As long as everything on the way is there they take the same way.
A *way* is a derivation of `Disk.Leads`: it goes down into directories, up, and over links, and ends
in a directory.  It notes the links it went over, because they are what it depends on: a disk that
still has all the directories and has these links has the same way (`Leads.of_keeps`).

## What is here

* `Disk.Leads` — ways, with `leads_of_descend` and `Leads.descend_eq`: the file system finds a directory
  exactly along a way; `Disk.descend_append_eq_ok` — the last steps of a path, apart from the way to them.
* `Leads.isDir`, `Leads.isDir_of_step` — a way ends in a directory that is there.
* `Disk.home?` — where the last step of a path stands.
* `Leads.settleSteps_eq` — the store takes the same way, or gives up because a path is too long; which
  of the two depends on the way alone.
* `ProperName`, `locate_spell` — a real path, spelled out, leads to itself.
-/

set_option autoImplicit false
namespace SyntaxGraph

/-- Whether a step goes to a name. -/
def IsStep (n : Bytes) : Prop :=
  isStay n = false ∧ n ≠ [Path.dot, Path.dot]

instance (n : Bytes) : Decidable (IsStep n) :=
  inferInstanceAs (Decidable (_ ∧ _))

/-- The steps that do not stay where they are. -/
def solid (steps : List Bytes) : List Bytes :=
  steps.filter fun n => !isStay n

namespace Disk

/-- A way from the directory `here` along steps, over the links `through`, to the directory `there`.
The numbers say how many links may be gone over at the start, and how many are left at the end. -/
inductive Leads (d : Disk) :
    Nat → RealPath → List Bytes → List RealPath → RealPath → Nat → Prop where
  | done (links : Nat) (here : RealPath) : Leads d links here [] [] here links
  | stay {links left : Nat} {here there : RealPath} {n : Bytes} {rest : List Bytes}
      {through : List RealPath} (hn : isStay n) (h : Leads d links here rest through there left) :
      Leads d links here (n :: rest) through there left
  | up {links left : Nat} {here there : RealPath} {rest : List Bytes} {through : List RealPath}
      (h : Leads d links here.dropLast rest through there left) :
      Leads d links here ([Path.dot, Path.dot] :: rest) through there left
  | down {links left : Nat} {here there : RealPath} {n : Bytes} {rest : List Bytes}
      {through : List RealPath} (hn : IsStep n) (hlength : n.length ≤ nameLimit)
      (hdir : d.shape? (here ++ [n]) = some .dir)
      (h : Leads d links (here ++ [n]) rest through there left) :
      Leads d links here (n :: rest) through there left
  | jump {links left : Nat} {here there : RealPath} {n : Bytes} {rest : List Bytes}
      {through : List RealPath} {target : Path} (hn : IsStep n) (hlength : n.length ≤ nameLimit)
      (hlink : d.shape? (here ++ [n]) = some (.link target))
      (h : Leads d links (if target.isAbsolute then [] else here) (target.steps ++ rest) through
        there left) :
      Leads d (links + 1) here (n :: rest) ((here ++ [n]) :: through) there left

/-! ## One step of the file system -/

section Step

variable {d : Disk} {purpose : Purpose} {links : Nat} {here : RealPath} {n : Bytes}

theorem descend_stay (hn : isStay n) (rest : List Bytes) :
    d.descend purpose links here (n :: rest) = d.descend purpose links here rest := by
  rw [descend, if_pos hn]

theorem descend_up (rest : List Bytes) :
    d.descend purpose links here ([Path.dot, Path.dot] :: rest) =
      d.descend purpose links here.dropLast rest := by
  rw [descend, if_neg (by decide), if_pos rfl]

/-- A step to a name that is too long. -/
theorem descend_long (hpurpose : purpose ≠ .write) (hn : IsStep n) (hlength : nameLimit < n.length)
    (rest : List Bytes) :
    d.descend purpose links here (n :: rest) = .error .nameTooLong := by
  rw [descend, if_neg (by rw [hn.1]; exact Bool.false_ne_true), if_neg hn.2,
    if_neg (by simp [hpurpose]), if_pos hlength]

/-- A step to a name that more steps follow.  A link is followed then, whatever the path is for. -/
theorem descend_inner (hpurpose : purpose ≠ .write) (hn : IsStep n) (hlength : n.length ≤ nameLimit)
    {rest : List Bytes} (hrest : rest ≠ []) :
    d.descend purpose links here (n :: rest) =
      match d.entry? (here ++ [n]) with
      | none => .error .notFound
      | some (.dir _) => d.descend purpose links (here ++ [n]) rest
      | some (.link target) =>
        match links with
        | 0 => .error .tooManyLinks
        | links + 1 =>
          d.descend purpose links (if target.isAbsolute then [] else here) (target.steps ++ rest)
      | some _ => .error .notADirectory := by
  rw [descend, if_neg (by rw [hn.1]; exact Bool.false_ne_true), if_neg hn.2,
    if_neg (by simp [hpurpose]), if_neg (by omega)]
  cases d.entry? (here ++ [n]) with
  | none => simp only [if_neg hrest]
  | some e =>
    cases e with
    | link target => cases links <;> simp only [hrest, false_and, if_false]
    | file id => simp only [if_neg hrest]
    | pipe => simp only [if_neg hrest]
    | dir es => rfl

/-- A step to a name. -/
theorem descend_name (hn : IsStep n) (hlength : n.length ≤ nameLimit) (rest : List Bytes) :
    d.descend .reach links here (n :: rest) =
      match d.entry? (here ++ [n]) with
      | none => if rest = [] then .ok (.missing here n) else .error .notFound
      | some (.dir _) => d.descend .reach links (here ++ [n]) rest
      | some (.link target) =>
        match links with
        | 0 => .error .tooManyLinks
        | links + 1 =>
          d.descend .reach links (if target.isAbsolute then [] else here) (target.steps ++ rest)
      | some e => if rest = [] then .ok (.found (here ++ [n]) e) else .error .notADirectory := by
  rw [descend, if_neg (by rw [hn.1]; exact Bool.false_ne_true), if_neg hn.2, if_neg (by simp),
    if_neg (by omega)]
  cases d.entry? (here ++ [n]) with
  | none => rfl
  | some e =>
    cases e with
    | link target => cases links <;> simp only [reduceCtorEq, and_false, if_false]
    | file id => rfl
    | pipe => rfl
    | dir es => rfl

theorem descend_down (hn : IsStep n) (hlength : n.length ≤ nameLimit)
    (hdir : d.shape? (here ++ [n]) = some .dir) (rest : List Bytes) :
    d.descend .reach links here (n :: rest) = d.descend .reach links (here ++ [n]) rest := by
  obtain ⟨es, he⟩ := shape?_eq_dir.1 hdir
  rw [descend_name hn hlength, he]

theorem descend_jump {target : Path} (hn : IsStep n) (hlength : n.length ≤ nameLimit)
    (hlink : d.shape? (here ++ [n]) = some (.link target)) (rest : List Bytes) :
    d.descend .reach (links + 1) here (n :: rest) =
      d.descend .reach links (if target.isAbsolute then [] else here) (target.steps ++ rest) := by
  rw [descend_name hn hlength, shape?_eq_link.1 hlink]

end Step

/-! ## The file system finds a directory along a way -/

variable {d : Disk} {links left : Nat} {here there : RealPath} {steps : List Bytes}
  {through : List RealPath}

/-- After a way, what is left of the steps is followed from its end. -/
theorem Leads.descend_eq (h : Leads d links here steps through there left) (tail : List Bytes) :
    d.descend .reach links here (steps ++ tail) = d.descend .reach left there tail := by
  induction h with
  | done links here => rfl
  | stay hn h ih => rw [List.cons_append, descend_stay hn, ih]
  | up h ih => rw [List.cons_append, descend_up, ih]
  | down hn hlength hdir h ih => rw [List.cons_append, descend_down hn hlength hdir, ih]
  | jump hn hlength hlink h ih =>
    rw [List.cons_append, descend_jump hn hlength hlink, ← List.append_assoc, ih]

/-- Before the last steps of a path it is followed along a way, whatever it is for. -/
theorem Leads.descend_append {purpose : Purpose} {tail : List Bytes} (hpurpose : purpose ≠ .write)
    (htail : tail ≠ []) (h : Leads d links here steps through there left) :
    d.descend purpose links here (steps ++ tail) = d.descend purpose left there tail := by
  have hmore (rest : List Bytes) : rest ++ tail ≠ [] := by simp [htail]
  induction h with
  | done links here => rfl
  | stay hn h ih => rw [List.cons_append, descend_stay hn, ih]
  | up h ih => rw [List.cons_append, descend_up, ih]
  | down hn hlength hdir h ih =>
    obtain ⟨es, he⟩ := shape?_eq_dir.1 hdir
    rw [List.cons_append, descend_inner hpurpose hn hlength (hmore _), he]
    exact ih
  | jump hn hlength hlink h ih =>
    rw [List.cons_append, descend_inner hpurpose hn hlength (hmore _), shape?_eq_link.1 hlink]
    simp only [← List.append_assoc]
    exact ih

theorem exists_leads_of_descend_append {purpose : Purpose} {tail : List Bytes} {place : Place}
    (hpurpose : purpose ≠ .write) (htail : tail ≠ [])
    (h : d.descend purpose links here (steps ++ tail) = .ok place) :
    ∃ through left there, Leads d links here steps through there left ∧
      d.descend purpose left there tail = .ok place := by
  have hmore (rest : List Bytes) : rest ++ tail ≠ [] := by simp [htail]
  -- the recursion is that of a path that goes to the end of its steps: it follows a link there too
  induction links, here, steps using descend.induct d .reach with
  | case1 links here => exact ⟨[], links, here, .done links here, h⟩
  | case2 links here n rest hstay ih =>
    rw [List.cons_append, descend_stay hstay] at h
    obtain ⟨through, left, there, hway, hend⟩ := ih h
    exact ⟨through, left, there, .stay hstay hway, hend⟩
  | case3 links here rest hstay ih =>
    rw [List.cons_append, descend_up] at h
    obtain ⟨through, left, there, hway, hend⟩ := ih h
    exact ⟨through, left, there, .up hway, hend⟩
  | case8 links here n rest hstay hup hwrite hlength es he ih =>
    have hn : IsStep n := ⟨by simpa using hstay, hup⟩
    have hshort := Nat.not_lt.1 hlength
    rw [List.cons_append, descend_inner hpurpose hn hshort (hmore rest), he] at h
    obtain ⟨through, left, there, hway, hend⟩ := ih h
    exact ⟨through, left, there, .down hn hshort (shape?_eq_dir.2 ⟨es, he⟩) hway, hend⟩
  | case11 here n rest hstay hup hwrite hlength target he hend links ih =>
    have hn : IsStep n := ⟨by simpa using hstay, hup⟩
    have hshort := Nat.not_lt.1 hlength
    rw [List.cons_append, descend_inner hpurpose hn hshort (hmore rest), he] at h
    simp only [← List.append_assoc] at h
    obtain ⟨through, left, there, hway, hend⟩ := ih h
    exact ⟨_, left, there, .jump hn hshort (shape?_eq_link.2 he) hway, hend⟩
  | case4 links here n rest hstay hup hwrite => cases hwrite.1
  | case9 links here n rest hstay hup hwrite hlength target he hend => cases hend.2
  | case5 | case6 | case7 | case10 | case12 | case13 =>
    rw [List.cons_append, descend] at h
    grind

/-- **The last steps of a path** are followed from the end of the way that the others lead. -/
theorem descend_append_eq_ok {purpose : Purpose} {tail : List Bytes} {place : Place}
    (hpurpose : purpose ≠ .write) (htail : tail ≠ []) :
    d.descend purpose links here (steps ++ tail) = .ok place ↔
      ∃ through left there, Leads d links here steps through there left ∧
        d.descend purpose left there tail = .ok place := by
  refine ⟨exists_leads_of_descend_append hpurpose htail, ?_⟩
  rintro ⟨through, left, there, hway, hend⟩
  rw [hway.descend_append hpurpose htail, hend]

/-- **Where the file system finds a directory, there is a way.**  The empty step at the end asks for a
directory. -/
theorem leads_of_descend {e : Entry}
    (h : d.descend .reach links here (steps ++ [[]]) = .ok (.found there e)) :
    ∃ through left, Leads d links here steps through there left := by
  obtain ⟨through, left, there', hway, hend⟩ :=
    (descend_append_eq_ok (by decide) (List.cons_ne_nil _ _)).1 h
  rw [descend_stay rfl, descend] at hend
  cases hend
  exact ⟨through, left, hway⟩

/-- The file system finds a directory also with a slash after it. -/
theorem descend_slash {es : List (Bytes × Entry)}
    (h : d.descend .reach links here steps = .ok (.found there (.dir es))) :
    d.descend .reach links here (steps ++ [[]]) = .ok (.found there (.dir es)) := by
  fun_induction descend d .reach links here steps with
  | case1 links here =>
    rw [List.nil_append, descend_stay rfl, descend]
    exact h
  | case2 links here n rest hstay ih =>
    rw [List.cons_append, descend_stay hstay]
    exact ih h
  | case3 links here rest hstay ih =>
    rw [List.cons_append, descend_up]
    exact ih h
  | case8 links here n rest hstay hup hwrite hlength es he ih =>
    rw [List.cons_append, descend_name ⟨by simpa using hstay, hup⟩ (Nat.not_lt.1 hlength), he]
    exact ih h
  | case11 here n rest hstay hup hwrite hlength target he hend links ih =>
    rw [List.cons_append, descend_name ⟨by simpa using hstay, hup⟩ (Nat.not_lt.1 hlength), he]
    simp only [← List.append_assoc]
    exact ih h
  | case12 links here n hstay hup hlength e hdir hlink he hwrite =>
    cases h
    exact absurd rfl (hdir es)
  | case4 | case5 | case6 | case7 | case9 | case10 | case13 => cases h

/-- One way after the other. -/
theorem Leads.append (h : Leads d links here steps through there left) {more : List Bytes}
    {through' : List RealPath} {there' : RealPath} {left' : Nat}
    (h' : Leads d left there more through' there' left') :
    Leads d links here (steps ++ more) (through ++ through') there' left' := by
  induction h with
  | done links here => exact h'
  | stay hn h ih => exact .stay hn (ih h')
  | up h ih => exact .up (ih h')
  | down hn hlength hdir h ih => exact .down hn hlength hdir (ih h')
  | jump hn hlength hlink h ih =>
    have hmore := ih h'
    rw [List.append_assoc] at hmore
    exact .jump hn hlength hlink hmore

/-- A link is followed from a directory. -/
theorem shape?_jump (hhere : d.shape? here = some .dir) (target : Path) :
    d.shape? (if target.isAbsolute then [] else here) = some .dir := by
  split
  · exact shape?_nil d
  · exact hhere

/-- A way from a directory ends in a directory. -/
theorem Leads.isDir (h : Leads d links here steps through there left)
    (hhere : d.shape? here = some .dir) : d.shape? there = some .dir := by
  induction h with
  | done links here => exact hhere
  | stay hn h ih => exact ih hhere
  | @up links left here there rest through h ih =>
    exact ih (shape?_dropLast hhere)
  | down hn hlength hdir h ih => exact ih hdir
  | jump hn hlength hlink h ih => exact ih (shape?_jump hhere _)

/-- So does a way on which there is a step to a name, wherever it starts. -/
theorem Leads.isDir_of_step (h : Leads d links here steps through there left) {n : Bytes}
    (hn : n ∈ steps) (hstep : IsStep n) : d.shape? there = some .dir := by
  induction h with
  | done links here => cases hn
  | stay hstay h ih =>
    rcases List.mem_cons.1 hn with rfl | hn
    · rw [hstep.1] at hstay
      cases hstay
    · exact ih hn
  | up h ih =>
    rcases List.mem_cons.1 hn with rfl | hn
    · exact absurd rfl hstep.2
    · exact ih hn
  | down _ _ hdir h _ => exact h.isDir hdir
  | @jump links left here there m rest through target _ _ hlink h _ =>
    exact h.isDir (shape?_jump (shape?_of_concat hlink) target)

theorem Leads.link_of_mem (h : Leads d links here steps through there left) {x : RealPath}
    (hx : x ∈ through) : ∃ target, d.shape? x = some (.link target) := by
  induction h with
  | done links here => cases hx
  | stay hn h ih => exact ih hx
  | up h ih => exact ih hx
  | down hn hlength hdir h ih => exact ih hx
  | jump hn hlength hlink h ih =>
    rcases List.mem_cons.1 hx with rfl | hx
    · exact ⟨_, hlink⟩
    · exact ih hx

/-- **A path leads into a directory** exactly if it is well spelled and there is a way. -/
theorem directoryOf_eq_ok {p : Path} {last : LastStep} {dir : RealPath} :
    d.directoryOf p last = .ok dir ↔ spellingError? p = none ∧
      ∃ through left, Leads d linkLimit (d.origin p) last.before through dir left := by
  constructor
  · intro h
    rw [directoryOf] at h
    split at h
    · cases h
    · rename_i hspelled
      split at h
      · cases h
      · cases h
      · rename_i real e hfound
        cases h
        exact ⟨hspelled, leads_of_descend hfound⟩
  · rintro ⟨hspelled, through, left, hway⟩
    have hend := hway.descend_eq [[]]
    rw [descend_stay rfl, descend] at hend
    simp only [directoryOf, hspelled, hend]

/-- Where the last step of a path stands: the links before it are followed, and what is there may be a
link or nothing. -/
def home? (d : Disk) (p : Path) : Option RealPath :=
  match p.lastStep? with
  | none => none
  | some last =>
    match d.directoryOf p last with
    | .error _ => none
    | .ok dir => some (dir ++ [last.name])

theorem home?_eq_some {p : Path} {x : RealPath} :
    d.home? p = some x ↔ ∃ last dir, p.lastStep? = some last ∧ d.directoryOf p last = .ok dir ∧
      x = dir ++ [last.name] := by
  rw [home?]
  cases p.lastStep? with
  | none => simp
  | some last =>
    cases hdir : d.directoryOf p last with
    | error e => simp [hdir]
    | ok dir => simp [hdir, eq_comm]

/-- What a way depends on: the directories, and the links it goes over. -/
structure Keeps (d : Disk) (through : List RealPath) (d' : Disk) : Prop where
  dirs : ∀ x, d.shape? x = some .dir → d'.shape? x = some .dir
  links : ∀ x ∈ through, d'.shape? x = d.shape? x

theorem Keeps.refl (d : Disk) (through : List RealPath) : d.Keeps through d :=
  ⟨fun _ h => h, fun _ _ => rfl⟩

/-- **A way is still there** where what it depends on is. -/
theorem Leads.of_keeps (h : Leads d links here steps through there left) {d' : Disk}
    (hk : d.Keeps through d') : Leads d' links here steps through there left := by
  induction h with
  | done links here => exact .done links here
  | stay hn h ih => exact .stay hn (ih hk)
  | up h ih => exact .up (ih hk)
  | down hn hlength hdir h ih => exact .down hn hlength (hk.dirs _ hdir) (ih hk)
  | jump hn hlength hlink h ih =>
    refine .jump hn hlength ((hk.links _ List.mem_cons_self).trans hlink) (ih ⟨hk.dirs, ?_⟩)
    exact fun x hx => hk.links x (List.mem_cons_of_mem _ hx)

/-! ## The store takes the same way -/

theorem solid_append (a b : List Bytes) : solid (a ++ b) = solid a ++ solid b :=
  List.filter_append a b

theorem solid_steps (p : Path) : solid p.steps = solid (Path.splitSlash p.bytes) := by
  have hempty : solid (if p.bytes.getLast? = some Path.slash then [[]] else []) = [] := by
    split <;> rfl
  rw [Path.steps, solid, List.filter_append, ← solid, ← solid, hempty, List.append_nil, solid,
    List.filter_filter, solid]
  refine List.filter_congr fun n _ => ?_
  cases n <;> simp [isStay]

/-- The first step that goes somewhere stands behind segments that stay. -/
theorem exists_stays {n : Bytes} {rest segs : List Bytes} (hn : isStay n = false)
    (hs : solid segs = solid (n :: rest)) :
    ∃ stays segs', segs = stays ++ n :: segs' ∧ (∀ m ∈ stays, isStay m) ∧ solid segs' = solid rest := by
  rw [show solid (n :: rest) = n :: solid rest from List.filter_cons_of_pos (by simp [hn]), solid,
    List.filter_eq_cons_iff] at hs
  obtain ⟨stays, segs', rfl, hstays, -, hsegs⟩ := hs
  exact ⟨stays, segs', rfl, by simpa using hstays, hsegs⟩

section Step

variable {n : Bytes} {room : Nat}

theorem settleSteps_stays {segs : List Bytes} (h : ∀ n ∈ segs, isStay n) (tail : List Bytes) :
    d.settleSteps room here (segs ++ tail) = d.settleSteps room here tail := by
  induction segs with
  | nil => rfl
  | cons n segs ih =>
    rw [List.cons_append, settleSteps, if_pos (h n List.mem_cons_self)]
    exact ih fun m hm => h m (List.mem_cons_of_mem n hm)

theorem settleSteps_up (rest : List Bytes) :
    d.settleSteps room here ([Path.dot, Path.dot] :: rest) =
      d.settleSteps room here.dropLast rest := by
  rw [settleSteps, if_neg (by decide), if_pos rfl]

/-- A step to a name in a directory. -/
theorem settleSteps_name (hn : IsStep n) (hlength : n.length ≤ nameLimit)
    (hdir : d.shape? here = some .dir) (rest : List Bytes) :
    d.settleSteps room here (n :: rest) =
      if settlingRoom < spelledLength (here ++ [n]) then none
      else
        match d.entry? (here ++ [n]) with
        | some (.link target) =>
          match room with
          | 0 => none
          | room + 1 =>
            d.settleSteps room (if target.isAbsolute then [] else here)
              (Path.splitSlash target.bytes ++ rest)
        | _ => d.settleSteps room (here ++ [n]) rest := by
  obtain ⟨es, he⟩ := shape?_eq_dir.1 hdir
  rw [settleSteps, if_neg (by rw [hn.1]; exact Bool.false_ne_true), if_neg hn.2]
  split
  · rfl
  · have hshort : ¬nameLimit < n.length := Nat.not_lt.2 hlength
    cases d.entry? (here ++ [n]) with
    | none => simp only [he, if_neg hshort]
    | some e =>
      cases e with
      | link target => cases room <;> simp only [he, if_neg hshort]
      | file id => simp only [he, if_neg hshort]
      | pipe => simp only [he, if_neg hshort]
      | dir es => simp only [he, if_neg hshort]

/-- A step into a directory. -/
theorem settleSteps_down (hn : IsStep n) (hlength : n.length ≤ nameLimit)
    (hdir : d.shape? (here ++ [n]) = some .dir) (rest : List Bytes) :
    d.settleSteps room here (n :: rest) =
      if settlingRoom < spelledLength (here ++ [n]) then none
      else d.settleSteps room (here ++ [n]) rest := by
  obtain ⟨es, he⟩ := shape?_eq_dir.1 hdir
  rw [settleSteps_name hn hlength (shape?_of_concat hdir), he]

/-- A step over a link. -/
theorem settleSteps_jump {target : Path} (hn : IsStep n) (hlength : n.length ≤ nameLimit)
    (hlink : d.shape? (here ++ [n]) = some (.link target)) (rest : List Bytes) :
    d.settleSteps room here (n :: rest) =
      if settlingRoom < spelledLength (here ++ [n]) then none
      else
        match room with
        | 0 => none
        | room + 1 =>
          d.settleSteps room (if target.isAbsolute then [] else here)
            (Path.splitSlash target.bytes ++ rest) := by
  rw [settleSteps_name hn hlength (shape?_of_concat hlink), shape?_eq_link.1 hlink]

/-- The last step, unless it goes over a link.  Steps that stay may follow. -/
theorem settleSteps_last (hn : IsStep n) (hlength : n.length ≤ nameLimit)
    (hdir : d.shape? here = some .dir)
    (hlink : ∀ target, d.shape? (here ++ [n]) ≠ some (.link target)) {rest : List Bytes}
    (hrest : ∀ m ∈ rest, isStay m) :
    d.settleSteps room here (n :: rest) =
      if settlingRoom < spelledLength (here ++ [n]) then none else some (here ++ [n]) := by
  have hend : d.settleSteps room (here ++ [n]) rest = some (here ++ [n]) := by
    rw [← List.append_nil rest, settleSteps_stays hrest, settleSteps]
  rw [settleSteps_name hn hlength hdir]
  split
  · rfl
  · split
    · rename_i target he
      exact absurd (shape?_eq_link.2 he) (hlink target)
    · exact hend

end Step

/-- **The store takes a way as the file system does**, or gives up on it.  Which of the two is a matter
of the lengths of the paths on the way, so it is the same wherever the way is. -/
theorem Leads.settleSteps_eq (h : Leads d links here steps through there left) {room : Nat}
    (hroom : links ≤ room) {segs : List Bytes} (hs : solid segs = solid steps) :
    ∃ after : Option Nat, ∀ d', d.Keeps through d' → ∀ tail,
      d'.settleSteps room here (segs ++ tail) = after.bind fun r => d'.settleSteps r there tail := by
  induction h generalizing room segs with
  | done links here =>
    refine ⟨some room, fun d' _ tail => settleSteps_stays (fun n hn => ?_) tail⟩
    simpa using List.filter_eq_nil_iff.1 hs n hn
  | @stay links left here there n rest through hn h ih =>
    exact ih hroom (hs.trans (List.filter_cons_of_neg (by simp [hn])))
  | @up links left here there rest through h ih =>
    obtain ⟨stays, segs, rfl, hstays, hsegs⟩ := exists_stays (by decide) hs
    obtain ⟨after, hafter⟩ := ih hroom hsegs
    refine ⟨after, fun d' hk tail => ?_⟩
    rw [List.append_assoc, settleSteps_stays hstays, List.cons_append,
      settleSteps_up, hafter d' hk]
  | @down links left here there n rest through hn hlength hdir h ih =>
    obtain ⟨stays, segs, rfl, hstays, hsegs⟩ := exists_stays hn.1 hs
    obtain ⟨after, hafter⟩ := ih hroom hsegs
    refine ⟨if settlingRoom < spelledLength (here ++ [n]) then none else after,
      fun d' hk tail => ?_⟩
    rw [List.append_assoc, settleSteps_stays hstays, List.cons_append,
      settleSteps_down hn hlength (hk.dirs _ hdir)]
    split
    · rfl
    · exact hafter d' hk tail
  | @jump links left here there n rest through target hn hlength hlink h ih =>
    obtain ⟨stays, segs, rfl, hstays, hsegs⟩ := exists_stays hn.1 hs
    obtain ⟨room, rfl⟩ := Nat.exists_eq_add_one.2 (Nat.zero_lt_of_lt hroom)
    have hmore : solid (Path.splitSlash target.bytes ++ segs) = solid (target.steps ++ rest) := by
      rw [solid_append, solid_append, solid_steps, hsegs]
    obtain ⟨after, hafter⟩ := ih (Nat.le_of_succ_le_succ hroom) hmore
    refine ⟨if settlingRoom < spelledLength (here ++ [n]) then none else after,
      fun d' hk tail => ?_⟩
    have hk' : d.Keeps through d' :=
      ⟨hk.dirs, fun x hx => hk.links x (List.mem_cons_of_mem _ hx)⟩
    rw [List.append_assoc, settleSteps_stays hstays, List.cons_append,
      settleSteps_jump hn hlength ((hk.links _ List.mem_cons_self).trans hlink)]
    split
    · rfl
    · simp only [← List.append_assoc]
      exact hafter d' hk' tail

/-! ## Real paths -/

/-- A name as directories hold them. -/
structure ProperName (n : Bytes) : Prop where
  step : IsStep n
  plain : Path.slash ∉ n
  nonzero : 0 ∉ n
  short : n.length ≤ nameLimit

theorem ProperName.nonempty {n : Bytes} (h : ProperName n) : n ≠ [] := by
  rintro rfl
  exact absurd h.step.1 (by decide)

/-- The names that lead to a directory are a way to it. -/
theorem leads_names (links : Nat) {x y : RealPath} (hx : ∀ n ∈ x, ProperName n)
    (hdir : d.shape? (y ++ x) = some .dir) : Leads d links y x [] (y ++ x) links := by
  induction x generalizing y with
  | nil =>
    rw [List.append_nil]
    exact .done links y
  | cons n x ih =>
    have hn := hx n List.mem_cons_self
    rw [List.append_cons] at hdir ⊢
    have hdown : d.shape? (y ++ [n]) = some .dir := by
      by_cases hnil : x = []
      · subst hnil
        rw [List.append_nil] at hdir
        exact hdir
      · exact shape?_of_append hnil (by rw [hdir]; exact Option.some_ne_none _)
    exact .down hn.step hn.short hdown (ih (fun m hm => hx m (List.mem_cons_of_mem n hm)) hdir)

theorem splitSlash_names {x : RealPath} (hx : ∀ n ∈ x, ProperName n) :
    Path.splitSlash (x.flatMap fun n => Path.slash :: n) = [] :: x := by
  induction x with
  | nil => rfl
  | cons n x ih =>
    rw [List.flatMap_cons, List.cons_append, Path.splitSlash_slash,
      Path.splitSlash_prepend (hx n List.mem_cons_self).plain
        (ih fun m hm => hx m (List.mem_cons_of_mem n hm)), List.append_nil]

theorem length_names (x : RealPath) :
    (x.flatMap fun n => Path.slash :: n).length = spelledLength x := by
  induction x with
  | nil => rfl
  | cons n x ih =>
    rw [List.flatMap_cons, List.length_append, ih, List.length_cons]
    rfl

theorem spelledLength_append (x y : RealPath) :
    spelledLength (x ++ y) = spelledLength x + spelledLength y := by
  rw [← length_names, ← length_names, ← length_names, List.flatMap_append, List.length_append]

theorem steps_spell {x : RealPath} {n : Bytes} (hx : ∀ m ∈ x ++ [n], ProperName m) :
    (spell (x ++ [n])).steps = x ++ [n] := by
  have hbytes : (spell (x ++ [n])).bytes = (x ++ [n]).flatMap fun n => Path.slash :: n :=
    if_neg (by simp)
  have hn := hx n (by simp)
  have hend : (spell (x ++ [n])).bytes.getLast? ≠ some Path.slash := by
    rw [hbytes, List.flatMap_append, List.flatMap_singleton,
      List.getLast?_append_of_ne_nil _ (List.cons_ne_nil _ _),
      List.getLast?_cons_of_ne_nil hn.nonempty]
    exact fun hl => hn.plain (List.mem_of_mem_getLast? hl)
  rw [Path.steps, if_neg hend, hbytes, splitSlash_names hx, List.append_nil,
    List.filter_cons_of_neg (by simp)]
  exact List.filter_eq_self.2 fun m hm => by simpa using (hx m hm).nonempty

/-- **A real path in a directory leads to itself.** -/
theorem locate_spell {x : RealPath} {n : Bytes} (hx : ∀ m ∈ x ++ [n], ProperName m)
    (hlength : spelledLength (x ++ [n]) ≤ pathLimit) (hdir : d.shape? x = some .dir) :
    d.locate (spell (x ++ [n])) .reach = d.descend .reach linkLimit x [n] := by
  have hbytes : (spell (x ++ [n])).bytes = (x ++ [n]).flatMap fun n => Path.slash :: n :=
    if_neg (by simp)
  have hzero : (spell (x ++ [n])).bytes.contains 0 = false := by
    rw [hbytes, ← Bool.not_eq_true, List.contains_iff_mem, List.mem_flatMap]
    rintro ⟨m, hm, hzero⟩
    rcases List.mem_cons.1 hzero with hslash | hzero
    · exact absurd hslash (by decide)
    · exact (hx m hm).nonzero hzero
  have hnil : (spell (x ++ [n])).bytes ≠ [] := by
    rw [hbytes]
    simp
  have hspelled : spellingError? (spell (x ++ [n])) = none := by
    rw [spellingError?, hzero, if_neg Bool.false_ne_true, if_neg hnil, hbytes, length_names,
      if_neg (Nat.not_lt.2 hlength)]
  have horigin : d.origin (spell (x ++ [n])) = [] := by
    have habsolute : (spell (x ++ [n])).isAbsolute := by
      rw [Path.isAbsolute, hbytes]
      cases x <;> simp
    rw [origin, if_pos habsolute]
  have hway := leads_names (d := d) (y := []) linkLimit
    (fun m hm => hx m (List.mem_append_left [n] hm)) hdir
  rw [locate, hspelled, horigin, steps_spell hx]
  exact hway.descend_eq [n]

/-- What the last step finds where nothing stands. -/
theorem descend_of_none {n : Bytes} (hn : ProperName n) (h : d.shape? (here ++ [n]) = none) :
    d.descend .reach links here [n] = .ok (.missing here n) := by
  rw [descend_name hn.step hn.short, shape?_eq_none.1 h]
  rfl

/-- What the last step finds where a file stands. -/
theorem descend_of_file {n : Bytes} {id : FileId} (hn : ProperName n)
    (h : d.shape? (here ++ [n]) = some (.file id)) :
    d.descend .reach links here [n] = .ok (.found (here ++ [n]) (.file id)) := by
  rw [descend_name hn.step hn.short, shape?_eq_file.1 h]
  rfl

end Disk
end SyntaxGraph
