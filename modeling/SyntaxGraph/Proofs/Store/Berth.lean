import SyntaxGraph.Proofs.Disk.Arrival
import SyntaxGraph.Proofs.Resolve
import SyntaxGraph.Proofs.Store.Parts

/-!
# What may stand beside a store

A store may stand under any name, and what stands beside it need not be its own: a pipe in the place of
the log or the journal, a directory in the place of the index, a journal that says nothing.  `Disk.Hosts`
says that nothing worse stands there, and that no two of the places have one file.  Whatever a store
does keeps this: it makes, writes and drops files at these places and nowhere else, and the
directories and links of the disk stay.

What the store holds is then what is to be seen in the log and, if there is nothing in it, in the file
(`Disk.sight?`).

## What is here

* `Berth` — a place with a name that leaves room for the names beside it; `Berth.find_of_none` and
  `Berth.find_of_some` say what the file system finds there.
* `Disk.Apart`, `Disk.Hosts` — what stands at the four places, with one lemma for each change of the
  disk.
* `Disk.sight?`, `Disk.start?` — the database to be seen, and the one that a store starts from.
-/

set_option autoImplicit false
namespace SyntaxGraph

/-! ## Places -/

/-- The place of a part of the store whose file is at `x`. -/
def Part.placeAt (x : RealPath) : Part → RealPath
  | file => x
  | log => beside x logSuffix
  | index => beside x indexSuffix
  | journal => beside x journalSuffix

/-- Whether a store can be used with something of this shape in the place of the part. -/
def Part.admits : Part → Shape → Bool
  | _, .file _ => true
  | log, .pipe => true
  | journal, .pipe => true
  | index, .dir => true
  | _, _ => false

/-- A place at which a store can stand: it has a name, and there is room for the names beside it. -/
structure Berth (x : RealPath) : Prop where
  nonempty : x ≠ []
  names : ∀ n ∈ x, Disk.ProperName n
  room : Disk.spelledLength x ≤ Disk.settledRoom
  logName : Disk.isNameTooLong (Part.log.placeAt x) = false

namespace Part

theorem placeAt_eq (dir : RealPath) (n : Bytes) (part : Part) :
    part.placeAt (dir ++ [n]) = dir ++ [n ++ part.suffix] := by
  have hbeside (suffix : String) :
      beside (dir ++ [n]) suffix = dir ++ [n ++ Utf8.ofString suffix] := by
    rw [beside, List.dropLast_concat, List.getLast?_concat]
    rfl
  cases part with
  | file => rw [placeAt, suffix, List.append_nil]
  | log => exact hbeside logSuffix
  | index => exact hbeside indexSuffix
  | journal => exact hbeside journalSuffix

theorem suffix_inj {part part' : Part} (h : part.suffix = part'.suffix) : part = part' := by
  cases part <;> cases part' <;> revert h <;> decide

theorem suffix_length_le (part : Part) : part.suffix.length ≤ 8 := by
  cases part <;> decide

variable {x : RealPath}

theorem exists_placeAt_eq (hx : x ≠ []) :
    ∃ dir n, x = dir ++ [n] ∧ x.dropLast = dir ∧ ∀ part, placeAt x part = dir ++ [n ++ part.suffix] := by
  obtain ⟨dir, n, rfl⟩ := List.eq_nil_or_concat x |>.resolve_left hx
  rw [List.concat_eq_append]
  exact ⟨dir, n, rfl, List.dropLast_concat, placeAt_eq dir n⟩

/-- The parts stand at different places. -/
theorem placeAt_inj (hx : x ≠ []) {part part' : Part} (heq : part.placeAt x = part'.placeAt x) :
    part = part' := by
  obtain ⟨dir, n, -, -, hplace⟩ := exists_placeAt_eq hx
  rw [hplace, hplace] at heq
  have hname := (List.append_inj' heq rfl).2
  rw [List.cons.injEq] at hname
  exact suffix_inj (List.append_cancel_left hname.1)

theorem placeAt_ne (hx : x ≠ []) {part part' : Part} (hne : part ≠ part') :
    part.placeAt x ≠ part'.placeAt x :=
  fun heq => hne (placeAt_inj hx heq)

/-- They stand in one directory, which is none of them. -/
theorem dropLast_ne_placeAt (hx : x ≠ []) (part : Part) : x.dropLast ≠ part.placeAt x := by
  obtain ⟨dir, n, -, hdir, hplace⟩ := exists_placeAt_eq hx
  rw [hplace, hdir]
  intro heq
  have := congrArg List.length heq
  simp at this

/-- A file that is made at one of the places stands there. -/
theorem shape?_addFile_self {d : Disk} (hx : x ≠ []) (hdir : d.shape? x.dropLast = some .dir)
    (part : Part) (c : Content) :
    (d.addFile (part.placeAt x) c).2.shape? (part.placeAt x) = some (.file d.contents.length) := by
  obtain ⟨dir, n, -, hdirectory, hplace⟩ := exists_placeAt_eq hx
  rw [hdirectory] at hdir
  rw [hplace]
  exact Disk.shape?_addFile_self _ c hdir

end Part

namespace Berth

variable {x : RealPath} {d : Disk}

theorem spelledLength_placeAt (h : Berth x) (part : Part) :
    Disk.spelledLength (part.placeAt x) ≤ Disk.pathLimit := by
  have hroom := h.room
  have hle := part.suffix_length_le
  obtain ⟨dir, n, rfl, -, hplace⟩ := Part.exists_placeAt_eq h.nonempty
  rw [hplace]
  rw [Disk.spelledLength_append] at hroom ⊢
  simp only [Disk.spelledLength, List.foldr_cons, List.foldr_nil, List.length_append,
    Disk.settledRoom, Disk.pathLimit] at hroom ⊢
  omega

/-- Only steps of one or two bytes do not go to a name. -/
theorem isStep_of_length {n : Bytes} (h : 2 < n.length) : IsStep n := by
  match n, h with
  | a :: b :: c :: n, _ => exact ⟨by simp [isStay], by simp⟩

/-- A name that goes on with a suffix is a name, but may be too long. -/
theorem isStep_append {n : Bytes} (hn : Disk.ProperName n) (part : Part) :
    IsStep (n ++ part.suffix) ∧ Path.slash ∉ n ++ part.suffix ∧ 0 ∉ n ++ part.suffix := by
  have hplain : Path.slash ∉ part.suffix := by cases part <;> decide
  have hnonzero : (0 : UInt8) ∉ part.suffix := by cases part <;> decide
  refine ⟨?_, by simp [hn.plain, hplain], by simp [hn.nonzero, hnonzero]⟩
  have hlength : part = .file ∨ 4 ≤ part.suffix.length := by cases part <;> decide
  rcases hlength with rfl | hlength
  · rw [Part.suffix, List.append_nil]
    exact hn.step
  · have hpos := List.length_pos_iff.2 hn.nonempty
    refine isStep_of_length ?_
    rw [List.length_append]
    omega

/-- The names of the log and its index are short enough. -/
theorem properName_placeAt (h : Berth x) {part : Part} (hpart : part ≠ .journal) :
    ∀ m ∈ part.placeAt x, Disk.ProperName m := by
  have hlog := h.logName
  have hnames := h.names
  obtain ⟨dir, n, rfl, -, -⟩ := Part.exists_placeAt_eq h.nonempty
  rw [Part.placeAt_eq] at hlog ⊢
  rw [Disk.isNameTooLong, List.getLast?_concat, Option.any_some, decide_eq_false_iff_not,
    Nat.not_lt, List.length_append] at hlog
  have hle : part.suffix.length ≤ Part.log.suffix.length := by
    cases part with
    | journal => exact absurd rfl hpart
    | file | log | index => decide
  obtain ⟨hstep, hplain, hnonzero⟩ := isStep_append (hnames n (by simp)) part
  intro m hm
  rcases List.mem_append.1 hm with hm | hm
  · exact hnames m (List.mem_append_left _ hm)
  · rw [List.mem_singleton.1 hm]
    refine ⟨hstep, hplain, hnonzero, ?_⟩
    rw [List.length_append]
    omega

/-! ## What the file system finds -/

/-- The steps to a place in a directory, whatever its name. -/
theorem steps_spell {dir : RealPath} {n : Bytes} (hdir : ∀ m ∈ dir, Disk.ProperName m)
    (hn : IsStep n) (hplain : Path.slash ∉ n) : (Disk.spell (dir ++ [n])).steps = dir ++ [n] := by
  have hne : n ≠ [] := by
    rintro rfl
    exact absurd hn.1 (by decide)
  have hbytes : (Disk.spell (dir ++ [n])).bytes =
      (dir.flatMap fun m => Path.slash :: m) ++ Path.slash :: n := by
    rw [Disk.spell, if_neg (by simp), List.flatMap_append, List.flatMap_singleton]
  have hend : (Disk.spell (dir ++ [n])).bytes.getLast? ≠ some Path.slash := by
    rw [hbytes, List.getLast?_append_of_ne_nil _ (List.cons_ne_nil _ _),
      List.getLast?_cons_of_ne_nil hne]
    exact fun hl => hplain (List.mem_of_mem_getLast? hl)
  rw [Path.steps, if_neg hend, List.append_nil, hbytes, Path.splitSlash_append,
    Path.splitSlash_of_notMem hplain, Disk.splitSlash_names hdir]
  have hsome : ∀ m ∈ dir ++ [n], m ≠ [] := by
    intro m hm
    rcases List.mem_append.1 hm with hm | hm
    · exact (hdir m hm).nonempty
    · exact List.mem_singleton.1 hm ▸ hne
  rw [List.cons_append, List.filter_cons_of_neg (by simp)]
  exact List.filter_eq_self.2 fun m hm => by simpa using hsome m hm

/-- Nothing is found where nothing stands. -/
theorem find_of_none (h : Berth x) (hdir : d.shape? x.dropLast = some .dir) (part : Part)
    (hnone : d.shape? (part.placeAt x) = none) :
    ∃ e, d.find (Disk.spell (part.placeAt x)) .reach = .error e := by
  have hnames := h.names
  obtain ⟨dir, n, rfl, hdirectory, -⟩ := Part.exists_placeAt_eq h.nonempty
  rw [hdirectory] at hdir
  rw [Part.placeAt_eq] at hnone ⊢
  have hfront : ∀ m ∈ dir, Disk.ProperName m := fun m hm => hnames m (List.mem_append_left _ hm)
  obtain ⟨hstep, hplain, -⟩ := isStep_append (hnames n (by simp)) part
  have hway := Disk.leads_names (d := d) (y := []) Disk.linkLimit hfront hdir
  cases hspelled : Disk.spellingError? (Disk.spell (dir ++ [n ++ part.suffix])) with
  | some e => exact ⟨e, by simp only [Disk.find, Disk.locate, hspelled]⟩
  | none =>
    have horigin : d.origin (Disk.spell (dir ++ [n ++ part.suffix])) = [] := by
      rw [Disk.origin, if_pos (Path.isAbsolute_spell _)]
    have hlocate : d.locate (Disk.spell (dir ++ [n ++ part.suffix])) .reach =
        d.descend .reach Disk.linkLimit dir [n ++ part.suffix] := by
      rw [Disk.locate, hspelled, horigin, steps_spell hfront hstep hplain]
      exact hway.descend_eq _
    by_cases hlong : Disk.nameLimit < (n ++ part.suffix).length
    · refine ⟨.nameTooLong, ?_⟩
      rw [Disk.find, hlocate, Disk.descend_long (by decide) hstep hlong]
    · refine ⟨.notFound, ?_⟩
      rw [Disk.find, hlocate, Disk.descend_name hstep (Nat.le_of_not_lt hlong),
        Disk.shape?_eq_none.1 hnone]
      rfl

/-- What stands at a place is found there, unless it is a link. -/
theorem find_of_some (h : Berth x) (hdir : d.shape? x.dropLast = some .dir) (part : Part)
    (hnames : ∀ m ∈ part.placeAt x, Disk.ProperName m) {s : Shape}
    (hsome : d.shape? (part.placeAt x) = some s) (hlink : ∀ target, s ≠ .link target) :
    ∃ e, e.shape = s ∧ d.find (Disk.spell (part.placeAt x)) .reach = .ok (part.placeAt x, e) := by
  have hlength := h.spelledLength_placeAt part
  obtain ⟨dir, n, rfl, hdirectory, -⟩ := Part.exists_placeAt_eq h.nonempty
  rw [hdirectory] at hdir
  rw [Part.placeAt_eq] at hsome hnames hlength ⊢
  have hname := hnames (n ++ part.suffix) (by simp)
  obtain ⟨e, he, rfl⟩ := Option.map_eq_some_iff.1 hsome
  refine ⟨e, rfl, ?_⟩
  rw [Disk.find, Disk.locate_spell hnames hlength hdir, Disk.descend_name hname.step hname.short, he]
  cases e with
  | file id => rfl
  | pipe => rfl
  | link target => exact absurd rfl (hlink target)
  | dir es =>
    simp only [Disk.descend, he]
    rfl

end Berth

/-! ## What stood there before -/

namespace Disk

variable {d : Disk} {x y : RealPath} {s : Shape}

/-- What stands somewhere after something was dropped stood there before. -/
theorem shape?_of_dropFile (h : (d.dropFile x).shape? y = some s) : d.shape? y = some s := by
  by_cases hdir : d.shape? x = some .dir
  · rwa [dropFile_of_shape?_eq_dir hdir] at h
  · by_cases hne : y = x
    · rw [hne, shape?_dropFile_self hdir] at h
      cases h
    · rwa [shape?_dropFile_of_ne hne] at h

/-- What stands somewhere after a file was made is the file, or stood there before. -/
theorem shape?_of_addFile (hnone : d.shape? x = none) {c : Content}
    (h : (d.addFile x c).2.shape? y = some s) :
    y = x ∧ s = .file d.contents.length ∨ y ≠ x ∧ d.shape? y = some s := by
  by_cases hne : y = x
  · subst hne
    rcases shape?_addFile d y c with hnew | hsame
    · rw [hnew, Option.some_inj] at h
      exact .inl ⟨rfl, h.symm⟩
    · rw [hsame, hnone] at h
      cases h
  · rw [shape?_addFile_of_ne c (by simp [hnone]) hne] at h
    exact .inr ⟨hne, h⟩

theorem cwd_dropFile (d : Disk) (x : RealPath) : (d.dropFile x).cwd = d.cwd := by
  rw [Disk.dropFile]
  split <;> rfl

end Disk

/-! ## The four places -/

/-- Neither the log of a store nor its journal is a link. -/
def Disk.Unlinked (d : Disk) (x : RealPath) : Prop :=
  ∀ part : Part, part = .log ∨ part = .journal →
    ∀ target, d.shape? (part.placeAt x) ≠ some (.link target)

/-- No two of the places of a store have the same file. -/
def Disk.Apart (d : Disk) (x : RealPath) : Prop :=
  ∀ (part part' : Part) k, d.shape? (part.placeAt x) = some (.file k) →
    d.shape? (part'.placeAt x) = some (.file k) → part = part'

namespace Disk.Apart

variable {d d' : Disk} {x : RealPath}

/-- Files that are there are the files that were there. -/
theorem mono (h : d.Apart x) (hfiles : ∀ (part : Part) k, d'.shape? (part.placeAt x) = some (.file k) →
    d.shape? (part.placeAt x) = some (.file k)) : d'.Apart x :=
  fun part part' k hk hk' => h part part' k (hfiles part k hk) (hfiles part' k hk')

/-- A new file is none of the others. -/
theorem addFile (h : d.Apart x) (hx : x ≠ [])
    (hbounded : ∀ (part : Part) k, d.shape? (part.placeAt x) = some (.file k) →
      k < d.contents.length) {part : Part} (hnone : d.shape? (part.placeAt x) = none)
    (c : Content) : (d.addFile (part.placeAt x) c).2.Apart x := by
  have hcases : ∀ (part' : Part) k,
      (d.addFile (part.placeAt x) c).2.shape? (part'.placeAt x) = some (.file k) →
        part' = part ∧ k = d.contents.length ∨ d.shape? (part'.placeAt x) = some (.file k) := by
    intro part' k hk
    rcases shape?_of_addFile hnone hk with ⟨heq, hnew⟩ | ⟨-, hold⟩
    · cases hnew
      exact .inl ⟨Part.placeAt_inj hx heq, rfl⟩
    · exact .inr hold
  intro part₁ part₂ k h₁ h₂
  rcases hcases part₁ k h₁ with ⟨hpart₁, rfl⟩ | hk₁
  · rcases hcases part₂ _ h₂ with ⟨hpart₂, -⟩ | hk₂
    · exact hpart₁.trans hpart₂.symm
    · exact absurd (hbounded part₂ _ hk₂) (Nat.lt_irrefl _)
  · rcases hcases part₂ k h₂ with ⟨-, rfl⟩ | hk₂
    · exact absurd (hbounded part₁ _ hk₁) (Nat.lt_irrefl _)
    · exact h part₁ part₂ k hk₁ hk₂

end Disk.Apart

/-- A store at `x`, whose file has the number `id`, on a disk that still has the directories and links of
the disk `b`.  Nothing stands at its places that the store cannot be used with, a journal says nothing,
and no two of the places have the same file. -/
structure Disk.Hosts (b : Disk) (x : RealPath) (id : FileId) (d : Disk) : Prop where
  ways : b.KeepsWays d
  cwd : d.cwd = b.cwd
  directory : d.shape? x.dropLast = some .dir
  file : d.shape? x = some (.file id)
  kinds : ∀ (part : Part) s, d.shape? (part.placeAt x) = some s → part.admits s
  named : ∀ part : Part, d.shape? (part.placeAt x) ≠ none → ∀ m ∈ part.placeAt x, ProperName m
  calm : ∀ k, d.shape? (Part.journal.placeAt x) = some (.file k) →
    (d.content k).raw = [] ∨ (d.content k).raw.head? = some 0
  bounded : ∀ (part : Part) k, d.shape? (part.placeAt x) = some (.file k) → k < d.contents.length
  apart : d.Apart x

namespace Disk.Hosts

variable {b d : Disk} {x : RealPath} {id : FileId}

/-- Only files are admitted for certain in every place; no link is. -/
theorem ne_link (h : Hosts b x id d) {part : Part} {s : Shape}
    (hs : d.shape? (part.placeAt x) = some s) (target : Path) : s ≠ .link target := by
  rintro rfl
  have := h.kinds part _ hs
  cases part <;> cases this

/-- Opening and closing logs. -/
theorem setLogs (h : Hosts b x id d) (logs : List (FileId × OpenLog)) :
    Hosts b x id { d with openLogs := logs } :=
  ⟨h.ways, h.cwd, h.directory, h.file, h.kinds, h.named, h.calm, h.bounded, h.apart⟩

/-- Writing to one of the files, but not to the journal. -/
theorem setContent (h : Hosts b x id d) {part : Part} {k : FileId}
    (hk : d.shape? (part.placeAt x) = some (.file k)) (hpart : part ≠ .journal) (c : Content) :
    Hosts b x id (d.setContent k c) where
  ways := h.ways
  cwd := h.cwd
  directory := h.directory
  file := h.file
  kinds := h.kinds
  named := h.named
  calm j hj := by
    have hne : j ≠ k := by
      rintro rfl
      exact hpart (h.apart part .journal j hk hj)
    rw [content_setContent_of_ne hne]
    exact h.calm j hj
  bounded part' k' hk' := by
    rw [Disk.length_setContent]
    exact h.bounded part' k' hk'
  apart := h.apart

/-- Making the log or its index. -/
theorem addFile (h : Hosts b x id d) (hx : Berth x) {part : Part} (hpart : part ≠ .journal)
    (hnone : d.shape? (part.placeAt x) = none) (c : Content) :
    Hosts b x id (d.addFile (part.placeAt x) c).2 := by
  have hkept {y : RealPath} (hy : y ≠ part.placeAt x) :
      (d.addFile (part.placeAt x) c).2.shape? y = d.shape? y :=
    shape?_addFile_of_ne c (by simp [hnone]) hy
  -- what stands at one of the places is the new file, or it was there before
  have hcases : ∀ (part' : Part) s,
      (d.addFile (part.placeAt x) c).2.shape? (part'.placeAt x) = some s →
        part' = part ∧ s = .file d.contents.length ∨ d.shape? (part'.placeAt x) = some s := by
    intro part' s hs
    rcases shape?_of_addFile hnone hs with ⟨heq, hnew⟩ | ⟨-, hold⟩
    · exact .inl ⟨Part.placeAt_inj hx.nonempty heq, hnew⟩
    · exact .inr hold
  have hfile : Part.file.placeAt x ≠ part.placeAt x := by
    intro heq
    rw [← heq] at hnone
    exact absurd (hnone.symm.trans h.file) (Option.some_ne_none _).symm
  refine ⟨fun y s hs hy => ?_, h.cwd, ?_, ?_, fun part' s hs => ?_, fun part' hsome => ?_,
    fun k hk => ?_, fun part' k hk => ?_, h.apart.addFile hx.nonempty h.bounded hnone c⟩
  · have hy' := h.ways y s hs hy
    rw [hkept]
    · exact hy'
    · rintro rfl
      rw [hnone] at hy'
      cases hy'
  · rw [hkept (Part.dropLast_ne_placeAt hx.nonempty part)]
    exact h.directory
  · exact (hkept hfile).trans h.file
  · rcases hcases part' s hs with ⟨-, rfl⟩ | hs
    · cases part' <;> rfl
    · exact h.kinds part' s hs
  · obtain ⟨s, hs⟩ := Option.ne_none_iff_exists'.1 hsome
    rcases hcases part' s hs with ⟨rfl, -⟩ | hs
    · exact hx.properName_placeAt hpart
    · exact h.named part' (by rw [hs]; exact Option.some_ne_none s)
  · rcases hcases .journal _ hk with ⟨rfl, -⟩ | hk
    · exact absurd rfl hpart
    · rw [content_addFile_of_lt (h.bounded .journal k hk)]
      exact h.calm k hk
  · rw [length_addFile]
    rcases hcases part' _ hk with ⟨-, hk⟩ | hk
    · cases hk
      exact Nat.lt_succ_self _
    · exact Nat.lt_succ_of_lt (h.bounded part' k hk)

/-- Dropping what stands beside the file. -/
theorem dropFile (h : Hosts b x id d) (hx : Berth x) {part : Part} (hpart : part ≠ .file) :
    Hosts b x id (d.dropFile (part.placeAt x)) := by
  by_cases hdir : d.shape? (part.placeAt x) = some .dir
  · rw [dropFile_of_shape?_eq_dir hdir]
    exact h
  have hkept {y : RealPath} (hy : y ≠ part.placeAt x) :
      (d.dropFile (part.placeAt x)).shape? y = d.shape? y :=
    shape?_dropFile_of_ne hy
  have hfile : Part.file.placeAt x ≠ part.placeAt x := fun heq => hpart (Part.placeAt_inj hx.nonempty heq).symm
  refine ⟨fun y s hs hy => ?_, (d.cwd_dropFile _).trans h.cwd, ?_, (hkept hfile).trans h.file,
    fun part' s hs => h.kinds part' s (shape?_of_dropFile hs), fun part' hsome => ?_,
    fun k hk => ?_, fun part' k hk => ?_, h.apart.mono fun _ _ => shape?_of_dropFile⟩
  · have hy' := h.ways y s hs hy
    rw [hkept]
    · exact hy'
    · rintro rfl
      cases s with
      | dir => exact hdir hy'
      | link target => exact h.ne_link hy' target rfl
      | file k => cases hs
      | pipe => cases hs
  · rw [hkept (Part.dropLast_ne_placeAt hx.nonempty part)]
    exact h.directory
  · obtain ⟨s, hs⟩ := Option.ne_none_iff_exists'.1 hsome
    refine h.named part' ?_
    rw [shape?_of_dropFile hs]
    exact Option.some_ne_none s
  · rw [content_dropFile]
    exact h.calm k (shape?_of_dropFile hk)
  · rw [contents_dropFile]
    exact h.bounded part' k (shape?_of_dropFile hk)

/-! ## What is found there -/

theorem find_file (h : Hosts b x id d) (hx : Berth x) :
    d.find (spell x) .reach = .ok (x, .file id) := by
  obtain ⟨e, he, hfind⟩ := hx.find_of_some h.directory .file hx.names h.file (by simp)
  cases e <;> cases he
  exact hfind

theorem pathExists_file (h : Hosts b x id d) (hx : Berth x) : d.pathExists (spell x) = true := by
  rw [pathExists, h.find_file hx]

/-- What is held at a place, by its shape. -/
theorem holdsSomething_eq (h : Hosts b x id d) (hx : Berth x) (part : Part) :
    d.holdsSomething (part.placeAt x) =
      match d.shape? (part.placeAt x) with
      | none => false
      | some (.file k) => (d.content k).raw ≠ []
      | some _ => true := by
  cases hs : d.shape? (part.placeAt x) with
  | none =>
    obtain ⟨e, he⟩ := hx.find_of_none h.directory part hs
    rw [holdsSomething, he]
  | some s =>
    have hnames := h.named part (by rw [hs]; exact Option.some_ne_none s)
    obtain ⟨e, rfl, hfind⟩ := hx.find_of_some h.directory part hnames hs (h.ne_link hs)
    rw [holdsSomething, hfind]
    cases e <;> rfl

end Disk.Hosts

/-! ## What is to be seen -/

/-- The database in a log. -/
def Content.inLog? : Content → Option Database
  | log db => some db
  | _ => none

/-- The database in the log of a store, if there is one. -/
def Disk.logSight? (d : Disk) (x : RealPath) : Option Database :=
  match d.shape? (Part.log.placeAt x) with
  | some (.file k) => (d.content k).inLog?
  | _ => none

/-- The database to be seen: the one in the log and, if there is none, the one in the file. -/
def Disk.sight? (d : Disk) (x : RealPath) (id : FileId) : Option Database :=
  match d.logSight? x with
  | some db => some db
  | none => (d.content id).database?

/-- The database that a store starts from.  Beside a file with nothing in it, a log means nothing. -/
def Disk.start? (d : Disk) (x : RealPath) (id : FileId) : Option Database :=
  if (d.content id).isBlank then some .blank else d.sight? x id

theorem Content.database?_of_isBlank {c : Content} (h : c.isBlank = true) :
    c.database? = some .blank := by
  cases c with
  | bytes bs =>
    match bs, h with
    | [], _ => rfl
    | [_], _ => rfl
  | database db => cases h
  | log db => cases h

/-- A log that holds nothing shows nothing. -/
theorem Berth.logSight?_eq_none {x : RealPath} {d : Disk} (h : Berth x)
    (hdir : d.shape? x.dropLast = some .dir)
    (hnothing : d.holdsSomething (Part.log.placeAt x) = false) : d.logSight? x = none := by
  rw [Disk.logSight?]
  split
  · rename_i k hk
    obtain ⟨e, he, hfind⟩ :=
      h.find_of_some hdir .log (h.properName_placeAt (by decide)) hk (by simp)
    cases e <;> cases he
    rw [Disk.holdsSomething, hfind, decide_eq_false_iff_not, not_not] at hnothing
    cases hc : d.content k with
    | log db =>
      rw [hc] at hnothing
      cases hnothing
    | database db => rfl
    | bytes bs => rfl
  · rfl

end SyntaxGraph
