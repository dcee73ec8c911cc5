import SyntaxGraph.Proofs.Disk.Directories
import SyntaxGraph.Proofs.Store.Parts

/-!
# Where the store of a service stands

The path of a service leads to its store in three ways that have to agree: the file system follows it
when a file is looked for or removed, the store settles it when it is opened, and before that it may be
taken apart as an address.  A *plain* path is not taken apart.  For such a path the file system and
the store mean the same place, unless the store finds the path too long; which of the two it is depends
on the way only, not on what stands at its end.

## What is here

* `Path.IsPlain`, `Location.read_of_isPlain` — plain paths are taken as they stand.
* `Site` — the place of a store, as the file system and the store find it; `Site.pathExists_eq` and
  `Site.home?_append` say what the file system finds there.
* `settle_of_leads`, `Site.of_sameOutside` — the place stays the same as long as the way does.
-/

set_option autoImplicit false
namespace SyntaxGraph

/-- A path to a database file that is not taken apart. -/
structure Path.IsPlain (p : Path) : Prop where
  below : ∃ directory, p.Below directory Config.databaseName
  unmarked : Location.mark.isPrefixOf p.bytes = false

/-- The database path of a base directory is plain, unless the base directory is marked. -/
theorem Config.isPlain_databasePath {base : Path} (h : Location.mark.isPrefixOf base.bytes = false) :
    (databasePath base).IsPlain :=
  ⟨⟨_, below_databasePath base⟩, mark_databasePath h⟩

/-- A plain path is the name of a file as it stands. -/
theorem Location.read_of_isPlain {p : Path} (h : p.IsPlain) (hzero : 0 ∉ p.bytes) {access : Access}
    (haccess : access ≠ .memory) :
    read p access = .ok ⟨p, access, false, false, false, false⟩ := by
  obtain ⟨directory, hbelow⟩ := h.below
  have hslash : Path.slash ∈ p.bytes := by
    rw [hbelow.spelling]
    simp
  have hempty : (p.bytes == []) = false := by
    rw [beq_eq_false_iff_ne]
    exact List.ne_nil_of_mem hslash
  have hmemory : (p.bytes == Utf8.ofString ":memory:") = false := by
    rw [beq_eq_false_iff_ne]
    intro heq
    rw [heq] at hslash
    exact absurd hslash (by decide)
  have hspelled : spelled p = .ok ⟨p.bytes, []⟩ := by
    rw [spelled, h.unmarked, if_neg Bool.false_ne_true]
  have hplace : ofSpelled access ⟨p.bytes, []⟩ = .ok ⟨p, access, false, false, false, false⟩ := by
    have hmode : (access == Access.memory) = false := beq_eq_false_iff_ne.2 haccess
    have hadjusted : ([] : List (Bytes × Bytes)).foldlM adjust access = .ok access := rfl
    simp [ofSpelled, hadjusted, hempty, hmemory, hmode, system, option?, isSet, systems,
      systemsWithoutLog]
  rw [read, List.idxOf?_eq_none_iff.2 hzero, hspelled]
  exact hplace

/-- Whatever it is read for, a plain path names itself. -/
theorem Location.name_of_read {p : Path} (h : p.IsPlain) {access : Access} {l : Location}
    (hl : read p access = .ok l) : l.name = p := by
  have hspelled : spelled p = .ok ⟨p.bytes, []⟩ := by
    rw [spelled, h.unmarked, if_neg Bool.false_ne_true]
  rw [read, hspelled] at hl
  split at hl
  · cases hl
  · cases hl
    rfl

/-! ## The way of the store -/

namespace Disk

variable {d : Disk} {p : Path} {directory name : Bytes} {dir : RealPath} {through : List RealPath}
  {left : Nat}

/-- **Where the store finds its file depends on the way alone**: it finds it where the file system does,
or it finds the path too long. -/
theorem settle_of_leads (h : p.Below directory name) (hname : ProperName name)
    (hway : Leads d linkLimit (d.origin p) (Path.mk directory).steps through dir left)
    (hdir : d.shape? dir = some .dir) :
    ∃ settled, (settled = none ∨ settled = some (dir ++ [name])) ∧
      ∀ d', d.Keeps through d' → d'.cwd = d.cwd →
        (∀ target, d'.shape? (dir ++ [name]) ≠ some (.link target)) → d'.settle p = settled := by
  have hroom : linkLimit ≤ settleLimit := by decide
  have hsegs : solid (Path.splitSlash directory) = solid (Path.mk directory).steps :=
    (solid_steps ⟨directory⟩).symm
  obtain ⟨after, hafter⟩ := hway.settleSteps_eq hroom hsegs
  let found : Option RealPath := after.bind fun _ =>
    if settlingRoom < spelledLength (dir ++ [name]) then none else some (dir ++ [name])
  have hfound : found = none ∨ found = some (dir ++ [name]) := by
    cases after with
    | none => exact .inl rfl
    | some room =>
      simp only [found, Option.bind_some]
      split
      · exact .inl rfl
      · exact .inr rfl
  refine ⟨found.bind fun real =>
    if real = [] ∨ settledRoom < spelledLength real then none else some real, ?_, ?_⟩
  · rcases hfound with hnone | hsome
    · rw [hnone]
      exact .inl rfl
    · rw [hsome, Option.bind_some]
      split
      · exact .inl rfl
      · exact .inr rfl
  · intro d' hkeeps hcwd hlink
    have horigin : d'.origin p = d.origin p := by
      rw [origin, origin, hcwd]
    have hsteps : d'.settleSteps settleLimit (d'.origin p) (Path.splitSlash p.bytes) = found := by
      rw [horigin, h.splitSlash_eq, hafter d' hkeeps]
      simp only [settleSteps_last hname.step hname.short (hkeeps.dirs dir hdir) hlink
        (List.forall_mem_nil _)]
      rfl
    rw [settle, hsteps]
    cases found <;> rfl

/-- The links on the way of a path. -/
def OnWay (d : Disk) (p : Path) (x : RealPath) : Prop :=
  ∃ last through dir left, p.lastStep? = some last ∧
    Leads d linkLimit (d.origin p) last.before through dir left ∧ x ∈ through

end Disk

/-! ## The place of a store -/

/-- The place of the store at a path: the file system finds it in the directory `dir`, and so does the
store, unless it finds the path too long. -/
structure Site (p : Path) (dir : RealPath) (usable : Bool) (d : Disk) : Prop where
  home : d.home? p = some (Part.file.place dir)
  settled : d.settle p = if usable then some (Part.file.place dir) else none

namespace Site

variable {p : Path} {dir : RealPath} {usable : Bool} {d d' : Disk}

theorem spelled (h : Site p dir usable d) : Disk.spellingError? p = none := by
  obtain ⟨last, dir', -, hdir, -⟩ := Disk.home?_eq_some.1 h.home
  exact (Disk.directoryOf_eq_ok.1 hdir).1

/-- The way to the directory of the store. -/
theorem exists_leads (h : Site p dir usable d) {directory : Bytes}
    (hp : p.Below directory Config.databaseName) :
    ∃ through left,
      Disk.Leads d Disk.linkLimit (d.origin p) (Path.mk directory).steps through dir left := by
  have hhome := h.home
  rw [Part.place_file] at hhome
  obtain ⟨-, through, dir', left, hway, heq⟩ := (Disk.home?_of_below hp).1 hhome
  obtain ⟨rfl, -⟩ := List.append_inj' heq rfl
  exact ⟨through, left, hway⟩

theorem directory (h : Site p dir usable d) (hp : p.IsPlain) : d.shape? dir = some .dir := by
  obtain ⟨directory, hbelow⟩ := hp.below
  have hhome := h.home
  rw [Part.place_file] at hhome
  exact Disk.shape?_of_home? hbelow hhome

theorem roomy (h : Site p dir true d) (hnames : ∀ n ∈ dir, Disk.ProperName n) : Roomy dir := by
  refine ⟨hnames, ?_⟩
  have hsettled := h.settled
  rw [Disk.settle, if_pos rfl] at hsettled
  split at hsettled
  · cases hsettled
  · split at hsettled
    · cases hsettled
    · rename_i hroom
      rw [Option.some_inj] at hsettled
      rw [← hsettled]
      exact Nat.le_of_not_lt fun hlt => hroom (.inr hlt)

/-- There is nothing to be made on the way. -/
theorem makeParent_eq (h : Site p dir usable d) (hp : p.IsPlain) :
    Store.makeParent p d = ⟨.ok (), d, []⟩ := by
  obtain ⟨directory, hbelow⟩ := hp.below
  have hhome := h.home
  rw [Part.place_file] at hhome
  exact Store.makeParent_of_home? hbelow (by decide) hhome

/-- A path that goes on with the suffix of a part has the same way. -/
theorem exists_leads_append (h : Site p dir usable d) (hp : p.IsPlain) {part : Part} {side : Path}
    (hside : side = ⟨p.bytes ++ part.suffix⟩) :
    ∃ directory through left, side.Below directory (Config.databaseName ++ part.suffix) ∧
      Disk.Leads d Disk.linkLimit (d.origin side) (Path.mk directory).steps through dir left := by
  obtain ⟨directory, hbelow⟩ := hp.below
  have hplain : Path.slash ∉ part.suffix := by
    cases part <;> decide
  have hbelow' : side.Below directory (Config.databaseName ++ part.suffix) :=
    hside ▸ hbelow.append hplain
  obtain ⟨through, left, hway⟩ := h.exists_leads hbelow
  rw [← Disk.origin_directory d hbelow, Disk.origin_directory d hbelow'] at hway
  exact ⟨directory, through, left, hbelow', hway⟩

/-- It leads to the part in the directory of the store. -/
theorem home?_append (h : Site p dir usable d) (hp : p.IsPlain) {part : Part} {side : Path}
    (hside : side = ⟨p.bytes ++ part.suffix⟩) {x : RealPath} :
    d.home? side = some x ↔ Disk.spellingError? side = none ∧ x = part.place dir := by
  obtain ⟨directory, through, left, hbelow, hway⟩ := h.exists_leads_append hp hside
  rw [Disk.home?_of_below hbelow]
  constructor
  · rintro ⟨hspelled, through', dir', left', hway', rfl⟩
    -- both ways are the one the file system takes
    have hend := hway.descend_eq []
    rw [hway'.descend_eq [], Disk.descend.eq_1, Disk.descend.eq_1] at hend
    cases hend
    exact ⟨hspelled, rfl⟩
  · rintro ⟨hspelled, rfl⟩
    exact ⟨hspelled, through, dir, left, hway, rfl⟩

/-- The file system finds what stands in the place of the part, unless it is a link. -/
theorem pathExists_append (h : Site p dir usable d) (hp : p.IsPlain) {part : Part} {side : Path}
    (hside : side = ⟨p.bytes ++ part.suffix⟩) (hspelled : Disk.spellingError? side = none)
    (hlink : ∀ target, d.shape? (part.place dir) ≠ some (.link target)) :
    d.pathExists side = (d.shape? (part.place dir)).isSome := by
  obtain ⟨directory, through, left, hbelow, hway⟩ := h.exists_leads_append hp hside
  have hlocate : d.locate side .reach =
      d.descend .reach left dir [Config.databaseName ++ part.suffix] := by
    rw [Disk.locate, hspelled, hbelow.steps_eq, ← hbelow.directory_steps]
    exact hway.descend_eq _
  have hname := part.properName
  rw [Disk.pathExists, Disk.find, hlocate, Disk.descend_name hname.step hname.short, Disk.shape?,
    Part.place]
  cases he : d.entry? (dir ++ [Config.databaseName ++ part.suffix]) with
  | none => rfl
  | some e =>
    cases e with
    | file id => rfl
    | pipe => rfl
    | dir es =>
      simp only [Disk.descend, he]
      rfl
    | link target => exact absurd (Disk.shape?_eq_link.2 he) (hlink target)

theorem pathExists_eq (h : Site p dir usable d) (hp : p.IsPlain)
    (hlink : ∀ target, d.shape? (Part.file.place dir) ≠ some (.link target)) :
    d.pathExists p = (d.shape? (Part.file.place dir)).isSome :=
  h.pathExists_append hp (by rw [Part.suffix, List.append_nil]) h.spelled hlink

/-- **The place stays the same** as long as the way to it does, and no link comes to stand there. -/
theorem of_sameOutside (h : Site p dir usable d) (hp : p.IsPlain) {S : RealPath → Prop}
    (hsame : Disk.SameOutside S d d') (hway : ∀ x, d.OnWay p x → ¬S x)
    (hlink : ∀ target, d.shape? (Part.file.place dir) ≠ some (.link target))
    (hlink' : ∀ target, d'.shape? (Part.file.place dir) ≠ some (.link target)) :
    Site p dir usable d' := by
  obtain ⟨directory, hbelow⟩ := hp.below
  obtain ⟨through, left, hleads⟩ := h.exists_leads hbelow
  have hkeeps : d.Keeps through d' := by
    refine hsame.keeps fun x hx => hway x ?_
    rw [hbelow.directory_steps] at hleads
    exact ⟨_, through, dir, left, hbelow.lastStep?_eq, hleads, hx⟩
  have horigin : d'.origin p = d.origin p := by
    rw [Disk.origin, Disk.origin, hsame.cwd]
  rw [Part.place_file] at hlink hlink'
  obtain ⟨settled, -, hsettled⟩ :=
    Disk.settle_of_leads hbelow Part.file.properName hleads (h.directory hp)
  refine ⟨?_, ?_⟩
  · rw [Part.place_file, Disk.home?_of_below hbelow, horigin]
    exact ⟨h.spelled, through, dir, left, hleads.of_keeps hkeeps, rfl⟩
  · rw [hsettled d' hkeeps hsame.cwd hlink', ← hsettled d (.refl d through) rfl hlink]
    exact h.settled

/-- So it does while the store itself is worked on: the way goes over links, and at the places of the
store there are none. -/
theorem of_places (h : Site p dir usable d) (hp : p.IsPlain)
    (hlinks : ∀ (part : Part) target, d.shape? (part.place dir) ≠ some (.link target))
    (hlink : ∀ target, d'.shape? (Part.file.place dir) ≠ some (.link target)) {S : RealPath → Prop}
    (hsame : Disk.SameOutside S d d') (hS : ∀ x, S x → ∃ part : Part, x = part.place dir) :
    Site p dir usable d' := by
  refine h.of_sameOutside hp hsame ?_ (hlinks .file) hlink
  rintro x ⟨last, through, dir', left, -, hway, hx⟩ hSx
  obtain ⟨target, hthere⟩ := hway.link_of_mem hx
  obtain ⟨part, rfl⟩ := hS x hSx
  exact hlinks part target hthere

/-- A path with a home has a place for a store, as long as no link stands there. -/
theorem exists_of_home? (hp : p.IsPlain) (hhome : d.home? p = some (Part.file.place dir))
    (hlink : ∀ target, d.shape? (Part.file.place dir) ≠ some (.link target)) :
    ∃ usable, Site p dir usable d := by
  obtain ⟨directory, hbelow⟩ := hp.below
  have hplace := hhome
  rw [Part.place_file] at hplace hlink
  obtain ⟨-, through, dir', left, hway, heq⟩ := (Disk.home?_of_below hbelow).1 hplace
  obtain ⟨rfl, -⟩ := List.append_inj' heq rfl
  obtain ⟨settled, hcases, hsettled⟩ :=
    Disk.settle_of_leads hbelow Part.file.properName hway (Disk.shape?_of_home? hbelow hplace)
  have hsettle := hsettled d (.refl d through) rfl hlink
  rcases hcases with rfl | rfl
  · exact ⟨false, hhome, hsettle⟩
  · exact ⟨true, hhome, by rw [hsettle, Part.place_file, if_pos rfl]⟩

end Site
end SyntaxGraph
