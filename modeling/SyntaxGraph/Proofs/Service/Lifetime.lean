import Mathlib
import SyntaxGraph.Proofs.Service.History

/-!
# The lifetime of a service

A service is built on a disk that holds no store for it, and then lives through a history.  When it is
built the invariant of histories holds, so it holds at every moment after, and the answers of the
service can be read off it (`answers_of_history`).

The result asks for some things besides: that the path of the store is not longer than the file system
takes, and that once the service is built there is nothing in the place of the file and nothing beside it
that does harm (`LacksGraph`).  A file does none.  A service for which one of them fails may give other
answers, though there was no database file when it was built (`answersWrongly_without_conditions`).

## What is here

* `Elsewhere.of_sites` — services whose stores stand in different directories do not meet.
* `Answers`, `answers_of_history` — what a service answers after any history.
* `Sample.AnswersWrongly`, `answersWrongly_without_conditions` — what the conditions are for.
-/

set_option autoImplicit false
namespace SyntaxGraph

/-! ## Services in different directories -/

/-- **Services whose stores stand in different directories do not meet**, if no file of the one is
a file of the other under another name. -/
theorem Elsewhere.of_sites {p q : Path} {dir dir' : RealPath} {usable usable' : Bool} {d : Disk}
    {parts parts' : Parts} (hq : q.IsPlain) (hsite : Site p dir usable d)
    (hsite' : Site q dir' usable' d) (hshows : d.Shows dir parts) (hshows' : d.Shows dir' parts')
    (hne : dir ≠ dir')
    (hfiles : ∀ part part' id c c', parts part = some (id, c) → parts' part' ≠ some (id, c')) :
    Elsewhere p q d where
  place real hreal x hx hmem := by
    rw [hsite.home, Option.mem_some_iff] at hreal
    subst hreal
    obtain ⟨part, rfl⟩ := Part.mem_storePlaces.1 hmem
    obtain ⟨part', heq⟩ := Kept.exists_place_of_touches hsite' hq hx
    exact hne (List.append_inj' heq rfl).1
  file real hreal x hx y hy id hfile hfile' := by
    rw [hsite.home, Option.mem_some_iff] at hreal
    subst hreal
    obtain ⟨part, rfl⟩ := Part.mem_storePlaces.1 hy
    obtain ⟨part', rfl⟩ := Kept.exists_place_of_touches hsite' hq hx
    obtain ⟨c, hpart⟩ := hshows.exists_of_file part hfile
    obtain ⟨c', hpart'⟩ := hshows'.exists_of_file part' hfile'
    exact hfiles part part' id c c' hpart hpart'
  way x hx hway := by
    obtain ⟨last, through, dir'', left, -, hleads, hmem⟩ := hway
    obtain ⟨target, hlink⟩ := hleads.link_of_mem hmem
    obtain ⟨part', rfl⟩ := Kept.exists_place_of_touches hsite' hq hx
    exact hshows'.shape?_ne_link part' target hlink

/-! ## The answers -/

/-- What a service is to answer at a moment: what the last index run wrote, and how much of it, or that
there is nothing. -/
def Answers (s : Service) (m : Moment) : Prop :=
  match m.last with
  | some run =>
    (∀ order format,
      (s.exportContext order format m.disk).result =
          .ok (renderContext (Node.ordered order run.nodes) format) ∧
        (s.tryExport order format m.disk).result =
          .ok (renderContext (Node.ordered order run.nodes) format)) ∧
      (s.stats m.disk).result = .ok (some ⟨run.report.nodesInserted, run.report.edgesInserted,
        Database.fileCount (run.nodes.map .ofNode)⟩)
  | none =>
    (∀ order,
      (s.exportContext order .text m.disk).result = .ok "" ∧
        (s.exportContext order .json m.disk).result = .ok "[]" ∧
        (s.tryExport order .text m.disk).result = .ok "" ∧
        (s.tryExport order .json m.disk).result = .ok "[]") ∧
      (s.stats m.disk).result = .ok none

/-- What building a service takes and does. -/
theorem Service.ofBase_eq_ok {base : Path} {d : Disk} {s : Service}
    (h : (ofBase base d).result = .ok s) :
    (Store.makeParent (Config.databasePath base) d).result = .ok () ∧
      (ofBase base d).disk = (Store.makeParent (Config.databasePath base) d).disk ∧
      s = ⟨Config.databasePath base⟩ := by
  rw [ofBase, create, Action.bind_apply] at h ⊢
  cases hmade : Store.makeParent (Config.databasePath base) d with
  | mk result d' log =>
    rw [hmade] at h
    cases result with
    | error f => cases h
    | ok u =>
      cases h
      exact ⟨rfl, rfl, rfl⟩

/-- A service that has just been built starts with the invariant, unless something stands where its
store is to be. -/
theorem exists_kept_of_ofBase {base : Path} {d : Disk} {s : Service} (hd : d.Sound)
    (hbase : Location.mark.isPrefixOf base.bytes = false)
    (hlength : (Config.databasePath base).bytes.length ≤ Disk.pathLimit)
    (hbuilt : (Service.ofBase base d).result = .ok s)
    (hfresh : ∀ dir, (Service.ofBase base d).disk.home? s.path = some (Part.file.place dir) →
      LacksGraph dir (Service.ofBase base d).disk) :
    s.path.IsPlain ∧ ∃ dir usable, (∀ n ∈ dir, Disk.ProperName n) ∧
      Kept s.path dir usable ⟨(Service.ofBase base d).disk, none⟩ := by
  obtain ⟨hok, hdisk, rfl⟩ := Service.ofBase_eq_ok hbuilt
  have hp := Config.isPlain_databasePath hbase
  rw [hdisk] at hfresh ⊢
  have hmakes := Store.makesDirs_makeParent (Config.databasePath base) d
  have hmade := hmakes.sound hd
  obtain ⟨dir, hhome⟩ := Store.home?_of_makeParent (Config.below_databasePath base)
    Part.file.properName hlength hd.cwd hok
  rw [← Part.place_file] at hhome
  have hlacks := hfresh dir hhome
  obtain ⟨usable, hsite⟩ := Site.exists_of_home? hp hhome (hlacks.ne_link .file)
  refine ⟨hp, dir, usable, hmade.named.of_shape? ?_, hsite, hmade.idle, .inl hlacks⟩
  rw [hsite.directory hp]
  exact Option.some_ne_none _

/-- The invariant gives the answers. -/
theorem Kept.answers {s : Service} {dir : RealPath} {usable : Bool} {m : Moment}
    (h : Kept s.path dir usable m) (hp : s.path.IsPlain) (hnames : ∀ n ∈ dir, Disk.ProperName n) :
    Answers s m := by
  have hstore := h.store
  unfold Answers
  cases hlast : m.last with
  | none =>
    rw [hlast] at hstore
    obtain ⟨d', log, hopen, -⟩ := Store.openExisting_of_graphless h.site hp hnames hstore h.idle
    have htry := Service.tryExport_of_none hopen
    refine ⟨fun order => ⟨?_, ?_, ?_, ?_⟩, ?_⟩
    · rw [Service.exportContext_of_tryExport (htry order .text)]
      rfl
    · rw [Service.exportContext_of_tryExport (htry order .json)]
      rfl
    · rw [htry]
      rfl
    · rw [htry]
      rfl
    · rw [Service.stats_of_none hopen]
  | some run =>
    rw [hlast] at hstore
    obtain ⟨rfl, es, hholds, hnodes, hedges⟩ := hstore
    have hdir := h.site.roomy hnames
    refine ⟨fun order format => ?_, ?_⟩
    · obtain ⟨d', htry, -⟩ := Service.tryExport_of_holds h.site hp hdir hholds order format
      rw [Service.exportContext_of_tryExport htry, htry]
      exact ⟨rfl, rfl⟩
    · obtain ⟨d', hstats, -⟩ := Service.stats_of_holds h.site hp hdir hholds
      rw [hstats, hnodes, hedges]

/-- **What a service answers after any history** of its own calls, of calls of services elsewhere, and
of changes that spare its store. -/
theorem answers_of_history {base : Path} {d : Disk} {s : Service} {parser : Parser} {m : Moment}
    (hd : d.Sound) (hbase : Location.mark.isPrefixOf base.bytes = false)
    (hlength : (Config.databasePath base).bytes.length ≤ Disk.pathLimit)
    (hbuilt : (Service.ofBase base d).result = .ok s)
    (hfresh : ∀ dir, (Service.ofBase base d).disk.home? s.path = some (Part.file.place dir) →
      LacksGraph dir (Service.ofBase base d).disk)
    (hhistory : Relation.ReflTransGen (Step parser s) ⟨(Service.ofBase base d).disk, none⟩ m) :
    Answers s m := by
  obtain ⟨hp, dir, usable, hnames, hstart⟩ := exists_kept_of_ofBase hd hbase hlength hbuilt hfresh
  exact (hstart.history hp hnames hhistory).answers hp hnames

/-! ### A history

The service is built in an empty directory.  Then a project comes there, and a directory for the store of
a neighbour; the neighbour indexes the project, the service indexes it, and asks for the size. -/

namespace Sample

/-- A directory. -/
def folder (name : String) (es : List (Bytes × Entry)) : Bytes × Entry :=
  (Utf8.ofString name, .dir es)

/-- A disk with a directory that holds what is given. -/
def disk (es : List (Bytes × Entry)) (contents : List Content) : Disk :=
  ⟨[folder "w" es], contents, [Utf8.ofString "w"], []⟩

/-- A service on the store below a directory. -/
def service (base : String) : Service :=
  ⟨Config.databasePath (Path.ofString base)⟩

/-- The directory of its store. -/
def storeDirectory (base : String) : RealPath :=
  [Utf8.ofString "w", Utf8.ofString base, Utf8.ofString "sqlite"]

/-- The disk once the service is built. -/
def built : Disk :=
  disk [folder "a" [folder "sqlite" []]] []

/-- The disk with the project and the directory of the neighbour's store. -/
def project : Disk :=
  disk [folder "a" [folder "sqlite" []], folder "b" [folder "sqlite" []],
    folder "p" [(Utf8.ofString "a.ts", .file 0)]] [.bytes (Utf8.ofString "a.b.c")]

theorem sound_empty : (Disk.empty [Utf8.ofString "w"]).Sound := by
  refine Disk.sound_empty fun n hn => ?_
  rw [List.mem_singleton.1 hn]
  exact ⟨by decide, by decide, by decide, by decide⟩

theorem isPlain_service {base : String}
    (h : Location.mark.isPrefixOf (Path.ofString base).bytes = false) : (service base).path.IsPlain :=
  Config.isPlain_databasePath h

theorem shows_built : built.Shows (storeDirectory "a") fun _ => none :=
  .of_missing (by cbv) fun part => by cases part <;> cbv

theorem shows_project : project.Shows (storeDirectory "a") fun _ => none :=
  .of_missing (by cbv) fun part => by cases part <;> cbv

theorem shows_neighbour : project.Shows (storeDirectory "b") fun _ => none :=
  .of_missing (by cbv) fun part => by cases part <;> cbv

theorem site_built : Site (service "a").path (storeDirectory "a") true built :=
  ⟨by cbv, by cbv⟩

theorem site_project : Site (service "a").path (storeDirectory "a") true project :=
  ⟨by cbv, by cbv⟩

theorem site_neighbour : Site (service "b").path (storeDirectory "b") true project :=
  ⟨by cbv, by cbv⟩

theorem properName_storeDirectory : ∀ n ∈ storeDirectory "a", Disk.ProperName n := by
  intro n hn
  simp only [storeDirectory, List.mem_cons, List.not_mem_nil, or_false] at hn
  rcases hn with rfl | rfl | rfl
  all_goals exact ⟨by decide, by decide, by decide, by decide⟩

/-- The project does not touch the store. -/
theorem spares_project : Spares (service "a").path built project := by
  have hhome := site_built.home
  have hmissing : ∀ real ∈ built.home? (service "a").path, ∀ x ∈ storePlaces real,
      built.shape? x = none ∧ project.shape? x = none := by
    intro real hreal x hx
    rw [hhome, Option.mem_some_iff] at hreal
    subst hreal
    obtain ⟨part, rfl⟩ := Part.mem_storePlaces.1 hx
    exact ⟨shows_built.missing part rfl, shows_project.missing part rfl⟩
  refine ⟨site_project.home.trans hhome.symm, site_project.settled.trans site_built.settled.symm,
    ?_, ?_, rfl⟩
  · intro real hreal x hx
    obtain ⟨hbuilt, hproject⟩ := hmissing real hreal x hx
    rw [hbuilt, hproject]
  · intro real hreal x hx id hfile
    rw [(hmissing real hreal x hx).1] at hfile
    cases hfile

/-- Nor does the neighbour. -/
theorem elsewhere_neighbour : Elsewhere (service "a").path (service "b").path project :=
  .of_sites (isPlain_service (by decide)) site_project site_neighbour shows_project
    shows_neighbour (by decide) (fun _ _ _ _ _ hsome => by cases hsome)

end Sample

open Sample in
theorem answers_of_history_project :
    ∃ m run, Relation.ReflTransGen (Step parser (service "a"))
        ⟨(Service.ofBase (Path.ofString "a") (Disk.empty [Utf8.ofString "w"])).disk, none⟩ m ∧
      m.last = some run ∧ Answers (service "a") m := by
  have hp : (service "a").path.IsPlain := isPlain_service (by decide)
  have hbuilt : Service.ofBase (Path.ofString "a") (Disk.empty [Utf8.ofString "w"]) =
      ⟨.ok (service "a"), built, []⟩ := by
    cbv
  have hmissing : ∀ part : Part, built.shape? (part.place (storeDirectory "a")) = none :=
    fun part => shows_built.missing part rfl
  have hstart : Kept (service "a").path (storeDirectory "a") true ⟨built, none⟩ :=
    ⟨site_built, rfl, .inl (.of_missing hmissing)⟩
  -- the project comes, the neighbour indexes it
  have harrived : Step parser (service "a") ⟨built, none⟩ ⟨project, none⟩ :=
    .change _ project spares_project
  have hindexed : Step parser (service "a") ⟨project, none⟩
      ⟨(Call.index (Path.ofString "p")).disk parser (service "b") project, none⟩ :=
    .other ⟨project, none⟩ (service "b") (.index (Path.ofString "p")) elsewhere_neighbour
  have hthere := hstart.step hp properName_storeDirectory harrived
  have hkept := hthere.step hp properName_storeDirectory hindexed
  -- there is still nothing at the places of the store
  have hspared := hthere.spares_of_elsewhere hp elsewhere_neighbour parser (.index (Path.ofString "p"))
  have hopens := Store.opens_of_missing hp (by decide) (hkept.site.makeParent_eq hp) hkept.site.settled
    (hkept.site.roomy properName_storeDirectory) (hkept.site.directory hp)
    (fun part => (hspared.shape _ site_project.home _ (Part.mem_storePlaces.2 ⟨part, rfl⟩)).trans
      (shows_project.missing part rfl)) hkept.idle
  obtain ⟨r, d, es, hafter, -⟩ := Kept.exists_indexRun (hkept.site.roomy properName_storeDirectory)
    hopens parser (Path.ofString "p")
  have hrun : Step parser (service "a")
      ⟨(Call.index (Path.ofString "p")).disk parser (service "b") project, none⟩ _ :=
    .own _ (.index (Path.ofString "p"))
  rw [hafter] at hrun
  have hhistory := ((Relation.ReflTransGen.single harrived).tail hindexed).tail hrun |>.tail
    (.own _ .stats)
  have hfresh : ∀ dir, built.home? (service "a").path = some (Part.file.place dir) →
      LacksGraph dir built := by
    intro dir hhome
    rw [site_built.home, Option.some_inj] at hhome
    rw [← (List.append_inj' hhome rfl).1]
    exact .of_missing hmissing
  have hdisk : (Service.ofBase (Path.ofString "a") (Disk.empty [Utf8.ofString "w"])).disk =
      built := by
    rw [hbuilt]
  rw [← hdisk] at hhistory hfresh
  have hanswers := answers_of_history sound_empty (by decide) (by decide) (by rw [hbuilt]) hfresh
    hhistory
  exact ⟨_, _, hhistory, rfl, hanswers⟩

/-! ### What the conditions are for

Services that are built where there is no database file, and give wrong answers all the same.  The base
directory of the first is spelled through the place of the file, so that a directory is made there.
Beside the place of the next four stands something that is in the way of an index run only once it has
made the file: a directory or a link in the place of the log, a pipe or a link in the place of its
index.  The base directory of another is spelled through a link in the place of the journal, and an
index run removes what stands there: it succeeds, and what it wrote is not found.  The path of the last
is too long for the file system, but not for the store, which shortens it, so what an index run wrote
is not found either. -/

namespace Sample

/-- A service below `base` that was built where there was no database file, and nevertheless comes to
give a wrong answer. -/
def AnswersWrongly (base : Path) (d : Disk) : Prop :=
  d.Sound ∧ Location.mark.isPrefixOf base.bytes = false ∧
    d.pathExists (Config.databasePath base) = false ∧
    ∃ s m, (Service.ofBase base d).result = .ok s ∧
      Relation.ReflTransGen (Step parser s) ⟨(Service.ofBase base d).disk, none⟩ m ∧ ¬Answers s m

theorem not_answers_of_exportContext {s : Service} {d : Disk}
    (h : (s.exportContext .natural .json d).result = .ok "") : ¬Answers s ⟨d, none⟩ := by
  intro hanswers
  have hjson := (hanswers.1 .natural).2.1
  rw [h, Except.ok.injEq] at hjson
  exact absurd hjson (by decide)

/-- Nothing has to be made when the service `s` is built below `base`, and there is no database file. -/
structure Starts (base : Path) (d : Disk) (s : Service) : Prop where
  sound : d.Sound
  unmarked : Location.mark.isPrefixOf base.bytes = false
  missing : d.pathExists (Config.databasePath base) = false
  built : Service.ofBase base d = ⟨.ok s, d, []⟩

namespace Starts

variable {base root : Path} {d left : Disk} {s : Service} {log : List Message}

/-- One index run is enough for an answer to be wrong. -/
theorem answersWrongly_of_after (h : Starts base d s) (root : Path)
    (hwrong : ¬Answers s ((Call.index root).after parser s ⟨d, none⟩)) : AnswersWrongly base d := by
  refine ⟨h.sound, h.unmarked, h.missing, s, (Call.index root).after parser s ⟨d, none⟩, ?_,
    .single ?_, hwrong⟩
  · rw [h.built]
  · rw [h.built]
    exact .own ⟨d, none⟩ (.index root)

/-- The run fails and leaves a file that a reader cannot open. -/
theorem answersWrongly_of_error (h : Starts base d s) {f f' : Failure} {d' : Disk} {log' : List Message}
    (hindex : s.index parser root d = ⟨.error f, left, log⟩)
    (hopen : Store.openExisting s.path left = ⟨.error f', d', log'⟩) : AnswersWrongly base d := by
  refine h.answersWrongly_of_after root ?_
  simp only [Call.after, Call.disk, hindex]
  refine not_answers_of_exportContext ?_
  rw [Service.exportContext_of_error hopen]

/-- The run succeeds, but the path leads nowhere then. -/
theorem answersWrongly_of_absent (h : Starts base d s) {r : Report}
    (hindex : s.index parser root d = ⟨.ok r, left, log⟩)
    (habsent : left.pathExists s.path = false) : AnswersWrongly base d := by
  have hstats := Service.stats_of_none (Store.openExisting_of_missing habsent)
  refine h.answersWrongly_of_after root fun hanswers => ?_
  simp only [Answers, Call.after, Call.disk, hindex, hstats] at hanswers
  cases hanswers.2

end Starts

theorem sound_makeDirs (p : Path) : ((Disk.empty [Utf8.ofString "w"]).makeDirs p).2.Sound :=
  (Disk.makesDirs_makeDirBelow _ p p.ancestors).sound sound_empty

/-- A base directory that is spelled through the file of its own store. -/
def throughBase : Path :=
  Path.ofString "sqlite/graphdb.sqlite/../.."

/-- The disk once a service is built there: a directory stands in the place of the file. -/
def throughStore : Disk :=
  disk [folder "sqlite" [folder "graphdb.sqlite" []]] []

theorem ofBase_throughBase : Service.ofBase throughBase (Disk.empty [Utf8.ofString "w"]) =
    ⟨.ok ⟨Config.databasePath throughBase⟩, throughStore, []⟩ := by
  cbv

theorem exportContext_throughStore :
    ((Service.mk (Config.databasePath throughBase)).exportContext .natural .json
      throughStore).result = .ok "" := by
  simp only [Service.exportContext, Service.tryExport, Store.openExisting]
  rw [Store.attachOrFail_of_isPlain (Config.isPlain_databasePath (by decide)) (by decide) (by decide)]
  cbv

theorem answersWrongly_through : AnswersWrongly throughBase (Disk.empty [Utf8.ofString "w"]) := by
  refine ⟨sound_empty, by decide, by cbv, ⟨Config.databasePath throughBase⟩, _, ?_, .refl, ?_⟩
  · rw [ofBase_throughBase]
  · rw [ofBase_throughBase]
    exact not_answers_of_exportContext exportContext_throughStore

theorem sound_built : built.Sound := by
  have hmade : ((Disk.empty [Utf8.ofString "w"]).makeDirs (Path.ofString "a/sqlite")).2 = built := by
    cbv
  exact hmade ▸ sound_makeDirs _

/-- What stands at the place of a part. -/
def standing (part : Part) (e : Entry) : Bytes × Entry :=
  (Config.databaseName ++ part.suffix, e)

/-- A disk with the directory of a store, and with what stands there. -/
def storeDisk (es : List (Bytes × Entry)) (contents : List Content) : Disk :=
  disk [folder "a" [folder "sqlite" es]] contents

/-- The file of the store, once it is attached. -/
def attached (readOnly : Bool) : OpenFile :=
  .upon (Part.file.place (storeDirectory "a")) 0 readOnly none

/-- A disk where one thing stands at a place of the store. -/
def littered (part : Part) (e : Entry) : Disk :=
  storeDisk [standing part e] []

/-- The disk once the file of the store is made. -/
def litteredMade (part : Part) (e : Entry) (made : List (Bytes × Entry)) (contents : List Content) :
    Disk :=
  storeDisk (standing part e :: standing .file (.file 0) :: made) contents

section

variable {part : Part} {e : Entry} {made : List (Bytes × Entry)} {contents : List Content}

theorem sound_littered (part : Part) (he : e.isBare) : (littered part e).Sound := by
  have hset : built.setEntry (part.place (storeDirectory "a")) (some e) = littered part e := rfl
  have hnone : built.shape? (part.place (storeDirectory "a")) = none := shows_built.missing part rfl
  rw [← hset]
  refine sound_built.setEntry part.properName ?_ fun e' he' => ?_
  · exact fun hdir => Option.some_ne_none _ (hdir.symm.trans hnone)
  · rwa [Option.mem_some_iff.1 he'] at he

theorem site_littered (e : Entry) (hpart : part = .log ∨ part = .index) :
    Site (service "a").path (storeDirectory "a") true (littered part e) := by
  rcases hpart with rfl | rfl <;> exact ⟨by cbv, by cbv⟩

theorem starts_littered (hpart : part = .log ∨ part = .index) (he : e.isBare) :
    Starts (Path.ofString "a") (littered part e) (service "a") where
  sound := sound_littered part he
  unmarked := by decide
  missing := by
    rcases hpart with rfl | rfl <;> cbv
  built := Action.bind_of_ok ((site_littered e hpart).makeParent_eq (isPlain_service (by decide)))

theorem attach_littered (e : Entry) (hpart : part = .log ∨ part = .index) :
    Store.attach (service "a").path .create (littered part e) =
      (.ok ⟨(service "a").path, .shared (attached false), none⟩,
        litteredMade part e [] [.bytes []]) := by
  have hfile : (littered part e).fileAt (service "a").path .create
      (Part.file.place (storeDirectory "a")) = .ok (0, litteredMade part e [] [.bytes []]) := by
    rcases hpart with rfl | rfl <;> rfl
  exact Store.attach_of_fileAt (by decide) (by decide) (by decide) (by decide) (by decide)
    (site_littered e hpart).settled hfile

/-- Where the log cannot be opened, an index run fails. -/
theorem index_littered {f : Fault} (hpart : part = .log ∨ part = .index)
    (hlog : (litteredMade part e [] [.bytes []]).holdsSomething
      (Part.log.place (storeDirectory "a")) = false)
    (hopen : (attached false).lock (litteredMade part e [] [.database .bare]) =
      (.error f, attached false, litteredMade part e made contents)) :
    (service "a").index parser (Path.ofString "p") (littered part e) =
      ⟨.error (.store (some .preparingTables) f), litteredMade part e made contents, []⟩ := by
  have hexists : (litteredMade part e [] [.bytes []]).pathExists
      (Disk.spell (Part.file.place (storeDirectory "a"))) = true := by
    rcases hpart with rfl | rfl <;> cbv
  have hnone : Disk.entry? (litteredMade part e [] [.bytes []])
      (Part.journal.place (storeDirectory "a")) = none := by
    rcases hpart with rfl | rfl <;> rfl
  have hjournal : (litteredMade part e [] [.bytes []]).holdsSomething
      (Part.journal.place (storeDirectory "a")) = false := by
    rcases hpart with rfl | rfl <;> cbv
  have hstore : (attached false).store .bare (litteredMade part e [] [.bytes []]) =
      litteredMade part e [] [.database .bare] := by
    rcases hpart with rfl | rfl <;> rfl
  rw [← hstore] at hopen
  exact Service.index_of_error (Store.openOrCreate_of_isBlank_of_error
    ((site_littered e hpart).makeParent_eq (isPlain_service (by decide))) (attach_littered e hpart)
    (OpenFile.lock_of_isBlank false hjournal hlog rfl) rfl
    (OpenFile.obstacle?_of_isBlank rfl hexists rfl hnone) hopen) parser (Path.ofString "p")

/-- The service answers wrongly if the run failed and the file that it left cannot be opened. -/
theorem answersWrongly_littered {f : Failure} {f' : Fault} (hpart : part = .log ∨ part = .index)
    (he : e.isBare)
    (hindex : (service "a").index parser (Path.ofString "p") (littered part e) =
      ⟨.error f, litteredMade part e made contents, []⟩)
    (hopen : (attached true).lock (litteredMade part e made contents) =
      (.error f', attached true, litteredMade part e made contents)) :
    AnswersWrongly (Path.ofString "a") (littered part e) := by
  have hexists : (litteredMade part e made contents).pathExists (service "a").path = true := by
    rcases hpart with rfl | rfl <;> cbv
  have hsettle : (litteredMade part e made contents).settle (service "a").path =
      some (Part.file.place (storeDirectory "a")) := by
    rcases hpart with rfl | rfl <;> cbv
  have hfile : (litteredMade part e made contents).shape? (Part.file.place (storeDirectory "a")) =
      some (.file 0) := by
    rcases hpart with rfl | rfl <;> rfl
  have hread := Store.openExisting_of_lock_error hexists
    (Store.attach_of_file (by decide) (by decide) (by decide) (by decide) (by decide) hsettle hfile)
    hopen
  exact (starts_littered hpart he).answersWrongly_of_error hindex hread

end

/-- A directory in the place of the log cannot be removed. -/
theorem lock_logFolder (readOnly : Bool) :
    (attached readOnly).lock (litteredMade .log (.dir []) [] [.bytes []]) =
      (.error (.inaccessible .delete), attached readOnly, litteredMade .log (.dir []) [] [.bytes []]) :=
  OpenFile.lock_of_isBlank_of_dir readOnly (by cbv) (by cbv) rfl rfl

theorem answersWrongly_logFolder : AnswersWrongly (Path.ofString "a") (littered .log (.dir [])) := by
  have hpart : Part.log = .log ∨ Part.log = .index := .inl rfl
  have hindex := Service.index_of_error (Store.openOrCreate_of_lock_error
    ((site_littered (.dir []) hpart).makeParent_eq (isPlain_service (by decide)))
    (attach_littered (.dir []) hpart) (lock_logFolder false)) parser (Path.ofString "p")
  exact answersWrongly_littered hpart rfl hindex (lock_logFolder true)

/-- A link there is not followed. -/
theorem lock_logLink (readOnly : Bool) :
    (attached readOnly).lock
        (litteredMade .log (.link (Path.ofString "x")) [] [.database .bare]) =
      (.error (.cannotOpen none), attached readOnly,
        litteredMade .log (.link (Path.ofString "x")) [] [.database .bare]) := by
  refine (OpenFile.lock_eq_openLog readOnly (by cbv) (by cbv) rfl).trans ?_
  exact OpenFile.openLog_of_file_error readOnly (by cbv) rfl

theorem answersWrongly_logLink :
    AnswersWrongly (Path.ofString "a") (littered .log (.link (Path.ofString "x"))) :=
  answersWrongly_littered (.inl rfl) rfl (index_littered (.inl rfl) (by cbv) (lock_logLink false))
    (lock_logLink true)

/-- The disk once the log is made. -/
def indexTaken (e : Entry) : Disk :=
  litteredMade .index e [standing .log (.file 1)] [.database .bare, .bytes []]

/-- A log needs its index. -/
theorem lock_indexTaken {e : Entry} {f : Fault} (readOnly : Bool)
    (hindex : (attached readOnly).openIndex (indexTaken e) = .error f) :
    (attached readOnly).lock (indexTaken e) = (.error f, attached readOnly, indexTaken e) := by
  refine (OpenFile.lock_eq_openLog readOnly (by cbv) (by cbv) rfl).trans ?_
  exact OpenFile.openLog_of_index_error readOnly (by cbv) rfl hindex

/-- The log is made all the same. -/
theorem lock_indexLittered {e : Entry} {f : Fault}
    (hindex : (attached false).openIndex (indexTaken e) = .error f) :
    (attached false).lock (litteredMade .index e [] [.database .bare]) =
      (.error f, attached false, indexTaken e) := by
  refine (OpenFile.lock_eq_openLog false (by cbv) (by cbv) rfl).trans ?_
  exact OpenFile.openLog_of_index_error false (by cbv) rfl hindex

theorem answersWrongly_indexTaken {e : Entry} {f : Fault} (he : e.isBare)
    (hindex : ∀ readOnly, (attached readOnly).openIndex (indexTaken e) = .error f) :
    AnswersWrongly (Path.ofString "a") (littered .index e) :=
  answersWrongly_littered (.inr rfl) he
    (index_littered (.inr rfl) (by cbv) (lock_indexLittered (hindex false)))
    (lock_indexTaken true (hindex true))

/-- A base directory that is spelled through the place of the journal of its own store. -/
def journalBase : Path :=
  Path.ofString "a/sqlite/graphdb.sqlite-journal"

/-- A service there. -/
def journalService : Service :=
  ⟨Config.databasePath journalBase⟩

/-- A link in the place of the journal. -/
def journalLink : Entry :=
  .link (Path.ofString "..")

/-- The log of the store, opened. -/
def journalLog : OpenLog :=
  ⟨some 1, true⟩

/-- The disk while the log is open and holds the content `c`. -/
def journalOpened (c : Content) : Disk :=
  { storeDisk [standing .file (.file 0), standing .log (.file 1), standing .index (.file 2)]
      [.database .bare, c, .bytes indexMark] with
    openLogs := [(0, journalLog)] }

/-- The handle of a writer. -/
def journalWriter : Handle :=
  .writer journalService.path (Part.file.place (storeDirectory "a")) 0 journalLog

theorem lock_journalLink :
    (attached false).lock (litteredMade .journal journalLink [] [.bytes []]) =
      (.ok (), attached false, storeDisk [standing .file (.file 0)] [.bytes []]) :=
  OpenFile.lock_of_isBlank_of_journal (by cbv) (by cbv) rfl

theorem lock_journalGone :
    (attached false).lock (storeDisk [standing .file (.file 0)] [.database .bare]) =
      (.ok (), { attached false with log := some journalLog }, journalOpened (.bytes [])) := by
  have hfile : (attached false).openLogFile (storeDisk [standing .file (.file 0)] [.database .bare]) =
      .ok (journalLog.file, storeDisk [standing .file (.file 0), standing .log (.file 1)]
        [.database .bare, .bytes []]) := rfl
  have hindex : (attached false).openIndex
      (storeDisk [standing .file (.file 0), standing .log (.file 1)] [.database .bare, .bytes []]) =
      .ok (journalLog.writable, { journalOpened (.bytes []) with openLogs := [] }) := rfl
  exact OpenFile.lock_of_isLogged false (by cbv) (by cbv) rfl (by cbv) hfile hindex rfl

/-- The link is removed, and the store is made where it led. -/
theorem openOrCreate_journalLink :
    Store.openOrCreate journalService.path (littered .journal journalLink) =
      ⟨.ok journalWriter, journalOpened (.log .made), [.opened journalService.path]⟩ := by
  have hparent : Store.makeParent journalService.path (littered .journal journalLink) =
      ⟨.ok (), littered .journal journalLink, []⟩ := by
    cbv
  have hsettle : (littered .journal journalLink).settle journalService.path =
      some (Part.file.place (storeDirectory "a")) := by
    cbv
  have hattach : Store.attach journalService.path .create (littered .journal journalLink) =
      (.ok ⟨journalService.path, .shared (attached false), none⟩,
        litteredMade .journal journalLink [] [.bytes []]) :=
    Store.attach_of_fileAt (by decide) (by decide) (by decide) (by decide) (by decide) hsettle rfl
  have hfree := OpenFile.obstacle?_of_isBlank (x := Part.file.place (storeDirectory "a"))
    (show ((storeDisk [standing .file (.file 0)] [.bytes []]).content 0).isBlank = true from rfl)
    (by cbv) rfl rfl
  exact Store.openOrCreate_of_isBlank hparent hattach lock_journalLink rfl hfree lock_journalGone rfl

theorem starts_journalLink : Starts journalBase (littered .journal journalLink) journalService :=
  ⟨sound_littered .journal rfl, by decide, by cbv, by cbv⟩

/-- What the run wrote is not found behind the link, because the link is gone. -/
theorem answersWrongly_journalLink : AnswersWrongly journalBase (littered .journal journalLink) := by
  have hresult : (Service.indexWith parser (Path.ofString "p") journalWriter
      (journalOpened (.log .made))).result = .ok {} := by
    cbv
  have habsent : (Service.indexWith parser (Path.ofString "p") journalWriter
      (journalOpened (.log .made))).disk.pathExists journalService.path = false := by
    cbv
  cases hrun : Service.indexWith parser (Path.ofString "p") journalWriter
      (journalOpened (.log .made)) with
  | mk result left log =>
    rw [hrun] at hresult habsent
    subst hresult
    exact starts_journalLink.answersWrongly_of_absent
      (Service.index_of_indexWith openOrCreate_journalLink hrun) habsent

variable (n : Nat)

/-- A base directory that is spelled at length. -/
def longBase : Path :=
  ⟨Path.stays (n + 1)⟩

/-- The directory of the store there. -/
def longDirectory : Bytes :=
  Path.stays (n + 1) ++ Utf8.ofString "sqlite"

/-- A service there. -/
def longService : Service :=
  ⟨Config.databasePath (longBase n)⟩

/-- The disk once the service is built. -/
def longBuilt : Disk :=
  disk [folder "sqlite" []] []

/-- Where the directory of the store is. -/
def longHome : RealPath :=
  [Utf8.ofString "w", Utf8.ofString "sqlite"]

theorem sound_longBuilt : longBuilt.Sound := by
  have hmade : ((Disk.empty [Utf8.ofString "w"]).makeDirs (Path.ofString "sqlite")).2 =
      longBuilt := by
    cbv
  exact hmade ▸ sound_makeDirs _

theorem below_longDirectory :
    (longService n).path.Below (longDirectory n) Config.databaseName := by
  have hend : (Path.stays (n + 1)).getLast? = some Path.slash := by
    rw [Path.stays, List.replicate_succ', List.flatten_concat]
    exact List.getLast?_append_of_ne_nil _ (List.cons_ne_nil _ _)
  have hbelow := Config.below_databasePath (longBase n)
  rwa [Config.joinText_bytes _ _ (by decide), if_pos (.inr hend)] at hbelow

theorem isPlain_longService : (longService n).path.IsPlain :=
  Config.isPlain_databasePath rfl

theorem length_longService : (longService n).path.bytes.length = 2 * n + 23 := by
  rw [(below_longDirectory n).spelling, longDirectory, List.length_append, List.length_append,
    Path.length_stays]
  rfl

theorem zero_notMem_longService : 0 ∉ (longService n).path.bytes := by
  rw [(below_longDirectory n).spelling, longDirectory, List.mem_append, List.mem_append]
  rintro ((hstays | hname) | hname)
  · exact Path.zero_notMem_stays _ hstays
  · exact absurd hname (by decide)
  · exact absurd hname (by decide)

theorem origin_longService : longBuilt.origin (longService n).path = [Utf8.ofString "w"] := by
  rw [← Disk.origin_directory longBuilt (below_longDirectory n)]
  rfl

/-- The directory of the store is found as long as the path to it is not too long. -/
theorem makeParent_longService (h : (longDirectory n).length ≤ Disk.pathLimit) :
    Store.makeParent (longService n).path longBuilt = ⟨.ok (), longBuilt, []⟩ := by
  have hspelled : Disk.spellingError? ⟨longDirectory n⟩ = none := by
    have hzero : (longDirectory n).contains 0 = false := by
      have hpath := zero_notMem_longService n
      rw [(below_longDirectory n).spelling, List.mem_append, not_or] at hpath
      rw [← Bool.not_eq_true, List.contains_iff_mem]
      exact hpath.1
    rw [Disk.spellingError?, hzero, if_neg Bool.false_ne_true,
      if_neg (below_longDirectory n).directory_ne_nil, if_neg (Nat.not_lt.2 h)]
  have hsteps : (Path.mk (longDirectory n)).steps =
      List.replicate (n + 1) [Path.dot] ++ [Utf8.ofString "sqlite"] := by
    rw [(below_longDirectory n).directory_steps, longDirectory, Path.splitSlash_stays,
      List.filter_append, List.filter_replicate]
    rfl
  have hway : ∀ k, longBuilt.Leads Disk.linkLimit [Utf8.ofString "w"]
      (List.replicate k [Path.dot] ++ [Utf8.ofString "sqlite"]) [] longHome Disk.linkLimit := by
    intro k
    induction k with
    | zero => exact .down (by decide) (by decide) rfl (.done _ _)
    | succ k ih => exact .stay rfl ih
  have hleads := hway (n + 1)
  rw [← hsteps, ← origin_longService n] at hleads
  exact Store.makeParent_of_leads (below_longDirectory n) (by decide) hspelled hleads rfl

/-- The store finds its place, however long the path to it is. -/
theorem settle_longService : longBuilt.settle (longService n).path =
    some (Part.file.place longHome) := by
  have hsteps : longBuilt.settleSteps Disk.settleLimit [Utf8.ofString "w"]
      (Path.splitSlash (longService n).path.bytes) =
      longBuilt.settleSteps Disk.settleLimit [Utf8.ofString "w"]
        [Utf8.ofString "sqlite", Config.databaseName] := by
    rw [(below_longDirectory n).splitSlash_eq, longDirectory, Path.splitSlash_stays, List.append_assoc]
    refine Disk.settleSteps_stays (fun m hm => ?_) _
    rw [List.eq_of_mem_replicate hm]
    rfl
  rw [Disk.settle, origin_longService, hsteps]
  cbv

/-- So an index run succeeds. -/
theorem index_longService (h : (longDirectory n).length ≤ Disk.pathLimit) (root : Path) :
    ∃ r d log, (longService n).index parser root longBuilt = ⟨.ok r, d, log⟩ := by
  have hnames : ∀ m ∈ longHome, Disk.ProperName m := by
    intro m hm
    simp only [longHome, List.mem_cons, List.not_mem_nil, or_false] at hm
    rcases hm with rfl | rfl
    all_goals exact ⟨by decide, by decide, by decide, by decide⟩
  have hdir : Roomy longHome := ⟨hnames, by decide⟩
  obtain ⟨id, wid, c, c', d', hopen, hopened, hdb⟩ :=
    Store.opens_of_missing (isPlain_longService n) (zero_notMem_longService n)
      (makeParent_longService n h) (settle_longService n) hdir (by cbv)
      (fun part => by cases part <;> cbv) rfl
  obtain ⟨r, d, log, hindex, -⟩ := Service.index_of_opened hdir hopen hopened hdb parser root
  exact ⟨r, d, log, hindex⟩

theorem answersWrongly_longBase (hshort : (longDirectory n).length ≤ Disk.pathLimit)
    (hlong : Disk.pathLimit < (longService n).path.bytes.length) :
    AnswersWrongly (longBase n) longBuilt := by
  have hstarts : Starts (longBase n) longBuilt (longService n) :=
    ⟨sound_longBuilt, rfl, longBuilt.pathExists_of_pathLimit_lt hlong,
      Action.bind_of_ok (makeParent_longService n hshort)⟩
  obtain ⟨r, d, log, hindex⟩ := index_longService n hshort (Path.ofString "p")
  exact hstarts.answersWrongly_of_absent hindex (d.pathExists_of_pathLimit_lt hlong)

end Sample

open Sample in
/-- **The conditions are needed**: where something comes to stand in the place of the file; where a
directory or a link stands in the place of the log, a pipe or a link in the place of its index, or a
link in the place of the journal; and where the path is too long. -/
theorem answersWrongly_without_conditions :
    AnswersWrongly throughBase (Disk.empty [Utf8.ofString "w"]) ∧
      AnswersWrongly (Path.ofString "a") (littered .log (.dir [])) ∧
      AnswersWrongly (Path.ofString "a") (littered .log (.link (Path.ofString "x"))) ∧
      AnswersWrongly (Path.ofString "a") (littered .index .pipe) ∧
      AnswersWrongly (Path.ofString "a") (littered .index (.link (Path.ofString "x"))) ∧
      AnswersWrongly journalBase (littered .journal journalLink) ∧
      AnswersWrongly (longBase 2039) longBuilt := by
  refine ⟨answersWrongly_through, answersWrongly_logFolder, answersWrongly_logLink,
    answersWrongly_indexTaken rfl fun _ => rfl, answersWrongly_indexTaken rfl fun _ => rfl,
    answersWrongly_journalLink, answersWrongly_longBase 2039 ?_ ?_⟩
  · rw [longDirectory, List.length_append, Path.length_stays]
    decide
  · rw [length_longService]
    decide

end SyntaxGraph
