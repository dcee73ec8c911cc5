import Mathlib.Logic.Relation
import SyntaxGraph.Proofs.Service.Graphless
import SyntaxGraph.Proofs.Service.Touch

/-!
# Histories of a service

A service lives through a history: it is called, other services are called, and files are changed by
others.  Between any two of these nothing is remembered but the disk.  What the service has to answer
is nevertheless a matter of its own history alone: of the last index run that succeeded, unless the
store has been cleared since.

A `Moment` is the disk together with that run.  The invariant `Kept` ties the two: the store stands at
its place, and holds what the run wrote, or there is no graph.  Each step keeps it: the calls of the
service by what is known of them one by one, the calls of others because they touch other places
(`Call.atRest`), and the changes of others because they spare the store.

## What is here

* `Moment`, `Step` — what a history is made of; `Spares` and `Elsewhere` say what others may do.
* `Kept` — the invariant; `Kept.step` and `Kept.history` say that it stays.
-/

set_option autoImplicit false
namespace SyntaxGraph

/-! ## Steps -/

/-- An index run that succeeded: its report, and the nodes it wrote. -/
structure IndexRun where
  report : Report
  nodes : List Node

/-- A moment in the history of a service. -/
structure Moment where
  disk : Disk
  /-- The last index run of the service that succeeded, unless the store has been cleared since. -/
  last : Option IndexRun

/-- The nodes that an index run writes: the graph of what the walk finds once the store is open, of
each id the first. -/
def Service.written (parser : Parser) (root : Path) (s : Service) (d : Disk) : List Node :=
  keepFirst Node.id (Index.graphNodes parser ((Store.openOrCreate s.path d).disk.walk root))

/-- The moment after a call of the service. -/
def Call.after (parser : Parser) (s : Service) (m : Moment) (c : Call) : Moment where
  disk := c.disk parser s m.disk
  last :=
    match c with
    | .index root =>
      match (s.index parser root m.disk).result with
      | .ok r => some ⟨r, s.written parser root m.disk⟩
      | .error _ => m.last
    | .clear => none
    | _ => m.last

/-- A change of the disk that spares the store at a path: the path leads to the same place, for the
file system and for the store, and the same files stand there. -/
structure Spares (p : Path) (d d' : Disk) : Prop where
  home : d'.home? p = d.home? p
  settle : d'.settle p = d.settle p
  shape : ∀ real ∈ d.home? p, ∀ x ∈ storePlaces real, d'.shape? x = d.shape? x
  content : ∀ real ∈ d.home? p, ∀ x ∈ storePlaces real, ∀ id, d.shape? x = some (.file id) →
    d'.contents[id]? = d.contents[id]?
  idle : d'.openLogs = d.openLogs

/-- The service at `q` has its store elsewhere than at `p`: what it touches is neither a file of the
store at `p`, under this or another name, nor a link on the way there. -/
structure Elsewhere (p q : Path) (d : Disk) : Prop where
  place : ∀ real ∈ d.home? p, ∀ x, Service.Touches q d x → x ∉ storePlaces real
  file : ∀ real ∈ d.home? p, ∀ x, Service.Touches q d x → ∀ y ∈ storePlaces real, ∀ id,
    d.shape? y = some (.file id) → d.shape? x ≠ some (.file id)
  way : ∀ x, Service.Touches q d x → ¬d.OnWay p x

/-- One step in the history of a service. -/
inductive Step (parser : Parser) (s : Service) : Moment → Moment → Prop where
  /-- The service is called. -/
  | own (m : Moment) (c : Call) : Step parser s m (c.after parser s m)
  /-- A service on another store is called. -/
  | other (m : Moment) (q : Service) (c : Call) (h : Elsewhere s.path q.path m.disk) :
      Step parser s m ⟨c.disk parser q m.disk, m.last⟩
  /-- Files are changed, but not those of the store. -/
  | change (m : Moment) (d : Disk) (h : Spares s.path m.disk d) : Step parser s m ⟨d, m.last⟩

/-! ## The invariant -/

/-- What holds of the store of a service at every moment. -/
structure Kept (p : Path) (dir : RealPath) (usable : Bool) (m : Moment) : Prop where
  site : Site p dir usable m.disk
  idle : m.disk.openLogs = []
  store : match m.last with
    | none => Graphless dir usable m.disk
    | some run => usable = true ∧ ∃ es, HoldsGraph dir run.nodes es m.disk ∧
        run.report.nodesInserted = run.nodes.length ∧ run.report.edgesInserted = es.length

theorem Kept.harmless {p : Path} {dir : RealPath} {usable : Bool} {m : Moment}
    (h : Kept p dir usable m) : Harmless dir m.disk := by
  have hstore := h.store
  cases hlast : m.last with
  | none =>
    rw [hlast] at hstore
    exact hstore.harmless
  | some run =>
    rw [hlast] at hstore
    obtain ⟨-, es, hholds, -⟩ := hstore
    obtain ⟨parts, hshows, -⟩ := hholds.exists_shows
    exact hshows.harmless

/-! ### Changes by others -/

/-- The same files stand at the places of a store. -/
structure Disk.SameParts (dir : RealPath) (d d' : Disk) : Prop where
  shape : ∀ part : Part, d'.shape? (part.place dir) = d.shape? (part.place dir)
  contents : ∀ (part : Part) id, d.shape? (part.place dir) = some (.file id) →
    d'.contents[id]? = d.contents[id]?

namespace Disk.SameParts

variable {d d' : Disk} {dir : RealPath} {part : Part} {id : FileId}

theorem content_eq (h : SameParts dir d d') (hfile : d.shape? (part.place dir) = some (.file id)) :
    d'.content id = d.content id := by
  rw [Disk.content, h.contents part id hfile, Disk.content]

theorem bounded (h : SameParts dir d d') (hfile : d.shape? (part.place dir) = some (.file id))
    (hlt : id < d.contents.length) : id < d'.contents.length := by
  have hsame := h.contents part id hfile
  by_contra hge
  rw [List.getElem?_eq_none (Nat.le_of_not_lt hge), List.getElem?_eq_getElem hlt] at hsame
  cases hsame

/-- What is to be seen is the same. -/
theorem shows (h : SameParts dir d d') (hdir : d'.shape? dir = some .dir) {parts : Parts}
    (hshows : d.Shows dir parts) : d'.Shows dir parts where
  directory := hdir
  missing part hpart := (h.shape part).trans (hshows.missing part hpart)
  there part id c hpart := by
    obtain ⟨hfile, hc, hlt⟩ := hshows.there part id c hpart
    exact ⟨(h.shape part).trans hfile, (h.content_eq hfile).trans hc, h.bounded hfile hlt⟩
  apart := hshows.apart

theorem harmless (h : SameParts dir d d') (hd : Harmless dir d) : Harmless dir d' where
  kinds part s hpart hs := hd.kinds part s hpart (h.shape part ▸ hs)
  journal target hlink := hd.journal target (h.shape .journal ▸ hlink)
  bounded part k hk := by
    rw [h.shape part] at hk
    exact h.bounded hk (hd.bounded part k hk)
  apart part part' k hpart hpart' hk hk' :=
    hd.apart part part' k hpart hpart' (h.shape part ▸ hk) (h.shape part' ▸ hk')

theorem fruitless (h : SameParts dir d d') (hd : Fruitless dir d) : Fruitless dir d' := by
  cases hd with
  | blank hd =>
    exact .blank ⟨h.harmless hd.toHarmless, (h.shape .file).trans hd.file,
      (h.content_eq hd.file).trans hd.content⟩
  | stuck hd hindex =>
    refine .stuck ⟨h.harmless hd.toHarmless, (h.shape .file).trans hd.file,
      (h.content_eq hd.file).trans hd.content, fun s hs => ?_, (h.shape .journal).trans hd.noJournal⟩
      ((h.shape .index).trans hindex)
    rw [h.shape .log] at hs
    obtain ⟨k, rfl, hempty⟩ := hd.log s hs
    exact ⟨k, rfl, (h.content_eq hs).trans hempty⟩

theorem graphless (h : SameParts dir d d') {usable : Bool} (hd : Graphless dir usable d) :
    Graphless dir usable d' := by
  rcases hd with hd | ⟨husable, hd⟩
  · exact .inl ⟨h.harmless hd.toHarmless, (h.shape .file).trans hd.missing⟩
  · exact .inr ⟨husable, h.fruitless hd⟩

end Disk.SameParts

namespace Kept

variable {p : Path} {dir : RealPath} {usable : Bool} {m : Moment} {d : Disk}

/-- **A change that spares the store** changes no answer. -/
theorem of_spares (h : Kept p dir usable m) (hp : p.IsPlain) (hd : Spares p m.disk d) :
    Kept p dir usable ⟨d, m.last⟩ := by
  have hhome := h.site.home
  have hsite : Site p dir usable d := ⟨hd.home.trans hhome, hd.settle.trans h.site.settled⟩
  have hidle : d.openLogs = [] := hd.idle.trans h.idle
  have hplace : ∀ part : Part, part.place dir ∈ storePlaces (Part.file.place dir) :=
    fun part => Part.mem_storePlaces.2 ⟨part, rfl⟩
  have hsame : Disk.SameParts dir m.disk d :=
    ⟨fun part => hd.shape _ hhome _ (hplace part), fun part => hd.content _ hhome _ (hplace part)⟩
  refine ⟨hsite, hidle, ?_⟩
  have hstore := h.store
  cases hlast : m.last with
  | none =>
    rw [hlast] at hstore
    exact hsame.graphless hstore
  | some run =>
    rw [hlast] at hstore
    obtain ⟨husable, es, ⟨parts, id, hseen, hparts, -⟩, hcounts⟩ := hstore
    exact ⟨husable, es, ⟨parts, id, hsame.shows (hsite.directory hp) hseen, hparts, hidle⟩, hcounts⟩

/-- **A call of a service elsewhere** spares the store. -/
theorem spares_of_elsewhere (h : Kept p dir usable m) (hp : p.IsPlain) {q : Service}
    (hq : Elsewhere p q.path m.disk) (parser : Parser) (c : Call) :
    Spares p m.disk (c.disk parser q m.disk) := by
  have hrest := c.atRest parser q h.idle
  have hhome := h.site.home
  have hshape : ∀ x ∈ storePlaces (Part.file.place dir),
      (c.disk parser q m.disk).shape? x = m.disk.shape? x :=
    fun x hx => hrest.same.shape x fun htouched => hq.place _ hhome x htouched hx
  have hself : Part.file.place dir ∈ storePlaces (Part.file.place dir) :=
    Part.mem_storePlaces.2 ⟨.file, rfl⟩
  have hlink : ∀ target,
      (c.disk parser q m.disk).shape? (Part.file.place dir) ≠ some (.link target) := by
    intro target
    rw [hshape _ hself]
    exact h.harmless.ne_link .file target
  have hsite : Site p dir usable (c.disk parser q m.disk) :=
    h.site.of_sameOutside hp hrest.same (fun x hway htouched => hq.way x htouched hway)
      (h.harmless.ne_link .file) hlink
  refine ⟨hsite.home.trans hhome.symm, hsite.settled.trans h.site.settled.symm, ?_, ?_, ?_⟩
  · intro real hreal x hx
    rw [hhome, Option.mem_some_iff] at hreal
    subst hreal
    exact hshape x hx
  · intro real hreal x hx id hfile
    rw [hhome, Option.mem_some_iff] at hreal
    subst hreal
    obtain ⟨part, rfl⟩ := Part.mem_storePlaces.1 hx
    have hlt := h.harmless.bounded part id hfile
    -- the file is neither new nor at a place that the call touches
    have hwithin : ¬m.disk.Within (Service.Touches q.path m.disk) id := by
      rintro (hnew | ⟨y, htouched, hy⟩)
      · exact absurd hlt (Nat.not_lt.2 hnew)
      · exact hq.file _ hhome y htouched _ hx id hfile hy
    have hcontent := hrest.same.content id hwithin
    have hlt' := Nat.lt_of_lt_of_le hlt hrest.same.length
    rw [Disk.content, Disk.content, List.getElem?_eq_getElem hlt, List.getElem?_eq_getElem hlt',
      Option.getD_some, Option.getD_some] at hcontent
    rw [List.getElem?_eq_getElem hlt, List.getElem?_eq_getElem hlt', hcontent]
  · rw [hrest.idle, h.idle]

/-! ### Calls of the service itself -/

variable {s : Service} {parser : Parser}

/-- A call of the service touches its own four files and nothing else. -/
theorem exists_place_of_touches (hsite : Site p dir usable d) (hp : p.IsPlain) {x : RealPath}
    (hx : Service.Touches p d x) : ∃ part : Part, x = part.place dir := by
  cases hx with
  | made hnone hdir =>
    rw [hsite.makeParent_eq hp, hnone] at hdir
    cases hdir
  | @used real access l d' hd hl hreal hx =>
    rw [hsite.makeParent_eq hp, or_self] at hd
    subst hd
    rw [Location.name_of_read hp hl, hsite.settled] at hreal
    cases usable with
    | false => cases hreal
    | true =>
      rw [if_pos rfl, Option.some_inj] at hreal
      subst hreal
      exact Part.mem_storePlaces.1 hx
  | @removed side hside hx =>
    have hpart : ∃ part : Part, side = ⟨p.bytes ++ part.suffix⟩ := by
      simp only [Cache.sideFiles, List.map_cons, List.map_nil, List.mem_cons, List.not_mem_nil,
        or_false] at hside
      rcases hside with rfl | rfl | rfl
      · exact ⟨.file, by rw [Part.suffix, List.append_nil]⟩
      · exact ⟨.log, rfl⟩
      · exact ⟨.index, rfl⟩
    obtain ⟨part, hpart⟩ := hpart
    exact ⟨part, ((hsite.home?_append hp hpart).1 hx).2⟩

/-- After a call the store is at its place, and no log is open. -/
theorem of_call (h : Kept s.path dir usable m) (hp : s.path.IsPlain) (c : Call)
    (hharmless : Harmless dir (c.disk parser s m.disk))
    (hstore : match (c.after parser s m).last with
      | none => Graphless dir usable (c.disk parser s m.disk)
      | some run => usable = true ∧ ∃ es, HoldsGraph dir run.nodes es (c.disk parser s m.disk) ∧
          run.report.nodesInserted = run.nodes.length ∧ run.report.edgesInserted = es.length) :
    Kept s.path dir usable (c.after parser s m) := by
  have hrest := c.atRest parser s h.idle
  refine ⟨?_, hrest.idle, hstore⟩
  exact h.site.of_places hp h.harmless.ne_link (hharmless.ne_link .file) hrest.same fun x hx =>
    exists_place_of_touches h.site hp hx

/-- The store can be opened for writing, or there is no graph and opening fails. -/
theorem opens_or_fails (h : Kept p dir true m) (hp : p.IsPlain) (hdir : Roomy dir) :
    (∃ ns es, Store.Opens p dir ns es m.disk) ∨ m.last = none ∧ Store.FailsToOpen p dir m.disk := by
  have hstore := h.store
  cases hlast : m.last with
  | none =>
    rw [hlast] at hstore
    rcases Store.openOrCreate_of_graphless h.site hp hdir hstore h.idle with hopens | hfails
    · exact .inl ⟨[], [], hopens⟩
    · exact .inr ⟨rfl, hfails⟩
  | some run =>
    rw [hlast] at hstore
    obtain ⟨-, es, ⟨parts, id, hshows, hparts, hidle⟩, -⟩ := hstore
    exact .inl ⟨run.nodes, es, Store.openOrCreate_of_holds h.site hp hdir hshows hparts hidle⟩

/-- An index run succeeds once the store is open. -/
theorem exists_indexRun {ns : List Node} {es : List Edge} (hdir : Roomy dir)
    (hopens : Store.Opens s.path dir ns es m.disk) (parser : Parser) (root : Path) :
    ∃ r d' es, (Call.index root).after parser s m = ⟨d', some ⟨r, s.written parser root m.disk⟩⟩ ∧
      HoldsGraph dir (s.written parser root m.disk) es d' ∧
      r.nodesInserted = (s.written parser root m.disk).length ∧ r.edgesInserted = es.length := by
  obtain ⟨id, wid, c, c', d₁, hopen, hopened, hdb⟩ := hopens
  obtain ⟨r, d', log, hindex, hholds, hnodes, hedges⟩ :=
    Service.index_of_opened hdir hopen hopened hdb parser root
  have hwritten : s.written parser root m.disk =
      keepFirst Node.id (Index.graphNodes parser (d₁.walk root)) := by
    rw [Service.written, hopen]
  refine ⟨r, d', _, ?_, hwritten.symm ▸ hholds, hwritten.symm ▸ hnodes, hedges⟩
  simp only [Call.after, Call.disk, hindex]

/-- **An index run** that succeeds is remembered; one that fails leaves a store without a graph. -/
theorem index (h : Kept s.path dir usable m) (hp : s.path.IsPlain)
    (hnames : ∀ n ∈ dir, Disk.ProperName n) (root : Path) :
    Kept s.path dir usable ((Call.index root).after parser s m) := by
  cases usable with
  | false =>
    obtain ⟨f, hopen⟩ := Store.openOrCreate_of_unusable h.site hp
    have hfail := Service.index_of_error hopen parser root
    have hsame : (Call.index root).after parser s m = m := by
      simp only [Call.after, Call.disk, hfail]
    rw [hsame]
    exact h
  | true =>
    have hdir := h.site.roomy hnames
    rcases h.opens_or_fails hp hdir with ⟨ns, es, hopens⟩ | ⟨hnone, f, d', hopen, hfruitless⟩
    · obtain ⟨r, d', es', hafter, hholds, hcounts⟩ := exists_indexRun hdir hopens parser root
      have hdisk : (Call.index root).disk parser s m.disk = d' := congrArg Moment.disk hafter
      obtain ⟨parts, hshows, -⟩ := hholds.exists_shows
      refine h.of_call hp (.index root) (hdisk ▸ hshows.harmless) ?_
      rw [hafter, hdisk]
      exact ⟨rfl, es', hholds, hcounts⟩
    · have hfail := Service.index_of_error hopen parser root
      have hafter : (Call.index root).after parser s m = ⟨d', none⟩ := by
        simp only [Call.after, Call.disk, hfail, hnone]
      have hdisk : (Call.index root).disk parser s m.disk = d' := congrArg Moment.disk hafter
      refine h.of_call hp (.index root) (hdisk ▸ hfruitless.harmless) ?_
      rw [hafter, hdisk]
      exact .inr ⟨rfl, hfruitless⟩

/-- A call that reads keeps the invariant, if it does no more than open the store where there is none,
and leaves a graph as it is. -/
theorem of_read (h : Kept s.path dir usable m) (hp : s.path.IsPlain)
    (hnames : ∀ n ∈ dir, Disk.ProperName n) {c : Call} (hlast : (c.after parser s m).last = m.last)
    (hnone : ∀ d' log, Store.openExisting s.path m.disk = ⟨.ok none, d', log⟩ →
      c.disk parser s m.disk = d')
    (hholds : ∀ ns es, usable = true → HoldsGraph dir ns es m.disk →
      HoldsGraph dir ns es (c.disk parser s m.disk)) :
    Kept s.path dir usable (c.after parser s m) := by
  have hstore := h.store
  cases hm : m.last with
  | none =>
    rw [hm] at hstore
    obtain ⟨d', log, hopen, hgraphless⟩ :=
      Store.openExisting_of_graphless h.site hp hnames hstore h.idle
    have hdisk := hnone d' log hopen
    refine h.of_call hp c (hdisk ▸ hgraphless.harmless) ?_
    rw [hlast, hm, hdisk]
    exact hgraphless
  | some run =>
    rw [hm] at hstore
    obtain ⟨husable, es, hgraph, hcounts⟩ := hstore
    have hgraph' := hholds run.nodes es husable hgraph
    obtain ⟨parts, hshows, -⟩ := hgraph'.exists_shows
    refine h.of_call hp c hshows.harmless ?_
    rw [hlast, hm]
    exact ⟨husable, es, hgraph', hcounts⟩

/-- **Every call of the service** keeps the invariant. -/
theorem call (h : Kept s.path dir usable m) (hp : s.path.IsPlain)
    (hnames : ∀ n ∈ dir, Disk.ProperName n) (c : Call) :
    Kept s.path dir usable (c.after parser s m) := by
  cases c with
  | index root => exact h.index hp hnames root
  | exportContext order format =>
    refine h.of_read hp hnames rfl (fun d' log hopen => ?_) fun ns es husable hholds => ?_
    · rw [Call.disk, Service.exportContext_of_tryExport (Service.tryExport_of_none hopen order format)]
    · subst husable
      obtain ⟨d', htry, hholds'⟩ :=
        Service.tryExport_of_holds h.site hp (h.site.roomy hnames) hholds order format
      rw [Call.disk, Service.exportContext_of_tryExport htry]
      exact hholds'
  | tryExport order format =>
    refine h.of_read hp hnames rfl (fun d' log hopen => ?_) fun ns es husable hholds => ?_
    · rw [Call.disk, Service.tryExport_of_none hopen order format]
    · subst husable
      obtain ⟨d', htry, hholds'⟩ :=
        Service.tryExport_of_holds h.site hp (h.site.roomy hnames) hholds order format
      rw [Call.disk, htry]
      exact hholds'
  | stats =>
    refine h.of_read hp hnames rfl (fun d' log hopen => ?_) fun ns es husable hholds => ?_
    · rw [Call.disk, Service.stats_of_none hopen]
    · subst husable
      obtain ⟨d', hstats, hholds'⟩ :=
        Service.stats_of_holds h.site hp (h.site.roomy hnames) hholds
      rw [Call.disk, hstats]
      exact hholds'
  | clear =>
    have hlacks : LacksGraph dir (s.clear m.disk).disk :=
      Service.lacks_of_clear h.site hp h.harmless
    exact h.of_call hp .clear hlacks.toHarmless (.inl hlacks)

/-- **One step of a history** keeps the invariant. -/
theorem step {m' : Moment} (h : Kept s.path dir usable m) (hp : s.path.IsPlain)
    (hnames : ∀ n ∈ dir, Disk.ProperName n) (hstep : Step parser s m m') :
    Kept s.path dir usable m' := by
  cases hstep with
  | own c => exact h.call hp hnames c
  | other q c hq => exact h.of_spares hp (h.spares_of_elsewhere hp hq parser c)
  | change d hd => exact h.of_spares hp hd

/-- **A whole history** does. -/
theorem history {m' : Moment} (h : Kept s.path dir usable m) (hp : s.path.IsPlain)
    (hnames : ∀ n ∈ dir, Disk.ProperName n) (hsteps : Relation.ReflTransGen (Step parser s) m m') :
    Kept s.path dir usable m' := by
  induction hsteps with
  | refl => exact h
  | tail _ hstep ih => exact ih.step hp hnames hstep

end Kept

end SyntaxGraph
