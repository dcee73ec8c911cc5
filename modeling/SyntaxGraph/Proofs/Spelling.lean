import Mathlib
import SyntaxGraph.CommandLine.Run
import SyntaxGraph.Proofs.Service.Graphless
import SyntaxGraph.Proofs.Store.Tidy

/-!
# The spelling of a project does not show

A project can be named in many ways: with doubled slashes, with `.` inside, with a slash at the end,
from the working directory or from the root.  The index command spells the name anew before it does
anything else, and what it does from then on depends on the new spelling alone.  So names with the
same segments cannot be told apart by anything that is printed, reported or left on the disk.

The new spelling is canonical, and it stays so while the walk goes down from it.  The paths in the
graph are the texts of such spellings: they start at the root directory, begin with the text of the
project's own spelling, and have no empty name and no `.` anywhere, at their ends neither.

## What is here

* `Index.filepath_of_mem_graphNodes` — the paths in a graph are the texts of spellings that go on
  from that of the root.
* `CommandLine.Stores` — what the index command leaves in its store.
* `CommandLine.perform_index_spelling` — the main result.
-/

set_option autoImplicit false
namespace SyntaxGraph

open SyntaxGraph.Path (IsSegment)

/-- Two paths with the same segments, once they are made absolute, of which the empty ones and `.` do
not count. -/
def Path.SameSegments (cwd p q : Path) : Prop :=
  solid (splitSlash (absolute cwd p).bytes) = solid (splitSlash (absolute cwd q).bytes)

instance (cwd p q : Path) : Decidable (Path.SameSegments cwd p q) :=
  inferInstanceAs (Decidable (_ = _))

theorem Path.SameSegments.resolve_eq {cwd p q : Path} (h : SameSegments cwd p q)
    (hcwd : cwd.isAbsolute) : resolve cwd p = resolve cwd q := by
  rw [resolve_eq_spell hcwd, resolve_eq_spell hcwd, h]

theorem Disk.isAbsolute_cwdPath (d : Disk) : d.cwdPath.isAbsolute :=
  Path.isAbsolute_spell d.cwd

/-! ## Paths in a graph -/

/-- The file of a node is one that the walk reports, under a name that tells its language. -/
theorem Index.exists_file_of_mem_graphNodes {parser : Parser} {ws : List Walked} {n : Node}
    (hn : n ∈ graphNodes parser ws) :
    ∃ p content, .file p content ∈ ws ∧ (Language.ofPath? p).isSome ∧ n.filepath = p.text := by
  obtain ⟨f, hf, hn⟩ := List.mem_flatMap.1 hn
  obtain ⟨w, hw, hparsed⟩ := List.mem_filterMap.1 hf
  unfold Walked.parsed? at hparsed
  split at hparsed
  · rename_i p content
    split at hparsed
    · rename_i language source hlanguage hsource
      cases hparsed
      exact ⟨p, content, hw, by rw [hlanguage]; rfl, (SyntaxTree.of_mem_nodesIn _ hn).1⟩
    · cases hparsed
  · cases hparsed

/-- **The paths in a graph** are canonical and begin with the text of the root's spelling. -/
theorem Index.filepath_of_mem_graphNodes {parser : Parser} {d : Disk} {x : RealPath} (hd : d.Tidy)
    (hx : ∀ n ∈ x, IsSegment n) {n : Node}
    (hn : n ∈ graphNodes parser (d.walk (Disk.spell x))) :
    IsCanonicalText n.filepath ∧ (Disk.spell x).text.toList <+: n.filepath.toList := by
  obtain ⟨p, content, hwalk, hlanguage, hpath⟩ := exists_file_of_mem_graphNodes hn
  obtain ⟨y, hp, hy⟩ := Disk.spelledFrom_of_mem_walk hd hx hwalk
  have hp : p = Disk.spell (x ++ y) := hp
  -- the root directory has no name, so it is no file of any language
  have hne : x ++ y ≠ [] := by
    intro hnil
    rw [hp, hnil] at hlanguage
    exact absurd hlanguage (by decide)
  rw [hpath, hp]
  exact ⟨Path.isCanonicalText_spell hy hne, Path.text_spell_prefix x hne⟩

/-! ## The index command -/

/-- What a run on an open store takes if it succeeds. -/
theorem Service.indexWith_eq_ok {parser : Parser} {root : Path} {h : Handle} {d d' : Disk}
    {r : Report} {log : List Message} (heq : indexWith parser root h d = ⟨.ok r, d', log⟩) :
    ∃ c h₁ d₁ c', h.connect d = (.ok c, h₁, d₁) ∧
      Index.project parser (d₁.walk root) c = ((.ok r, log), c') := by
  rw [indexWith, Index.onHandle] at heq
  cases hconnect : h.connect d with
  | mk result rest =>
    obtain ⟨h₁, d₁⟩ := rest
    rw [hconnect] at heq
    cases result with
    | error f => cases heq
    | ok c =>
      cases hproject : Index.project parser (d₁.walk root) c with
      | mk result c' =>
        obtain ⟨result, log'⟩ := result
        simp only [hproject, Outcome.mk.injEq] at heq
        obtain ⟨rfl, -, rfl⟩ := heq
        exact ⟨c, h₁, d₁, c', rfl, hproject⟩

namespace CommandLine

variable {parser : Parser} {base p q : Path} {d : Disk}

/-- What the index command leaves in its store: the database as the connection to the store sees it,
once the store is open and the walk of the project is written to it. -/
def Stores (parser : Parser) (base project : Path) (d : Disk) (db : Database) : Prop :=
  ∃ s d₁ log₁ h d₂ log₂ c h' d₃ r log c',
    Service.ofBase base d = ⟨.ok s, d₁, log₁⟩ ∧
    Store.openOrCreate s.path d₁ = ⟨.ok h, d₂, log₂⟩ ∧
    h.connect d₂ = (.ok c, h', d₃) ∧
    Index.project parser (d₃.walk (Path.resolve d.cwdPath project)) c = ((.ok r, log), c') ∧
    c'.view = db

/-- A project is looked up under its canonical spelling, and then indexed. -/
theorem perform_index (parser : Parser) (base project : Path) (d : Disk) :
    (Command.index project).perform parser base d =
      (do
        let s ← Service.ofBase base
        Action.say (.indexing (Path.resolve d.cwdPath project))
        Action.say (.database s.path)
        let report ← s.index parser (Path.resolve d.cwdPath project)
        return reportText report : Action String) d := rfl

/-- A command that succeeds has stored something. -/
theorem exists_stores {text : String}
    (h : ((Command.index p).perform parser base d).result = .ok text) :
    ∃ db, Stores parser base p d db := by
  cases hperform : (Command.index p).perform parser base d with
  | mk result d' log =>
    rw [hperform] at h
    subst h
    rw [perform_index] at hperform
    obtain ⟨s, d₁, log₁, _, hbase, hindex⟩ := Action.bind_eq_ok hperform
    -- the two messages leave the disk alone
    obtain ⟨_, _, _, _, hsaid, hindex⟩ := Action.bind_eq_ok hindex
    cases hsaid
    obtain ⟨_, _, _, _, hsaid, hindex⟩ := Action.bind_eq_ok hindex
    cases hsaid
    obtain ⟨report, d₂, _, _, hindex, -⟩ := Action.bind_eq_ok hindex
    obtain ⟨h, d₃, log₃, _, hopen, hindex⟩ := Action.bind_eq_ok hindex
    obtain ⟨r, d₄, log₄, _, hindex, -⟩ := Action.bind_eq_ok hindex
    obtain ⟨c, h', d₅, c', hconnect, hproject⟩ := Service.indexWith_eq_ok hindex
    exact ⟨c'.view, s, d₁, log₁, h, d₃, log₃, c, h', d₅, r, log₄, c', hbase, hopen, hconnect,
      hproject, rfl⟩

/-- What is stored are rows of nodes and edges, and the paths of the nodes are canonical. -/
theorem Stores.filepath (hd : d.Tidy) {db : Database} (h : Stores parser base p d db) :
    ∃ ns es, db.HoldsRows ns es ∧
      ∀ n ∈ ns, IsCanonicalText n.filepath ∧
        (Path.resolve d.cwdPath p).text.toList <+: n.filepath.toList := by
  obtain ⟨s, d₁, log₁, h, d₂, log₂, c, h', d₃, r, log, c', hbase, hopen, hconnect, hproject, rfl⟩ := h
  rw [Path.resolve_eq_spell d.isAbsolute_cwdPath] at hproject ⊢
  -- the disk that is walked is tidy, as the one at the start
  have hd₁ : d₁.Tidy := by
    obtain ⟨_, d₁', _, _, hparent, heq⟩ := Action.bind_eq_ok hbase
    cases heq
    have hmade := Store.tidy_makeParent hd (Config.databasePath base)
    rwa [hparent] at hmade
  have hd₃ : h'.Tidy d₃ := OpenFile.Tidy.kept.connect (Store.tidy_openOrCreate hd₁ hopen) hconnect
  refine ⟨_, _, Index.holdsRows_of_project hproject, fun n hn => ?_⟩
  have hn := (List.mem_filter.1 (mem_of_mem_keepFirst Node.id hn)).1
  exact Index.filepath_of_mem_graphNodes hd₃.disk (fun m hm => Path.isSegment_of_mem_solid hm) hn

/-- **The spelling of a project does not show.**  With two names that have the same segments, seen
from the working directory, the index command does the same and stores the same.  If it succeeds it
has stored something.  The paths in what is stored lead from the root directory, name by name, without
an empty name and without `.`, and each begins with the text of the project's canonical spelling. -/
theorem perform_index_spelling (parser : Parser) (base : Path) (hd : d.Tidy)
    (hsame : Path.SameSegments d.cwdPath p q) :
    (Command.index p).perform parser base d = (Command.index q).perform parser base d ∧
      (∀ db, Stores parser base p d db ↔ Stores parser base q d db) ∧
      (∀ text, ((Command.index p).perform parser base d).result = .ok text →
        ∃ db, Stores parser base p d db) ∧
      ∀ db, Stores parser base p d db →
        ∃ ns es, db.HoldsRows ns es ∧
          ∀ n ∈ ns, IsCanonicalText n.filepath ∧
            (Path.resolve d.cwdPath p).text.toList <+: n.filepath.toList := by
  have hresolve := hsame.resolve_eq d.isAbsolute_cwdPath
  refine ⟨?_, fun db => ?_, fun text => exists_stores, fun db hstores => hstores.filepath hd⟩
  · rw [perform_index, perform_index, hresolve]
  · rw [Stores, Stores, hresolve]

end CommandLine

/-! ## Two names of one project -/

namespace Sample

/-- A project of one file in the working directory, and a directory for its graph. -/
def workplace : Disk where
  top := [(Utf8.ofString "w", .dir [(Utf8.ofString "src", .dir [(Utf8.ofString "a.js", .file 0)]),
    (Utf8.ofString "sqlite", .dir [])])]
  contents := [.bytes (Utf8.ofString "a.b.c")]
  cwd := [Utf8.ofString "w"]
  openLogs := []

/-- The directory for the graph. -/
def workStore : RealPath :=
  [Utf8.ofString "w", Utf8.ofString "sqlite"]

/-- The service on the graph. -/
def workService : Service :=
  ⟨Config.databasePath (Path.ofString "/w")⟩

theorem tidy_workplace : workplace.Tidy where
  tree :=
    have hproject : (Entry.dir [(Utf8.ofString "a.js", .file 0)]).Named :=
      .dir (by decide) (List.forall_mem_singleton.2 (.file 0))
    have hstore : (Entry.dir []).Named := .of_isBare rfl
    .dir (by decide) (List.forall_mem_singleton.2
      (.dir (by decide) (List.forall_mem_cons.2 ⟨hproject, List.forall_mem_singleton.2 hstore⟩)))
  cwd := by decide

/-- The project can be indexed. -/
theorem perform_workplace (p : Path) : ∃ text,
    ((CommandLine.Command.index p).perform parser (Path.ofString "/w") workplace).result =
      .ok text := by
  have hnames : ∀ n ∈ workStore, Disk.ProperName n := by
    intro n hn
    simp only [workStore, List.mem_cons, List.not_mem_nil, or_false] at hn
    rcases hn with rfl | rfl
    all_goals exact ⟨by decide, by decide, by decide, by decide⟩
  have hdir : Roomy workStore := ⟨hnames, by decide⟩
  have hmissing : ∀ part : Part, workplace.shape? (part.place workStore) = none := by
    intro part
    cases part <;> cbv
  have hmark : Location.mark.isPrefixOf (Path.ofString "/w").bytes = false := by decide
  have hplain : workService.path.IsPlain := Config.isPlain_databasePath hmark
  have hparent : Store.makeParent workService.path workplace = ⟨.ok (), workplace, []⟩ := by
    cbv
  have hsettled : workplace.settle workService.path = some (Part.file.place workStore) := by
    cbv
  obtain ⟨id, wid, c, c', d', hopen, hopened, hdb⟩ :=
    Store.opens_of_missing hplain (by decide) hparent hsettled hdir (by cbv) hmissing rfl
  obtain ⟨r, d, log, hindex, -⟩ := Service.index_of_opened hdir hopen hopened hdb parser
    (Path.resolve workplace.cwdPath p)
  refine ⟨CommandLine.reportText r, ?_⟩
  have hbase : Service.ofBase (Path.ofString "/w") workplace = ⟨.ok workService, workplace, []⟩ :=
    Action.bind_of_ok hparent
  rw [CommandLine.perform_index, Action.bind_of_ok hbase, Action.bind_of_ok (Action.say_apply _ _),
    Action.bind_of_ok (Action.say_apply _ _), Action.bind_of_ok hindex]
  rfl

end Sample

namespace CommandLine

open Sample in
theorem perform_index_spelling_workplace :
    workplace.Tidy ∧
      Path.SameSegments workplace.cwdPath (Path.ofString "src") (Path.ofString "/w/.//src/.") ∧
      ∃ text db,
        ((Command.index (Path.ofString "src")).perform Sample.parser (Path.ofString "/w")
          workplace).result = .ok text ∧
        ((Command.index (Path.ofString "/w/.//src/.")).perform Sample.parser (Path.ofString "/w")
          workplace).result = .ok text ∧
        Stores Sample.parser (Path.ofString "/w") (Path.ofString "src") workplace db ∧
        Stores Sample.parser (Path.ofString "/w") (Path.ofString "/w/.//src/.") workplace db ∧
        ∃ ns es, db.HoldsRows ns es ∧
          ∀ n ∈ ns, IsCanonicalText n.filepath ∧ "/w/src".toList <+: n.filepath.toList := by
  have hsame : Path.SameSegments workplace.cwdPath (Path.ofString "src")
      (Path.ofString "/w/.//src/.") := by
    decide
  have hroot : (Path.resolve workplace.cwdPath (Path.ofString "src")).text = "/w/src" := by
    decide
  obtain ⟨heq, hiff, hstores, hpaths⟩ :=
    perform_index_spelling Sample.parser (Path.ofString "/w") tidy_workplace hsame
  obtain ⟨text, htext⟩ := perform_workplace (Path.ofString "src")
  obtain ⟨db, hdb⟩ := hstores text htext
  obtain ⟨ns, es, hrows, hcanonical⟩ := hpaths db hdb
  rw [hroot] at hcanonical
  exact ⟨tidy_workplace, hsame, text, db, htext, heq ▸ htext, hdb, (hiff db).1 hdb, ns, es, hrows,
    hcanonical⟩

end CommandLine
end SyntaxGraph
