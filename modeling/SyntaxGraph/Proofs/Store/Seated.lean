import SyntaxGraph.Proofs.Store.Growth
import SyntaxGraph.Proofs.Store.Opening

/-!
# Stores that are found again

The file system and the store read a path each in its own way: a slash at the end matters to the one only,
`..` and links are followed with different limits, and a directory that is missing is made by the one
and passed over by the other.  A store has a *seat* where both come to the same place, before anything
is made there.  Opening it makes the directories on the way, the file and the tables; from then on both
find the file as long as the directories and links of the disk are there, since the ways of both depend
on nothing else (`Path.LeadsTo`).

## What is here

* `Path.Follows`, `Store.Seat` — what it takes, of a path and of the disk that is found.
* `Path.Follows.arrives` — the way, once the directories on it are made.
* `Path.LeadsTo`, `Store.Seat.leadsTo` — where a path leads once the directories are made.
* `Store.Seat.spellsTables`, `Store.exists_writer_of_openOrCreate` — what a store with a seat starts from,
  and what opening it for writing leaves.
* `Path.LeadsTo.pathExists_eq`, `Path.LeadsTo.attach_eq`, `Path.LeadsTo.makeParent_eq` — what opening it
  again meets.
-/

set_option autoImplicit false
namespace SyntaxGraph

/-- The file system follows a path to the place `x`.  Directories that are named before the last step
may be missing: on the disk `b` they have been made.  The last step may go over links, and ends at
something that is no directory or at a name that is missing in one. -/
def Path.Follows (p : Path) (d : Disk) (x : RealPath) : Prop :=
  Disk.spellingError? p = none ∧
    ∃ before name b through there left place, p.steps = before ++ [name] ∧ d.MakesDirs b ∧
      b.Leads Disk.linkLimit (d.origin p) before through there left ∧
      d.descend .reach left there [name] = .ok place ∧ place.real = x ∧ place.shape? ≠ some .dir

/-- A path, and the disk on which it is to be opened, with the place `x` for a store: the file system
follows the path there, it is not taken for anything but the name of a file, no link stands beside the
store that the store might drop, no two of its places have one file, and what the store starts from
has nothing under the names of the tables but such tables. -/
structure Store.Seat (p : Path) (d : Disk) (x : RealPath) : Prop where
  unmarked : Location.mark.isPrefixOf p.bytes = false
  shared : p.bytes ≠ Utf8.ofString ":memory:"
  follows : p.Follows d x
  unlinked : d.Unlinked x
  apart : d.Apart x
  tables : ∀ id db, d.shape? x = some (.file id) → d.start? x id = some db → db.SpellsTables

/-- A path that leads to the place `x`, for the file system and for the store, as long as the directories
and the links of the disk `b` are there. -/
structure Path.LeadsTo (p : Path) (b : Disk) (x : RealPath) : Prop where
  unmarked : Location.mark.isPrefixOf p.bytes = false
  nonempty : p.bytes ≠ []
  shared : p.bytes ≠ Utf8.ofString ":memory:"
  spelled : Disk.spellingError? p = none
  cwd : b.shape? b.cwd = some .dir
  way : b.Arrives x Disk.linkLimit (b.origin p) p.steps
  settled : ∀ d, b.KeepsWays d → d.cwd = b.cwd → d.shape? x.dropLast = some .dir →
    (∀ target, d.shape? x ≠ some (.link target)) → d.settle p = some x

/-! ## Where a store is opened -/

/-- **Once the directories on the way are made, there is a way**, and at its end the store finds no link. -/
theorem Path.Follows.arrives {p : Path} {d : Disk} {x : RealPath} (h : p.Follows d x)
    (hcwd : d.shape? d.cwd = some .dir) (hok : (Store.makeParent p d).result = .ok ()) :
    let a := (Store.makeParent p d).disk
    a.Arrives x Disk.linkLimit (a.origin p) p.steps ∧ a.shape? x.dropLast = some .dir ∧
      ∀ target, a.shape? x ≠ some (.link target) := by
  obtain ⟨-, before, name, b, through, there, left, place, hsteps, hb, hway, hend, rfl, hplace⟩ := h
  have ha := Store.makesDirs_makeParent p d
  have horigin := Disk.shape?_origin hcwd p
  have hlast := (Disk.arrives_of_descend hb (hway.isDir (hb.dirs _ horigin)) hend hplace).1
  obtain ⟨n, hn, hstep⟩ := hlast.isStep_getLast
  cases hn
  obtain ⟨through', there', left', hway'⟩ := Store.leads_of_makeParent hcwd hsteps hstep hok
  obtain ⟨rfl, rfl⟩ := hb.leads_unique ha hway hway'
  have hthere := hway'.isDir (ha.dirs _ horigin)
  obtain ⟨hlast, hlink⟩ := Disk.arrives_of_descend ha hthere hend hplace
  intro a
  refine ⟨?_, hlast.directory hthere, hlink⟩
  rw [ha.origin, hsteps]
  exact hway'.arrives hlast

/-- Such a path is not empty. -/
theorem Path.Follows.nonempty {p : Path} {d : Disk} {x : RealPath} (h : p.Follows d x) :
    p.bytes ≠ [] := by
  intro hnil
  have hspelled := h.1
  rw [Disk.spellingError?, hnil] at hspelled
  cases hspelled

/-- Making directories does not change what a store starts from. -/
theorem Disk.MakesDirs.start?_eq {d d' : Disk} (h : d.MakesDirs d') {x : RealPath} {id : FileId} :
    d'.start? x id = d.start? x id := by
  have hlog : d'.logSight? x = d.logSight? x := by
    rcases h.shape (Part.log.placeAt x) with hsame | ⟨hnone, hdir⟩
    · exact logSight?_congr hsame fun k _ => h.content k
    · rw [logSight?_of_ne_file (by simp [hdir]), logSight?_of_ne_file (by simp [hnone])]
  rw [start?, start?, sight?, sight?, hlog, h.content]

/-- Settled paths leave room for the names beside the store. -/
theorem Disk.of_settle_eq_some {d : Disk} {p : Path} {x : RealPath} (h : d.settle p = some x) :
    x ≠ [] ∧ spelledLength x ≤ settledRoom := by
  rw [settle] at h
  split at h
  · cases h
  · split at h
    · cases h
    · rename_i hroom
      cases h
      rw [not_or, Nat.not_lt] at hroom
      exact hroom

/-- The file of a store has just been opened, or made. -/
theorem OpenFile.begun_of_fileAt {a d : Disk} {p : Path} {access : Access} {x : RealPath} {id : FileId}
    (hidle : a.openLogs = []) (hstocked : a.Stocked) (hx : x ≠ [])
    (hdir : a.shape? x.dropLast = some .dir) (hunlinked : a.Unlinked x) (hapart : a.Apart x)
    (h : a.fileAt p access x = .ok (id, d)) : Begun a x id (upon x id false none) d := by
  have hlog : ∀ k writable, (upon x id false none).log = some ⟨some k, writable⟩ →
      a.Within (fun _ => True) k := fun _ _ hopen => by cases hopen
  rcases Disk.fileAt_eq_ok h with ⟨he, rfl⟩ | ⟨he, rfl, rfl⟩
  · have hfile := Disk.shape?_eq_file.2 he
    exact ⟨hx, ⟨none, rfl⟩, ⟨.refl _ d, fun _ _ => trivial, .inr ⟨x, trivial, hfile⟩, hlog, hidle⟩,
      hunlinked, .refl d, fun _ hs => hs, hfile, hapart, hstocked⟩
  · have hnone : a.shape? (Part.file.placeAt x) = none := Disk.shape?_eq_none.2 he
    refine ⟨hx, ⟨none, rfl⟩, ⟨?_, fun _ _ => trivial, .inl (Nat.le_refl _), hlog, hidle⟩, hunlinked,
      fun z s _ hz => ?_, fun s hs => ?_, Part.shape?_addFile_self hx hdir .file _,
      hapart.addFile hx (fun _ k hk => hstocked _ k hk) hnone _, hstocked.addFile hnone _⟩
    · exact (Disk.SameOutside.refl _ a).addFile trivial (by simp [show a.shape? x = none from hnone]) _
    · refine (Disk.shape?_addFile_of_ne _ (by simp [show a.shape? x = none from hnone]) ?_).trans hz
      rintro rfl
      cases hz.symm.trans hnone
    · rcases Disk.shape?_of_addFile hnone hs with ⟨heq, -⟩ | ⟨-, hs⟩
      · exact absurd heq (Part.placeAt_ne hx (show Part.journal ≠ .file by decide))
      · exact hs

/-- A place that can hold a store: its directory was there, and its log has been opened. -/
theorem Berth.of_arrives {a d : Disk} {p : Path} {x here : RealPath} {links : Nat}
    (hnamed : a.WellNamed) (hdir : a.shape? x.dropLast = some .dir)
    (hway : d.Arrives x links here p.steps) (hroom : Disk.spelledLength x ≤ Disk.settledRoom)
    (hlog : Disk.isNameTooLong (Part.log.placeAt x) = false) (hzero : ∀ n ∈ x, 0 ∉ n) : Berth x := by
  obtain ⟨dir, n, rfl, hstep, hshort, hplain⟩ :=
    hway.exists_name fun n hn => Path.slash_notMem_of_mem_steps hn
  rw [List.dropLast_concat] at hdir
  refine ⟨by simp, fun m hm => ?_, hroom, hlog⟩
  have hnonzero := hzero m hm
  rcases List.mem_append.1 hm with hm | hm
  · exact hnamed.of_shape? (by rw [hdir]; exact Option.some_ne_none _) m hm
  · cases List.mem_singleton.1 hm
    exact ⟨hstep, hplain, hnonzero, hshort⟩

/-- Directories that are made have no content. -/
theorem Disk.Stocked.makesDirs {d d' : Disk} (h : d.Stocked) (hmakes : d.MakesDirs d') :
    d'.Stocked := by
  intro y k hy
  rw [hmakes.contents]
  rcases hmakes.shape y with hsame | ⟨-, hdir⟩
  · exact h y k (hsame ▸ hy)
  · cases hdir.symm.trans hy

/-! ## Connecting -/

namespace Handle

variable {p : Path} {d d' : Disk} {f : OpenFile} {h : Handle} {c : Connection}

/-- What it takes that a handle is connected to a file. -/
theorem connect_shared_eq_ok (heq : connect ⟨p, .shared f, none⟩ d = (.ok c, h, d')) :
    ∃ f' db, f.lock d = (.ok (), f', d') ∧ h = ⟨p, .shared f', none⟩ ∧ f'.database? d' = some db ∧
      c = .ofDatabase (f'.obstacle? d') db := by
  cases hlock : f.lock d with
  | mk result rest =>
    obtain ⟨f', d₁⟩ := rest
    simp only [connect, lock, hlock] at heq
    cases result with
    | error e => cases heq
    | ok u =>
      cases hdb : f'.database? d₁ with
      | none =>
        simp only [stored?, hdb] at heq
        cases heq
      | some db =>
        simp only [stored?, hdb] at heq
        cases heq
        exact ⟨f', db, rfl, rfl, hdb, rfl⟩

theorem configure_shared_eq_ok (heq : configure ⟨p, .shared f, none⟩ d = (.ok (), h, d')) :
    ∃ f', f.configure d = (.ok (), f', d') ∧ h = ⟨p, .shared f', none⟩ := by
  cases hconfigure : f.configure d with
  | mk result rest =>
    obtain ⟨f', d₁⟩ := rest
    simp only [configure, hconfigure] at heq
    cases heq
    exact ⟨f', rfl, rfl⟩

/-- What it takes that something can be done on a connection. -/
theorem apply_eq_ok {α : Type} {g : Connection → Except Fault α × Connection} {a : α}
    {h₀ : Handle} (heq : h₀.apply d g = (.ok a, h, d')) :
    ∃ c h₁ d₁ c', h₀.connect d = (.ok c, h₁, d₁) ∧ g c = (.ok a, c') ∧ h₁.keep d₁ c' = (h, d') := by
  rw [apply] at heq
  split at heq
  · cases heq
  · rename_i c h₁ d₁ hconnect
    rw [Prod.mk.injEq] at heq
    exact ⟨c, h₁, d₁, (g c).2, hconnect, Prod.ext heq.1 rfl, heq.2⟩

end Handle

/-! ## Opening -/

namespace Store

variable {p : Path} {a d d' : Disk} {x : RealPath} {id : FileId} {h : Handle}

/-- Setting a store up, once its file is open: the log is opened on the way, and the tables are made on a
connection. -/
theorem exists_openLog_of_prepared {h₁ : Handle} {d₁ : Disk}
    (hbegun : OpenFile.Begun a x id (.upon x id false none) d)
    (hconfigure : Handle.configure ⟨p, .shared (.upon x id false none), none⟩ d = (.ok (), h₁, d₁))
    (htables : ensureTables h₁ d₁ = (.ok (), h, d')) :
    ∃ e e' log d₂ db c, OpenFile.Begun a x id (.upon x id false none) e ∧
      (OpenFile.upon x id false none).settleJournal e = .ok e' ∧ (e'.content id).isBlank = false ∧
      (OpenFile.upon x id false none).openLog e' = (.ok (), .upon x id false (some log), d₂) ∧
      (Berth x → ∀ db, e.start? x id = some db →
        ∃ start logged, d.start? x id = some start ∧ db = { start with logged := logged }) ∧
      (OpenFile.upon x id false (some log)).database? d₂ = some db ∧
      (Connection.ofDatabase ((OpenFile.upon x id false (some log)).obstacle? d₂) db).ensureTables =
        (.ok (), c) ∧
      (Handle.writer p x id log).keep d₂ c = (h, d') := by
  obtain ⟨f₁, hset, rfl⟩ := Handle.configure_shared_eq_ok hconfigure
  obtain ⟨c, h₂, d₂, c', hconnect, hmake, hkeep⟩ := Handle.apply_eq_ok htables
  obtain ⟨f₂, db, hlock, rfl, hdb, rfl⟩ := Handle.connect_shared_eq_ok hconnect
  obtain ⟨e, e', he, hjournal, hwritten, hopen, hstart⟩ := OpenFile.exists_openLog hbegun hset hlock
  obtain ⟨log, -, -, -, -, rfl, -⟩ := OpenFile.openLog_eq_ok hopen
  exact ⟨e, e', log, d₂, db, c', he, hjournal, hwritten, hopen, hstart, hdb, hmake, hkeep⟩

/-- Where a store has a seat, it settles where the file system comes to. -/
theorem Seat.leadsTo (hseat : Seat p d x) (hd : d.Sound) (hok : (makeParent p d).result = .ok ())
    {y : RealPath} (hsettle : (makeParent p d).disk.settle p = some y) :
    y = x ∧ p.LeadsTo (makeParent p d).disk x ∧
      (makeParent p d).disk.shape? x.dropLast = some .dir := by
  obtain ⟨hway, hdir, hlink⟩ := hseat.follows.arrives hd.cwd hok
  obtain ⟨settled, hcases, hsettled⟩ := hway.settle_eq
  have hy := (hsettled _ (.refl _) rfl hdir hlink).symm.trans hsettle
  obtain rfl : settled = some x := by
    rcases hcases with rfl | rfl
    · cases hy
    · rfl
  cases hy
  exact ⟨rfl, ⟨hseat.unmarked, hseat.follows.nonempty, hseat.shared, hseat.follows.1,
    ((makesDirs_makeParent p d).sound hd).cwd, hway, hsettled⟩, hdir⟩

/-- A store with a seat starts from a database without tables, or from one that spells them. -/
theorem Seat.spellsTables {access : Access} {start : Database} (hseat : Seat p d x)
    (hmakes : d.MakesDirs a) (hfile : a.fileAt p access x = .ok (id, d'))
    (hstart : d'.start? x id = some start) : start.SpellsTables := by
  rcases Disk.fileAt_eq_ok hfile with ⟨he, rfl⟩ | ⟨he, rfl, rfl⟩
  · have hthere := (hmakes.shape?_eq_some (by simp)).1 (Disk.shape?_eq_file.2 he)
    exact hseat.tables id start hthere (hmakes.start?_eq.symm.trans hstart)
  · rw [Disk.start?, Disk.content_addFile_self] at hstart
    cases hstart
    exact Database.spellsTables_blank

/-- **What opening a store for writing leaves**, if the store has a seat: the file is there and the tables
are, nothing stands at the places of the store that it could not be used with, its log is open, and
the path leads there from now on. -/
theorem exists_writer_of_openOrCreate {msgs : List Message} (hd : d.Sound) (hstocked : d.Stocked)
    (hseat : Seat p d x) (hopen : openOrCreate p d = ⟨.ok h, d', msgs⟩) :
    ∃ b id log db, h = .writer p x id log ∧ Berth x ∧ p.LeadsTo b x ∧
      Disk.Logging b x id log d' db ∧ db.indexed = true ∧ db.hasGraph = true := by
  obtain ⟨hok, h₁, d₁, h₂, d₂, hattach, hconfigure, htables⟩ := openOrCreate_eq_ok hopen
  obtain ⟨y, id, rfl, hsettle, hfileAt⟩ :=
    attach_eq_ok hseat.unmarked hseat.follows.nonempty hseat.shared (by decide) hattach
  obtain ⟨rfl, hleads, hdir⟩ := hseat.leadsTo hd hok hsettle
  have hmakes := makesDirs_makeParent p d
  generalize (makeParent p d).disk = a at hmakes hsettle hfileAt hleads hdir
  have ha := hmakes.sound hd
  obtain ⟨hx, hroom⟩ := Disk.of_settle_eq_some hsettle
  have hunlinked : a.Unlinked y := fun part hpart target hlink =>
    hseat.unlinked part hpart target (hmakes.shape?_eq_link.1 hlink)
  have hapart : a.Apart y := hseat.apart.mono fun part k => (hmakes.shape?_eq_some (by simp)).1
  have hbegun := OpenFile.begun_of_fileAt ha.idle (hstocked.makesDirs hmakes) hx hdir hunlinked hapart
    hfileAt
  obtain ⟨e, e', log, d₃, db, c, he, hjournal, hwritten, hlog, hstart, hdb, hmake, hkeep⟩ :=
    exists_openLog_of_prepared hbegun hconfigure htables
  obtain ⟨hshort, hzero⟩ := OpenFile.names_of_openLog hlog
  have hberth : Berth y := .of_arrives ha.named hdir hleads.way hroom hshort hzero
  obtain ⟨log', hlog', hseen⟩ :=
    OpenFile.logging_of_openLog hberth ha.named he hjournal hwritten hlog
  cases hlog'
  obtain ⟨hlogging, hfrom⟩ := hseen db hdb
  obtain ⟨start, logged, hstarts, rfl⟩ := hstart hberth db hfrom
  have hspells := hseat.spellsTables hmakes hfileAt hstarts
  obtain ⟨db', hends, hindexed, hgraph⟩ :=
    Connection.ensureTables_eq_ok (Connection.fresh_ofDatabase _ _) hmake
  obtain ⟨d₄, hkeep', hleft⟩ := Handle.keep_writer p hlogging hends
  rw [hkeep] at hkeep'
  cases hkeep'
  exact ⟨a, id, log, db', rfl, hberth, hleads, hleft, hindexed, hgraph ⟨hspells.nodes, hspells.edges⟩⟩

end Store

/-! ## Being found again -/

namespace Path.LeadsTo

variable {p : Path} {b d : Disk} {x : RealPath} {id : FileId}

/-- The way is still there. -/
theorem arrives (h : p.LeadsTo b x) (hd : Disk.Hosts b x id d) :
    d.Arrives x Disk.linkLimit (d.origin p) p.steps := by
  have horigin : d.origin p = b.origin p := by
    rw [Disk.origin, Disk.origin, hd.cwd]
  rw [horigin]
  exact h.way.of_keepsWays hd.ways

/-- The file system finds the file. -/
theorem pathExists_eq (h : p.LeadsTo b x) (hd : Disk.Hosts b x id d) : d.pathExists p = true := by
  rw [Disk.pathExists, (h.arrives hd).find_eq h.spelled hd.file]

/-- The store finds the file. -/
theorem attach_eq (h : p.LeadsTo b x) (hd : Disk.Hosts b x id d) {access : Access}
    (haccess : access ≠ .memory) :
    Store.attach p access d = (.ok ⟨p, .shared (.upon x id (access == .read) none), none⟩, d) := by
  have hsettle : d.settle p = some x :=
    h.settled d hd.ways hd.cwd hd.directory fun target => by simp [hd.file]
  exact Store.attach_of_file h.unmarked haccess (Disk.zero_notMem_of_spellingError? h.spelled)
    h.nonempty h.shared hsettle hd.file

/-- There is no directory to be made. -/
theorem makeParent_eq (h : p.LeadsTo b x) (hd : Disk.Hosts b x id d) :
    Store.makeParent p d = ⟨.ok (), d, []⟩ := by
  refine Store.makeParent_of_arrives h.spelled ?_ (h.arrives hd)
  rw [hd.cwd]
  exact hd.ways.dir h.cwd

end Path.LeadsTo
end SyntaxGraph
