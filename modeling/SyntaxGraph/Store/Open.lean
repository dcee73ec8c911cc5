import SyntaxGraph.Action
import SyntaxGraph.Disk.Edit
import SyntaxGraph.Store.Handle

/-!
# Opening stores

A store is opened in one of two ways.  To write, the directories on its way, its file and its tables
are made where they are missing.  To read, nothing is made: a path that leads nowhere and a file
that holds no graph both mean that there is no store.

A store that turns out to be of no use is closed again, which may change the files beside it.
-/

set_option autoImplicit false
namespace SyntaxGraph
namespace Store

variable {α : Type}

/-- Makes the directory that a file is to stand in, with its ancestors. -/
def makeParent (p : Path) : Action Unit :=
  match p.parent? with
  | none => pure ()
  | some dir =>
    if dir.bytes = [] then pure ()
    else Action.change fun d =>
      match d.makeDirs dir with
      | (.ok (), d) => (.ok (), d)
      | (.error e, d) => (.error (.os (.creatingDirectory dir) e), d)

/-- Opens what backs a store, and nothing more. -/
def attach (p : Path) (access : Access) (d : Disk) : Except Fault Handle × Disk :=
  match Location.read p access with
  | .error f => (.error f, d)
  | .ok l =>
    if l.isPrivate then (.ok ⟨p, .own .blank (l.access == .read), none⟩, d)
    else
      match d.openFile p l with
      | .error f => (.error f, d)
      | .ok (file, d) => (.ok ⟨p, .shared file, none⟩, d)

/-- Opens what backs a store; a failure says so. -/
def attachOrFail (p : Path) (access : Access) : Action Handle :=
  Action.change fun d =>
    match attach p access d with
    | (.ok h, d) => (.ok h, d)
    | (.error f, d) => (.error (.store (some (.opening p)) f), d)

/-- Does something with an open store.  If it fails, the store is closed. -/
def prepare (doing : Activity) (f : Handle → Disk → Except Fault α × Handle × Disk) (h : Handle) :
    Action (α × Handle) :=
  Action.change fun d =>
    match f h d with
    | (.ok a, h, d) => (.ok (a, h), d)
    | (.error e, h, d) => (.error (.store (some doing) e), h.close d)

/-- Makes the tables that a store lacks. -/
def ensureTables (h : Handle) (d : Disk) : Except Fault Unit × Handle × Disk :=
  h.apply d Connection.ensureTables

/-- Opens a store for writing. -/
def openOrCreate (p : Path) : Action Handle := do
  makeParent p
  let h ← attachOrFail p .create
  let ((), h) ← prepare .configuring Handle.configure h
  let ((), h) ← prepare .preparingTables ensureTables h
  Action.say (.opened p)
  return h

/-- Whether an open store holds a graph. -/
def holdsGraph (h : Handle) (d : Disk) : Except Fault Bool × Handle × Disk :=
  h.read d fun db => .ok db.hasGraph

/-- Closes a store. -/
def close (h : Handle) : Action Unit := fun d =>
  ⟨.ok (), h.close d, []⟩

/-- Opens a store for reading; `none` if there is none. -/
def openExisting (p : Path) : Action (Option Handle) := do
  if ← Action.look (·.pathExists p) then
    let h ← attachOrFail p .read
    let (found, h) ← prepare (.readingSchema p) holdsGraph h
    if found then return some h
    else
      close h
      Action.say (.noGraph p)
      return none
  else return none

section

variable {p : Path} {d d₀ d₁ d₂ d₃ : Disk} {h h₁ h₂ h₃ : Handle}

theorem attachOrFail_of_ok {access : Access} (hattach : attach p access d = (.ok h, d₁)) :
    attachOrFail p access d = ⟨.ok h, d₁, []⟩ := by
  simp only [attachOrFail, Action.change, hattach]

theorem prepare_of_ok {doing : Activity} {f : Handle → Disk → Except Fault α × Handle × Disk} {a : α}
    (hf : f h d = (.ok a, h₁, d₁)) : prepare doing f h d = ⟨.ok (a, h₁), d₁, []⟩ := by
  simp only [prepare, Action.change, hf]

theorem prepare_of_error {doing : Activity} {f : Handle → Disk → Except Fault α × Handle × Disk}
    {e : Fault} (hf : f h d = (.error e, h₁, d₁)) :
    prepare doing f h d = ⟨.error (.store (some doing) e), h₁.close d₁, []⟩ := by
  simp only [prepare, Action.change, hf]

/-- A store is open for writing once each of the steps has succeeded. -/
theorem openOrCreate_of_ok (hparent : makeParent p d = ⟨.ok (), d₀, []⟩)
    (hattach : attachOrFail p .create d₀ = ⟨.ok h₁, d₁, []⟩)
    (hconfigure : h₁.configure d₁ = (.ok (), h₂, d₂))
    (htables : ensureTables h₂ d₂ = (.ok (), h₃, d₃)) :
    openOrCreate p d = ⟨.ok h₃, d₃, [.opened p]⟩ := by
  simp only [openOrCreate, Action.bind_apply, hparent, hattach, prepare_of_ok hconfigure,
    prepare_of_ok htables]
  rfl

/-- A database that cannot be made a logged one is not opened for writing. -/
theorem openOrCreate_of_configure_error (hparent : makeParent p d = ⟨.ok (), d₀, []⟩)
    (hattach : attachOrFail p .create d₀ = ⟨.ok h₁, d₁, []⟩) {e : Fault}
    (hconfigure : h₁.configure d₁ = (.error e, h₂, d₂)) :
    openOrCreate p d = ⟨.error (.store (some .configuring) e), h₂.close d₂, []⟩ := by
  simp only [openOrCreate, Action.bind_apply, hparent, hattach, prepare_of_error hconfigure]
  rfl

/-- Nor is one that cannot have the tables. -/
theorem openOrCreate_of_tables_error (hparent : makeParent p d = ⟨.ok (), d₀, []⟩)
    (hattach : attachOrFail p .create d₀ = ⟨.ok h₁, d₁, []⟩)
    (hconfigure : h₁.configure d₁ = (.ok (), h₂, d₂)) {e : Fault}
    (htables : ensureTables h₂ d₂ = (.error e, h₃, d₃)) :
    openOrCreate p d = ⟨.error (.store (some .preparingTables) e), h₃.close d₃, []⟩ := by
  simp only [openOrCreate, Action.bind_apply, hparent, hattach, prepare_of_ok hconfigure,
    prepare_of_error htables]
  rfl

/-- Where a path leads nowhere, there is no store. -/
theorem openExisting_of_missing (h : d.pathExists p = false) :
    openExisting p d = ⟨.ok none, d, []⟩ := by
  simp only [openExisting, Action.bind_apply, Action.look_apply, h, Bool.false_eq_true, if_false]
  rfl

/-- Where something can be read, there is a store if it holds a graph. -/
theorem openExisting_of_ok (hexists : d.pathExists p = true)
    (hattach : attachOrFail p .read d = ⟨.ok h₁, d₁, []⟩) {found : Bool}
    (hgraph : holdsGraph h₁ d₁ = (.ok found, h₂, d₂)) :
    openExisting p d =
      if found then ⟨.ok (some h₂), d₂, []⟩ else ⟨.ok none, h₂.close d₂, [.noGraph p]⟩ := by
  simp only [openExisting, Action.bind_apply, Action.look_apply, hexists, if_true, hattach,
    prepare_of_ok hgraph]
  cases found <;> rfl

/-- Where nothing can be read, opening a store fails. -/
theorem openExisting_of_error (hexists : d.pathExists p = true)
    (hattach : attachOrFail p .read d = ⟨.ok h₁, d₁, []⟩) {e : Fault}
    (hgraph : holdsGraph h₁ d₁ = (.error e, h₂, d₂)) :
    openExisting p d = ⟨.error (.store (some (.readingSchema p)) e), h₂.close d₂, []⟩ := by
  simp only [openExisting, Action.bind_apply, Action.look_apply, hexists, if_true, hattach,
    prepare_of_error hgraph]
  rfl

end

/-- Does something with an open store and closes it. -/
def finish (f : Handle → Disk → Except Fault α × Handle × Disk) (h : Handle) : Action α :=
  Action.change fun d =>
    match f h d with
    | (.ok a, h, d) => (.ok a, h.close d)
    | (.error e, h, d) => (.error (.store none e), h.close d)

end Store
end SyntaxGraph
