import SyntaxGraph.CommandLine.Argument
import SyntaxGraph.Config
import SyntaxGraph.Export

/-!
# Requests

A command line has two levels: what stands before the name of the command, and what stands after
it.  Each level is read from left to right and knows its own options; those that concern the whole
program may be given on both, and what comes later wins.  The first fault ends the reading, and so
does the question for the version.

## What is here

* `Switch` — the options.
* `Scope.read` — one level of a command line.
* `Request.parse` — a whole command line, together with what the environment adds to it.
-/

set_option autoImplicit false
namespace SyntaxGraph
namespace CommandLine

/-! ## Options -/

/-- An option. -/
inductive Switch where
  | verbose
  | version
  | dataDir
  | sorted
  | format
  | output
deriving DecidableEq, Repr

namespace Switch

/-- The name after two dashes. -/
def long : Switch → String
  | verbose => "verbose"
  | version => "version"
  | dataDir => "data-dir"
  | sorted => "sorted"
  | format => "format"
  | output => "output"

/-- The letter after one dash. -/
def letter? : Switch → Option Char
  | verbose => some 'v'
  | version => some 'V'
  | dataDir => none
  | sorted => some 's'
  | format => some 'f'
  | output => some 'o'

/-- Whether a value belongs to the option. -/
def takesValue : Switch → Bool
  | verbose | version | sorted => false
  | dataDir | format | output => true

end Switch

/-! ## Commands -/

/-- The name of a command. -/
inductive CommandName where
  | index
  | exportContext
  | clearCache
  | stats
deriving DecidableEq, Repr

namespace CommandName

/-- All commands. -/
def all : List CommandName :=
  [index, exportContext, clearCache, stats]

/-- The name as it is written. -/
def text : CommandName → String
  | index => "index"
  | exportContext => "export"
  | clearCache => "clear-cache"
  | stats => "stats"

/-- The command with the given name. -/
def ofBytes? (bs : Bytes) : Option CommandName :=
  all.find? fun c => Utf8.ofString c.text == bs

/-- How many operands a command takes at most. -/
def operandLimit : CommandName → Nat
  | index => 1
  | _ => 0

end CommandName

/-! ## Levels -/

/-- A level of the command line: before the command, or after it. -/
inductive Scope where
  | program
  | command (name : CommandName)
deriving DecidableEq, Repr

/-- Why reading a command line ends early. -/
inductive Stop where
  /-- It is not well formed. -/
  | usage
  /-- It asks for the version. -/
  | version
deriving DecidableEq, Repr

/-- What is given on one level. -/
structure Given where
  /-- The options with their values, in order; the value of an option that takes none is empty. -/
  switches : List (Switch × Bytes) := []
  /-- The other arguments, in order. -/
  operands : List Bytes := []
deriving DecidableEq, Repr

namespace Given

/-- The value of an option. -/
def value? (g : Given) (s : Switch) : Option Bytes :=
  g.switches.lookup s

/-- Whether an option is given. -/
def has (g : Given) (s : Switch) : Bool :=
  (g.value? s).isSome

/-- Adds an option.  None may be given twice, and no value may be empty. -/
def add (g : Given) (s : Switch) (value : Bytes) : Except Stop Given :=
  if s = .version then .error .version
  else if g.has s ∨ (s.takesValue ∧ value = []) then .error .usage
  else .ok { g with switches := g.switches ++ [(s, value)] }

end Given

namespace Scope

/-- The options of a level. -/
def switches : Scope → List Switch
  | program => [.verbose, .version, .dataDir]
  | command .exportContext => [.verbose, .dataDir, .sorted, .format, .output]
  | command _ => [.verbose, .dataDir]

/-- The option with a name. -/
def ofLong? (l : Scope) (name : Bytes) : Option Switch :=
  l.switches.find? fun s => Utf8.ofString s.long == name

/-- The option with a letter. -/
def ofLetter? (l : Scope) (letter : UInt8) : Option Switch :=
  l.switches.find? fun s => s.letter?.map (fun c => Utf8.encode [c]) == some [letter]

/-- The value attached to a letter: one `=` before it is left out. -/
def attached : Bytes → Bytes
  | 0x3D :: value => value
  | value => value

/-- Reads joined letters.  An option that takes a value takes all that follows its letter; if nothing
does, it is left waiting for the next argument. -/
def readLetters (l : Scope) (g : Given) : Bytes → Except Stop (Given × Option Switch)
  | [] => .ok (g, none)
  | b :: rest =>
    match l.ofLetter? b with
    | none => .error .usage
    | some s =>
      if s.takesValue then
        if rest = [] then .ok (g, some s)
        else do return (← g.add s (attached rest), none)
      else do l.readLetters (← g.add s []) rest

/-- Reads an option given by its name. -/
def readLong (l : Scope) (g : Given) (name : Bytes) (value : Option Bytes) :
    Except Stop (Given × Option Switch) :=
  match l.ofLong? name with
  | none => .error .usage
  | some s =>
    match s.takesValue, value with
    | true, some v => do return (← g.add s v, none)
    | true, none => .ok (g, some s)
    | false, none => do return (← g.add s [], none)
    | false, some _ => .error .usage

/-- Reads a level.  `waiting` is the option whose value is to come next: an argument in the form of
an option is not taken for a value.  Before the command, reading ends at the first argument that is
no option; the result says what is left then. -/
def read (l : Scope) (g : Given) (waiting : Option Switch) :
    List Bytes → Except Stop (Given × List Bytes)
  | [] => if waiting.isSome then .error .usage else .ok (g, [])
  | a :: rest =>
    match waiting, Argument.ofBytes a with
    | some s, .plain => do l.read (← g.add s a) none rest
    | some _, _ => .error .usage
    | none, .long name value => do
      let (g, waiting) ← l.readLong g name value
      l.read g waiting rest
    | none, .short letters => do
      let (g, waiting) ← l.readLetters g letters
      l.read g waiting rest
    | none, .separator =>
      if l = .program then .error .usage else .ok ({ g with operands := g.operands ++ rest }, [])
    | none, .plain =>
      if l = .program then .ok (g, a :: rest)
      else l.read { g with operands := g.operands ++ [a] } none rest

end Scope

/-! ## Requests -/

/-- What is to be done. -/
inductive Command where
  | index (root : Path)
  | exportContext (order : ExportOrder) (format : ExportFormat) (output : Option Path)
  | clearCache
  | stats
deriving DecidableEq, Repr

/-- What a command line asks for. -/
structure Request where
  verbose : Bool
  /-- The base directory, if one is named. -/
  dataDir : Option Path
  command : Command
deriving DecidableEq, Repr

/-- The format asked for. -/
def formatGiven (g : Given) : Except Stop ExportFormat :=
  match g.value? .format with
  | none => .ok .standard
  | some v =>
    match (Utf8.text? v).bind ExportFormat.ofText? with
    | none => .error .usage
    | some f => .ok f

/-- The command that is named, with what is given for it. -/
def Command.ofGiven (name : CommandName) (g : Given) : Except Stop Command :=
  if name.operandLimit < g.operands.length ∨ [] ∈ g.operands then .error .usage
  else
    match name with
    | .index => .ok (.index ⟨g.operands.head?.getD [Path.dot]⟩)
    | .exportContext => do
      let order := if g.has .sorted then ExportOrder.sorted else .natural
      return .exportContext order (← formatGiven g) ((g.value? .output).map Path.mk)
    | .clearCache => .ok .clearCache
    | .stats => .ok .stats

/-- The base directory named on the two levels or else by the environment.  A name in the environment
counts on each level that has none of its own, and an empty one is a fault there. -/
def dataDirGiven (env : Config.Environment) (outer inner : Given) : Except Stop (Option Path) :=
  let named := (inner.value? .dataDir <|> outer.value? .dataDir).map Path.mk
  if env.dataDir = some ⟨[]⟩ ∧ ¬(outer.has .dataDir ∧ inner.has .dataDir) then .error .usage
  else .ok (named <|> env.dataDir)

namespace Request

/-- Reads a command line. -/
def parse (env : Config.Environment) (args : List Bytes) : Except Stop Request := do
  let (outer, rest) ← Scope.program.read {} none args
  match rest with
  | [] => .error .usage
  | name :: rest =>
    match CommandName.ofBytes? name with
    | none => .error .usage
    | some name =>
      let (inner, _) ← (Scope.command name).read {} none rest
      let command ← Command.ofGiven name inner
      return {
        verbose := outer.has .verbose || inner.has .verbose
        dataDir := ← dataDirGiven env outer inner
        command }

end Request
end CommandLine
end SyntaxGraph
