import SyntaxGraph.CommandLine.Run

/-!
# The program

The entry point hands the arguments and the environment to `CommandLine.run` and prints what comes
of it.  The files and the grammars are plugged in from outside: `CommandLine.launch` takes both, and
`main` runs on a disk of its own with a parser that gives each source a single node.
-/

set_option autoImplicit false
namespace SyntaxGraph
namespace CommandLine

/-- How important a message has to be to be printed. -/
def isPrinted (verbose : Bool) : Level → Bool
  | .trace => false
  | .debug => verbose
  | _ => true

/-- Whether a command line asks for more messages. -/
def wantsMore (env : Config.Environment) (args : List Bytes) : Bool :=
  match Request.parse env args with
  | .ok r => r.verbose
  | .error _ => false

/-- A variable of the environment that holds a path. -/
def readVariable (name : String) : IO (Option Path) := do
  return (← IO.getEnv name).map Path.ofString

/-- Runs the program on a disk. -/
def launch (parser : Parser) (disk : Disk) (args : List String) : IO UInt32 := do
  let env : Config.Environment := {
    home := ← readVariable "HOME"
    dataHome := ← readVariable "XDG_DATA_HOME"
    dataDir := ← readVariable "ASTGRAPH_DATA_DIR" }
  let args := args.map Utf8.ofString
  let (exit, _, log) := run parser env args disk
  for m in log do
    if isPrinted (wantsMore env args) m.level then IO.eprintln m.line
  IO.print exit.stdout
  IO.eprint exit.stderr
  return UInt32.ofNat exit.code

end CommandLine

/-- A parser that sees of a source only that it is there. -/
def Parser.blank : Parser :=
  ⟨fun _ _ => .node "program" ⟨⟨0, 0⟩, ⟨0, 0⟩⟩ []⟩

end SyntaxGraph

def main (args : List String) : IO UInt32 :=
  SyntaxGraph.CommandLine.launch SyntaxGraph.Parser.blank (SyntaxGraph.Disk.empty []) args
