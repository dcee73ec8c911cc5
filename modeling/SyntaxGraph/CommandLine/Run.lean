import SyntaxGraph.CommandLine.Request
import SyntaxGraph.Service

/-!
# Running a command line

A request is carried out on a disk; what comes of it is an exit code and what is printed.
-/

set_option autoImplicit false
namespace SyntaxGraph
namespace CommandLine

/-- How a run ends. -/
structure Exit where
  code : Nat
  stdout : String
  stderr : String
deriving DecidableEq, Repr

/-- The name and the version of the program. -/
def versionText : String :=
  "astgraph 0.1.0\n"

/-- What is said about a command line that is not well formed. -/
def usageText : String :=
  "Usage: astgraph [OPTIONS] <COMMAND>\n"

/-- What the command prints about a report.  Times are not measured; they are shown as `<t>`. -/
def reportText (r : Report) : String :=
  "Indexed " ++ Decimal.ofNat r.filesIndexed ++ " files (" ++ Decimal.ofNat r.filesSkipped ++
    " skipped, " ++ Decimal.ofNat r.filesFailed ++ " failed): " ++ Decimal.ofNat r.nodesInserted ++
    " nodes, " ++ Decimal.ofNat r.edgesInserted ++ " edges in <t>s\n"

/-- What the command prints about the size of the graph at a path. -/
def statsText (p : Path) : Option Stats → String
  | none => "No graph database at " ++ p.quoted ++ ". Run 'astgraph index' first.\n"
  | some s =>
    "astgraph Statistics\n===================\nDatabase: " ++ p.quoted ++ "\n\n  Files: " ++
      Decimal.ofNat s.files ++ "\n  Nodes: " ++ Decimal.ofNat s.nodes ++ "\n  Edges: " ++
      Decimal.ofNat s.edges ++ "\n"

/-- A text with blanks in front of every line but the first. -/
def indented (width : Nat) (text : String) : String :=
  String.intercalate ("\n" ++ String.ofList (List.replicate width ' ')) (text.splitOn "\n")

/-- The causes below the first line about a failure; they are numbered if there are several. -/
def causeLines : List String → List String
  | [cause] => ["    " ++ indented 4 cause]
  | causes =>
    causes.zipIdx.map fun (cause, i) => "    " ++ Decimal.ofNat i ++ ": " ++ indented 7 cause

/-- What is printed about a failure. -/
def failureText (f : Failure) : String :=
  match f.lines with
  | [] => ""
  | [line] => "Error: " ++ line ++ "\n"
  | line :: causes =>
    "Error: " ++ line ++ "\n\nCaused by:\n" ++
      String.join ((causeLines causes).map (· ++ "\n"))

/-- Writes a text to a file. -/
def writeText (p : Path) (text : String) : Action Unit :=
  Action.change fun d =>
    match d.writeFile p (Utf8.ofString text) with
    | .ok d => (.ok (), d)
    | .error e => (.error (.os (.writingExport p) e), d)

/-- How many lines a text has.  The last one may end without a newline; an empty text has none. -/
def lineCount (text : String) : Nat :=
  let newlines := text.toList.count '\n'
  if text.toList.getLast?.all (· = '\n') then newlines else newlines + 1

/-- Delivers an export: to a file as it is, else to the standard output with a newline, unless it is
empty. -/
def deliver (output : Option Path) (text : String) : Action String :=
  match output with
  | some p => do
    writeText p text
    Action.say (.exportWritten (lineCount text) p)
    return ""
  | none => return if text = "" then "" else text ++ "\n"

/-- Carries out a command with the database below a base directory; the value is what is printed. -/
def Command.perform (parser : Parser) (base : Path) : Command → Action String
  | index path => do
    let root ← Action.look fun d => Path.resolve d.cwdPath path
    let s ← Service.ofBase base
    Action.say (.indexing root)
    Action.say (.database s.path)
    let report ← s.index parser root
    return reportText report
  | exportContext order format output => do
    let s ← Service.ofBase base
    let text ← s.exportContext order format
    deliver output text
  | clearCache => do
    let s ← Service.ofBase base
    s.clear
    return ""
  | stats => do
    let s ← Service.ofBase base
    let found ← s.stats
    return statsText s.path found

/-- How a performed command ends. -/
def exitOf : Except Failure String → Exit
  | .ok text => ⟨0, text, ""⟩
  | .error f => ⟨1, "", failureText f⟩

/-- Runs a command line: how it ends, the disk after it, and the messages on the way. -/
def run (parser : Parser) (env : Config.Environment) (args : List Bytes) (d : Disk) :
    Exit × Disk × List Message :=
  match Request.parse env args with
  | .error .usage => (⟨2, "", usageText⟩, d, [])
  | .error .version => (⟨0, versionText, ""⟩, d, [])
  | .ok r =>
    let o := r.command.perform parser (Config.base env r.dataDir) d
    (exitOf o.result, o.disk, o.log)

end CommandLine
end SyntaxGraph
