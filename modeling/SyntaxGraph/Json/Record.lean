import SyntaxGraph.Json.Skip
import SyntaxGraph.Language
import SyntaxGraph.Node

/-!
# Reading records

A record is written as an object with its keys in any order, or as an array of its values in the
order of the schema.  An object may hold further members, which are skipped; a key of the schema may
stand in it only once.

## What is here

* `Json.Schema`, `Json.readRecord` — the keys of a record, and reading its members.
* `Json.decodeNode`, `Json.decodeNodes`, `Json.decodeEdge`, `Json.decodeSpan`, `Json.decodeLanguage`
  — whole texts.
-/

set_option autoImplicit false
namespace SyntaxGraph
namespace Json

/-! ## Values of members -/

/-- What a member may hold. -/
inductive ScalarType where
  | text
  /-- A signed word of 64 bits. -/
  | signed
  /-- An unsigned word of 64 bits. -/
  | unsigned
deriving DecidableEq, Repr

/-- What a member holds. -/
inductive Scalar where
  | text (s : String)
  | signed (n : Int64)
  | unsigned (n : UInt64)
deriving DecidableEq, Repr

/-- The scalar of a given type that a token denotes. -/
def Scalar.ofToken? : ScalarType → Token → Option Scalar
  | .text, .text cs => some (.text (String.ofList cs))
  | .signed, .number l =>
    match l.int? with
    | some i => if Decimal.isSignedWord i then some (.signed (Int64.ofInt i)) else none
    | none => none
  | .unsigned, .number l =>
    match l.int? with
    | some i => if Decimal.isUnsignedWord i then some (.unsigned (UInt64.ofNat i.toNat)) else none
    | none => none
  | _, _ => none

/-- Reads a scalar of the given type. -/
def readScalar (type : ScalarType) (s : List Char) : Read Scalar :=
  match readToken s with
  | .error e => .error e
  | .ok (t, r) =>
    match Scalar.ofToken? type t with
    | some v => .ok (v, r)
    | none => .error .mismatch

/-! ## Members -/

/-- The keys of a record with the types of their values, in the order of the array form. -/
abbrev Schema := List (String × ScalarType)

/-- Members that have been read. -/
abbrev Members := List (String × Scalar)

/-- Reads one member after the opening quote of its key.  A key that was seen before is refused as
soon as it is read. -/
def readMember (schema : Schema) (seen : Members) (s : List Char) : Read Members :=
  match readChars s with
  | .error e => .error e
  | .ok (key, s) =>
    match schema.lookup (String.ofList key) with
    | some type =>
      if (seen.lookup (String.ofList key)).isSome then .error .mismatch
      else
        match readColon s with
        | .error e => .error e
        | .ok s =>
          match readScalar type s with
          | .error e => .error e
          | .ok (v, s) => .ok (seen ++ [(String.ofList key, v)], s)
    | none =>
      match readColon s with
      | .error e => .error e
      | .ok s =>
        match skipValue s with
        | .error e => .error e
        | .ok s => .ok (seen, s)

/-- Reads members up to and including the closing brace.  The first argument bounds their number. -/
def readMembersWithin (schema : Schema) : Nat → Members → List Char → Read Members
  | 0, _, _ => .error .ended
  | n + 1, seen, s =>
    match skipBlanks s with
    | [] => .error .ended
    | '"' :: rest =>
      match readMember schema seen rest with
      | .error e => .error e
      | .ok (seen, s) =>
        match skipBlanks s with
        | [] => .error .ended
        | '\x7d' :: rest => .ok (seen, rest)
        | ',' :: rest => readMembersWithin schema n seen rest
        | _ => .error .malformed
    | _ => .error .malformed

/-- Reads an object after its opening brace.  Every member takes a character, so the bound is never
reached. -/
def readObject (schema : Schema) (s : List Char) : Read Members :=
  match skipBlanks s with
  | '\x7d' :: rest => .ok ([], rest)
  | s => readMembersWithin schema (s.length + 1) [] s

/-! ## The array form -/

/-- Reads the closing bracket of an array whose values have all been read. -/
def readClose (s : List Char) : Except Cause (List Char) :=
  match skipBlanks s with
  | [] => .error .ended
  | ']' :: rest => .ok rest
  | _ => .error .malformed

/-- Moves to the next value of an array, of which one is wanted. -/
def nextWanted (first : Bool) (s : List Char) : Except Cause (List Char) :=
  match skipBlanks s with
  | [] => .error .ended
  | ']' :: _ => .error .mismatch
  | ',' :: rest =>
    if first then .ok (',' :: rest)
    else
      match skipBlanks rest with
      | [] => .error .ended
      | ']' :: _ => .error .malformed
      | rest => .ok rest
  | s => if first then .ok s else .error .malformed

/-- Reads the values of a schema one after the other, and the closing bracket. -/
def readValues (first : Bool) : Schema → List Char → Read Members
  | [], s =>
    match readClose s with
    | .error e => .error e
    | .ok s => .ok ([], s)
  | (key, type) :: schema, s =>
    match nextWanted first s with
    | .error e => .error e
    | .ok s =>
      match readScalar type s with
      | .error e => .error e
      | .ok (v, s) =>
        match readValues false schema s with
        | .error e => .error e
        | .ok (ms, s) => .ok ((key, v) :: ms, s)

/-- Reads a record in either form, and makes of its members what `build` says. -/
def readRecord {α : Type} (schema : Schema) (build : Members → Option α) (s : List Char) : Read α :=
  match readToken s with
  | .error e => .error e
  | .ok (t, s) =>
    let members :=
      match t with
      | .openObject => readObject schema s
      | .openArray => readValues true schema s
      | _ => .error .mismatch
    match members with
    | .error e => .error e
    | .ok (ms, s) =>
      match build ms with
      | some a => .ok (a, s)
      | none => .error .mismatch

/-! ## The records of the graph -/

/-- The text under a key. -/
def Members.text? (ms : Members) (key : String) : Option String :=
  match ms.lookup key with
  | some (.text s) => some s
  | _ => none

/-- The signed word under a key. -/
def Members.signed? (ms : Members) (key : String) : Option Int64 :=
  match ms.lookup key with
  | some (.signed n) => some n
  | _ => none

/-- The unsigned word under a key. -/
def Members.unsigned? (ms : Members) (key : String) : Option UInt64 :=
  match ms.lookup key with
  | some (.unsigned n) => some n
  | _ => none

/-- The keys of a node. -/
def nodeSchema : Schema :=
  [("id", .text), ("filepath", .text), ("type", .text), ("start_row", .signed),
   ("start_col", .signed), ("end_row", .signed), ("end_col", .signed)]

/-- The node with the given members, if none is missing. -/
def nodeOfMembers? (ms : Members) : Option Node := do
  return {
    id := ← Members.text? ms "id"
    filepath := ← Members.text? ms "filepath"
    kind := ← Members.text? ms "type"
    startRow := ← Members.signed? ms "start_row"
    startCol := ← Members.signed? ms "start_col"
    endRow := ← Members.signed? ms "end_row"
    endCol := ← Members.signed? ms "end_col" }

/-- The keys of an edge. -/
def edgeSchema : Schema :=
  [("parent", .text), ("child", .text)]

/-- The edge with the given members, if none is missing. -/
def edgeOfMembers? (ms : Members) : Option Edge := do
  return { parent := ← Members.text? ms "parent", child := ← Members.text? ms "child" }

/-- The keys of a span. -/
def spanSchema : Schema :=
  [("start_row", .unsigned), ("start_col", .unsigned), ("end_row", .unsigned),
   ("end_col", .unsigned)]

/-- The span with the given members, if none is missing. -/
def spanOfMembers? (ms : Members) : Option Span := do
  return {
    start := ⟨← Members.unsigned? ms "start_row", ← Members.unsigned? ms "start_col"⟩
    stop := ⟨← Members.unsigned? ms "end_row", ← Members.unsigned? ms "end_col"⟩ }

/-- Reads a node. -/
def readNode (s : List Char) : Read Node :=
  readRecord nodeSchema nodeOfMembers? s

/-- Reads nodes up to and including the closing bracket.  The first argument bounds their number. -/
def readNodesWithin : Nat → List Char → Read (List Node)
  | 0, _ => .error .ended
  | n + 1, s =>
    match readNode s with
    | .error e => .error e
    | .ok (node, s) =>
      match skipBlanks s with
      | [] => .error .ended
      | ']' :: rest => .ok ([node], rest)
      | ',' :: rest =>
        match skipBlanks rest with
        | [] => .error .ended
        | ']' :: _ => .error .malformed
        | rest =>
          match readNodesWithin n rest with
          | .error e => .error e
          | .ok (nodes, s) => .ok (node :: nodes, s)
      | _ => .error .malformed

/-- Reads an array of nodes.  Every node takes a character, so the bound is never reached. -/
def readNodes (s : List Char) : Read (List Node) :=
  match readToken s with
  | .error e => .error e
  | .ok (.openArray, s) =>
    match skipBlanks s with
    | [] => .error .ended
    | ']' :: rest => .ok ([], rest)
    | s => readNodesWithin (s.length + 1) s
  | .ok _ => .error .mismatch

/-- Reads a language: its name, or an object with the name as its only key and `null` under it. -/
def readLanguage (s : List Char) : Read Language :=
  let named (s : List Char) : Read Language :=
    match readToken s with
    | .error e => .error e
    | .ok (.text cs, r) =>
      match Language.ofName? (String.ofList cs) with
      | some l => .ok (l, r)
      | none => .error .mismatch
    | .ok _ => .error .mismatch
  match skipBlanks s with
  | [] => .error .ended
  | '"' :: rest => named ('"' :: rest)
  | '\x7b' :: rest =>
    match skipBlanks rest with
    | [] => .error .ended
    | '"' :: rest =>
      match named ('"' :: rest) with
      | .error e => .error e
      | .ok (l, s) =>
        match readColon s with
        | .error e => .error e
        | .ok s =>
          match readToken s with
          | .error e => .error e
          | .ok (.word "null", s) =>
            match skipBlanks s with
            | [] => .error .ended
            | '\x7d' :: rest => .ok (l, rest)
            | _ => .error .malformed
          | .ok _ => .error .mismatch
    | _ => .error .malformed
  | _ => .error .malformed

/-! ## Whole texts -/

/-- Decodes a text that holds one value and nothing after it but blanks. -/
def decode {α : Type} (read : List Char → Read α) (text : String) : Except Cause α :=
  match read text.toList with
  | .error e => .error e
  | .ok (a, rest) => if skipBlanks rest = [] then .ok a else .error .malformed

/-- Decodes a node. -/
def decodeNode (text : String) : Except Cause Node :=
  decode readNode text

/-- Decodes an array of nodes. -/
def decodeNodes (text : String) : Except Cause (List Node) :=
  decode readNodes text

/-- Decodes an edge. -/
def decodeEdge (text : String) : Except Cause Edge :=
  decode (readRecord edgeSchema edgeOfMembers?) text

/-- Decodes a span. -/
def decodeSpan (text : String) : Except Cause Span :=
  decode (readRecord spanSchema spanOfMembers?) text

/-- Decodes a language. -/
def decodeLanguage (text : String) : Except Cause Language :=
  decode readLanguage text

end Json
end SyntaxGraph
