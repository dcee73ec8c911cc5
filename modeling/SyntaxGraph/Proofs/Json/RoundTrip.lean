import SyntaxGraph.Export
import SyntaxGraph.Proofs.Json.Token

/-!
# Exports are read back

The JSON export of a list of nodes decodes to that list.  The writer knows nothing of the reader: it
lays out seven lines a node in a fixed order, while the reader takes members in any order, looks up
the types of their values, and refuses a key it has seen.  Both sides are brought together by the
members a node comes to (`nodeRecord`): these are what is written, line by line, and what the reader
gathers, member by member.

Each loop of the reader has a bound that is computed from the length of the text; a line takes more
than one character, so it is never reached.

## What is here

* `commaLines_cons` — a list of lines as its first line and what follows each comma.
* `readMembersWithin_comma`, `readMembersWithin_close` — one member of an object.
* `readMembersWithin_lines`, `readNode_nodeObject` — all members, and a node.
* `decodeNodes_renderContext` — a whole export.
-/

set_option autoImplicit false
namespace SyntaxGraph
namespace Json

/-! ## Lines -/

/-- A line after the comma that divides it from the line before. -/
def nextLine (line : List Char) : List Char :=
  ',' :: '\n' :: line

theorem commaLines_cons (line : List Char) (lines : List (List Char)) :
    commaLines (line :: lines) = line ++ lines.flatMap nextLine := by
  induction lines generalizing line with
  | nil => simp [commaLines, List.intercalate]
  | cons next lines ih =>
    have hstep : commaLines (line :: next :: lines) =
        line ++ ([',', '\n'] ++ commaLines (next :: lines)) := by
      simp [commaLines, List.intercalate]
    rw [hstep, ih next]
    rfl

theorem length_le_flatMap_nextLine (lines : List (List Char)) :
    lines.length ≤ (lines.flatMap nextLine).length := by
  induction lines with
  | nil => exact Nat.le_refl _
  | cons line lines ih =>
    rw [List.flatMap_cons, List.length_append, List.length_cons, nextLine, List.length_cons]
    omega

/-! ## Members -/

/-- A member on a line of its own. -/
def memberLine (m : String × Scalar) : List Char :=
  member m.1 m.2.written

/-- A member from the character after the opening quote of its key on. -/
def memberText (m : String × Scalar) : List Char :=
  m.1.toList.flatMap escape ++ '"' :: ':' :: ' ' :: m.2.written

theorem memberLine_eq (m : String × Scalar) :
    memberLine m = "    ".toList ++ '"' :: memberText m := by
  have hline : memberLine m = "    ".toList ++ quote m.1 ++ [':', ' '] ++ m.2.written := rfl
  have htext : quote m.1 ++ ([':', ' '] ++ m.2.written) = '"' :: memberText m := by
    rw [quote, memberText, List.append_assoc, List.append_assoc]
    rfl
  rw [hline, List.append_assoc, List.append_assoc, htext]

theorem skipBlanks_memberLine (m : String × Scalar) (r : List Char) :
    skipBlanks (memberLine m ++ r) = '"' :: (memberText m ++ r) := by
  have hindent : Blank "    ".toList := blank_of_all rfl
  rw [memberLine_eq, List.append_assoc, skipBlanks_append hindent, List.cons_append,
    skipBlanks_cons rfl]

/-- A member with a new key is read back. -/
theorem readMember_memberText {schema : Schema} {seen : Members} {m : String × Scalar}
    {r : List Char} (htype : schema.lookup m.1 = some m.2.type) (hnew : seen.lookup m.1 = none)
    (hr : EndsNumber r) : readMember schema seen (memberText m ++ r) = .ok (seen ++ [m], r) := by
  have htext : memberText m ++ r =
      m.1.toList.flatMap escape ++ '"' :: (':' :: ' ' :: (m.2.written ++ r)) := by
    simp [memberText]
  have hcolon : readColon (':' :: ' ' :: (m.2.written ++ r)) = .ok (' ' :: (m.2.written ++ r)) :=
    rfl
  have hvalue : readScalar m.2.type (' ' :: (m.2.written ++ r)) = .ok (m.2, r) :=
    readScalar_written m.2 hr
  rw [htext, readMember, readChars_flatMap_escape]
  simp only [String.ofList_toList, htype, hnew, Option.isSome_none, hcolon, hvalue]
  rfl

/-! One step of the loop over members: what comes after the member decides how it goes on. -/

section Step

variable {schema : Schema} {seen seen' : Members} {s t u v : List Char}

theorem readMembersWithin_comma (n : Nat) (hs : skipBlanks s = '"' :: t)
    (hm : readMember schema seen t = .ok (seen', u)) (hu : skipBlanks u = ',' :: v) :
    readMembersWithin schema (n + 1) seen s = readMembersWithin schema n seen' v := by
  simp only [readMembersWithin, hs, hm, hu]

theorem readMembersWithin_close (n : Nat) (hs : skipBlanks s = '"' :: t)
    (hm : readMember schema seen t = .ok (seen', u)) (hu : skipBlanks u = '\x7d' :: v) :
    readMembersWithin schema (n + 1) seen s = .ok (seen', v) := by
  simp only [readMembersWithin, hs, hm, hu]

theorem readMembersWithin_skipBlanks (n : Nat) :
    readMembersWithin schema n seen (skipBlanks s) = readMembersWithin schema n seen s := by
  cases n with
  | zero => rfl
  | succ n => rw [readMembersWithin, readMembersWithin, skipBlanks_skipBlanks]

theorem readMembersWithin_newline (n : Nat) :
    readMembersWithin schema n seen ('\n' :: s) = readMembersWithin schema n seen s := by
  rw [← readMembersWithin_skipBlanks, skipBlanks_cons_of_isBlank rfl, readMembersWithin_skipBlanks]

end Step

/-- Members that a schema has room for: each with the type of its key, and no key twice. -/
structure Members.Fits (schema : Schema) (ms : Members) : Prop where
  types : ∀ m ∈ ms, schema.lookup m.1 = some m.2.type
  keys : (ms.map Prod.fst).Nodup

namespace Members.Fits

variable {schema : Schema} {seen ms : Members} {m : String × Scalar}

theorem lookup_type (h : Fits schema (seen ++ m :: ms)) : schema.lookup m.1 = some m.2.type :=
  h.types m (List.mem_append_right seen List.mem_cons_self)

/-- The key of a member is new to what stands before it. -/
theorem lookup_eq_none (h : Fits schema (seen ++ m :: ms)) : seen.lookup m.1 = none := by
  have hkeys := h.keys
  rw [List.map_append, List.nodup_append] at hkeys
  refine List.lookup_eq_none_iff.2 fun x hx => ?_
  have hne := hkeys.2.2 x.1 (List.mem_map_of_mem hx) m.1 List.mem_cons_self
  exact bne_iff_ne.2 hne.symm

end Members.Fits

/-- **Members are read back**, line by line, up to the closing brace. -/
theorem readMembersWithin_lines {schema : Schema} {seen ms : Members} {m : String × Scalar}
    {close r : List Char} {n : Nat} (hn : ms.length < n)
    (hfits : Members.Fits schema (seen ++ m :: ms)) (hends : EndsNumber close)
    (hclose : skipBlanks close = '\x7d' :: r) :
    readMembersWithin schema n seen
        (memberLine m ++ ((ms.map memberLine).flatMap nextLine ++ close)) =
      .ok (seen ++ m :: ms, r) := by
  induction ms generalizing seen m n with
  | nil =>
    obtain ⟨n, rfl⟩ := Nat.exists_eq_add_one.2 hn
    have hm := readMember_memberText hfits.lookup_type hfits.lookup_eq_none hends
    exact readMembersWithin_close n (skipBlanks_memberLine m _) hm hclose
  | cons next ms ih =>
    obtain ⟨n, rfl⟩ := Nat.exists_eq_add_one.2 (Nat.zero_lt_of_lt hn)
    -- what is left after the member begins with the comma before the next one
    have hrest : ((next :: ms).map memberLine).flatMap nextLine ++ close =
        ',' :: '\n' :: (memberLine next ++ ((ms.map memberLine).flatMap nextLine ++ close)) := by
      simp [nextLine]
    have hcomma (s : List Char) : EndsNumber (',' :: s) :=
      endsNumber_cons (by decide) (by decide) (by decide) (by decide) s
    have hm (s : List Char) :=
      readMember_memberText hfits.lookup_type hfits.lookup_eq_none (hcomma s)
    rw [hrest, readMembersWithin_comma n (skipBlanks_memberLine m _) (hm _) (skipBlanks_cons rfl _),
      readMembersWithin_newline, ih (Nat.lt_of_succ_lt_succ hn)]
    · rw [List.append_assoc]
      rfl
    · rw [List.append_assoc]
      exact hfits

/-- An object that does not end at once is read member by member. -/
theorem readObject_eq_readMembersWithin {schema : Schema} {s t : List Char}
    (h : skipBlanks s = '"' :: t) :
    readObject schema s = readMembersWithin schema (t.length + 2) [] s := by
  rw [readObject, h, ← readMembersWithin_skipBlanks, h]
  rfl

/-- An object with the given members on lines of their own is read back, from the character after its
opening brace on. -/
theorem readObject_lines {schema : Schema} {ms : Members} (hne : ms ≠ [])
    (hfits : Members.Fits schema ms) (r : List Char) :
    readObject schema ('\n' :: (commaLines (ms.map memberLine) ++ "\n  \x7d".toList ++ r)) =
      .ok (ms, r) := by
  obtain ⟨m, ms, rfl⟩ := List.exists_cons_of_ne_nil hne
  have hclose : skipBlanks ("\n  \x7d".toList ++ r) = '\x7d' :: r := rfl
  have hends : EndsNumber ("\n  \x7d".toList ++ r) :=
    endsNumber_cons (by decide) (by decide) (by decide) (by decide) _
  have hfuel : ms.length < (memberText m ++
      ((ms.map memberLine).flatMap nextLine ++ ("\n  \x7d".toList ++ r))).length + 2 := by
    have hlines := length_le_flatMap_nextLine (ms.map memberLine)
    rw [List.length_map] at hlines
    simp only [List.length_append]
    omega
  rw [List.map_cons, commaLines_cons, List.append_assoc, List.append_assoc,
    readObject_eq_readMembersWithin
      ((skipBlanks_cons_of_isBlank rfl _).trans (skipBlanks_memberLine m _)),
    readMembersWithin_newline, readMembersWithin_lines hfuel hfits hends hclose, List.nil_append]

/-! ## Nodes -/

/-- The members a node comes to. -/
def nodeRecord (n : Node) : Members :=
  [("id", .text n.id), ("filepath", .text n.filepath), ("type", .text n.kind),
   ("start_row", .signed n.startRow), ("start_col", .signed n.startCol),
   ("end_row", .signed n.endRow), ("end_col", .signed n.endCol)]

theorem nodeMembers_eq (n : Node) : nodeMembers n = (nodeRecord n).map memberLine := rfl

theorem nodeOfMembers?_nodeRecord (n : Node) : nodeOfMembers? (nodeRecord n) = some n := rfl

theorem fits_nodeRecord (n : Node) : (nodeRecord n).Fits nodeSchema := by
  refine ⟨?_, ?_⟩
  · intro m hm
    simp only [nodeRecord, List.mem_cons, List.not_mem_nil, or_false] at hm
    rcases hm with rfl | rfl | rfl | rfl | rfl | rfl | rfl <;> rfl
  · show ["id", "filepath", "type", "start_row", "start_col", "end_row", "end_col"].Nodup
    decide

/-- A node is an object, after some blanks. -/
theorem nodeObject_append (n : Node) (r : List Char) :
    nodeObject n ++ r = ' ' :: ' ' :: '\x7b' :: '\n' ::
      (commaLines ((nodeRecord n).map memberLine) ++ "\n  \x7d".toList ++ r) := by
  have hobject : nodeObject n =
      ' ' :: ' ' :: '\x7b' :: '\n' :: (commaLines (nodeMembers n) ++ "\n  \x7d".toList) := rfl
  rw [hobject, nodeMembers_eq]
  rfl

/-- **A node is read back.** -/
theorem readNode_nodeObject (n : Node) (r : List Char) :
    readNode (nodeObject n ++ r) = .ok (n, r) := by
  have htoken (s : List Char) : readToken (' ' :: ' ' :: '\x7b' :: s) = .ok (.openObject, s) := rfl
  have hne : nodeRecord n ≠ [] := List.cons_ne_nil _ _
  have hobject := readObject_lines hne (fits_nodeRecord n) r
  rw [nodeObject_append, readNode, readRecord, htoken]
  simp only [hobject, nodeOfMembers?_nodeRecord]

/-- A written node begins with a brace, after some blanks. -/
theorem skipBlanks_nodeObject (n : Node) (r : List Char) :
    ∃ t, skipBlanks (nodeObject n ++ r) = '\x7b' :: t ∧ r.length ≤ t.length := by
  rw [nodeObject_append]
  refine ⟨_, rfl, ?_⟩
  simp only [List.length_cons, List.length_append]
  omega

/-! ## Lists of nodes -/

section Step

variable {node : Node} {s t u v : List Char}

theorem readNodesWithin_comma (n : Nat) (hs : readNode s = .ok (node, t))
    (ht : skipBlanks t = ',' :: u) (hu : skipBlanks u = '\x7b' :: v) :
    readNodesWithin (n + 1) s =
      match readNodesWithin n ('\x7b' :: v) with
      | .error e => .error e
      | .ok (nodes, s) => .ok (node :: nodes, s) := by
  simp only [readNodesWithin, hs, ht, hu]
  rfl

theorem readNodesWithin_close (n : Nat) (hs : readNode s = .ok (node, t))
    (ht : skipBlanks t = ']' :: u) : readNodesWithin (n + 1) s = .ok ([node], u) := by
  simp only [readNodesWithin, hs, ht]

theorem readNode_skipBlanks : readNode (skipBlanks s) = readNode s := by
  rw [readNode, readNode, readRecord, readRecord, readToken_skipBlanks]

theorem readNodesWithin_skipBlanks (n : Nat) :
    readNodesWithin n (skipBlanks s) = readNodesWithin n s := by
  cases n with
  | zero => rfl
  | succ n => rw [readNodesWithin, readNodesWithin, readNode_skipBlanks]

theorem readNodesWithin_newline (n : Nat) : readNodesWithin n ('\n' :: s) = readNodesWithin n s := by
  rw [← readNodesWithin_skipBlanks, skipBlanks_cons_of_isBlank rfl, readNodesWithin_skipBlanks]

end Step

/-- **Nodes are read back**, one after the other, up to the closing bracket. -/
theorem readNodesWithin_lines {node : Node} {nodes : List Node} {close r : List Char} {n : Nat}
    (hn : nodes.length < n) (hclose : skipBlanks close = ']' :: r) :
    readNodesWithin n (nodeObject node ++ ((nodes.map nodeObject).flatMap nextLine ++ close)) =
      .ok (node :: nodes, r) := by
  induction nodes generalizing node n with
  | nil =>
    obtain ⟨n, rfl⟩ := Nat.exists_eq_add_one.2 hn
    exact readNodesWithin_close n (readNode_nodeObject node _) hclose
  | cons next nodes ih =>
    obtain ⟨n, rfl⟩ := Nat.exists_eq_add_one.2 (Nat.zero_lt_of_lt hn)
    have hrest : ((next :: nodes).map nodeObject).flatMap nextLine ++ close =
        ',' :: '\n' :: (nodeObject next ++ ((nodes.map nodeObject).flatMap nextLine ++ close)) := by
      simp [nextLine]
    obtain ⟨t, ht, -⟩ :=
      skipBlanks_nodeObject next ((nodes.map nodeObject).flatMap nextLine ++ close)
    rw [hrest, readNodesWithin_comma n (readNode_nodeObject node _) (skipBlanks_cons rfl _)
      ((skipBlanks_cons_of_isBlank rfl _).trans ht), ← ht, readNodesWithin_skipBlanks,
      ih (Nat.lt_of_succ_lt_succ hn)]

/-- **An array of nodes is read back.** -/
theorem readNodes_nodeArray (ns : List Node) (r : List Char) :
    readNodes (nodeArray ns ++ r) = .ok (ns, r) := by
  cases ns with
  | nil => rfl
  | cons node nodes =>
    have harray : nodeArray (node :: nodes) ++ r = '[' :: '\n' ::
        (nodeObject node ++ ((nodes.map nodeObject).flatMap nextLine ++ ('\n' :: ']' :: r))) := by
      simp [nodeArray, commaLines_cons]
    have htoken (s : List Char) : readToken ('[' :: s) = .ok (.openArray, s) := rfl
    obtain ⟨t, ht, hlength⟩ := skipBlanks_nodeObject node
      ((nodes.map nodeObject).flatMap nextLine ++ ('\n' :: ']' :: r))
    have hfuel : nodes.length < ('\x7b' :: t).length + 1 := by
      have hlines := length_le_flatMap_nextLine (nodes.map nodeObject)
      rw [List.length_map] at hlines
      rw [List.length_append] at hlength
      rw [List.length_cons]
      omega
    have hclose : skipBlanks ('\n' :: ']' :: r) = ']' :: r := rfl
    have hread := @readNodesWithin_lines node _ _ _ _ hfuel hclose
    rw [← readNodesWithin_skipBlanks, ht] at hread
    rw [harray, readNodes, htoken]
    simp only [skipBlanks_cons_of_isBlank (c := '\n') rfl, ht]
    exact hread

/-- **An export is read back**: decoding the JSON text of a list of nodes gives the list. -/
theorem decodeNodes_renderContext (ns : List Node) :
    decodeNodes (renderContext ns .json) = .ok ns := by
  have h := readNodes_nodeArray ns []
  rw [List.append_nil] at h
  rw [decodeNodes, decode, renderContext, String.toList_ofList, h]
  rfl

end Json
end SyntaxGraph
