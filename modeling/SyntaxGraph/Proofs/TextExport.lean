import Mathlib.Data.List.Forall2
import SyntaxGraph.Export
import SyntaxGraph.Language
import SyntaxGraph.Proofs.NodeId

/-!
# What a text export says

A context line joins a path, a kind and four positions with spaces and commas, and escapes nothing,
although paths hold spaces and so do some kinds.  It can be read from its right end: a signed number
holds neither a space nor a comma, so the four positions come off one by one.  What is left is a
path, a space and a kind, and there the extension of the path decides.  Cut at another space, either
the kind would hold both a space and the dot of the extension, or the space would stand inside the
extension.

Lines of which none holds a newline are the pieces between the newlines of the text, so a text
export can be read as a whole.

## What is here

* `Node.IsLegible` — the nodes for which this works.
* `path_kind_inj_of_extension` — the path and the kind of a line.
* `Node.contextLine_inj` — a line gives back all it shows.
* `splitOn_renderText` — a text export gives back its lines.
* `renderContext_text_unambiguous` — a text export gives back all it shows.
-/

set_option autoImplicit false
namespace SyntaxGraph

/-- A path that ends in the extension of a language. -/
def HasSourceExtension (filepath : String) : Prop :=
  ∃ e ∈ Language.all.flatMap Language.extensions, '.' :: e.toList <:+ filepath.toList

instance (filepath : String) : Decidable (HasSourceExtension filepath) :=
  inferInstanceAs (Decidable (∃ e ∈ _, _))

/-- A node whose context line can be read back: the path is that of a source file, neither path nor
kind breaks the line, and no kind holds both a space and a dot. -/
structure Node.IsLegible (n : Node) : Prop where
  extension : HasSourceExtension n.filepath
  filepath_line : '\n' ∉ n.filepath.toList
  kind_line : '\n' ∉ n.kind.toList
  kind_words : ¬ (' ' ∈ n.kind.toList ∧ '.' ∈ n.kind.toList)

theorem Node.isLegible_iff (n : Node) :
    n.IsLegible ↔ HasSourceExtension n.filepath ∧ '\n' ∉ n.filepath.toList ∧
      '\n' ∉ n.kind.toList ∧ ¬ (' ' ∈ n.kind.toList ∧ '.' ∈ n.kind.toList) :=
  ⟨fun h => ⟨h.1, h.2, h.3, h.4⟩, fun h => ⟨h.1, h.2.1, h.2.2.1, h.2.2.2⟩⟩

instance (n : Node) : Decidable n.IsLegible :=
  decidable_of_iff _ n.isLegible_iff.symm

/-! ## Numbers -/

theorem Decimal.notMem_signed {c : Char} (hc : c.isDigit = false) (hminus : c ≠ '-') (i : Int) :
    c ∉ Decimal.signed i := by
  cases i with
  | ofNat n => exact Decimal.notMem_digits hc n
  | negSucc n =>
    rw [Decimal.signed, List.mem_cons, not_or]
    exact ⟨hminus, Decimal.notMem_digits hc (n + 1)⟩

theorem Decimal.signed_inj {i j : Int} (h : Decimal.signed i = Decimal.signed j) : i = j := by
  -- digits do not start with the sign
  have hsign (m n : Nat) : Decimal.digits m ≠ '-' :: Decimal.digits n := by
    intro he
    exact Decimal.notMem_digits (c := '-') rfl m (he ▸ List.mem_cons_self)
  cases i with
  | ofNat m =>
    cases j with
    | ofNat n => exact congrArg Int.ofNat (Decimal.digits_inj h)
    | negSucc n => exact absurd h (hsign m (n + 1))
  | negSucc m =>
    cases j with
    | ofNat n => exact absurd h.symm (hsign n (m + 1))
    | negSucc n =>
      have hdigits : m + 1 = n + 1 := Decimal.digits_inj (List.cons.inj h).2
      exact congrArg Int.negSucc (Nat.succ.inj hdigits)

/-! ## Lines -/

/-- No extension holds a space. -/
theorem space_notMem_extension {e : String}
    (he : e ∈ Language.all.flatMap Language.extensions) : ' ' ∉ '.' :: e.toList := by
  revert e
  decide

/-- What follows a space of a path holds the dot of its extension. -/
theorem HasSourceExtension.dot_mem {f : String} {a b : List Char} (hf : HasSourceExtension f)
    (h : f.toList = a ++ ' ' :: b) : '.' ∈ b := by
  obtain ⟨e, he, c, hc⟩ := hf
  rw [h] at hc
  rcases List.append_eq_append_iff.1 hc with ⟨m, -, hm⟩ | ⟨m, -, hm⟩
  · -- the space would stand inside the extension
    exact absurd (hm ▸ by simp) (space_notMem_extension he)
  · have hdot : '.' ∈ ' ' :: b := hm ▸ by simp
    simpa using hdot

/-- A path and a kind that does not hold both a space and a dot can be told apart, if the path has
an extension. -/
theorem path_kind_inj_of_extension {f f' k k' : String} (hf : HasSourceExtension f)
    (hf' : HasSourceExtension f') (hk : ¬ (' ' ∈ k.toList ∧ '.' ∈ k.toList))
    (hk' : ¬ (' ' ∈ k'.toList ∧ '.' ∈ k'.toList))
    (h : f.toList ++ ' ' :: k.toList = f'.toList ++ ' ' :: k'.toList) : f = f' ∧ k = k' := by
  -- a longer path takes its extension out of the other's kind, and a space with it
  have hlonger {g g' j j' : String} {m : List Char} (hg' : HasSourceExtension g')
      (hj : ¬ (' ' ∈ j.toList ∧ '.' ∈ j.toList)) (hm : g'.toList = g.toList ++ m)
      (he : ' ' :: j.toList = m ++ ' ' :: j'.toList) : m = [] := by
    cases m with
    | nil => rfl
    | cons c m =>
      rw [List.cons_append, List.cons.injEq] at he
      obtain ⟨rfl, hjm⟩ := he
      have hdot : '.' ∈ m := hg'.dot_mem hm
      refine absurd ⟨?_, ?_⟩ hj
      · rw [hjm]
        simp
      · rw [hjm]
        exact List.mem_append_left _ hdot
  rcases List.append_eq_append_iff.1 h with ⟨m, hm, he⟩ | ⟨m, hm, he⟩
  · obtain rfl := hlonger hf' hk hm he
    rw [List.append_nil] at hm
    rw [List.nil_append, List.cons.injEq] at he
    exact ⟨String.toList_inj.1 hm.symm, String.toList_inj.1 he.2⟩
  · obtain rfl := hlonger hf hk' hm he
    rw [List.append_nil] at hm
    rw [List.nil_append, List.cons.injEq] at he
    exact ⟨String.toList_inj.1 hm, String.toList_inj.1 he.2.symm⟩

/-- Two nodes that show the same in a text export.  The ids are not shown. -/
structure Node.ShowsAs (n m : Node) : Prop where
  filepath : n.filepath = m.filepath
  kind : n.kind = m.kind
  startRow : n.startRow = m.startRow
  startCol : n.startCol = m.startCol
  endRow : n.endRow = m.endRow
  endCol : n.endCol = m.endCol

theorem Node.toList_contextLine (n : Node) :
    n.contextLine.toList =
      ((((n.filepath.toList ++ ' ' :: n.kind.toList) ++ ' ' :: Decimal.signed n.startRow.toInt) ++
        ',' :: Decimal.signed n.startCol.toInt) ++ ' ' :: Decimal.signed n.endRow.toInt) ++
          ',' :: Decimal.signed n.endCol.toInt := by
  simp [Node.contextLine, Decimal.ofInt]

/-- **A context line gives back all it shows.** -/
theorem Node.contextLine_inj {n m : Node} (hn : n.IsLegible) (hm : m.IsLegible)
    (h : n.contextLine = m.contextLine) : n.ShowsAs m := by
  have hspace (i : Int) : ' ' ∉ Decimal.signed i := Decimal.notMem_signed rfl (by decide) i
  have hcomma (i : Int) : ',' ∉ Decimal.signed i := Decimal.notMem_signed rfl (by decide) i
  have hword {i j : Int64} (hij : Decimal.signed i.toInt = Decimal.signed j.toInt) : i = j :=
    Int64.toInt_inj.1 (Decimal.signed_inj hij)
  have hl := congrArg String.toList h
  rw [Node.toList_contextLine, Node.toList_contextLine] at hl
  obtain ⟨hl, hendCol⟩ := split_inj hl (hcomma _) (hcomma _)
  obtain ⟨hl, hendRow⟩ := split_inj hl (hspace _) (hspace _)
  obtain ⟨hl, hstartCol⟩ := split_inj hl (hcomma _) (hcomma _)
  obtain ⟨hl, hstartRow⟩ := split_inj hl (hspace _) (hspace _)
  obtain ⟨hfilepath, hkind⟩ :=
    path_kind_inj_of_extension hn.extension hm.extension hn.kind_words hm.kind_words hl
  exact ⟨hfilepath, hkind, hword hstartRow, hword hstartCol, hword hendRow, hword hendCol⟩

theorem Node.IsLegible.newline_notMem {n : Node} (hn : n.IsLegible) :
    '\n' ∉ n.contextLine.toList := by
  have hnumber (i : Int) : '\n' ∉ Decimal.signed i := Decimal.notMem_signed rfl (by decide) i
  simp [Node.toList_contextLine, hn.filepath_line, hn.kind_line, hnumber]

/-! ## Texts -/

theorem toList_renderText (ns : List Node) :
    (renderText ns).toList = ['\n'].intercalate (ns.map (·.contextLine.toList)) := by
  rw [renderText, String.toList_intercalate, List.map_map]
  rfl

/-- **A text export gives back its lines.** -/
theorem splitOn_renderText {ns : List Node} (hns : ∀ n ∈ ns, n.IsLegible) (hne : ns ≠ []) :
    (renderText ns).toList.splitOn '\n' = ns.map (·.contextLine.toList) := by
  rw [toList_renderText]
  apply List.splitOn_intercalate
  · intro l hl
    obtain ⟨n, hn, rfl⟩ := List.mem_map.1 hl
    exact (hns n hn).newline_notMem
  · intro h
    exact hne (List.map_eq_nil_iff.1 h)

theorem renderText_ne_empty {ns : List Node} (hne : ns ≠ []) : renderText ns ≠ "" := by
  intro h
  have hl := congrArg String.toList h
  cases ns with
  | nil => exact hne rfl
  | cons n ns =>
    cases ns <;> simp [toList_renderText, Node.toList_contextLine] at hl

/-- The lines of two lists that come to one text are the same. -/
theorem map_contextLine_eq_of_renderText_eq {ns ms : List Node} (hns : ∀ n ∈ ns, n.IsLegible)
    (hms : ∀ m ∈ ms, m.IsLegible) (h : renderText ns = renderText ms) :
    ns.map (·.contextLine.toList) = ms.map (·.contextLine.toList) := by
  by_cases hn : ns = []
  · subst hn
    have hm : ms = [] := by
      by_contra hm
      exact renderText_ne_empty hm h.symm
    rw [hm]
  · have hm : ms ≠ [] := by
      rintro rfl
      exact renderText_ne_empty hn h
    rw [← splitOn_renderText hns hn, h, splitOn_renderText hms hm]

/-- **A text export is unambiguous.**  Two lists with the same text have the same length and show
the same, place by place; and the text of a list with a node in it is not empty and falls apart at
its newlines into one line for each node. -/
theorem renderContext_text_unambiguous {ns ms : List Node} (hns : ∀ n ∈ ns, n.IsLegible)
    (hms : ∀ m ∈ ms, m.IsLegible) :
    (renderContext ns .text = renderContext ms .text →
      ns.length = ms.length ∧ List.Forall₂ Node.ShowsAs ns ms) ∧
    (ns ≠ [] →
      (renderContext ns .text).toList.splitOn '\n' = ns.map (·.contextLine.toList) ∧
      renderContext ns .text ≠ "") := by
  refine ⟨?_, fun hne => ⟨splitOn_renderText hns hne, renderText_ne_empty hne⟩⟩
  intro h
  have hlines := map_contextLine_eq_of_renderText_eq hns hms h
  have hshown : List.Forall₂ Node.ShowsAs ns ms := by
    rw [List.forall₂_iff_get]
    have hlength : ns.length = ms.length := by simpa using congrArg List.length hlines
    refine ⟨hlength, fun i hi hi' => ?_⟩
    have hline : (ns.get ⟨i, hi⟩).contextLine.toList = (ms.get ⟨i, hi'⟩).contextLine.toList := by
      have := congrArg (·[i]?) hlines
      simpa [hi, hi'] using this
    exact Node.contextLine_inj (hns _ (List.get_mem _ _)) (hms _ (List.get_mem _ _))
      (String.toList_inj.1 hline)
  exact ⟨hshown.length_eq, hshown⟩

/-- Spaces in a path and in a kind, a kind that is a dot, and negative positions; the ids differ. -/
theorem renderContext_text_unambiguous_spaced :
    let ns : List Node := [⟨"i", "my src/a b.ts", "static get", -1, 0, 2, -9223372036854775808⟩,
      ⟨"j", ".lua", ".", 0, 0, 0, 1⟩]
    let ms := ns.map fun n => { n with id := "k" }
    (∀ n ∈ ns, n.IsLegible) ∧ (∀ m ∈ ms, m.IsLegible) ∧
      renderContext ns .text = renderContext ms .text ∧ List.Forall₂ Node.ShowsAs ns ms ∧
      (renderContext ns .text).toList.splitOn '\n' = ns.map (·.contextLine.toList) := by
  intro ns ms
  have hns : ∀ n ∈ ns, n.IsLegible := by decide
  have hms : ∀ m ∈ ms, m.IsLegible := by decide
  have htext : renderContext ns .text = renderContext ms .text := rfl
  obtain ⟨hshown, hlines⟩ := renderContext_text_unambiguous hns hms
  exact ⟨hns, hms, htext, (hshown htext).2, (hlines (by simp [ns])).1⟩

-- A kind with both a space and a dot could be taken for the end of a path.
example : (⟨"", "a.ts", "b.ts c", 0, 0, 0, 0⟩ : Node).contextLine =
    (⟨"", "a.ts b.ts", "c", 0, 0, 0, 0⟩ : Node).contextLine := by decide

end SyntaxGraph
