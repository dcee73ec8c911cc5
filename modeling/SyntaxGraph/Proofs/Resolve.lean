import SyntaxGraph.Proofs.Disk.Directories
import SyntaxGraph.Proofs.Lossy

/-!
# The canonical spelling of a path

A path seen from a working directory is spelled anew from its components: a slash in front of each,
and nothing else.  So a canonical spelling is given by a list of segments, and it is the spelling of
that list as `Disk.spell` has it.  What the segments are can be read off the path that was made
absolute: they are its segments, without the empty ones and without `.`.

Joining a name to a canonical spelling gives one again, and the text of a canonical spelling shows
its segments one by one.

## What is here

* `Path.IsSegment` — the segments that a canonical spelling has.
* `Path.join_spell` — joining a segment.
* `Path.resolve_eq_spell` — a canonical spelling is that of the segments.
* `IsCanonicalText`, `Path.isCanonicalText_spell`, `Path.text_spell_prefix` — the text of a canonical
  spelling.
-/

set_option autoImplicit false
namespace SyntaxGraph
namespace Path

/-- A segment that means something: it is not empty and not `.`, and holds no slash. -/
structure IsSegment (n : Bytes) : Prop where
  solid : isStay n = false
  plain : slash ∉ n

instance (n : Bytes) : Decidable (IsSegment n) :=
  decidable_of_iff (isStay n = false ∧ slash ∉ n) ⟨fun h => ⟨h.1, h.2⟩, fun h => ⟨h.1, h.2⟩⟩

theorem IsSegment.nonempty {n : Bytes} (h : IsSegment n) : n ≠ [] := by
  rintro rfl
  exact absurd h.solid (by decide)

theorem IsSegment.ne_dot {n : Bytes} (h : IsSegment n) : n ≠ [dot] := by
  rintro rfl
  exact absurd h.solid (by decide)

/-- The segments of a path that do not stay where they are. -/
theorem isSegment_of_mem_solid {bs n : Bytes} (h : n ∈ SyntaxGraph.solid (splitSlash bs)) :
    IsSegment n := by
  rw [SyntaxGraph.solid, List.mem_filter, Bool.not_eq_true'] at h
  exact ⟨h.2, fun hslash => (of_mem_splitSlash h.1 hslash).2 rfl⟩

/-! ## Joining -/

theorem isAbsolute_of_isSegment {n : Bytes} (h : IsSegment n) : (Path.mk n).isAbsolute = false := by
  rw [isAbsolute, beq_eq_false_iff_ne]
  exact fun hhead => h.plain (List.mem_of_mem_head? hhead)

/-- A canonical spelling ends in a slash only if it is that of the root. -/
theorem getLast?_spell_ne_slash {x : RealPath} (hx : ∀ n ∈ x, IsSegment n) (hne : x ≠ []) :
    (Disk.spell x).bytes.getLast? ≠ some slash := by
  obtain ⟨y, n, rfl⟩ := List.eq_nil_or_concat x |>.resolve_left hne
  have hn := hx n (by simp)
  rw [Disk.spell, if_neg hne, List.concat_eq_append, List.flatMap_append, List.flatMap_singleton,
    List.getLast?_append_of_ne_nil _ (List.cons_ne_nil _ _),
    List.getLast?_cons_of_ne_nil hn.nonempty]
  exact fun hl => hn.plain (List.mem_of_mem_getLast? hl)

/-- **Joining a segment** to a canonical spelling. -/
theorem join_spell {x : RealPath} {n : Bytes} (hx : ∀ m ∈ x, IsSegment m) (hn : IsSegment n) :
    (Disk.spell x).join ⟨n⟩ = Disk.spell (x ++ [n]) := by
  have hspell : Disk.spell (x ++ [n]) = ⟨x.flatMap (slash :: ·) ++ slash :: n⟩ := by
    rw [Disk.spell, if_neg (by simp), List.flatMap_append, List.flatMap_singleton]
  rw [join, isAbsolute_of_isSegment hn, if_neg Bool.false_ne_true, hspell]
  by_cases hne : x = []
  · subst hne
    rfl
  · have hbytes : (Disk.spell x).bytes = x.flatMap (slash :: ·) := if_neg hne
    rw [if_neg, hbytes]
    rintro (hnil | hlast)
    · rw [hbytes] at hnil
      obtain ⟨m, y, rfl⟩ := List.exists_cons_of_ne_nil hne
      cases hnil
    · exact getLast?_spell_ne_slash hx hne hlast

/-- Joining segments, one after the other. -/
theorem foldl_join_spell {x : RealPath} (hx : ∀ n ∈ x, IsSegment n) {cs : List Component}
    (hcs : ∀ c ∈ cs, IsSegment c.bytes) :
    cs.foldl (fun p c => p.join ⟨c.bytes⟩) (Disk.spell x) =
      Disk.spell (x ++ cs.map Component.bytes) := by
  induction cs generalizing x with
  | nil => rw [List.foldl_nil, List.map_nil, List.append_nil]
  | cons c cs ih =>
    have hc := hcs c List.mem_cons_self
    have hxc : ∀ n ∈ x ++ [c.bytes], IsSegment n :=
      List.forall_mem_append.2 ⟨hx, List.forall_mem_singleton.2 hc⟩
    rw [List.foldl_cons, join_spell hx hc, ih hxc fun c' hc' => hcs c' (List.mem_cons_of_mem c hc'),
      List.map_cons, List.append_assoc, List.singleton_append]

/-! ## Resolving -/

/-- The component of a segment is spelled as the segment. -/
theorem ofSegment?_eq (s : Bytes) :
    (Component.ofSegment? s).map Component.bytes = if isStay s then none else some s := by
  cases s with
  | nil => rfl
  | cons b s =>
    rw [Component.ofSegment?, isStay]
    split_ifs with hdot hstay hup hstay
    all_goals simp_all [Component.bytes]

/-- The components of a path behind its start are spelled as its segments, without the blank ones. -/
theorem map_bytes_filterMap (segs : List Bytes) :
    (segs.filterMap Component.ofSegment?).map Component.bytes = SyntaxGraph.solid segs := by
  rw [List.map_filterMap, SyntaxGraph.solid, ← List.filterMap_eq_filter]
  congr 1
  funext s
  rw [ofSegment?_eq]
  cases h : isStay s <;> simp [Option.guard, h]

theorem isAbsolute_absolute {cwd : Path} (hcwd : cwd.isAbsolute) (p : Path) :
    (absolute cwd p).isAbsolute := by
  rw [absolute]
  split
  · assumption
  · rename_i hp
    obtain ⟨b, bs, hbytes⟩ : ∃ b bs, cwd.bytes = b :: bs := by
      cases hb : cwd.bytes with
      | nil => simp [isAbsolute, hb] at hcwd
      | cons b bs => exact ⟨b, bs, rfl⟩
    rw [join, if_neg hp]
    rw [isAbsolute, hbytes] at hcwd
    split <;> simpa [isAbsolute, hbytes] using hcwd

theorem isAbsolute_spell (x : RealPath) : (Disk.spell x).isAbsolute := by
  rw [Disk.spell]
  split
  · rfl
  · rename_i hne
    obtain ⟨n, x, rfl⟩ := List.exists_cons_of_ne_nil hne
    rfl

/-- **The canonical spelling of a path** is that of its segments, once it is made absolute. -/
theorem resolve_eq_spell {cwd : Path} (hcwd : cwd.isAbsolute) (p : Path) :
    resolve cwd p = Disk.spell (SyntaxGraph.solid (splitSlash (absolute cwd p).bytes)) := by
  have habsolute := isAbsolute_absolute hcwd p
  have hcs : ∀ c ∈ (splitSlash (absolute cwd p).bytes).filterMap Component.ofSegment?,
      IsSegment c.bytes := by
    intro c hc
    have hmem := List.mem_map_of_mem (f := Component.bytes) hc
    rw [map_bytes_filterMap] at hmem
    exact isSegment_of_mem_solid hmem
  have hcurrent : (absolute cwd p).components.filter (· ≠ .current) =
      .root :: (splitSlash (absolute cwd p).bytes).filterMap Component.ofSegment? := by
    rw [components, if_pos habsolute, List.filter_eq_self.2]
    · rfl
    · intro c hc
      rcases List.mem_append.1 hc with hc | hc
      · rw [List.mem_singleton.1 hc]
        rfl
      · have hsegment := hcs c hc
        rw [decide_eq_true_eq]
        rintro rfl
        exact hsegment.ne_dot rfl
  rw [resolve, hcurrent, ofComponents, List.foldl_cons, ← map_bytes_filterMap]
  exact foldl_join_spell (x := []) (by simp) hcs

/-! ## The text of a canonical spelling -/

/-- The text of a canonical spelling shows a slash in front of every segment. -/
theorem toList_text_spell {x : RealPath} (hne : x ≠ []) :
    (Disk.spell x).text.toList = x.flatMap fun n => '/' :: Utf8.shown n := by
  have hbytes : (Disk.spell x).bytes = x.flatMap (slash :: ·) := if_neg hne
  rw [text, Utf8.toList_lossy, hbytes]
  clear hbytes
  -- each segment is cut off at the slash behind it
  have hcut (n : Bytes) (y : RealPath) : Utf8.shown (n ++ y.flatMap (slash :: ·)) =
      Utf8.shown n ++ y.flatMap fun n => '/' :: Utf8.shown n := by
    induction y generalizing n with
    | nil => rw [List.flatMap_nil, List.flatMap_nil, List.append_nil, List.append_nil]
    | cons m y ih =>
      rw [List.flatMap_cons, List.flatMap_cons, List.cons_append, Utf8.shown_append_slash, ih,
        List.cons_append]
  exact hcut [] x

end Path

/-- A text that leads from the root to a place, name by name: what comes before its first slash is
empty, and of the names between its slashes and behind the last one, none is empty and none is `.` -/
def IsCanonicalText (text : String) : Prop :=
  ∃ names : List (List Char), text.toList.splitOn '/' = [] :: names ∧ names ≠ [] ∧
    ∀ n ∈ names, n ≠ [] ∧ n ≠ ['.']

/-- Lists with a separator in front of each. -/
theorem intercalate_cons {α : Type} (sep : α) (a : List α) (l : List (List α)) :
    [sep].intercalate (a :: l) = a ++ l.flatMap (sep :: ·) := by
  induction l generalizing a with
  | nil => simp [List.intercalate]
  | cons b l ih =>
    have hstep : [sep].intercalate (a :: b :: l) = a ++ sep :: [sep].intercalate (b :: l) := by
      simp [List.intercalate]
    rw [hstep, ih, List.flatMap_cons, List.cons_append]

namespace Path

/-- **The text of a canonical spelling** is canonical, unless it is that of the root. -/
theorem isCanonicalText_spell {x : RealPath} (hx : ∀ n ∈ x, IsSegment n) (hne : x ≠ []) :
    IsCanonicalText (Disk.spell x).text := by
  refine ⟨x.map Utf8.shown, ?_, by simpa using hne, fun n hn => ?_⟩
  · have htext : (Disk.spell x).text.toList = ['/'].intercalate ([] :: x.map Utf8.shown) := by
      rw [toList_text_spell hne, intercalate_cons, List.flatMap_map, List.nil_append]
    rw [htext]
    refine List.splitOn_intercalate '/' (fun l hl => ?_) (List.cons_ne_nil _ _)
    rcases List.mem_cons.1 hl with rfl | hl
    · exact List.not_mem_nil
    · obtain ⟨n, hn, rfl⟩ := List.mem_map.1 hl
      exact Utf8.slash_notMem_shown (hx n hn).plain
  · obtain ⟨m, hm, rfl⟩ := List.mem_map.1 hn
    exact ⟨Utf8.shown_ne_nil (hx m hm).nonempty, Utf8.shown_ne_dot (hx m hm).ne_dot⟩

/-- The text of a longer spelling begins with that of the shorter. -/
theorem text_spell_prefix (x : RealPath) {y : RealPath} (hne : x ++ y ≠ []) :
    (Disk.spell x).text.toList <+: (Disk.spell (x ++ y)).text.toList := by
  rw [toList_text_spell hne]
  by_cases hx : x = []
  · subst hx
    obtain ⟨n, y, rfl⟩ := List.exists_cons_of_ne_nil hne
    exact ⟨Utf8.shown n ++ y.flatMap fun n => '/' :: Utf8.shown n, rfl⟩
  · rw [toList_text_spell hx, List.flatMap_append]
    exact List.prefix_append _ _

end Path
end SyntaxGraph
