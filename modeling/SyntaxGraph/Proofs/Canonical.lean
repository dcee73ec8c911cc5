import SyntaxGraph.Proofs.Resolve

/-!
# One spelling for each place named

A path that is made absolute names a list of segments: what stands between its slashes, without the empty
stretches and without `.`.  The canonical spelling is a function of that list, and the list can be read
off it again.  So two paths have one canonical spelling exactly if they name the same segments, and a
canonical spelling is its own, from whatever directory it is seen.

What a segment `..` stands for depends on the links on the way, so it is kept like a name.

## What is here

* `Path.named` — the segments that a path names, and `Path.named_absolute` — those of a path seen from
  elsewhere.
* `Path.named_spell` — a canonical spelling names the segments that it spells.
* `Path.resolve_canonical` — the main result.
-/

set_option autoImplicit false
namespace SyntaxGraph
namespace Path

/-- The segments of a path in order, without the empty ones and without `.` -/
def named (p : Path) : List Bytes :=
  SyntaxGraph.solid (splitSlash p.bytes)

/-- A path that is joined to another names its segments behind those of the other. -/
theorem named_join (p : Path) {q : Path} (hq : q.isAbsolute = false) :
    (p.join q).named = p.named ++ q.named := by
  rw [join, if_neg (by rw [hq]; exact Bool.false_ne_true)]
  split
  · rename_i hend
    rcases hend with hempty | hslash
    · simp only [named, hempty, List.nil_append]
      rfl
    · obtain ⟨init, hinit⟩ := List.getLast?_eq_some_iff.1 hslash
      -- what follows the slash in the first path is empty
      have hp : p.named = SyntaxGraph.solid (splitSlash init) := by
        rw [named, hinit, splitSlash_append, Disk.solid_append]
        exact List.append_nil _
      rw [hp]
      simp only [named, hinit, List.append_assoc, List.singleton_append, splitSlash_append,
        Disk.solid_append]
  · simp only [named, splitSlash_append, Disk.solid_append]

theorem named_absolute (cwd p : Path) :
    (absolute cwd p).named = if p.isAbsolute then p.named else cwd.named ++ p.named := by
  rw [absolute]
  split
  · rfl
  · rename_i hp
    exact named_join cwd (Bool.not_eq_true _ ▸ hp)

/-! ## Canonical spellings -/

/-- The segments of a canonical spelling. -/
theorem splitSlash_spell {x : RealPath} (hx : ∀ n ∈ x, IsSegment n) (hne : x ≠ []) :
    splitSlash (Disk.spell x).bytes = [] :: x := by
  have hbytes : (Disk.spell x).bytes = [] ++ x.flatMap (slash :: ·) := if_neg hne
  rw [hbytes, splitSlash_flatMap List.not_mem_nil fun n hn => (hx n hn).plain]

/-- **A canonical spelling names the segments that it spells.** -/
theorem named_spell {x : RealPath} (hx : ∀ n ∈ x, IsSegment n) : (Disk.spell x).named = x := by
  by_cases hne : x = []
  · subst hne
    rfl
  · rw [named, splitSlash_spell hx hne, SyntaxGraph.solid]
    rw [List.filter_cons_of_neg (by decide), List.filter_eq_self]
    exact fun n hn => by rw [(hx n hn).solid]; rfl

theorem isSegment_of_mem_named {p : Path} {n : Bytes} (h : n ∈ p.named) : IsSegment n :=
  isSegment_of_mem_solid h

/-- An absolute path is spelled anew from the segments it names, wherever it is seen from. -/
theorem resolve_of_isAbsolute (cwd : Path) {p : Path} (hp : p.isAbsolute) :
    resolve cwd p = Disk.spell p.named := by
  have hself (cwd' : Path) : absolute cwd' p = p := if_pos hp
  calc
    resolve cwd p = resolve p p := by rw [resolve, hself, resolve, hself]
    _ = Disk.spell (absolute p p).named := resolve_eq_spell hp p
    _ = Disk.spell p.named := by rw [hself]

/-- **A path has one canonical spelling.**  It begins with a slash, ends in none and has no empty segment
and no `.`, unless it is that of the root.  It names what the path names, once that is made absolute:
every `..` and every name, in order.  It is its own canonical spelling, from any directory.  And two paths
have the same one exactly if they name the same. -/
theorem resolve_canonical {cwd : Path} (hcwd : cwd.isAbsolute) (p : Path) :
    (resolve cwd p).isAbsolute ∧
    ((resolve cwd p).bytes = [slash] ∨ (resolve cwd p).bytes.getLast? ≠ some slash ∧
      ∃ names, splitSlash (resolve cwd p).bytes = [] :: names ∧ ∀ n ∈ names, n ≠ [] ∧ n ≠ [dot]) ∧
    (resolve cwd p).named = (absolute cwd p).named ∧
    (absolute cwd p).named = (if p.isAbsolute then p.named else cwd.named ++ p.named) ∧
    (∀ cwd', resolve cwd' (resolve cwd p) = resolve cwd p) ∧
    ∀ q, resolve cwd p = resolve cwd q ↔ (absolute cwd p).named = (absolute cwd q).named := by
  have hspell (q : Path) : resolve cwd q = Disk.spell (absolute cwd q).named := resolve_eq_spell hcwd q
  have hsegments (q : Path) : ∀ n ∈ (absolute cwd q).named, IsSegment n :=
    fun n hn => isSegment_of_mem_named hn
  have hnamed (q : Path) : (resolve cwd q).named = (absolute cwd q).named := by
    rw [hspell, named_spell (hsegments q)]
  refine ⟨?_, ?_, hnamed p, named_absolute cwd p, fun cwd' => ?_, fun q => ⟨fun h => ?_, fun h => ?_⟩⟩
  · rw [hspell]
    exact isAbsolute_spell _
  · rw [hspell]
    by_cases hne : (absolute cwd p).named = []
    · exact .inl (by rw [hne]; rfl)
    · refine .inr ⟨getLast?_spell_ne_slash (hsegments p) hne, _, splitSlash_spell (hsegments p) hne, ?_⟩
      exact fun n hn => ⟨(hsegments p n hn).nonempty, (hsegments p n hn).ne_dot⟩
  · have habsolute : (resolve cwd p).isAbsolute := by
      rw [hspell]
      exact isAbsolute_spell _
    rw [resolve_of_isAbsolute cwd' habsolute, hnamed, hspell]
  · rw [← hnamed p, h, hnamed q]
  · rw [hspell p, h, hspell q]

/-- The directory `/w` and the path `.//a/../b/.`, whose canonical spelling is `/w/a/../b` -/
theorem resolve_canonical_dotted :
    (ofString "/w").isAbsolute ∧ (resolve (ofString "/w") (ofString ".//a/../b/.")).named =
      (absolute (ofString "/w") (ofString ".//a/../b/.")).named ∧
      resolve (ofString "/w") (ofString ".//a/../b/.") = ofString "/w/a/../b" :=
  ⟨by decide, (resolve_canonical (by decide) _).2.2.1, by decide⟩

end Path
end SyntaxGraph
