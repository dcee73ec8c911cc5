import SyntaxGraph.Proofs.Disk.Arrival

/-!
# What a path is found to lead to

A path is followed for one of two purposes: to see what stands at its end, be it a link, or to get to
what it leads to, links followed.  Whatever is found stands on the disk where it is found.  The two
purposes differ only at a link that the path ends in, so what is no link is found for either of them, and
a path that leads somewhere has something at its end.

## What is here

* `Disk.entry?_of_find` — what is found stands there.
* `Disk.find_reach_of_inspect`, `Disk.find_inspect_of_reach` — from one purpose to the other.
-/

set_option autoImplicit false
namespace SyntaxGraph
namespace Disk

variable {d : Disk} {purpose : Purpose} {links : Nat} {here x : RealPath} {steps : List Bytes}
  {e : Entry} {p : Path}

/-! ## Where it stands -/

theorem entry?_of_descend (hhere : d.shape? here = some .dir)
    (h : d.descend purpose links here steps = .ok (.found x e)) : d.entry? x = some e := by
  -- the directory that the steps are followed from is there, all the way
  fun_induction descend d purpose links here steps with
  | case1 links here =>
    cases h
    obtain ⟨es, hes⟩ := shape?_eq_dir.1 hhere
    rw [hes, Option.getD_some]
  | case2 links here n rest hn ih => exact ih hhere h
  | case3 links here rest hn ih => exact ih (shape?_dropLast hhere) h
  | case8 links here n rest hn hup hwrite hlength es he ih =>
    exact ih (shape?_eq_dir.2 ⟨es, he⟩) h
  | case9 links here n rest hn hup hwrite hlength target he hend =>
    cases h
    exact he
  | case11 here n rest hn hup hwrite hlength target he hend links ih =>
    exact ih (shape?_jump hhere target) h
  | case12 links here n hn hup hlength e' hdir hlink he hend =>
    cases h
    exact he
  | case4 | case5 | case6 | case7 | case10 | case13 => cases h

/-- **What is found stands there**, if the working directory does. -/
theorem entry?_of_find (hcwd : d.shape? d.cwd = some .dir) (h : d.find p purpose = .ok (x, e)) :
    d.entry? x = some e :=
  entry?_of_descend (shape?_origin hcwd p) (find_eq_ok_iff.1 h).2

/-! ## From one purpose to the other -/

theorem descend_reach_of_inspect (he : ∀ target, e ≠ .link target)
    (h : d.descend .inspect links here steps = .ok (.found x e)) :
    d.descend .reach links here steps = .ok (.found x e) := by
  fun_induction descend d .inspect links here steps with
  | case1 links here =>
    rw [descend]
    exact h
  | case2 links here n rest hn ih =>
    rw [descend_stay hn]
    exact ih h
  | case3 links here rest hn ih =>
    rw [descend_up]
    exact ih h
  | case8 links here n rest hn hup hwrite hlength es hes ih =>
    rw [descend_name ⟨by simpa using hn, hup⟩ (Nat.not_lt.1 hlength), hes]
    exact ih h
  | case9 links here n rest hn hup hwrite hlength target hlink hend =>
    cases h
    exact absurd rfl (he target)
  | case11 here n rest hn hup hwrite hlength target hlink hend links ih =>
    rw [descend_name ⟨by simpa using hn, hup⟩ (Nat.not_lt.1 hlength), hlink]
    exact ih h
  | case12 links here n hn hup hlength e' hdir hlink he' hend =>
    cases h
    rw [descend_name ⟨by simpa using hn, hup⟩ (Nat.not_lt.1 hlength), he']
    cases e with
    | dir es => exact absurd rfl (hdir es)
    | link target => exact absurd rfl (he target)
    | file id => rfl
    | pipe => rfl
  | case4 | case5 | case6 | case7 | case10 | case13 => cases h

/-- **What is no link** is found for either purpose. -/
theorem find_reach_of_inspect (he : ∀ target, e ≠ .link target)
    (h : d.find p .inspect = .ok (x, e)) : d.find p .reach = .ok (x, e) := by
  rw [find_eq_ok_iff] at h ⊢
  exact ⟨h.1, descend_reach_of_inspect he h.2⟩

theorem descend_inspect_of_reach (h : d.descend .reach links here steps = .ok (.found x e)) :
    ∃ x' e', d.descend .inspect links here steps = .ok (.found x' e') := by
  fun_induction descend d .reach links here steps with
  | case1 links here =>
    rw [descend]
    exact ⟨_, _, rfl⟩
  | case2 links here n rest hn ih =>
    rw [descend_stay hn]
    exact ih h
  | case3 links here rest hn ih =>
    rw [descend_up]
    exact ih h
  | case8 links here n rest hn hup hwrite hlength es hes ih =>
    rw [descend, if_neg hn, if_neg hup, if_neg (by simp), if_neg hlength, hes]
    exact ih h
  | case11 here n rest hn hup hwrite hlength target hlink hend links ih =>
    rw [descend, if_neg hn, if_neg hup, if_neg (by simp), if_neg hlength, hlink]
    by_cases hrest : rest = []
    · simp only [hrest, and_self, if_true]
      exact ⟨_, _, rfl⟩
    · simp only [hrest, false_and, if_false]
      exact ih h
  | case12 links here n hn hup hlength e' hdir hlink he' hend =>
    rw [descend, if_neg hn, if_neg hup, if_neg (by simp), if_neg hlength, he']
    cases e' with
    | dir es => exact absurd rfl (hdir es)
    | link target => exact absurd rfl (hlink target)
    | file id => exact ⟨_, _, rfl⟩
    | pipe => exact ⟨_, _, rfl⟩
  | case9 links here n rest hn hup hwrite hlength target hlink hend => exact absurd hend.2 (by simp)
  | case4 | case5 | case6 | case7 | case10 | case13 => cases h

/-- **A path that leads somewhere** has something at its end. -/
theorem find_inspect_of_reach (h : d.find p .reach = .ok (x, e)) :
    ∃ x' e', d.find p .inspect = .ok (x', e') := by
  simp only [find_eq_ok_iff] at h ⊢
  obtain ⟨x', e', h'⟩ := descend_inspect_of_reach h.2
  exact ⟨x', e', h.1, h'⟩

end Disk
end SyntaxGraph
