import Mathlib.Data.List.Basic
import SyntaxGraph.Node

/-!
# What a node id says

An id joins four texts with `@` and escapes nothing, while file paths may hold `@`, digits and whole
ids.  It can still be read, from the right: no digit is `@`, so the last two `@` are the ones that
were written; and the kinds of the grammars hold no `@` unless they are the single token `@`, so what
is left falls apart into the path and the kind.

## What is here

* `IsPlainKind` — the kinds for which this works.
* `split_inj` — splitting at the last separator.
* `nodeId_injective` — an id determines the path, the kind and the start, hence `nodeId_eq_iff`.
-/

set_option autoImplicit false
namespace SyntaxGraph

/-- A kind as the grammars have them: not empty, and without `@` unless it is `@` itself. -/
def IsPlainKind (kind : String) : Prop :=
  kind ≠ "" ∧ ('@' ∉ kind.toList ∨ kind = "@")

instance (kind : String) : Decidable (IsPlainKind kind) :=
  inferInstanceAs (Decidable (_ ∧ _))

/-- A list is split at its last separator in one way only. -/
theorem split_inj {α : Type} {x : α} {a b a' b' : List α} (h : a ++ x :: b = a' ++ x :: b')
    (hb : x ∉ b) (hb' : x ∉ b') : a = a' ∧ b = b' := by
  -- the shorter of the two tails would have to hold the other's separator
  rcases List.append_eq_append_iff.1 h with ⟨m, rfl, hm⟩ | ⟨m, rfl, hm⟩
  · cases m with
    | nil =>
      rw [List.nil_append, List.cons.injEq] at hm
      exact ⟨(List.append_nil a).symm, hm.2⟩
    | cons y m =>
      rw [List.cons_append, List.cons.injEq] at hm
      exact absurd (hm.2 ▸ List.mem_append_right m List.mem_cons_self) hb
  · cases m with
    | nil =>
      rw [List.nil_append, List.cons.injEq] at hm
      exact ⟨List.append_nil a', hm.2.symm⟩
    | cons y m =>
      rw [List.cons_append, List.cons.injEq] at hm
      exact absurd (hm.2 ▸ List.mem_append_right m List.mem_cons_self) hb'

theorem Decimal.notMem_digits {c : Char} (hc : c.isDigit = false) (n : Nat) :
    c ∉ Decimal.digits n := by
  intro h
  have := Nat.isDigit_of_mem_toDigits (by decide) (by decide) h
  rw [hc] at this
  exact Bool.false_ne_true this

theorem Decimal.digits_inj {m n : Nat} (h : Decimal.digits m = Decimal.digits n) : m = n := by
  rw [← Decimal.value_digits m, h, Decimal.value_digits]

theorem toList_nodeId (filepath kind : String) (start : Point) :
    (nodeId filepath kind start).toList =
      (((filepath.toList ++ '@' :: kind.toList) ++ '@' :: Decimal.digits start.row.toNat) ++
        '@' :: Decimal.digits start.col.toNat) := by
  simp [nodeId, Decimal.ofNat]

/-- A path and a plain kind can be told apart. -/
theorem path_kind_inj {f f' k k' : String} (hk : IsPlainKind k) (hk' : IsPlainKind k')
    (h : f.toList ++ '@' :: k.toList = f'.toList ++ '@' :: k'.toList) : f = f' ∧ k = k' := by
  -- the last character of a kind that is not `@` is not `@` either
  have hlast {a b : List Char} {s : String} (hs : s ≠ "") (hat : '@' ∉ s.toList)
      (he : a ++ ['@', '@'] = b ++ '@' :: s.toList) : False := by
    have hne : s.toList ≠ [] := by simpa using hs
    have hl := congrArg List.getLast? he
    rw [List.getLast?_append_of_ne_nil _ (by simp), List.getLast?_append_of_ne_nil _ (by simp),
      List.getLast?_cons_of_ne_nil hne, List.getLast?_eq_some_getLast hne] at hl
    simp only [List.getLast?_cons_cons, List.getLast?_singleton, Option.some.injEq] at hl
    exact hat (hl ▸ List.getLast_mem hne)
  rcases hk.2 with hat | rfl
  · rcases hk'.2 with hat' | rfl
    · obtain ⟨hf, hkk⟩ := split_inj h hat hat'
      exact ⟨String.toList_inj.1 hf, String.toList_inj.1 hkk⟩
    · exact (hlast hk.1 hat h.symm).elim
  · rcases hk'.2 with hat' | rfl
    · exact (hlast hk'.1 hat' h).elim
    · exact ⟨String.toList_inj.1 (List.append_cancel_right h), rfl⟩

/-- **An id determines what it was made from.** -/
theorem nodeId_injective {f f' k k' : String} {p p' : Point} (hk : IsPlainKind k)
    (hk' : IsPlainKind k') (h : nodeId f k p = nodeId f' k' p') : f = f' ∧ k = k' ∧ p = p' := by
  have hl := congrArg String.toList h
  rw [toList_nodeId, toList_nodeId] at hl
  obtain ⟨hl, hcol⟩ := split_inj hl (Decimal.notMem_digits rfl _) (Decimal.notMem_digits rfl _)
  obtain ⟨hl, hrow⟩ := split_inj hl (Decimal.notMem_digits rfl _) (Decimal.notMem_digits rfl _)
  obtain ⟨hf, hkk⟩ := path_kind_inj hk hk' hl
  refine ⟨hf, hkk, ?_⟩
  cases p
  cases p'
  rw [Point.mk.injEq]
  exact ⟨UInt64.toNat_inj.1 (Decimal.digits_inj hrow), UInt64.toNat_inj.1 (Decimal.digits_inj hcol)⟩

/-- **Ids agree exactly if all they are made from does.**  The paths may be any texts. -/
theorem nodeId_eq_iff {f f' k k' : String} {r c r' c' : UInt64} (hk : IsPlainKind k)
    (hk' : IsPlainKind k') :
    nodeId f k ⟨r, c⟩ = nodeId f' k' ⟨r', c'⟩ ↔ f = f' ∧ k = k' ∧ r = r' ∧ c = c' := by
  constructor
  · intro h
    obtain ⟨hf, hkk, hp⟩ := nodeId_injective hk hk' h
    rw [Point.mk.injEq] at hp
    exact ⟨hf, hkk, hp⟩
  · rintro ⟨rfl, rfl, rfl, rfl⟩
    rfl

/-- The path of the one holds an id of the other, up to its column. -/
theorem nodeId_eq_iff_decorator :
    IsPlainKind "@" ∧ IsPlainKind "decorator" ∧
      (nodeId "a.ts@decorator@1" "@" ⟨1, 2⟩ = nodeId "a.ts" "decorator" ⟨1, 2⟩ ↔
        "a.ts@decorator@1" = "a.ts" ∧ "@" = "decorator" ∧ (1 : UInt64) = 1 ∧ (2 : UInt64) = 2) := by
  have hat : IsPlainKind "@" := by decide
  have hdecorator : IsPlainKind "decorator" := by decide
  exact ⟨hat, hdecorator, nodeId_eq_iff hat hdecorator⟩

-- Neither a kind that holds `@` nor an empty one could be told from the path.
example : nodeId "a" "b@c" ⟨0, 0⟩ = nodeId "a@b" "c" ⟨0, 0⟩ := by decide
example : nodeId "a@" "" ⟨0, 0⟩ = nodeId "a" "@" ⟨0, 0⟩ := by decide

end SyntaxGraph
