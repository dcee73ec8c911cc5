import Mathlib.Algebra.Group.Nat.Defs
import Mathlib.Data.List.Basic
import SyntaxGraph.Path

/-!
# What the text of a path keeps

The text of a path is the forgiving reading of its bytes, in which different names may come to look
the same.  What it keeps is how the path is put together.  A slash ends whatever character was under
way before it and begins no other, so the reading can be cut at slashes; and a character of several
bytes is beyond ASCII, so no slash and no dot appears that was not there.  A name therefore never
reads as the empty name or as `.`, unless it is.

## What is here

* `Utf8.Begun.IsWide` — a character of several bytes, once it is begun.
* `Utf8.scan_append` — cutting at an ASCII byte, hence `Utf8.shown_append_slash`.
* `Utf8.slash_notMem_shown`, `Utf8.shown_ne_nil`, `Utf8.shown_ne_dot` — names.
-/

set_option autoImplicit false
namespace SyntaxGraph
namespace Utf8

/-- The characters of the forgiving reading. -/
def shown (bs : Bytes) : List Char :=
  (pieces bs).map Piece.shown

theorem toList_lossy (bs : Bytes) : (lossy bs).toList = shown bs :=
  String.toList_ofList

/-! ## Characters of several bytes -/

/-- A character under way that has a byte above ASCII next and a code beyond ASCII at its end. -/
structure Begun.IsWide (o : Begun) : Prop where
  low : 0x80 ≤ o.low.toNat
  code : 0x80 ≤ (o.code * 64 + (o.low.toNat - 0x80)) * 64 ^ o.more

theorem isWide_of_lead {b : UInt8} {o : Begun} (h : lead b = some o) : o.IsWide := by
  unfold lead at h
  split_ifs at h with h₁ h₂ h₃ h₄ h₅ h₆ h₇
  all_goals cases h
  all_goals simp only [UInt8.le_iff_toNat_le, UInt8.reduceToNat] at *
  all_goals exact ⟨by simp, by simp <;> omega⟩

/-- The characters that a path is put together with. -/
def IsMark (c : Char) : Prop :=
  c = '/' ∨ c = '.'

/-- A character of one byte.  The zero character is left out, because it also stands for a code that
is none. -/
def IsAscii (c : Char) : Prop :=
  0 < c.toNat ∧ c.toNat < 0x80

instance (c : Char) : Decidable (IsAscii c) :=
  inferInstanceAs (Decidable (0 < c.toNat ∧ c.toNat < 0x80))

theorem IsMark.isAscii {c : Char} (h : IsMark c) : IsAscii c := by
  rcases h with rfl | rfl
  all_goals exact ⟨by decide, by decide⟩

theorem toNat_ofNat_of_isValidChar {n : Nat} (h : n.isValidChar) : (Char.ofNat n).toNat = n := by
  rw [Char.ofNat, dif_pos h]
  rfl

theorem not_isAscii_ofNat {n : Nat} (h : 0x80 ≤ n) : ¬IsAscii (Char.ofNat n) := by
  rintro ⟨hpos, hlt⟩
  by_cases hvalid : n.isValidChar
  · rw [toNat_ofNat_of_isValidChar hvalid] at hlt
    omega
  · rw [Char.ofNat, dif_neg hvalid] at hpos
    exact absurd hpos (by decide)

theorem not_isAscii_broken (bs : Bytes) : ¬IsAscii (Piece.broken bs).shown := by
  show ¬IsAscii (Char.ofNat 0xFFFD)
  exact not_isAscii_ofNat (by decide)

theorem not_isMark_ofNat {n : Nat} (h : 0x80 ≤ n) : ¬IsMark (Char.ofNat n) :=
  fun hmark => not_isAscii_ofNat h hmark.isAscii

theorem not_isMark_broken (bs : Bytes) : ¬IsMark (Piece.broken bs).shown :=
  fun hmark => not_isAscii_broken bs hmark.isAscii

/-- Where no character is under way, only an ASCII byte gives a mark. -/
theorem of_mem_fresh {b : UInt8} {x : Piece} (hx : x ∈ (fresh b).1) (hmark : IsMark x.shown) :
    b < 0x80 ∧ x = .char (Char.ofNat b.toNat) := by
  rw [fresh] at hx
  split at hx
  · rename_i hb
    exact ⟨hb, List.mem_singleton.1 hx⟩
  · split at hx
    · cases hx
    · rw [List.mem_singleton.1 hx] at hmark
      exact absurd hmark (not_isMark_broken _)

theorem isWide_of_fresh {b : UInt8} {o : Begun} (h : (fresh b).2 = some o) : o.IsWide := by
  rw [fresh] at h
  split at h
  · cases h
  · split at h
    · rename_i hlead
      cases h
      exact isWide_of_lead hlead
    · cases h

/-- One more byte of a wide character. -/
theorem Begun.IsWide.next {o : Begun} (ho : o.IsWide) {b : UInt8} (hb : o.low ≤ b) :
    0x80 ≤ (o.code * 64 + (b.toNat - 0x80)) * 64 ^ o.more := by
  have hle : o.code * 64 + (o.low.toNat - 0x80) ≤ o.code * 64 + (b.toNat - 0x80) := by
    have := UInt8.le_iff_toNat_le.1 hb
    omega
  exact Nat.le_trans ho.code (Nat.mul_le_mul_right _ hle)

/-- After any byte, the character that is under way is a wide one. -/
theorem isWide_of_step {s : Option Begun} (hs : ∀ o, s = some o → o.IsWide) {b : UInt8} {o' : Begun}
    (h : (step s b).2 = some o') : o'.IsWide := by
  cases s with
  | none => exact isWide_of_fresh h
  | some o =>
    rw [step] at h
    split at h
    · rename_i hb
      have hnext := (hs o rfl).next hb.1
      cases hmore : o.more with
      | zero =>
        simp only [hmore] at h
        cases h
      | succ k =>
        simp only [hmore, Option.some.injEq] at h
        subst h
        refine ⟨by simp, ?_⟩
        rw [hmore, Nat.pow_succ] at hnext
        simp only [UInt8.reduceToNat, Nat.sub_self, Nat.add_zero]
        rwa [Nat.mul_assoc, Nat.mul_comm 64]
    · exact isWide_of_fresh h

/-- Only an ASCII byte gives a mark. -/
theorem of_mem_step {s : Option Begun} (hs : ∀ o, s = some o → o.IsWide) {b : UInt8} {x : Piece}
    (hx : x ∈ (step s b).1) (hmark : IsMark x.shown) :
    b < 0x80 ∧ x = .char (Char.ofNat b.toNat) := by
  cases s with
  | none => exact of_mem_fresh hx hmark
  | some o =>
    rw [step] at hx
    split at hx
    · rename_i hb
      have hnext := (hs o rfl).next hb.1
      cases hmore : o.more with
      | zero =>
        simp only [hmore, List.mem_singleton] at hx
        rw [hmore, Nat.pow_zero, Nat.mul_one] at hnext
        rw [hx] at hmark
        exact absurd hmark (not_isMark_ofNat hnext)
      | succ k =>
        simp only [hmore] at hx
        cases hx
    · rcases List.mem_cons.1 hx with rfl | hx
      · exact absurd hmark (not_isMark_broken _)
      · exact of_mem_fresh hx hmark

/-! ## Cutting at an ASCII byte -/

theorem fresh_of_ascii {b : UInt8} (hb : b < 0x80) :
    fresh b = ([.char (Char.ofNat b.toNat)], none) :=
  if_pos hb

/-- An ASCII byte reads as itself. -/
theorem toNat_of_ascii {b : UInt8} (hb : b < 0x80) : (Char.ofNat b.toNat).toNat = b.toNat := by
  have hlt : b.toNat < 0x80 := UInt8.lt_iff_toNat_lt.1 hb
  exact toNat_ofNat_of_isValidChar (.inl (by omega))

/-- An ASCII byte ends the character that is under way. -/
theorem scan_ascii {s : Option Begun} (hs : ∀ o, s = some o → o.IsWide) {b : UInt8} (hb : b < 0x80)
    (rest : Bytes) :
    scan s (b :: rest) = scan s [] ++ .char (Char.ofNat b.toNat) :: scan none rest := by
  cases s with
  | none =>
    rw [scan_cons, step, fresh_of_ascii hb]
    rfl
  | some o =>
    have hlow : ¬(o.low ≤ b ∧ b ≤ o.high) := by
      intro h
      have := UInt8.le_iff_toNat_le.1 h.1
      have := UInt8.lt_iff_toNat_lt.1 hb
      have := (hs o rfl).low
      simp only [UInt8.reduceToNat] at *
      omega
    rw [scan_cons, step, if_neg hlow, fresh_of_ascii hb]
    rfl

/-- **A reading can be cut at an ASCII byte.** -/
theorem scan_append {s : Option Begun} (hs : ∀ o, s = some o → o.IsWide) (a : Bytes) {b : UInt8}
    (hb : b < 0x80) (rest : Bytes) :
    scan s (a ++ b :: rest) = scan s a ++ .char (Char.ofNat b.toNat) :: scan none rest := by
  induction a generalizing s with
  | nil => exact scan_ascii hs hb rest
  | cons c a ih =>
    rw [List.cons_append, scan_cons, scan_cons, ih fun o ho => isWide_of_step hs ho,
      List.append_assoc]

theorem shown_append_slash (a rest : Bytes) :
    shown (a ++ Path.slash :: rest) = shown a ++ '/' :: shown rest := by
  rw [shown, pieces, scan_append (by simp) a (by decide), List.map_append]
  rfl

/-! ## Names -/

/-- A mark in the reading is a byte of what is read. -/
theorem mem_of_isMark {s : Option Begun} (hs : ∀ o, s = some o → o.IsWide) {bs : Bytes} {x : Piece}
    (hx : x ∈ scan s bs) (hmark : IsMark x.shown) :
    ∃ b ∈ bs, b < 0x80 ∧ x = .char (Char.ofNat b.toNat) := by
  induction bs generalizing s with
  | nil =>
    cases s with
    | none => cases hx
    | some o =>
      rw [scan, List.mem_singleton] at hx
      rw [hx] at hmark
      exact absurd hmark (not_isMark_broken _)
  | cons b bs ih =>
    rw [scan_cons, List.mem_append] at hx
    rcases hx with hx | hx
    · exact ⟨b, List.mem_cons_self, of_mem_step hs hx hmark⟩
    · obtain ⟨b', hb', hascii⟩ := ih (fun o ho => isWide_of_step hs ho) hx
      exact ⟨b', List.mem_cons_of_mem b hb', hascii⟩

/-- What is under way comes to something, and not to an ASCII character. -/
theorem scan_some {o : Begun} (ho : o.IsWide) (bs : Bytes) :
    ∃ x xs, scan (some o) bs = x :: xs ∧ ¬IsAscii x.shown := by
  induction bs generalizing o with
  | nil => exact ⟨_, _, rfl, not_isAscii_broken _⟩
  | cons b bs ih =>
    have hs : ∀ o', some o = some o' → o'.IsWide := by
      intro o' h
      cases h
      exact ho
    have hwide : ∀ o', (step (some o) b).2 = some o' → o'.IsWide := fun o' => isWide_of_step hs
    rw [scan_cons]
    rw [step] at hwide ⊢
    split
    · rename_i hb
      rw [if_pos hb] at hwide
      have hnext := ho.next hb.1
      cases hmore : o.more with
      | zero =>
        rw [hmore, Nat.pow_zero, Nat.mul_one] at hnext
        exact ⟨_, _, rfl, not_isAscii_ofNat hnext⟩
      | succ k =>
        simp only [hmore] at hwide
        exact ih (hwide _ rfl)
    · exact ⟨_, _, rfl, not_isAscii_broken _⟩

/-- How the reading of a name begins: with its first byte, if that is ASCII, and else not with an ASCII
character. -/
theorem pieces_cons (b : UInt8) (bs : Bytes) :
    b < 0x80 ∧ pieces (b :: bs) = .char (Char.ofNat b.toNat) :: pieces bs ∨
      ∃ x xs, pieces (b :: bs) = x :: xs ∧ ¬IsAscii x.shown := by
  rw [pieces, scan_cons, step]
  by_cases hb : b < 0x80
  · rw [fresh_of_ascii hb]
    exact .inl ⟨hb, rfl⟩
  · rw [fresh, if_neg hb]
    cases hlead : lead b with
    | none => exact .inr ⟨_, _, rfl, not_isAscii_broken _⟩
    | some o => exact .inr (scan_some (isWide_of_lead hlead) bs)

theorem shown_ne_nil {n : Bytes} (hn : n ≠ []) : shown n ≠ [] := by
  obtain ⟨b, bs, rfl⟩ := List.exists_cons_of_ne_nil hn
  rcases pieces_cons b bs with ⟨-, h⟩ | ⟨x, xs, h, -⟩
  · simp [shown, h]
  · simp [shown, h]

/-- **Only `.` reads as `.`** -/
theorem shown_ne_dot {n : Bytes} (hn : n ≠ [Path.dot]) : shown n ≠ ['.'] := by
  intro h
  cases n with
  | nil => cases h
  | cons b bs =>
    rcases pieces_cons b bs with ⟨hb, hpieces⟩ | ⟨x, xs, hpieces, hmark⟩
    · rw [shown, hpieces, List.map_cons, List.cons.injEq] at h
      have hbs : bs = [] := by
        by_contra hne
        exact shown_ne_nil hne h.2
      have hdot : b = Path.dot := by
        rw [← UInt8.toNat_inj, ← toNat_of_ascii hb]
        exact congrArg Char.toNat h.1
      exact hn (by rw [hbs, hdot])
    · rw [shown, hpieces, List.map_cons, List.cons.injEq] at h
      exact hmark (IsMark.isAscii (.inr h.1))

/-- **A name without a slash reads as one.** -/
theorem slash_notMem_shown {n : Bytes} (hn : Path.slash ∉ n) : '/' ∉ shown n := by
  intro h
  obtain ⟨x, hx, hshown⟩ := List.mem_map.1 h
  obtain ⟨b, hb, hascii, rfl⟩ := mem_of_isMark (by simp) hx (.inl hshown)
  have hslash : b = Path.slash := by
    rw [← UInt8.toNat_inj, ← toNat_of_ascii hascii]
    exact congrArg Char.toNat hshown
  exact hn (hslash ▸ hb)

end Utf8
end SyntaxGraph
