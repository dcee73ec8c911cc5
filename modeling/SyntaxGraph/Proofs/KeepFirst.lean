import Mathlib.Data.List.Dedup
import Mathlib.Data.Finset.Card
import SyntaxGraph.KeepFirst

/-!
# What keeping the first of each key comes to

`keepFirst` is what an insert-or-ignore store makes of the rows it is offered.  The two facts the
rest of the theory needs are how it goes along with appending, one row at a time
(`keepFirst_concat`) or a whole batch (`keepFirst_append`), and that the keys it keeps are exactly
the keys there are, each once (`mem_map_keepFirst`, `nodup_keepFirst`).  Its length is therefore the
number of keys, whatever the order of the rows (`length_keepFirst`).
-/

set_option autoImplicit false
namespace SyntaxGraph

variable {α κ : Type} [DecidableEq κ] (key : α → κ)

theorem keepFirst_sublist (l : List α) : (keepFirst key l).Sublist l := by
  induction l with
  | nil => exact List.Sublist.slnil
  | cons a l ih => exact (List.filter_sublist.trans ih).cons_cons a

theorem mem_of_mem_keepFirst {l : List α} {a : α} (h : a ∈ keepFirst key l) : a ∈ l :=
  (keepFirst_sublist key l).subset h

theorem keepFirst_cons (a : α) (l : List α) :
    keepFirst key (a :: l) = a :: (keepFirst key l).filter fun b => key b ≠ key a := rfl

/-- The kept keys are all the keys there are. -/
theorem mem_map_keepFirst {l : List α} {k : κ} :
    k ∈ (keepFirst key l).map key ↔ k ∈ l.map key := by
  induction l with
  | nil => simp [keepFirst]
  | cons a l ih =>
    rw [keepFirst_cons, List.map_cons, List.map_cons, List.mem_cons, List.mem_cons, ← ih]
    refine or_congr_right' fun hk => ?_
    simp only [List.mem_map, List.mem_filter, decide_eq_true_eq]
    constructor
    · rintro ⟨b, ⟨hb, -⟩, rfl⟩
      exact ⟨b, hb, rfl⟩
    · rintro ⟨b, hb, rfl⟩
      exact ⟨b, ⟨hb, hk⟩, rfl⟩

/-- No key is kept twice. -/
theorem nodup_keepFirst (l : List α) : ((keepFirst key l).map key).Nodup := by
  induction l with
  | nil => exact List.nodup_nil
  | cons a l ih =>
    rw [keepFirst_cons, List.map_cons, List.nodup_cons]
    refine ⟨?_, ih.sublist (List.filter_sublist.map key)⟩
    simp

/-- Of an appended list, what is kept is what has a key not seen before. -/
theorem keepFirst_append (l m : List α) :
    keepFirst key (l ++ m) =
      keepFirst key l ++ (keepFirst key m).filter fun b => key b ∉ l.map key := by
  induction l with
  | nil => simp [keepFirst]
  | cons a l ih =>
    rw [List.cons_append, keepFirst_cons, ih, List.filter_append, keepFirst_cons,
      List.cons_append, List.filter_filter]
    congr 2
    refine List.filter_congr fun b _ => ?_
    simp [not_or]

/-- Lists without a common key are kept apart. -/
theorem keepFirst_append_of_disjoint {l m : List α} (h : ∀ a ∈ l, ∀ b ∈ m, key b ≠ key a) :
    keepFirst key (l ++ m) = keepFirst key l ++ keepFirst key m := by
  rw [keepFirst_append, List.filter_eq_self.2]
  intro b hb
  simp only [List.mem_map, not_exists, not_and, decide_eq_true_eq]
  exact fun a ha hab => h a ha b (mem_of_mem_keepFirst key hb) hab.symm

/-- Batches without a common key are kept apart. -/
theorem keepFirst_flatMap {β : Type} {g : β → List α} {l : List β}
    (h : l.Pairwise fun x y => ∀ a ∈ g x, ∀ b ∈ g y, key b ≠ key a) :
    keepFirst key (l.flatMap g) = l.flatMap fun x => keepFirst key (g x) := by
  induction l with
  | nil => rfl
  | cons x l ih =>
    obtain ⟨hx, hl⟩ := List.pairwise_cons.1 h
    rw [List.flatMap_cons, List.flatMap_cons, keepFirst_append_of_disjoint, ih hl]
    intro a ha b hb
    obtain ⟨y, hy, hb⟩ := List.mem_flatMap.1 hb
    exact hx y hy a ha b hb

/-- One more row is kept exactly if its key is new. -/
theorem keepFirst_concat (l : List α) (a : α) :
    keepFirst key (l ++ [a]) =
      if key a ∈ l.map key then keepFirst key l else keepFirst key l ++ [a] := by
  rw [keepFirst_append, show keepFirst key [a] = [a] from rfl]
  split
  · rename_i h
    rw [List.filter_cons_of_neg (by simpa using h), List.filter_nil, List.append_nil]
  · rename_i h
    rw [List.filter_cons_of_pos (by simpa using h), List.filter_nil]

/-- As many rows are kept as there are keys. -/
theorem length_keepFirst (l : List α) :
    (keepFirst key l).length = (l.map key).toFinset.card := by
  rw [← List.length_map key, ← List.toFinset_card_of_nodup (nodup_keepFirst key l)]
  congr 1
  ext k
  rw [List.mem_toFinset, List.mem_toFinset, mem_map_keepFirst]

/-- Keys that are told apart are as many as what they were made from. -/
theorem card_toFinset_map {β : Type} [DecidableEq β] {f : β → κ} {l : List β}
    (h : ∀ a ∈ l, ∀ b ∈ l, f a = f b → a = b) :
    (l.map f).toFinset.card = l.toFinset.card := by
  have himage : (l.map f).toFinset = l.toFinset.image f := by
    ext k
    simp
  rw [himage, Finset.card_image_of_injOn]
  intro a ha b hb hab
  exact h a (List.mem_toFinset.1 ha) b (List.mem_toFinset.1 hb) hab

end SyntaxGraph
