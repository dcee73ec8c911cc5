import Mathlib.Data.List.Perm.Basic
import Mathlib.Order.Defs.LinearOrder
import SyntaxGraph.Store.Database

/-!
# The order of sorted exports

The store sorts rows by comparing cells of any type.  On rows that hold nodes this is the order of
`Node.compare`: the bytes of the file path, then the start row and the start column as signed
numbers.  It is a total preorder and not a linear order, since nodes of one file may start at one
place; such nodes keep the order in which they stand in the table.

## What is here

* `Node.compare`, `NodeRow.compare_ofNode` — the order, and that the store's comparison is it.
* `Node.ordered` — nodes in the order of an export, with `Database.ordered_map_ofNode`.
* `ties`, `mergeSort_eq_of_ties_eq` — a stable sort depends only on the order inside each class of
  ties.
* `Node.filepath_eq_of_compare_eq` — ties occur only inside one file.
-/

set_option autoImplicit false
namespace SyntaxGraph

open Std

namespace Node

/-- By file path, then start row, then start column. -/
def compare (a b : Node) : Ordering :=
  (Ord.compare (Utf8.ofString a.filepath) (Utf8.ofString b.filepath)).then
    ((Ord.compare a.startRow.toInt b.startRow.toInt).then
      (Ord.compare a.startCol.toInt b.startCol.toInt))

/-- Whether a node may stand before another in a sorted export. -/
def mayPrecede (a b : Node) : Bool :=
  (a.compare b).isLE

/-- Nodes in the order of an export; nodes that compare equal keep their order. -/
def ordered : ExportOrder → List Node → List Node
  | .natural, ns => ns
  | .sorted, ns => ns.mergeSort mayPrecede

end Node

/-! ## The comparison of cells -/

theorem Number.compare_ofInt (i j : Int) :
    (Number.ofInt i).compare (Number.ofInt j) = Ord.compare i j := by
  have h (k : Int) : Number.signed (decide (k < 0)) (k.natAbs * Magnitude.twoTo 0) = k := by
    have hone : k.natAbs * Magnitude.twoTo 0 = k.natAbs := Nat.mul_one _
    rw [hone]
    simp only [Number.signed, decide_eq_true_eq]
    split <;> omega
  show Ord.compare (Number.signed _ (i.natAbs * Magnitude.twoTo 0))
    (Number.signed _ (j.natAbs * Magnitude.twoTo 0)) = _
  rw [h, h]

theorem Cell.compare_text (s t : String) :
    (Cell.text s).compare (.text t) = Ord.compare (Utf8.ofString s) (Utf8.ofString t) := by
  show (Ord.compare 2 2).then (((Number.ofInt 0).compare (Number.ofInt 0)).then _) = _
  rw [Number.compare_ofInt]
  rfl

theorem Cell.compare_integer (m n : Int64) :
    (Cell.integer m).compare (.integer n) = Ord.compare m.toInt n.toInt := by
  show (Ord.compare 1 1).then (((Number.ofInt m.toInt).compare (Number.ofInt n.toInt)).then
    (Ord.compare ([] : Bytes) [])) = _
  rw [Number.compare_ofInt]
  cases Ord.compare m.toInt n.toInt <;> rfl

/-- On rows that hold nodes, the store's comparison is that of the nodes. -/
theorem NodeRow.compare_ofNode (a b : Node) :
    (NodeRow.ofNode a).compare (NodeRow.ofNode b) = a.compare b := by
  rw [NodeRow.compare, Node.compare, ← Cell.compare_text, ← Cell.compare_integer,
    ← Cell.compare_integer]
  rfl

/-- The store brings the rows of nodes into the order of the nodes. -/
theorem Database.ordered_map_ofNode (order : ExportOrder) (ns : List Node) :
    Database.ordered order (ns.map .ofNode) = (Node.ordered order ns).map .ofNode := by
  cases order with
  | natural => rfl
  | sorted =>
    refine (List.map_mergeSort fun a _ b _ => ?_).symm
    rw [Node.mayPrecede, NodeRow.compare_ofNode]

/-! ## Stable sorts

Two sorted lists that agree inside each class of ties are equal, since the classes follow each other
in a fixed order.  A stable sort leaves the inside of a class alone, so its result is determined by
the classes of what it is given. -/

section Ties

variable {α : Type} (cmp : α → α → Ordering)

/-- The elements of a list that compare equal to a given one, in order. -/
def ties (a : α) (l : List α) : List α :=
  l.filter fun b => cmp a b == .eq

theorem mem_ties {a b : α} {l : List α} : b ∈ ties cmp a l ↔ b ∈ l ∧ cmp a b = .eq := by
  simp [ties]

theorem ties_cons (a b : α) (l : List α) :
    ties cmp a (b :: l) = if cmp a b = .eq then b :: ties cmp a l else ties cmp a l := by
  simp [ties, List.filter_cons]

variable [TransCmp cmp]

theorem self_mem_ties {a : α} {l : List α} (h : a ∈ l) : a ∈ ties cmp a l :=
  (mem_ties cmp).2 ⟨h, ReflCmp.compare_self⟩

/-- The head of a sorted list comes before all its members. -/
theorem head_isLE {a b : α} {l : List α} (h : (a :: l).Pairwise fun x y => (cmp x y).isLE)
    (hb : b ∈ a :: l) : (cmp a b).isLE := by
  rcases List.mem_cons.1 hb with rfl | hb
  · have hself : cmp b b = .eq := ReflCmp.compare_self
    rw [hself]
    rfl
  · exact (List.pairwise_cons.1 h).1 b hb

/-- **Sorted lists with the same classes of ties are equal.** -/
theorem eq_of_ties_eq {l m : List α} (hl : l.Pairwise fun x y => (cmp x y).isLE)
    (hm : m.Pairwise fun x y => (cmp x y).isLE) (h : ∀ a, ties cmp a l = ties cmp a m) : l = m := by
  induction l generalizing m with
  | nil =>
    cases m with
    | nil => rfl
    | cons b m =>
      have hb := self_mem_ties cmp (List.mem_cons_self (a := b) (l := m))
      rw [← h b] at hb
      exact absurd hb (by simp [ties])
  | cons a l ih =>
    cases m with
    | nil =>
      have ha := self_mem_ties cmp (List.mem_cons_self (a := a) (l := l))
      rw [h a] at ha
      exact absurd ha (by simp [ties])
    | cons b m =>
      -- each head is a member of the other list, so the heads compare equal
      have hab : (cmp a b).isLE :=
        head_isLE cmp hl ((mem_ties cmp).1 (h b ▸ self_mem_ties cmp List.mem_cons_self)).1
      have hba : (cmp b a).isLE :=
        head_isLE cmp hm ((mem_ties cmp).1 (h a ▸ self_mem_ties cmp List.mem_cons_self)).1
      have heq : cmp a b = .eq := OrientedCmp.isLE_antisymm hab hba
      have hcons := h a
      rw [ties_cons, ties_cons, if_pos ReflCmp.compare_self, if_pos heq, List.cons.injEq] at hcons
      obtain ⟨rfl, -⟩ := hcons
      refine congrArg (a :: ·) (ih (List.pairwise_cons.1 hl).2 (List.pairwise_cons.1 hm).2 fun c => ?_)
      have hc := h c
      rw [ties_cons, ties_cons] at hc
      split at hc
      · exact (List.cons.inj hc).2
      · exact hc

theorem pairwise_ties (a : α) (l : List α) :
    (ties cmp a l).Pairwise fun x y => (cmp x y).isLE := by
  refine List.pairwise_iff_forall_sublist.2 fun {x y} hxy => ?_
  have hx := ((mem_ties cmp).1 (hxy.subset (by simp : x ∈ [x, y]))).2
  have hy := ((mem_ties cmp).1 (hxy.subset (by simp : y ∈ [x, y]))).2
  have hxy : cmp x y = .eq := TransCmp.eq_trans (OrientedCmp.eq_symm hx) hy
  rw [hxy]
  rfl

theorem isLE_total (a b : α) : ((cmp a b).isLE || (cmp b a).isLE) = true := by
  have hswap : cmp b a = (cmp a b).swap := OrientedCmp.eq_swap
  rw [hswap]
  cases cmp a b <;> rfl

/-- A stable sort keeps every class of ties as it is. -/
theorem ties_mergeSort (a : α) (l : List α) :
    ties cmp a (l.mergeSort fun x y => (cmp x y).isLE) = ties cmp a l := by
  have hsub : (ties cmp a l).Sublist (l.mergeSort fun x y => (cmp x y).isLE) :=
    List.sublist_mergeSort (fun _ _ _ => TransCmp.isLE_trans) (isLE_total cmp)
      (pairwise_ties cmp a l) List.filter_sublist
  have hself : ties cmp a (ties cmp a l) = ties cmp a l := by
    simp [ties, List.filter_filter]
  refine (List.Sublist.eq_of_length ?_ ?_).symm
  · rw [← hself]
    exact hsub.filter _
  · exact ((List.mergeSort_perm l _).filter _).length_eq.symm

/-- **A stable sort is determined by the classes of ties.** -/
theorem mergeSort_eq_of_ties_eq {l m : List α} (h : ∀ a, ties cmp a l = ties cmp a m) :
    (l.mergeSort fun x y => (cmp x y).isLE) = m.mergeSort fun x y => (cmp x y).isLE := by
  refine eq_of_ties_eq cmp ?_ ?_ fun a => ?_
  · exact List.pairwise_mergeSort (fun _ _ _ => TransCmp.isLE_trans) (isLE_total cmp) l
  · exact List.pairwise_mergeSort (fun _ _ _ => TransCmp.isLE_trans) (isLE_total cmp) m
  · rw [ties_mergeSort, ties_mergeSort, h a]

end Ties

/-! ## Nodes that tie -/

instance : TransCmp Node.compare :=
  inferInstanceAs (TransCmp (compareLex (compareOn fun n : Node => Utf8.ofString n.filepath)
    (compareLex (compareOn fun n : Node => n.startRow.toInt)
      (compareOn fun n : Node => n.startCol.toInt))))

theorem Utf8.ofString_inj {s t : String} (h : Utf8.ofString s = Utf8.ofString t) : s = t := by
  have henc : s.toList.utf8Encode = t.toList.utf8Encode := congrArg List.toByteArray h
  have hdec := congrArg ByteArray.utf8Decode? henc
  rw [List.utf8Decode?_utf8Encode, List.utf8Decode?_utf8Encode, Option.some_inj] at hdec
  exact String.toList_inj.1 (List.toArray_inj hdec)

/-- Nodes that tie stand in one file. -/
theorem Node.filepath_eq_of_compare_eq {a b : Node} (h : a.compare b = .eq) :
    a.filepath = b.filepath := by
  rw [Node.compare, Ordering.then_eq_eq] at h
  exact Utf8.ofString_inj (LawfulEqCmp.eq_of_compare h.1)

/-- The order of an export depends only on the order inside each class of ties. -/
theorem Node.ordered_sorted_eq {l m : List Node}
    (h : ∀ a, ties Node.compare a l = ties Node.compare a m) :
    Node.ordered .sorted l = Node.ordered .sorted m :=
  mergeSort_eq_of_ties_eq Node.compare h

end SyntaxGraph
