/-!
# The first of each key

The store keeps the first row of every id and drops the later ones.  `keepFirst` is that rule on
lists: it keeps an element exactly if no earlier one has its key.
-/

set_option autoImplicit false
namespace SyntaxGraph

/-- The elements of a list whose key no earlier element has, in order. -/
def keepFirst {α κ : Type} [DecidableEq κ] (key : α → κ) : List α → List α
  | [] => []
  | a :: as => a :: (keepFirst key as).filter fun b => key b ≠ key a

end SyntaxGraph
