/-
The order in which workers take up tasks.

Tasks are numbered, and a schedule says in which order any number of them is carried out: each of
them once, in an order that may be any.

* `Schedule.inOrder` — first come, first served.
* `Schedule.reversed` — the opposite order.
-/

namespace ServiceScaffold

/-- For every number of tasks, an order of them. -/
structure Schedule where
  order : Nat → List Nat
  order_perm : ∀ n, (order n).Perm (List.range n)

namespace Schedule

/-- Tasks are carried out as they are listed. -/
def inOrder : Schedule where
  order := List.range
  order_perm _ := List.Perm.refl _

/-- Tasks are carried out from the last to the first. -/
def reversed : Schedule where
  order n := (List.range n).reverse
  order_perm _ := List.reverse_perm _

end Schedule

end ServiceScaffold
