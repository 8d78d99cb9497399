/-
Lists arranged by a schedule.

A schedule takes up the elements of every list each once.  Any element can be the last one to be
taken up.

* `Schedule.arrange` — the elements in the order of the schedule; `Schedule.arrange_perm`.
* `Schedule.lastly` — a schedule that leaves one element for the end; `Schedule.arrange_lastly`.
-/
import ServiceScaffold.Generation.Schedule

namespace ServiceScaffold.Schedule

variable {α β : Type} (schedule : Schedule)

/-- The elements of a list, in the order in which they are taken up. -/
def arrange (l : List α) : List α :=
  (schedule.order l.length).filterMap fun number => l[number]?

theorem filterMap_range_getElem? (l : List α) :
    ((List.range l.length).filterMap fun number => l[number]?) = l := by
  induction l with
  | nil => rfl
  | cons a rest ih =>
    have hrest : ((List.range rest.length).filterMap fun number => (a :: rest)[number + 1]?) =
        rest := ih
    simp only [List.length_cons, List.range_succ_eq_map, List.filterMap_cons,
      List.getElem?_cons_zero, List.filterMap_map]
    exact congrArg (a :: ·) hrest

theorem arrange_perm (l : List α) : (schedule.arrange l).Perm l := by
  have hperm := (schedule.order_perm l.length).filterMap fun number => l[number]?
  rwa [filterMap_range_getElem?] at hperm

theorem arrange_map (f : α → β) (l : List α) :
    schedule.arrange (l.map f) = (schedule.arrange l).map f := by
  rw [arrange, arrange, List.length_map, List.map_filterMap]
  simp only [List.getElem?_map]

theorem arrange_inOrder (l : List α) : inOrder.arrange l = l :=
  filterMap_range_getElem? l

/-- The task with the given number is carried out last, if there is one. -/
def lastly (last : Nat) : Schedule where
  order n := if last < n then (List.range n).erase last ++ [last] else List.range n
  order_perm n := by
    split
    · rename_i hlast
      have hperm := List.perm_cons_erase (List.mem_range.mpr hlast)
      exact (List.perm_append_singleton _ _).trans hperm.symm
    · exact List.Perm.refl _

theorem arrange_lastly (l : List α) {last : Nat} (h : last < l.length) :
    ∃ before, (lastly last).arrange l = before ++ [l[last]] := by
  refine ⟨((List.range l.length).erase last).filterMap fun number => l[number]?, ?_⟩
  have horder : (lastly last).order l.length = (List.range l.length).erase last ++ [last] :=
    if_pos h
  rw [arrange, horder, List.filterMap_append]
  simp [h]

end ServiceScaffold.Schedule
