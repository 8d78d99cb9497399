/-
The order of paths.

The tests that sort paths are the order of lists, twice: of the characters in a component, and of
the components in a path.  It is a linear order, and the components of a path can be told from its
key; so sorted paths of different places strictly ascend.

* `Path.sortsBefore_iff` — the test on two paths is the order of their keys.
* `Path.sortKey_inj` — paths with the same key name the same place.
* `Path.pairwise_mergeSort` — sorted paths of different places.
-/
import Mathlib.Data.List.Lex
import Mathlib.Order.Lattice
import ServiceScaffold.Proofs.Path.Components

namespace ServiceScaffold.Path

/-! ### The order of dictionaries -/

theorem dictionaryOrder_iff {α : Type} [LinearOrder α] {le : α → α → Bool}
    (hle : ∀ a b, le a b = true ↔ ¬ b < a) (as bs : List α) :
    dictionaryOrder le as bs = true ↔ ¬ bs < as := by
  induction as generalizing bs with
  | nil => simp [dictionaryOrder]
  | cons a as ih =>
    cases bs with
    | nil => simp [dictionaryOrder]
    | cons b bs =>
      have hba : (!le b a) = true ↔ a < b := by
        rw [Bool.not_eq_true', Bool.eq_false_iff, ne_eq, hle, not_not]
      rw [dictionaryOrder, Bool.and_eq_true, Bool.or_eq_true, hle, hba, ih, List.cons_lt_cons_iff]
      constructor
      · rintro ⟨hab, hrest⟩ (hlt | ⟨rfl, hlt⟩)
        · exact hab hlt
        · exact hrest.elim (lt_irrefl b) fun hnot => hnot hlt
      · intro hnot
        have hab : ¬ b < a := fun hlt => hnot (.inl hlt)
        refine ⟨hab, (lt_or_eq_of_le (not_lt.mp hab)).imp_right fun heq hlt => hnot ?_⟩
        exact .inr ⟨heq.symm, hlt⟩

theorem sortsBefore_iff {p q : Path} : p.sortsBefore q = true ↔ ¬ q.sortKey < p.sortKey := by
  refine dictionaryOrder_iff (fun as bs => ?_) p.sortKey q.sortKey
  refine dictionaryOrder_iff (fun a b => ?_) as bs
  rw [Nat.ble_eq, not_lt]

/-! ### Keys -/

theorem rank_inj {c d : Component} (h : rank c = rank d) : c = d := by
  have hnames {a b : String} (hab : a.toList.map Char.toNat = b.toList.map Char.toNat) : a = b :=
    String.toList_injective
      (List.map_inj_right (fun _ _ heq => Char.toNat_inj.mp heq) |>.mp hab)
  cases c with
  | normal name =>
    cases d with
    | normal other => rw [hnames (List.cons.inj h).2]
    | root | current | parent => simp [rank] at h
  | root | current | parent => cases d <;> simp_all [rank]

theorem sortKey_inj {p q : Path} (h : p.sortKey = q.sortKey) : p.components = q.components :=
  (List.map_inj_right fun _ _ => rank_inj).mp h

/-- Paths of different places strictly ascend when they are sorted. -/
theorem pairwise_mergeSort {paths : List Path}
    (h : paths.Pairwise fun p q => ¬ p.same q = true) :
    (paths.mergeSort sortsBefore).Pairwise fun p q => p.sortKey < q.sortKey := by
  have hsorted : (paths.mergeSort sortsBefore).Pairwise fun p q => p.sortsBefore q = true := by
    refine List.pairwise_mergeSort ?_ ?_ paths
    · intro p q r hpq hqr
      rw [sortsBefore_iff, not_lt] at hpq hqr ⊢
      exact le_trans hpq hqr
    · intro p q
      rw [Bool.or_eq_true, sortsBefore_iff, sortsBefore_iff, not_lt, not_lt]
      exact le_total _ _
  have hdifferent : (paths.mergeSort sortsBefore).Pairwise fun p q => ¬ p.same q = true := by
    refine ((List.mergeSort_perm paths sortsBefore).pairwise_iff ?_).mpr h
    intro p q hpq hqp
    exact hpq (same_symm hqp)
  refine hsorted.imp₂ (fun p q hle hne => ?_) hdifferent
  rw [sortsBefore_iff, not_lt] at hle
  refine lt_of_le_of_ne hle fun heq => hne ?_
  exact same_iff.mpr (sortKey_inj heq)

end ServiceScaffold.Path
