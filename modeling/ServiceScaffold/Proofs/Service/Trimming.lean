/-
Texts without blanks at their ends.

Every text is one that has no blank at either end, with blanks before it and blanks behind it, and
it is so in one way only.  Trimming takes these blanks off.  What stands inside, blank or not, is
kept.

* `IsTrimmed` — a text without blanks at its ends.
* `trim_eq_iff` — what trimming leaves of a text.
* `trim_eq_self_iff` — when it leaves the whole text.
* `mem_trim_iff` — it leaves every character that is not blank.
-/
import Mathlib.Data.List.DropRight
import Mathlib.Data.List.TakeWhile
import ServiceScaffold.Blank

namespace ServiceScaffold

/-- No blank stands at either end of a text. -/
structure IsTrimmed (s : List Char) : Prop where
  opening : ∀ c ∈ s.head?, isBlank c = false
  ending : ∀ c ∈ s.getLast?, isBlank c = false

/-- Behind a character that is not blank, only the end of a text counts. -/
theorem isTrimmed_cons_iff {c : Char} (hc : isBlank c = false) {s : List Char} :
    IsTrimmed (c :: s) ↔ ∀ d ∈ s.getLast?, isBlank d = false := by
  constructor
  · exact fun h d hd => h.ending d (List.mem_getLast?_cons hd)
  · intro h
    refine ⟨fun d hd => Option.some.inj hd ▸ hc, fun d hd => ?_⟩
    cases s with
    | nil => exact Option.some.inj hd ▸ hc
    | cons e rest => exact h d hd

theorem toList_trim (s : String) :
    (trim s).toList = (s.toList.dropWhile isBlank).rdropWhile isBlank := by
  rw [trim, String.toList_ofList]
  rfl

/-! ### Blanks taken off -/

/-- Without the blanks at its end, a text starts as before. -/
theorem isTrimmed_rdropWhile {s : List Char} (h : ∀ c ∈ s.head?, isBlank c = false) :
    IsTrimmed (s.rdropWhile isBlank) where
  opening c hc := by
    obtain ⟨blanks, happend⟩ := List.rdropWhile_prefix isBlank s
    rw [← happend] at h
    exact h c (List.mem_head?_append_of_mem_head? hc)
  ending c hc := by
    obtain ⟨hne, rfl⟩ := List.mem_getLast?_eq_getLast hc
    exact eq_false_of_ne_true (List.rdropWhile_last_not isBlank s hne)

theorem isTrimmed_trim (s : String) : IsTrimmed (trim s).toList := by
  rw [toList_trim]
  refine isTrimmed_rdropWhile fun c hc => ?_
  have hstop := List.head?_dropWhile_not isBlank s.toList
  rw [Option.mem_def.mp hc] at hstop
  exact hstop

/-- What trimming takes off is blank. -/
theorem exists_blanks (s : String) :
    ∃ front back, (∀ c ∈ front, isBlank c = true) ∧ (∀ c ∈ back, isBlank c = true) ∧
      s.toList = front ++ ((trim s).toList ++ back) := by
  refine ⟨s.toList.takeWhile isBlank, (s.toList.dropWhile isBlank).rtakeWhile isBlank,
    fun c => List.mem_takeWhile_imp, fun c => List.mem_rtakeWhile_imp, ?_⟩
  rw [toList_trim, List.rdropWhile_append_rtakeWhile, List.takeWhile_append_dropWhile]

/-! ### Blanks added -/

theorem rdropWhile_append_blanks {back : List Char} (hback : ∀ c ∈ back, isBlank c = true)
    (s : List Char) : (s ++ back).rdropWhile isBlank = s.rdropWhile isBlank := by
  have hreverse : ∀ c ∈ back.reverse, isBlank c = true := by simpa using hback
  rw [List.rdropWhile, List.reverse_append, List.dropWhile_append_of_pos hreverse]
  rfl

theorem IsTrimmed.rdropWhile_eq {s : List Char} (h : IsTrimmed s) : s.rdropWhile isBlank = s := by
  rw [List.rdropWhile_eq_self_iff]
  intro hne
  exact ne_true_of_eq_false (h.ending _ (List.getLast?_eq_getLast_of_ne_nil hne))

/-- A trimmed text is found again between blanks. -/
theorem IsTrimmed.dropWhile_append {t front back : List Char} (h : IsTrimmed t)
    (hfront : ∀ c ∈ front, isBlank c = true) (hback : ∀ c ∈ back, isBlank c = true) :
    ((front ++ (t ++ back)).dropWhile isBlank).rdropWhile isBlank = t := by
  rw [List.dropWhile_append_of_pos hfront]
  -- an empty text stops nothing, so that the blanks behind it are dropped from the front as well
  cases t with
  | nil =>
    rw [List.nil_append, List.dropWhile_eq_nil_iff.mpr hback]
    rfl
  | cons c rest =>
    have hc : ¬ isBlank c = true := ne_true_of_eq_false (h.opening c rfl)
    rw [List.cons_append, List.dropWhile_cons_of_neg hc, ← List.cons_append,
      rdropWhile_append_blanks hback, h.rdropWhile_eq]

/-! ### What trimming leaves -/

/-- Trimming finds the one trimmed text that stands between blanks. -/
theorem trim_eq_iff {s t : String} :
    trim s = t ↔ IsTrimmed t.toList ∧
      ∃ front back, (∀ c ∈ front, isBlank c = true) ∧ (∀ c ∈ back, isBlank c = true) ∧
        s.toList = front ++ (t.toList ++ back) := by
  constructor
  · rintro rfl
    exact ⟨isTrimmed_trim s, exists_blanks s⟩
  · rintro ⟨htrimmed, front, back, hfront, hback, hs⟩
    apply String.toList_injective
    rw [toList_trim, hs, htrimmed.dropWhile_append hfront hback]

theorem trim_eq_self_iff {s : String} : trim s = s ↔ IsTrimmed s.toList := by
  rw [trim_eq_iff]
  constructor
  · exact fun h => h.1
  · exact fun h => ⟨h, [], [], by simp, by simp, by simp⟩

theorem trim_trim (s : String) : trim (trim s) = trim s :=
  trim_eq_self_iff.mpr (isTrimmed_trim s)

/-- Trimming takes off nothing but blanks. -/
theorem mem_trim_iff {s : String} {c : Char} (hc : isBlank c = false) :
    c ∈ (trim s).toList ↔ c ∈ s.toList := by
  obtain ⟨front, back, hfront, hback, hs⟩ := exists_blanks s
  have hnot_front : c ∉ front := fun h => by rw [hfront c h] at hc; cases hc
  have hnot_back : c ∉ back := fun h => by rw [hback c h] at hc; cases hc
  rw [hs, List.mem_append, List.mem_append, or_iff_right hnot_front, or_iff_left hnot_back]

end ServiceScaffold
