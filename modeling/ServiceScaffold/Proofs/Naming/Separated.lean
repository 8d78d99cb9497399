/-
The separated forms of a name, in whole passes.

The snake form is written from left to right, and what was written last decides whether a separator
comes next.  It can also be made in three passes that never look back: write every boundary as a
separator and put one before every lowered capital, write each run of separators once, and drop
the separator that a leading capital has brought.  The kebab form differs from it in the separator
alone.

* `separateWords_boundary`, `separateWords_capital`, `separateWords_kept` — one character.
* `marked` — what a character becomes in the first pass.
* `collapse` — the second pass.
* `snakePasses` — the three passes together.
* `destutter'_flatMap_marked` — the invariant: what was written last says where the passes stand.
* `snake_eq_passes` — both forms of every name.
-/
import Mathlib.Data.List.Destutter
import ServiceScaffold.Proofs.Naming.Images

namespace ServiceScaffold.Naming

/-! ### One character -/

/-- The characters that a separated form keeps, with nothing in front of them. -/
def IsKept (c : Char) : Prop :=
  isBoundary c = false ∧ Letter.isUppercase c = false

instance : DecidablePred IsKept :=
  fun c => inferInstanceAs (Decidable (isBoundary c = false ∧ Letter.isUppercase c = false))

theorem boundary_or_capital_or_kept (c : Char) :
    isBoundary c = true ∨ Letter.isUppercase c = true ∨ IsKept c := by
  by_cases hc : isBoundary c = true
  · exact Or.inl hc
  · by_cases hupper : Letter.isUppercase c = true
    · exact Or.inr (Or.inl hupper)
    · exact Or.inr (Or.inr ⟨eq_false_of_ne_true hc, eq_false_of_ne_true hupper⟩)

theorem separateWords_boundary (separator : Char) {c : Char} (hc : isBoundary c = true)
    (seam : Seam) (rest : List Char) :
    separateWords separator seam (c :: rest) =
      (if seam = .separator then [] else [separator]) ++
        separateWords separator .separator rest := by
  rw [separateWords, if_pos hc]
  split
  · rfl
  · rfl

theorem separateWords_capital (separator : Char) {c : Char} (hc : Letter.isUppercase c = true)
    (seam : Seam) (rest : List Char) :
    separateWords separator seam (c :: rest) =
      (if seam = .word then [separator] else []) ++
        (Letter.toLower c ++ separateWords separator .word rest) := by
  rw [separateWords, if_neg (not_isBoundary_of_isUppercase hc), if_pos hc, List.append_assoc]

theorem separateWords_kept (separator : Char) {c : Char} (hc : IsKept c) (seam : Seam)
    (rest : List Char) :
    separateWords separator seam (c :: rest) = c :: separateWords separator .word rest := by
  rw [separateWords, if_neg (ne_true_of_eq_false hc.1), if_neg (ne_true_of_eq_false hc.2)]

/-! ### The passes -/

/-- A character with every boundary as a separator, and with a separator before a lowered capital. -/
def marked (c : Char) : List Char :=
  if isBoundary c then ['_']
  else if Letter.isUppercase c then '_' :: Letter.toLower c
  else [c]

/-- Two characters that are not both separators. -/
def KeepsApart (c d : Char) : Prop :=
  ¬ (c = '_' ∧ d = '_')

instance : DecidableRel KeepsApart :=
  fun c d => inferInstanceAs (Decidable (¬ (c = '_' ∧ d = '_')))

/-- A text with each run of separators written once. -/
def collapse (s : List Char) : List Char :=
  s.destutter KeepsApart

/-- A text without the separator that it starts with. -/
def dropSeparator : List Char → List Char
  | '_' :: rest => rest
  | s => s

/-- The snake form in passes. -/
def snakePasses (s : List Char) : List Char :=
  if s.head?.any Letter.isUppercase then dropSeparator (collapse (s.flatMap marked))
  else collapse (s.flatMap marked)

theorem marked_of_isBoundary {c : Char} (h : isBoundary c = true) : marked c = ['_'] := by
  rw [marked, if_pos h]

theorem marked_of_isUppercase {c : Char} (hc : ¬ isBoundary c = true)
    (h : Letter.isUppercase c = true) : marked c = '_' :: Letter.toLower c := by
  rw [marked, if_neg hc, if_pos h]

theorem marked_of_other {c : Char} (hc : ¬ isBoundary c = true)
    (h : ¬ Letter.isUppercase c = true) : marked c = [c] := by
  rw [marked, if_neg hc, if_neg h]

theorem keepsApart_of_left {c : Char} (h : c ≠ '_') (d : Char) : KeepsApart c d :=
  fun hboth => h hboth.1

theorem keepsApart_of_right (c : Char) {d : Char} (h : d ≠ '_') : KeepsApart c d :=
  fun hboth => h hboth.2

theorem not_keepsApart_separators : ¬ KeepsApart '_' '_' :=
  fun h => h ⟨rfl, rfl⟩

/-! ### Separators and letters -/

theorem ne_separator_of_not_isBoundary {c : Char} (h : ¬ isBoundary c = true) : c ≠ '_' := by
  rintro rfl
  exact h rfl

theorem separator_not_mem_toLower {c : Char} (h : ¬ isBoundary c = true) :
    '_' ∉ Letter.toLower c :=
  fun hmem => h (isBoundary_of_mem_toLower hmem rfl)

/-- Letters are kept, and what follows them goes on from the last one. -/
theorem destutter'_letters {letters rest written : List Char} (hne : letters ≠ [])
    (hletters : '_' ∉ letters)
    (hrest : ∀ last, last ≠ '_' → rest.destutter' KeepsApart last = last :: written) (c : Char) :
    (letters ++ rest).destutter' KeepsApart c = c :: (letters ++ written) := by
  induction letters generalizing c with
  | nil => exact absurd rfl hne
  | cons d letters ih =>
    obtain ⟨hd, hothers⟩ := not_or.mp (mt List.mem_cons.mpr hletters)
    rw [List.cons_append, List.destutter'_cons_pos _ (keepsApart_of_right c (Ne.symm hd))]
    cases letters with
    | nil => rw [List.nil_append, hrest d (Ne.symm hd)]; rfl
    | cons e others => rw [ih (List.cons_ne_nil e others) hothers]; rfl

/-- Collapsing goes on as the separated form does: a separator is written last in both, or a
character of a word is. -/
theorem destutter'_flatMap_marked (s : List Char) (last : Char) :
    (s.flatMap marked).destutter' KeepsApart last =
      last :: separateWords '_' (if last = '_' then .separator else .word) s := by
  induction s generalizing last with
  | nil => rfl
  | cons c rest ih =>
    have hword (d : Char) (hd : d ≠ '_') :
        (rest.flatMap marked).destutter' KeepsApart d = d :: separateWords '_' .word rest := by
      rw [ih, if_neg hd]
    have hseparator : (rest.flatMap marked).destutter' KeepsApart '_' =
        '_' :: separateWords '_' .separator rest := by
      rw [ih, if_pos rfl]
    rw [List.flatMap_cons, separateWords]
    by_cases hc : isBoundary c = true
    · rw [marked_of_isBoundary hc, if_pos hc, List.singleton_append]
      by_cases hlast : last = '_'
      · subst hlast
        rw [List.destutter'_cons_neg _ not_keepsApart_separators, hseparator]
        rfl
      · rw [List.destutter'_cons_pos _ (keepsApart_of_left hlast _), hseparator, if_neg hlast]
        rfl
    · rw [if_neg hc]
      by_cases hupper : Letter.isUppercase c = true
      · have hlower := destutter'_letters (Letter.toLower_ne_nil c) (separator_not_mem_toLower hc)
          hword '_'
        rw [marked_of_isUppercase hc hupper, if_pos hupper, List.cons_append]
        by_cases hlast : last = '_'
        · subst hlast
          rw [List.destutter'_cons_neg _ not_keepsApart_separators, hlower]
          rfl
        · rw [List.destutter'_cons_pos _ (keepsApart_of_left hlast _), hlower, if_neg hlast]
          rfl
      · have hne := ne_separator_of_not_isBoundary hc
        rw [marked_of_other hc hupper, if_neg hupper, List.singleton_append,
          List.destutter'_cons_pos _ (keepsApart_of_right last hne), hword c hne]

/-! ### The start of a name -/

theorem destutter'_of_ne {last : Char} (h : last ≠ '_') (s : List Char) :
    s.destutter' KeepsApart last = last :: collapse s := by
  cases s with
  | nil => rfl
  | cons c rest => rw [List.destutter'_cons_pos _ (keepsApart_of_left h c), collapse,
      List.destutter_cons']

theorem destutter'_separator (s : List Char) :
    ('_' :: s).destutter' KeepsApart '_' = collapse ('_' :: s) := by
  rw [List.destutter'_cons_neg _ not_keepsApart_separators, collapse, List.destutter_cons']

/-- A name starts as if a separator stood before a capital, and a word before anything else. -/
theorem separateWords_start (separator c : Char) (rest : List Char) :
    separateWords separator .start (c :: rest) =
      separateWords separator (if Letter.isUppercase c then .separator else .word) (c :: rest) := by
  rw [separateWords, separateWords]
  by_cases hc : isBoundary c = true
  · rw [if_pos hc, if_pos hc, isUppercase_of_isBoundary hc]
    rfl
  · rw [if_neg hc, if_neg hc]
    by_cases hupper : Letter.isUppercase c = true
    · rw [if_pos hupper, if_pos hupper, if_pos hupper]
      rfl
    · rw [if_neg hupper, if_neg hupper]

theorem separateWords_eq_passes (s : List Char) : separateWords '_' .start s = snakePasses s := by
  cases s with
  | nil => rfl
  | cons c rest =>
    rw [separateWords_start, snakePasses, List.head?_cons, Option.any_some]
    by_cases hupper : Letter.isUppercase c = true
    · have hc : ¬ isBoundary c = true := by
        intro hboundary
        rw [isUppercase_of_isBoundary hboundary] at hupper
        cases hupper
      have hcollapse := destutter'_flatMap_marked (c :: rest) '_'
      rw [List.flatMap_cons, marked_of_isUppercase hc hupper, List.cons_append,
        destutter'_separator] at hcollapse
      rw [if_pos hupper, if_pos hupper, List.flatMap_cons, marked_of_isUppercase hc hupper,
        List.cons_append, hcollapse]
      rfl
    · have hcollapse := destutter'_flatMap_marked (c :: rest) 'a'
      rw [destutter'_of_ne (by decide)] at hcollapse
      rw [if_neg hupper, if_neg hupper, (List.cons.inj hcollapse).2]
      rfl

/-! ### Another separator -/

/-- A text with another separator. -/
def withSeparator (separator : Char) (s : List Char) : List Char :=
  s.map fun c => if c = '_' then separator else c

theorem withSeparator_of_not_mem {s : List Char} (h : '_' ∉ s) (separator : Char) :
    withSeparator separator s = s := by
  have hsame (c : Char) (hc : c ∈ s) : (if c = '_' then separator else c) = c :=
    if_neg (ne_of_mem_of_not_mem hc h)
  rw [withSeparator, List.map_congr_left hsame, List.map_id']

theorem withSeparator_append (separator : Char) (s t : List Char) :
    withSeparator separator (s ++ t) = withSeparator separator s ++ withSeparator separator t := by
  rw [withSeparator, List.map_append]
  rfl

theorem separateWords_eq_withSeparator (separator : Char) (seam : Seam) (s : List Char) :
    separateWords separator seam s = withSeparator separator (separateWords '_' seam s) := by
  induction s generalizing seam with
  | nil => rfl
  | cons c rest ih =>
    rw [separateWords, separateWords]
    by_cases hc : isBoundary c = true
    · rw [if_pos hc, if_pos hc, ih]
      split <;> rfl
    · rw [if_neg hc, if_neg hc, ih]
      by_cases hupper : Letter.isUppercase c = true
      · rw [if_pos hupper, if_pos hupper, withSeparator_append, withSeparator_append,
          withSeparator_of_not_mem (separator_not_mem_toLower hc)]
        split <;> rfl
      · have hne := ne_separator_of_not_isBoundary hc
        rw [if_neg hupper, if_neg hupper, withSeparator, withSeparator, List.map_cons, if_neg hne]

/-! ### Both forms -/

/-- Every name has the snake form that the passes make, and its kebab form is the snake form with
the other separator. -/
theorem snake_eq_passes (s : String) :
    (snake s).toList = snakePasses s.toList ∧
      (kebab s).toList = (snake s).toList.map fun c => if c = '_' then '-' else c := by
  rw [snake, kebab, String.toList_ofList, String.toList_ofList]
  exact ⟨separateWords_eq_passes s.toList, separateWords_eq_withSeparator '-' .start s.toList⟩

-- a leading boundary stays as a separator, and the one before a leading capital does not
example : snake "-Ab" = "_ab" ∧ snake "AB" = "a_b" := by decide +kernel

end ServiceScaffold.Naming
