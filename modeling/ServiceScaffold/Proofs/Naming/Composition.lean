/-
Conversions one after the other.

A separated form says of a name all that the conversions look at.  Its separators stand at the
boundaries of the name and before the capitals in it, so a second separated form has nothing to
add; and a joined form raises what the separators part, which gives back the capitals that were
lowered.  The latter needs capitals that their small forms lead back to, as those of ASCII do.

* `separateWords_comp` — a separated form of a separated form.
* `joinWords_separateWords`, `camelChars_separateWords` — a joined form of a separated form.
* `convert_separated` — every conversion of the snake form and of the kebab form.
-/
import ServiceScaffold.Proofs.Naming.FixedPoints
import ServiceScaffold.Proofs.Naming.Words

namespace ServiceScaffold.Naming

variable {separator : Char}

/-! ### Separated twice -/

/-- To the separated forms all boundaries are alike. -/
theorem separateWords_withSeparator {other : Char} (hother : isBoundary other = true)
    (seam : Seam) (s : List Char) :
    separateWords separator seam (withSeparator other s) = separateWords separator seam s := by
  induction s generalizing seam with
  | nil => rfl
  | cons c rest ih =>
    rw [withSeparator, List.map_cons, ← withSeparator, separateWords, separateWords, ih, ih]
    by_cases hc : c = '_'
    · have hboundary : isBoundary c = true := by rw [hc]; rfl
      rw [if_pos hc, if_pos hother, if_pos hboundary]
    · rw [if_neg hc]

theorem separateWords_comp {other : Char} (hother : isBoundary other = true) (s : List Char) :
    separateWords separator .start (separateWords other .start s) =
      separateWords separator .start s := by
  rw [separateWords_eq_withSeparator other, separateWords_withSeparator hother,
    separateWords_eq_withSeparator separator, separateWords_separateWords rfl,
    ← separateWords_eq_withSeparator]

/-! ### Separated and joined -/

/-- Whether the next character of a word is raised when the text is joined. -/
def Seam.raises : Seam → Bool
  | .word => false
  | _ => true

theorem Seam.raises_of_ne {seam : Seam} (h : seam ≠ .word) : seam.raises = true := by
  cases seam with
  | start | separator => rfl
  | word => exact absurd rfl h

theorem not_isBoundary_small {c small : Char} (h : Letter.Paired c small) :
    ¬ isBoundary small = true := by
  intro hsmall
  refine not_isBoundary_of_isUppercase h.isUppercase (isBoundary_of_mem_toLower ?_ hsmall)
  rw [h.toLower_capital]
  exact List.mem_singleton_self small

/-- Joining raises again what separating has lowered. -/
theorem joinWords_separateWords (hseparator : isBoundary separator = true) {s : List Char}
    (hpaired : ∀ c ∈ s, Letter.isUppercase c = true → ∃ small, Letter.Paired c small)
    (seam : Seam) :
    joinWords seam.raises (separateWords separator seam s) = joinWords seam.raises s := by
  induction s generalizing seam with
  | nil => rfl
  | cons c rest ih =>
    have hrest := ih fun d hd => hpaired d (List.mem_cons_of_mem c hd)
    have hword : joinWords false (separateWords separator .word rest) = joinWords false rest :=
      hrest .word
    have hseam : joinWords true (separateWords separator .separator rest) = joinWords true rest :=
      hrest .separator
    rcases boundary_or_capital_or_kept c with hc | hc | hc
    · rw [separateWords_boundary _ hc, joinWords_boundary hc]
      by_cases hat : seam = .separator
      · rw [if_pos hat, hat]
        exact hseam
      · rw [if_neg hat, List.singleton_append, joinWords_boundary hseparator, hseam]
    · obtain ⟨small, hsmall⟩ := hpaired c List.mem_cons_self hc
      have hletter := not_isBoundary_small hsmall
      rw [separateWords_capital _ hc, joinWords_letter (not_isBoundary_of_isUppercase hc),
        hsmall.toLower_capital, hsmall.toUpper_capital, ite_self, List.singleton_append]
      by_cases hat : seam = .word
      · rw [if_pos hat, List.singleton_append, joinWords_boundary hseparator,
          joinWords_letter hletter, if_pos rfl, hsmall.toUpper_small, hword]
      · rw [if_neg hat, List.nil_append, joinWords_letter hletter,
          if_pos (Seam.raises_of_ne hat), hsmall.toUpper_small, hword]
    · have hletter := ne_true_of_eq_false hc.1
      rw [separateWords_kept _ hc, joinWords_letter hletter, joinWords_letter hletter, hword]

/-- The same for the first word of the camel form, which is lowered either way. -/
theorem camelChars_separateWords (hseparator : isBoundary separator = true) {s : List Char}
    (hpaired : ∀ c ∈ s, Letter.isUppercase c = true → ∃ small, Letter.Paired c small)
    {seam : Seam} (hseam : seam ≠ .word) :
    camelChars (separateWords separator seam s) = camelChars s := by
  induction s generalizing seam with
  | nil => rfl
  | cons c rest ih =>
    have hothers (d : Char) (hd : d ∈ rest) := hpaired d (List.mem_cons_of_mem c hd)
    have hword : joinWords false (separateWords separator .word rest) = joinWords false rest :=
      joinWords_separateWords hseparator hothers .word
    have hbehind : camelChars (separateWords separator .separator rest) = camelChars rest :=
      ih hothers (by decide)
    rcases boundary_or_capital_or_kept c with hc | hc | hc
    · rw [separateWords_boundary _ hc, camelChars_boundary hc]
      by_cases hat : seam = .separator
      · rw [if_pos hat, List.nil_append, hbehind]
      · rw [if_neg hat, List.singleton_append, camelChars_boundary hseparator, hbehind]
    · obtain ⟨small, hsmall⟩ := hpaired c List.mem_cons_self hc
      rw [separateWords_capital _ hc, camelChars_letter (not_isBoundary_of_isUppercase hc),
        if_neg hseam, hsmall.toLower_capital, List.nil_append, List.singleton_append,
        camelChars_letter (not_isBoundary_small hsmall), hsmall.toLower_small, hword]
    · have hletter := ne_true_of_eq_false hc.1
      rw [separateWords_kept _ hc, camelChars_letter hletter, camelChars_letter hletter, hword]

/-! ### Every conversion -/

theorem convert_separateWords (k : NamingCase) (hseparator : isBoundary separator = true)
    {s : String}
    (hpaired : ∀ c ∈ s.toList, Letter.isUppercase c = true → ∃ small, Letter.Paired c small) :
    k.convert (String.ofList (separateWords separator .start s.toList)) = k.convert s := by
  have hsnake : snake (String.ofList (separateWords separator .start s.toList)) = snake s := by
    rw [snake, snake, String.toList_ofList, separateWords_comp hseparator]
  cases k with
  | camel =>
    rw [NamingCase.convert, camel, camel, String.toList_ofList,
      camelChars_separateWords hseparator hpaired (by decide)]
  | pascal =>
    have hjoined : pascalChars (separateWords separator .start s.toList) = pascalChars s.toList :=
      joinWords_separateWords hseparator hpaired .start
    rw [NamingCase.convert, pascal, pascal, String.toList_ofList, hjoined]
  | snake => exact hsnake
  | kebab =>
    rw [NamingCase.convert, kebab, kebab, String.toList_ofList, separateWords_comp hseparator]
  | screamingSnake => rw [NamingCase.convert, screamingSnake, screamingSnake, hsnake]

/-- Where the only capitals are letters of ASCII, each conversion of a name can be made from its
snake form, and from its kebab form, as well. -/
theorem convert_separated (k : NamingCase) (s : String)
    (h : ∀ c ∈ s.toList, Letter.isUppercase c = true → c.isAlpha = true) :
    k.convert (snake s) = k.convert s ∧ k.convert (kebab s) = k.convert s := by
  have hpaired (c : Char) (hc : c ∈ s.toList) (hupper : Letter.isUppercase c = true) :
      ∃ small, Letter.Paired c small :=
    Letter.exists_small_of_isAlpha (h c hc hupper) hupper
  exact ⟨convert_separateWords k rfl hpaired, convert_separateWords k rfl hpaired⟩

/-- An acronym, a boundary in front, a digit, and a small letter without a single capital. -/
theorem convert_separated_acronym :
    (∀ c ∈ "-HTTPServer 2ßB".toList, Letter.isUppercase c = true → c.isAlpha = true) ∧
      NamingCase.pascal.convert (snake "-HTTPServer 2ßB") =
        NamingCase.pascal.convert "-HTTPServer 2ßB" ∧
      NamingCase.pascal.convert (kebab "-HTTPServer 2ßB") =
        NamingCase.pascal.convert "-HTTPServer 2ßB" := by
  have hall : "-HTTPServer 2ßB".toList.all (fun c => !Letter.isUppercase c || c.isAlpha) = true := by
    decide +kernel
  have hascii : ∀ c ∈ "-HTTPServer 2ßB".toList, Letter.isUppercase c = true → c.isAlpha = true := by
    intro c hc hupper
    simpa [hupper] using List.all_eq_true.mp hall c hc
  exact ⟨hascii, convert_separated .pascal "-HTTPServer 2ßB" hascii⟩

-- another capital may be lowered to letters that do not lead back to it
example : pascal "\u0130d" = "\u0130d" ∧ pascal (snake "\u0130d") = "I\u0307d" := by decide +kernel

end ServiceScaffold.Naming
