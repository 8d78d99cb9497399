/-
The joined forms of a name, word by word.

The words of a text are its longest runs of characters between boundaries.  Both joined forms put
the words one after another, each with its first character raised; the camel form lowers the first
character of the first word instead.  Which boundaries stand between two words, how many, and
whether some stand at either end makes no difference.

* `words` — the words of a text; `words_append`, `words_letters`.
* `pascalChars_eq_words`, `camelChars_eq_words` — the forms as functions of the words.
* `SameButGaps` — texts with the same words; `words_eq_of_sameButGaps`.
* `joined_forms` — both forms of every name.
-/
import Mathlib.Data.List.TakeWhile
import Mathlib.Logic.Relation
import ServiceScaffold.Proofs.Naming.Images

namespace ServiceScaffold.Naming

/-! ### Words -/

/-- The characters that words consist of. -/
def inWord (c : Char) : Bool :=
  !isBoundary c

theorem inWord_eq_true_iff {c : Char} : inWord c = true ↔ isBoundary c = false :=
  Iff.of_eq (Bool.not_eq_true' _)

theorem inWord_eq_false_iff {c : Char} : inWord c = false ↔ isBoundary c = true :=
  Iff.of_eq (Bool.not_eq_false' _)

/-- The longest non-empty runs without a boundary. -/
def words (s : List Char) : List (List Char) :=
  (s.splitOnP isBoundary).filter fun w => !w.isEmpty

theorem words_nil : words [] = [] := by
  rw [words, List.splitOnP_nil]
  rfl

/-- A boundary parts the words before it from the words behind it. -/
theorem words_append (s : List Char) {c : Char} (hc : isBoundary c = true) (t : List Char) :
    words (s ++ c :: t) = words s ++ words t := by
  rw [words, List.splitOnP_append_cons s t hc, List.filter_append, words, words]

theorem words_cons {c : Char} (hc : isBoundary c = true) (s : List Char) :
    words (c :: s) = words s := by
  rw [← List.nil_append (c :: s), words_append [] hc, words_nil, List.nil_append]

/-- A run of letters is a word. -/
theorem words_letters {w : List Char} (hne : w ≠ []) (hw : ∀ c ∈ w, isBoundary c = false) :
    words w = [w] := by
  rw [words, List.splitOnP_eq_singleton hw, List.filter_cons_of_pos (by simpa using hne)]
  rfl

/-- The first word of a text that starts with a letter, and the words behind it. -/
theorem words_letter_cons {c : Char} (hc : isBoundary c = false) (s : List Char) :
    words (c :: s) = (c :: s.takeWhile inWord) :: words (s.dropWhile inWord) := by
  have hword : words (c :: s.takeWhile inWord) = [c :: s.takeWhile inWord] := by
    refine words_letters (List.cons_ne_nil _ _) fun d hd => ?_
    rcases List.mem_cons.mp hd with rfl | hd
    · exact hc
    · exact inWord_eq_true_iff.mp (List.mem_takeWhile_imp hd)
  have hsplit : c :: s = (c :: s.takeWhile inWord) ++ s.dropWhile inWord := by
    rw [List.cons_append, List.takeWhile_append_dropWhile]
  have hstop := List.head?_dropWhile_not inWord s
  cases hrest : s.dropWhile inWord with
  | nil => rw [hsplit, hrest, List.append_nil, hword, words_nil]
  | cons d rest =>
    rw [hrest] at hstop
    have hd : isBoundary d = true := inWord_eq_false_iff.mp hstop
    rw [hsplit, hrest, words_append _ hd, hword, words_cons hd]
    rfl

theorem words_intercalate {c : Char} (hc : isBoundary c = true) {ws : List (List Char)}
    (hws : ∀ w ∈ ws, w ≠ [] ∧ ∀ d ∈ w, isBoundary d = false) : words ([c].intercalate ws) = ws := by
  induction ws with
  | nil => exact words_nil
  | cons w others ih =>
    obtain ⟨hne, hw⟩ := hws w List.mem_cons_self
    have hothers := ih fun v hv => hws v (List.mem_cons_of_mem w hv)
    cases others with
    | nil => rw [List.intercalate_singleton, words_letters hne hw]
    | cons v vs =>
      rw [List.intercalate_cons_cons, List.append_assoc, List.singleton_append,
        words_append w hc, words_letters hne hw, hothers]
      rfl

/-! ### The forms as functions of the words -/

/-- A word whose first character is mapped. -/
def opened (f : Char → List Char) : List Char → List Char
  | [] => []
  | c :: rest => f c ++ rest

/-- Words in a row, each with its first character raised. -/
def pascalWords (ws : List (List Char)) : List Char :=
  ws.flatMap (opened Letter.toUpper)

/-- Words in a row, the first one with its first character lowered, the others as in
`pascalWords`. -/
def camelWords : List (List Char) → List Char
  | [] => []
  | w :: ws => opened Letter.toLower w ++ pascalWords ws

theorem joinWords_boundary {c : Char} (hc : isBoundary c = true) (raise : Bool) (s : List Char) :
    joinWords raise (c :: s) = joinWords true s := by
  rw [joinWords, if_pos hc]

theorem joinWords_letter {c : Char} (hc : ¬ isBoundary c = true) (raise : Bool) (s : List Char) :
    joinWords raise (c :: s) = (if raise then Letter.toUpper c else [c]) ++ joinWords false s := by
  rw [joinWords, if_neg hc]

theorem camelChars_boundary {c : Char} (hc : isBoundary c = true) (s : List Char) :
    camelChars (c :: s) = camelChars s := by
  rw [camelChars, camelChars, List.dropWhile_cons, if_pos hc]

theorem camelChars_letter {c : Char} (hc : ¬ isBoundary c = true) (s : List Char) :
    camelChars (c :: s) = Letter.toLower c ++ joinWords false s := by
  rw [camelChars, List.dropWhile_cons, if_neg hc]

/-- The rest of a word is kept, and what stands behind it is joined anew. -/
theorem joinWords_false (s : List Char) :
    joinWords false s = s.takeWhile inWord ++ pascalChars (s.dropWhile inWord) := by
  induction s with
  | nil => rfl
  | cons c rest ih =>
    rw [List.takeWhile_cons, List.dropWhile_cons]
    by_cases hc : isBoundary c = true
    · have hgap : ¬ inWord c = true := ne_true_of_eq_false (inWord_eq_false_iff.mpr hc)
      rw [if_neg hgap, if_neg hgap, List.nil_append, pascalChars, joinWords_boundary hc,
        joinWords_boundary hc]
    · have hletter := inWord_eq_true_iff.mpr (eq_false_of_ne_true hc)
      rw [if_pos hletter, if_pos hletter, List.cons_append, ← ih, joinWords_letter hc]
      rfl

/-- The induction is on the length: behind the first word the text starts anew. -/
theorem pascalChars_eq_words (s : List Char) : pascalChars s = pascalWords (words s) := by
  induction hlength : s.length using Nat.strong_induction_on generalizing s with
  | _ n ih =>
    cases s with
    | nil => rw [words_nil]; rfl
    | cons c rest =>
      rw [List.length_cons] at hlength
      by_cases hc : isBoundary c = true
      · rw [pascalChars, joinWords_boundary hc, words_cons hc]
        exact ih rest.length (by omega) rest rfl
      · have hshorter := List.length_dropWhile_le inWord rest
        have hbehind := ih _ (by omega) (rest.dropWhile inWord) rfl
        rw [pascalChars, joinWords_letter hc, if_pos rfl, joinWords_false, hbehind,
          words_letter_cons (eq_false_of_ne_true hc), pascalWords, pascalWords, List.flatMap_cons,
          opened, List.append_assoc]

theorem camelChars_eq_words (s : List Char) : camelChars s = camelWords (words s) := by
  induction s with
  | nil => rw [words_nil]; rfl
  | cons c rest ih =>
    by_cases hc : isBoundary c = true
    · rw [camelChars_boundary hc, words_cons hc, ih]
    · rw [camelChars_letter hc, joinWords_false, pascalChars_eq_words,
        words_letter_cons (eq_false_of_ne_true hc), camelWords, opened, List.append_assoc]

/-! ### Boundaries make no difference -/

/-- Whether `t` is `s` with other boundaries in one place.  Where words stand on both sides, a gap
stays a gap. -/
def ChangesGap (s t : List Char) : Prop :=
  ∃ before gap other after,
    s = before ++ gap ++ after ∧ t = before ++ other ++ after ∧
      (∀ c ∈ gap ++ other, isBoundary c = true) ∧
      ((gap = [] ↔ other = []) ∨ before = [] ∨ after = [])

/-- Whether one text becomes the other by changes of gaps. -/
def SameButGaps : List Char → List Char → Prop :=
  Relation.ReflTransGen ChangesGap

theorem words_boundaries_append {gap : List Char} (hgap : ∀ c ∈ gap, isBoundary c = true)
    (s : List Char) : words (gap ++ s) = words s := by
  induction gap with
  | nil => rfl
  | cons c gap ih =>
    rw [List.cons_append, words_cons (hgap c List.mem_cons_self)]
    exact ih fun d hd => hgap d (List.mem_cons_of_mem c hd)

theorem words_gap {gap : List Char} (hgap : ∀ c ∈ gap, isBoundary c = true)
    (before after : List Char) (h : gap ≠ [] ∨ before = [] ∨ after = []) :
    words (before ++ gap ++ after) = words before ++ words after := by
  cases gap with
  | nil =>
    rcases h with hne | rfl | rfl
    · exact absurd rfl hne
    · rw [words_nil]
      rfl
    · rw [words_nil, List.append_nil, List.append_nil, List.append_nil]
  | cons c gap =>
    rw [List.append_assoc, List.cons_append, words_append before (hgap c List.mem_cons_self),
      words_boundaries_append fun d hd => hgap d (List.mem_cons_of_mem c hd)]

theorem words_eq_of_changesGap {s t : List Char} (h : ChangesGap s t) : words s = words t := by
  obtain ⟨before, gap, other, after, rfl, rfl, hboundary, hsides⟩ := h
  obtain ⟨hgap, hother⟩ := List.forall_mem_append.mp hboundary
  rcases hsides with hinside | hend
  · by_cases hempty : gap = []
    · rw [hempty, hinside.mp hempty]
    · rw [words_gap hgap before after (Or.inl hempty),
        words_gap hother before after (Or.inl fun h => hempty (hinside.mpr h))]
  · rw [words_gap hgap before after (Or.inr hend), words_gap hother before after (Or.inr hend)]

theorem words_eq_of_sameButGaps {s t : List Char} (h : SameButGaps s t) : words s = words t := by
  induction h with
  | refl => rfl
  | tail _ hchange ih => exact ih.trans (words_eq_of_changesGap hchange)

/-! ### Both forms -/

/-- The Pascal form and the camel form of a name, word by word; boundaries only part the words. -/
theorem joined_forms (s : String) :
    (pascal s).toList = pascalWords (words s.toList) ∧
      (camel s).toList = camelWords (words s.toList) ∧
      ∀ t : String, SameButGaps s.toList t.toList → pascal t = pascal s ∧ camel t = camel s := by
  refine ⟨?_, ?_, fun t ht => ?_⟩
  · rw [pascal, String.toList_ofList, pascalChars_eq_words]
  · rw [camel, String.toList_ofList, camelChars_eq_words]
  · have hwords := words_eq_of_sameButGaps ht
    rw [pascal, pascal, camel, camel, pascalChars_eq_words, pascalChars_eq_words,
      camelChars_eq_words, camelChars_eq_words, hwords]
    exact ⟨rfl, rfl⟩

/-- A boundary in front, and two others for the one between the words. -/
theorem joined_forms_gaps :
    SameButGaps "user_service".toList " user--service".toList ∧
      pascal " user--service" = pascal "user_service" ∧
      camel " user--service" = camel "user_service" := by
  have hinside : ChangesGap "user_service".toList "user--service".toList :=
    ⟨"user".toList, ['_'], ['-', '-'], "service".toList, rfl, rfl, List.all_eq_true.mp rfl,
      Or.inl (by decide)⟩
  have hfront : ChangesGap "user--service".toList " user--service".toList :=
    ⟨[], [], [' '], "user--service".toList, rfl, rfl, List.all_eq_true.mp rfl, Or.inr (Or.inl rfl)⟩
  have hsame : SameButGaps "user_service".toList " user--service".toList :=
    Relation.ReflTransGen.tail (Relation.ReflTransGen.single hinside) hfront
  exact ⟨hsame, (joined_forms "user_service").2.2 " user--service" hsame⟩

-- capitals within a word are kept, and the letter that opens the first word is lowered
example : camel "-HTTP_server" = "hTTPServer" ∧ pascal "-HTTP_server" = "HTTPServer" := by
  decide +kernel

end ServiceScaffold.Naming
