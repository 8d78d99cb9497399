/-
Blanks in the Pascal form of a name.

A blank has no capital form, and no letter has a blank among its capital forms.  So the blanks of a
name that are no boundaries stand in its Pascal form as they stand in the name, and the form ends in
a blank exactly when the last character of the name that is no boundary is blank.

* `Letter.isBlank_of_mem_toUpper` — raising a character neither makes nor loses a blank.
* `Naming.EndsInLetter` — names whose last letter is not blank.
* `Naming.endsInLetter_iff_pascal` — these are the names whose Pascal form does not end in a blank.
-/
import ServiceScaffold.Blank
import ServiceScaffold.Proofs.Naming.Words

namespace ServiceScaffold

/-- The code points of the blanks. -/
def blankPoints : List Nat :=
  List.range' 0x09 5 ++ [0x20, 0x85, 0xA0, 0x1680] ++ List.range' 0x2000 11 ++
    [0x2028, 0x2029, 0x202F, 0x205F, 0x3000]

theorem mem_blankPoints {c : Char} (h : isBlank c = true) : c.toNat ∈ blankPoints := by
  simp only [isBlank, Bool.or_eq_true, Bool.and_eq_true, decide_eq_true_eq, beq_iff_eq] at h
  simp only [blankPoints, List.mem_append, List.mem_range'_1, List.mem_cons, List.not_mem_nil,
    or_false]
  omega

namespace Letter

/-- The tables of capital forms do not list blanks on either side. -/
theorem blanks_unlisted :
    ∀ n ∈ blankPoints, toUpper (Char.ofNat n) = [Char.ofNat n] ∧
      isNoImage upperSpecial upperShifts (Char.ofNat n) = true := by
  decide +kernel

theorem toUpper_of_isBlank {c : Char} (h : isBlank c = true) : toUpper c = [c] := by
  have hunlisted := (blanks_unlisted _ (mem_blankPoints h)).1
  rwa [Char.ofNat_toNat] at hunlisted

theorem isBlank_of_mem_toUpper {c d : Char} (h : d ∈ toUpper c) : isBlank d = isBlank c := by
  cases hc : isBlank c with
  | true =>
    rw [toUpper_of_isBlank hc, List.mem_singleton] at h
    rw [h, hc]
  | false =>
    rw [← Bool.not_eq_true]
    intro hd
    have hunlisted := (blanks_unlisted _ (mem_blankPoints hd)).2
    rw [Char.ofNat_toNat] at hunlisted
    rw [eq_of_mem_mapThrough hunlisted h, hc] at hd
    cases hd

end Letter

namespace Naming

theorem map_isBlank_getLast? {s : List Char} {b : Bool} (hne : s ≠ [])
    (h : ∀ c ∈ s, isBlank c = b) : s.getLast?.map isBlank = some b := by
  rw [List.getLast?_eq_some_getLast hne, Option.map_some, h _ (List.getLast_mem hne)]

theorem map_isBlank_getLast?_append (s t : List Char) :
    (s ++ t).getLast?.map isBlank = (t.getLast?.map isBlank).or (s.getLast?.map isBlank) := by
  rw [List.getLast?_append, Option.map_or]

/-- Joining words keeps the last character that is no boundary, up to its case. -/
theorem map_isBlank_getLast?_joinWords (raise : Bool) (s : List Char) :
    (joinWords raise s).getLast?.map isBlank = (s.filter inWord).getLast?.map isBlank := by
  induction s generalizing raise with
  | nil => rfl
  | cons c rest ih =>
    by_cases hc : isBoundary c = true
    · have hgap : ¬ inWord c = true := ne_true_of_eq_false (inWord_eq_false_iff.mpr hc)
      rw [joinWords_boundary hc, List.filter_cons_of_neg hgap, ih]
    · have hletter : inWord c = true := inWord_eq_true_iff.mpr (eq_false_of_ne_true hc)
      have himage : (if raise then Letter.toUpper c else [c]).getLast?.map isBlank =
          some (isBlank c) := by
        cases raise with
        | true =>
          rw [if_pos rfl]
          exact map_isBlank_getLast? (Letter.toUpper_ne_nil c)
            fun d hd => Letter.isBlank_of_mem_toUpper hd
        | false => rfl
      -- the first character counts on both sides only where nothing is left of the rest
      rw [joinWords_letter hc, map_isBlank_getLast?_append, himage, ih,
        List.filter_cons_of_pos hletter, ← List.singleton_append, map_isBlank_getLast?_append]
      rfl

/-- The last character of a name that is no boundary, if it has one, is not blank. -/
def EndsInLetter (name : String) : Prop :=
  ∀ c ∈ (name.toList.filter inWord).getLast?, isBlank c = false

theorem endsInLetter_iff_all {name : String} :
    EndsInLetter name ↔ ((name.toList.filter inWord).getLast?.all fun c => !isBlank c) = true := by
  rw [EndsInLetter]
  cases (name.toList.filter inWord).getLast? <;> simp

instance (name : String) : Decidable (EndsInLetter name) :=
  decidable_of_iff _ endsInLetter_iff_all.symm

theorem forall_mem_isBlank_iff {o : Option Char} :
    (∀ c ∈ o, isBlank c = false) ↔ o.map isBlank ≠ some true := by
  cases o <;> simp

theorem endsInLetter_iff_pascal {name : String} :
    EndsInLetter name ↔ ∀ c ∈ (pascal name).toList.getLast?, isBlank c = false := by
  rw [EndsInLetter, forall_mem_isBlank_iff, forall_mem_isBlank_iff, pascal, String.toList_ofList,
    pascalChars, map_isBlank_getLast?_joinWords]

end Naming

end ServiceScaffold
