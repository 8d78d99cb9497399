/-
Which characters the joined forms of a name can hold.

The case mappings only produce letters and marks: a character outside the images that the mapping
tables list is produced by itself alone.  Boundaries are dropped and never added, so a name keeps
every such character where it stood, and gains none.

* `Letter.eq_of_mem_mapThrough` — what the tables do not list comes from itself.
* `Naming.isBoundary_of_mem_toLower` — no letter is lowered to a boundary.
* `Naming.mem_of_mem_joinWords` — what no letter is raised to comes from the name.
* `Naming.slash_mem_pascal`, `Naming.colon_mem_pascal` — a slash and a colon do.
-/
import ServiceScaffold.Naming

namespace ServiceScaffold

namespace Letter

/-- The code point of a character that a number stands for, unless the number stands for none. -/
theorem eq_toNat_of_ofNat_eq {n : Nat} {c : Char} (h : Char.ofNat n = c) (hc : c.toNat ≠ 0) :
    n = c.toNat := by
  subst h
  by_cases hn : n.isValidChar
  · rw [Char.ofNat, dif_pos hn]
    rfl
  · exact absurd (by simp [Char.ofNat, hn]) hc

/-- Whether `d` is outside the images of a run of shifted characters. -/
def Shift.misses (d : Char) (s : Shift) : Bool :=
  d.toNat < s.target || s.target + (s.run.last - s.run.first) < d.toNat

theorem Shift.image?_ne {s : Shift} {d : Char} (h : s.misses d = true) (n : Nat) :
    s.image? n ≠ some d.toNat := by
  unfold Shift.image?
  split
  · rename_i hrun
    simp only [Run.contains, Bool.and_eq_true, decide_eq_true_eq] at hrun
    simp only [misses, Bool.or_eq_true, decide_eq_true_eq] at h
    simp only [ne_eq, Option.some.injEq]
    omega
  · simp

/-- Whether tables of mappings do not list a character as an image. -/
def isNoImage (special : List (Nat × List Nat)) (shifts : List Shift) (d : Char) : Bool :=
  d.toNat != 0 && special.all (fun e => !e.2.contains d.toNat) && shifts.all (·.misses d)

theorem isNoImage_iff {special : List (Nat × List Nat)} {shifts : List Shift} {d : Char} :
    isNoImage special shifts d = true ↔
      d.toNat ≠ 0 ∧ (∀ e ∈ special, d.toNat ∉ e.2) ∧ ∀ s ∈ shifts, s.misses d = true := by
  simp [isNoImage, and_assoc]

/-- A character that the tables do not list as an image is the image of itself alone. -/
theorem eq_of_mem_mapThrough {special : List (Nat × List Nat)} {shifts : List Shift} {c d : Char}
    (hd : isNoImage special shifts d = true) (h : d ∈ mapThrough special shifts c) : d = c := by
  obtain ⟨hzero, hspecial, hshifts⟩ := isNoImage_iff.mp hd
  unfold mapThrough at h
  split at h
  · rename_i image found
    obtain ⟨l, r, rfl, -⟩ := List.lookup_eq_some_iff.mp found
    obtain ⟨n, hn, hnd⟩ := List.mem_map.mp h
    have hmem : d.toNat ∈ image := eq_toNat_of_ofNat_eq hnd hzero ▸ hn
    exact absurd hmem (hspecial (c.toNat, image) (by simp))
  · rw [List.mem_singleton] at h
    cases hfound : shifts.findSome? (·.image? c.toNat) with
    | none => simpa [hfound] using h
    | some n =>
      obtain ⟨s, hs, himage⟩ := List.exists_of_findSome?_eq_some hfound
      have hn : n = d.toNat := eq_toNat_of_ofNat_eq (by simp [h, hfound]) hzero
      exact absurd (hn ▸ himage) (Shift.image?_ne (hshifts s hs) c.toNat)

end Letter

namespace Naming

theorem isBoundary_iff {c : Char} : isBoundary c = true ↔ c = '_' ∨ c = '-' ∨ c = ' ' := by
  simp [isBoundary, or_assoc]

theorem isUppercase_of_isBoundary {c : Char} (h : isBoundary c = true) :
    Letter.isUppercase c = false := by
  rcases isBoundary_iff.mp h with rfl | rfl | rfl <;> decide +kernel

theorem not_isBoundary_of_isUppercase {c : Char} (h : Letter.isUppercase c = true) :
    ¬ isBoundary c = true := by
  intro hboundary
  rw [isUppercase_of_isBoundary hboundary] at h
  cases h

theorem isBoundary_of_mem_toLower {c d : Char} (h : d ∈ Letter.toLower c)
    (hd : isBoundary d = true) : isBoundary c = true := by
  have hsame : d = c := by
    rcases isBoundary_iff.mp hd with rfl | rfl | rfl
    all_goals
      exact Letter.eq_of_mem_mapThrough (by decide +kernel) h
  rwa [← hsame]

/-- A character that is no capital form of another one is nowhere added. -/
theorem mem_of_mem_joinWords {d : Char}
    (hd : Letter.isNoImage Letter.upperSpecial Letter.upperShifts d = true) {raise : Bool}
    {s : List Char} (h : d ∈ joinWords raise s) : d ∈ s := by
  induction s generalizing raise with
  | nil => simp [joinWords] at h
  | cons c rest ih =>
    rw [joinWords] at h
    split at h
    · exact List.mem_cons_of_mem _ (ih h)
    · rcases List.mem_append.mp h with hfirst | hrest
      · have hc : d = c := by
          cases raise with
          | true =>
            have hupper : d ∈ Letter.toUpper c := by simpa using hfirst
            exact Letter.eq_of_mem_mapThrough hd hupper
          | false => simpa using hfirst
        rw [hc]
        exact List.mem_cons_self
      · exact List.mem_cons_of_mem _ (ih hrest)

theorem slash_mem_pascal {name : String} (h : '/' ∈ (pascal name).toList) : '/' ∈ name.toList := by
  rw [pascal, String.toList_ofList] at h
  exact mem_of_mem_joinWords (by decide +kernel) h

theorem colon_mem_pascal {name : String} (h : ':' ∈ (pascal name).toList) : ':' ∈ name.toList := by
  rw [pascal, String.toList_ofList] at h
  exact mem_of_mem_joinWords (by decide +kernel) h

end Naming

end ServiceScaffold
