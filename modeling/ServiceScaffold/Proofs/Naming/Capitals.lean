/-
Capitals and their small forms.

Not every capital has a small form: the capitals of mathematical alphabets stay as they are.  All
others are lowered for good, since no small form holds a capital again.  The letters of ASCII come
in pairs, and in such a pair either letter is found again from the other.

* `Letter.toLower_eq_self_of_mem` — a capital comes out of lowering only where nothing is lowered.
* `Letter.Paired` — a capital and a small letter that lead to each other.
* `Letter.exists_small`, `Letter.exists_capital` — the pairs of ASCII.
-/
import ServiceScaffold.Proofs.Naming.Images

namespace ServiceScaffold.Letter

/-! ### Small forms hold no capitals -/

/-- Whether a run takes at most every second code point. -/
def Run.isSparse (r : Run) : Bool :=
  r.step == 2 || r.first == r.last

/-- Whether two runs are seen to be disjoint: one ends before the other starts, or they alternate. -/
def Run.avoids (r t : Run) : Bool :=
  r.last.blt t.first || t.last.blt r.first ||
    (r.isSparse && t.isSparse && (r.first + t.first) % 2 == 1)

/-- The images of a run of shifted characters. -/
def Shift.images (s : Shift) : Run :=
  ⟨s.target, s.target + (s.run.last - s.run.first), s.run.step⟩

theorem Run.contains_iff {r : Run} {n : Nat} :
    r.contains n = true ↔ r.first ≤ n ∧ n ≤ r.last ∧ (n - r.first) % r.step = 0 := by
  simp [contains, and_assoc]

theorem Run.parity {r : Run} {n : Nat} (h : r.isSparse = true) (hn : r.contains n = true) :
    n % 2 = r.first % 2 := by
  obtain ⟨hfirst, hlast, hstep⟩ := contains_iff.mp hn
  rw [isSparse, Bool.or_eq_true, beq_iff_eq, beq_iff_eq] at h
  rcases h with htwo | hsingle
  · rw [htwo] at hstep
    omega
  · omega

theorem Run.not_contains_of_avoids {r t : Run} {n : Nat} (h : r.avoids t = true)
    (hr : r.contains n = true) : ¬ t.contains n = true := by
  intro ht
  obtain ⟨hfirst, hlast, -⟩ := contains_iff.mp hr
  obtain ⟨hfirst', hlast', -⟩ := contains_iff.mp ht
  simp only [avoids, Bool.or_eq_true, Bool.and_eq_true, Nat.blt_eq, beq_iff_eq] at h
  rcases h with (hbefore | hafter) | ⟨⟨hsparse, hsparse'⟩, halternate⟩
  · omega
  · omega
  · have hparity := parity hsparse hr
    have hparity' := parity hsparse' ht
    omega

theorem Shift.images_contains {s : Shift} {n m : Nat} (h : s.image? n = some m) :
    s.images.contains m = true := by
  rw [image?] at h
  split at h
  · rename_i hrun
    obtain ⟨hfirst, hlast, hstep⟩ := Run.contains_iff.mp hrun
    obtain rfl : s.target + (n - s.run.first) = m := Option.some.inj h
    refine Run.contains_iff.mpr ⟨Nat.le_add_right _ _, ?_, ?_⟩
    · exact Nat.add_le_add_left (Nat.sub_le_sub_right hlast _) _
    · rw [images, Nat.add_sub_cancel_left]
      exact hstep
  · cases h

/-- The small forms in the table of shifts are no capitals. -/
theorem images_avoid_uppercaseRuns :
    (lowerShifts.all fun s => uppercaseRuns.all fun r => s.images.avoids r) = true := by
  decide +kernel

/-- Among the small forms of a character there is a capital only if it has no other form. -/
theorem toLower_eq_self_of_mem {c d : Char} (hd : d ∈ toLower c) (h : isUppercase d = true) :
    toLower c = [c] := by
  have hspecial : ∀ e ∈ lowerSpecial, ∀ n ∈ e.2, isUppercase (Char.ofNat n) = false := by
    decide +kernel
  obtain ⟨r, hr, hcontains⟩ := List.any_eq_true.mp h
  rw [toLower, mapThrough] at hd ⊢
  split at hd
  · rename_i image found
    obtain ⟨l, r, htable, -⟩ := List.lookup_eq_some_iff.mp found
    obtain ⟨n, hn, rfl⟩ := List.mem_map.mp hd
    rw [hspecial (c.toNat, image) (by simp [htable]) n hn] at h
    cases h
  · cases hfound : lowerShifts.findSome? (·.image? c.toNat) with
    | none => rfl
    | some n =>
      obtain ⟨s, hs, himage⟩ := List.exists_of_findSome?_eq_some hfound
      have hzero : d.toNat ≠ 0 := by
        intro hzero
        rw [isUppercase, hzero] at h
        exact absurd h (by decide +kernel)
      have hn : n = d.toNat :=
        eq_toNat_of_ofNat_eq (by simpa [hfound, eq_comm] using hd) hzero
      have havoids := List.all_eq_true.mp (List.all_eq_true.mp images_avoid_uppercaseRuns s hs) r hr
      exact absurd hcontains
        (Run.not_contains_of_avoids havoids (hn ▸ Shift.images_contains himage))

/-! ### Pairs -/

/-- A capital and a small letter that lead to each other, and each to itself. -/
structure Paired (capital small : Char) : Prop where
  isUppercase : isUppercase capital = true
  toLower_capital : toLower capital = [small]
  toUpper_small : toUpper small = [capital]
  toUpper_capital : toUpper capital = [capital]
  toLower_small : toLower small = [small]

instance (capital small : Char) : Decidable (Paired capital small) :=
  decidable_of_iff
    (Letter.isUppercase capital = true ∧ toLower capital = [small] ∧ toUpper small = [capital] ∧
      toUpper capital = [capital] ∧ toLower small = [small])
    ⟨fun ⟨h₁, h₂, h₃, h₄, h₅⟩ => ⟨h₁, h₂, h₃, h₄, h₅⟩,
      fun ⟨h₁, h₂, h₃, h₄, h₅⟩ => ⟨h₁, h₂, h₃, h₄, h₅⟩⟩

theorem paired_ascii : ∀ n < 26, Paired (Char.ofNat (65 + n)) (Char.ofNat (97 + n)) := by
  decide +kernel

theorem exists_small {c : Char} (h : c.isUpper = true) : ∃ small, Paired c small := by
  have bounds : 65 ≤ c.toNat ∧ c.toNat ≤ 90 := of_decide_eq_true h
  have hpaired := paired_ascii (c.toNat - 65) (by omega)
  rw [Nat.add_sub_cancel' bounds.1, Char.ofNat_toNat] at hpaired
  exact ⟨_, hpaired⟩

theorem bounds_of_isLower {c : Char} (h : c.isLower = true) : 97 ≤ c.toNat ∧ c.toNat ≤ 122 := by
  obtain ⟨hlow, hhigh⟩ := Bool.and_eq_true_iff.mp h
  exact ⟨of_decide_eq_true hlow, of_decide_eq_true hhigh⟩

theorem exists_capital {c : Char} (h : c.isLower = true) : ∃ capital, Paired capital c := by
  obtain ⟨hlow, hhigh⟩ := bounds_of_isLower h
  have hpaired := paired_ascii (c.toNat - 97) (by omega)
  rw [Nat.add_sub_cancel' hlow, Char.ofNat_toNat] at hpaired
  exact ⟨_, hpaired⟩

/-- A capital that is a letter of ASCII has a small form that leads back to it. -/
theorem exists_small_of_isAlpha {c : Char} (h : c.isAlpha = true) (hc : isUppercase c = true) :
    ∃ small, Paired c small := by
  rcases (Bool.or_eq_true _ _).mp h with hupper | hlower
  · exact exists_small hupper
  · have hascii := isUppercase_ascii c.toNat (by have := bounds_of_isLower hlower; omega)
    rw [Char.ofNat_toNat, hc] at hascii
    exact exists_small hascii.symm

end ServiceScaffold.Letter
