/-
The separated forms as normal forms.

A text is separated when the separator is its only boundary and never stands twice in a row, and
when every capital in it has no small form and opens a word.  The conversion makes only such texts
and leaves only such texts as they are, so that converting once is enough.

* `IsSeparated` — the normal form, for either separator.
* `isSeparated_separateWords` — every result of the conversion has it.
* `separateWords_of_isSeparated` — what has it is left as it is.
* `separated_forms` — the snake form and the kebab form of every name.
-/
import ServiceScaffold.Proofs.Naming.Capitals
import ServiceScaffold.Proofs.Naming.Separated

namespace ServiceScaffold.Naming

/-! ### The normal form -/

/-- Whether `d` may follow `c`: no separator follows a separator, and a capital follows nothing
else. -/
def MayFollow (separator c d : Char) : Prop :=
  ¬ (c = separator ∧ d = separator) ∧ (Letter.isUppercase d = true → c = separator)

/-- The separated texts. -/
structure IsSeparated (separator : Char) (s : List Char) : Prop where
  boundary : ∀ c ∈ s, isBoundary c = true → c = separator
  capital : ∀ c ∈ s, Letter.isUppercase c = true → Letter.toLower c = [c]
  adjacent : s.IsChain (MayFollow separator)

variable {separator : Char}

theorem ne_of_not_isBoundary (hseparator : isBoundary separator = true) {c : Char}
    (hc : ¬ isBoundary c = true) : c ≠ separator := by
  rintro rfl
  exact hc hseparator

theorem IsKept.ne_separator (hseparator : isBoundary separator = true) {c : Char} (hc : IsKept c) :
    c ≠ separator :=
  ne_of_not_isBoundary hseparator (ne_true_of_eq_false hc.1)

theorem mayFollow_separator (hseparator : isBoundary separator = true) {c : Char}
    (hc : c ≠ separator) : MayFollow separator c separator :=
  ⟨fun hboth => hc hboth.1,
    fun hupper => absurd hseparator (not_isBoundary_of_isUppercase hupper)⟩

theorem separator_mayFollow {c : Char} (hc : c ≠ separator) : MayFollow separator separator c :=
  ⟨fun hboth => hc hboth.2, fun _ => rfl⟩

theorem IsKept.mayFollow (hseparator : isBoundary separator = true) {d : Char} (hd : IsKept d)
    (c : Char) : MayFollow separator c d :=
  ⟨fun hboth => hd.ne_separator hseparator hboth.2,
    fun hupper => absurd hupper (ne_true_of_eq_false hd.2)⟩

/-- Where the conversion stands after a character. -/
def seamAfter (separator last : Char) : Seam :=
  if last = separator then .separator else .word

theorem seamAfter_separator : seamAfter separator separator = .separator :=
  if_pos rfl

theorem seamAfter_of_ne {c : Char} (hc : c ≠ separator) : seamAfter separator c = .word :=
  if_neg hc

/-- A text starts as if some character stood before it. -/
theorem exists_before_start (hseparator : isBoundary separator = true) (c : Char)
    (rest : List Char) :
    ∃ last, MayFollow separator last c ∧
      separateWords separator .start (c :: rest) =
        separateWords separator (seamAfter separator last) (c :: rest) := by
  rw [separateWords_start]
  by_cases hupper : Letter.isUppercase c = true
  · have hc := ne_of_not_isBoundary hseparator (not_isBoundary_of_isUppercase hupper)
    refine ⟨separator, separator_mayFollow hc, ?_⟩
    rw [if_pos hupper, seamAfter_separator]
  · have ha : 'a' ≠ separator := ne_of_not_isBoundary hseparator (by decide)
    refine ⟨'a', ⟨fun hboth => ha hboth.1, fun h => absurd h hupper⟩, ?_⟩
    rw [if_neg hupper, seamAfter_of_ne ha]

/-! ### Every result is separated -/

/-- Where a character of a result comes from. -/
theorem mem_separateWords {seam : Seam} {s : List Char} {d : Char}
    (hd : d ∈ separateWords separator seam s) :
    d = separator ∨ (∃ c, Letter.isUppercase c = true ∧ d ∈ Letter.toLower c) ∨ IsKept d := by
  induction s generalizing seam with
  | nil => cases hd
  | cons c rest ih =>
    rcases boundary_or_capital_or_kept c with hc | hc | hc
    · rw [separateWords_boundary _ hc] at hd
      rcases List.mem_append.mp hd with hfirst | hrest
      · split at hfirst
        · cases hfirst
        · exact Or.inl (List.mem_singleton.mp hfirst)
      · exact ih hrest
    · rw [separateWords_capital _ hc, List.mem_append, List.mem_append] at hd
      rcases hd with hfirst | hlower | hrest
      · split at hfirst
        · exact Or.inl (List.mem_singleton.mp hfirst)
        · cases hfirst
      · exact Or.inr (Or.inl ⟨c, hc, hlower⟩)
      · exact ih hrest
    · rw [separateWords_kept _ hc] at hd
      rcases List.mem_cons.mp hd with rfl | hrest
      · exact Or.inr (Or.inr hc)
      · exact ih hrest

theorem boundary_of_mem_separateWords {seam : Seam} {s : List Char} {d : Char}
    (hd : d ∈ separateWords separator seam s) (h : isBoundary d = true) : d = separator := by
  rcases mem_separateWords hd with hsame | ⟨c, hupper, hlower⟩ | hkept
  · exact hsame
  · exact absurd (isBoundary_of_mem_toLower hlower h) (not_isBoundary_of_isUppercase hupper)
  · exact absurd h (ne_true_of_eq_false hkept.1)

theorem capital_of_mem_separateWords (hseparator : isBoundary separator = true) {seam : Seam}
    {s : List Char} {d : Char} (hd : d ∈ separateWords separator seam s)
    (h : Letter.isUppercase d = true) : Letter.toLower d = [d] := by
  rcases mem_separateWords hd with rfl | ⟨c, -, hlower⟩ | hkept
  · exact absurd hseparator (not_isBoundary_of_isUppercase h)
  · have hself := Letter.toLower_eq_self_of_mem hlower h
    rw [hself, List.mem_singleton] at hlower
    rwa [hlower]
  · exact absurd h (ne_true_of_eq_false hkept.2)

/-- Characters that are kept may follow anything. -/
theorem isChain_kept (hseparator : isBoundary separator = true) {letters rest : List Char}
    (hne : letters ≠ []) (hletters : ∀ d ∈ letters, IsKept d)
    (hrest : ∀ d, d ≠ separator → (d :: rest).IsChain (MayFollow separator)) (last : Char) :
    (last :: (letters ++ rest)).IsChain (MayFollow separator) := by
  induction letters generalizing last with
  | nil => exact absurd rfl hne
  | cons d letters ih =>
    have hd := hletters d List.mem_cons_self
    refine List.isChain_cons_cons.mpr ⟨hd.mayFollow hseparator last, ?_⟩
    cases letters with
    | nil => exact hrest d (hd.ne_separator hseparator)
    | cons e others =>
      exact ih (List.cons_ne_nil e others) (fun x hx => hletters x (List.mem_cons_of_mem d hx)) d

/-- A lowered capital goes on from a separator: it has either no small form, or one without
capitals. -/
theorem isChain_toLower (hseparator : isBoundary separator = true) {c : Char}
    (hc : Letter.isUppercase c = true) {rest : List Char}
    (hrest : ∀ d, d ≠ separator → (d :: rest).IsChain (MayFollow separator)) :
    (separator :: (Letter.toLower c ++ rest)).IsChain (MayFollow separator) := by
  have hboundary := not_isBoundary_of_isUppercase hc
  by_cases hkept : ∃ d ∈ Letter.toLower c, Letter.isUppercase d = true
  · obtain ⟨d, hd, hcapital⟩ := hkept
    have hne := ne_of_not_isBoundary hseparator hboundary
    rw [Letter.toLower_eq_self_of_mem hd hcapital]
    exact List.isChain_cons_cons.mpr ⟨separator_mayFollow hne, hrest c hne⟩
  · refine isChain_kept hseparator (Letter.toLower_ne_nil c) (fun d hd => ⟨?_, ?_⟩) hrest separator
    · exact eq_false_of_ne_true fun h => hboundary (isBoundary_of_mem_toLower hd h)
    · exact eq_false_of_ne_true fun h => hkept ⟨d, hd, h⟩

/-- What is written goes on from the last character as a separated text does. -/
theorem isChain_separateWords (hseparator : isBoundary separator = true) (s : List Char)
    (last : Char) :
    (last :: separateWords separator (seamAfter separator last) s).IsChain
      (MayFollow separator) := by
  induction s generalizing last with
  | nil => exact List.isChain_singleton last
  | cons c rest ih =>
    have hword (d : Char) (hd : d ≠ separator) :
        (d :: separateWords separator .word rest).IsChain (MayFollow separator) := by
      simpa only [seamAfter_of_ne hd] using ih d
    have hseam : (separator :: separateWords separator .separator rest).IsChain
        (MayFollow separator) := by
      simpa only [seamAfter_separator] using ih separator
    rcases boundary_or_capital_or_kept c with hc | hc | hc
    · rw [separateWords_boundary _ hc]
      by_cases hlast : last = separator
      · rw [hlast, seamAfter_separator, if_pos rfl]
        exact hseam
      · rw [seamAfter_of_ne hlast, if_neg (by decide)]
        exact List.isChain_cons_cons.mpr ⟨mayFollow_separator hseparator hlast, hseam⟩
    · have hlowered := isChain_toLower hseparator hc hword
      rw [separateWords_capital _ hc]
      by_cases hlast : last = separator
      · rw [hlast, seamAfter_separator, if_neg (by decide)]
        exact hlowered
      · rw [seamAfter_of_ne hlast, if_pos rfl]
        exact List.isChain_cons_cons.mpr ⟨mayFollow_separator hseparator hlast, hlowered⟩
    · rw [separateWords_kept _ hc]
      exact List.isChain_cons_cons.mpr
        ⟨hc.mayFollow hseparator last, hword c (hc.ne_separator hseparator)⟩

theorem isSeparated_separateWords (hseparator : isBoundary separator = true) (s : List Char) :
    IsSeparated separator (separateWords separator .start s) where
  boundary _ hd := boundary_of_mem_separateWords hd
  capital _ hd := capital_of_mem_separateWords hseparator hd
  adjacent := by
    cases s with
    | nil => exact List.isChain_nil
    | cons c rest =>
      obtain ⟨last, -, hstart⟩ := exists_before_start hseparator c rest
      rw [hstart]
      exact (isChain_separateWords hseparator (c :: rest) last).tail

/-! ### A separated text is left as it is -/

theorem separateWords_of_isChain (hseparator : isBoundary separator = true) {s : List Char}
    (hboundary : ∀ c ∈ s, isBoundary c = true → c = separator)
    (hcapital : ∀ c ∈ s, Letter.isUppercase c = true → Letter.toLower c = [c]) (last : Char)
    (hchain : (last :: s).IsChain (MayFollow separator)) :
    separateWords separator (seamAfter separator last) s = s := by
  induction s generalizing last with
  | nil => rfl
  | cons c rest ih =>
    obtain ⟨⟨hapart, hopening⟩, hrest⟩ := List.isChain_cons_cons.mp hchain
    have hbehind := ih (fun d hd => hboundary d (List.mem_cons_of_mem c hd))
      (fun d hd => hcapital d (List.mem_cons_of_mem c hd)) c hrest
    have hword (hc : c ≠ separator) : separateWords separator .word rest = rest := by
      rwa [seamAfter_of_ne hc] at hbehind
    rcases boundary_or_capital_or_kept c with hc | hc | hc
    · obtain rfl := hboundary c List.mem_cons_self hc
      have hlast : last ≠ c := fun hlast => hapart ⟨hlast, rfl⟩
      rw [seamAfter_separator] at hbehind
      rw [separateWords_boundary _ hc, seamAfter_of_ne hlast, if_neg (by decide), hbehind]
      rfl
    · have hne := ne_of_not_isBoundary hseparator (not_isBoundary_of_isUppercase hc)
      rw [separateWords_capital _ hc, hopening hc, seamAfter_separator, if_neg (by decide),
        hcapital c List.mem_cons_self hc, hword hne]
      rfl
    · rw [separateWords_kept _ hc, hword (hc.ne_separator hseparator)]

theorem separateWords_of_isSeparated (hseparator : isBoundary separator = true) {s : List Char}
    (h : IsSeparated separator s) : separateWords separator .start s = s := by
  cases s with
  | nil => rfl
  | cons c rest =>
    obtain ⟨last, hlast, hstart⟩ := exists_before_start hseparator c rest
    rw [hstart]
    exact separateWords_of_isChain hseparator h.boundary h.capital last
      (List.isChain_cons_cons.mpr ⟨hlast, h.adjacent⟩)

theorem separateWords_eq_self_iff (hseparator : isBoundary separator = true) {s : List Char} :
    separateWords separator .start s = s ↔ IsSeparated separator s :=
  ⟨fun h => h ▸ isSeparated_separateWords hseparator s, separateWords_of_isSeparated hseparator⟩

theorem separateWords_separateWords (hseparator : isBoundary separator = true) (s : List Char) :
    separateWords separator .start (separateWords separator .start s) =
      separateWords separator .start s :=
  separateWords_of_isSeparated hseparator (isSeparated_separateWords hseparator s)

/-! ### Both forms -/

theorem ofList_eq_iff {l : List Char} {s : String} : String.ofList l = s ↔ l = s.toList := by
  rw [← String.toList_inj, String.toList_ofList]

/-- The snake form of a name is separated by `_`, and a name is its own snake form exactly when it
is separated so; a second conversion changes nothing.  The same holds of the kebab form and `-`. -/
theorem separated_forms (s : String) :
    (snake s = s ↔ IsSeparated '_' s.toList) ∧ IsSeparated '_' (snake s).toList ∧
      snake (snake s) = snake s ∧
      (kebab s = s ↔ IsSeparated '-' s.toList) ∧ IsSeparated '-' (kebab s).toList ∧
      kebab (kebab s) = kebab s := by
  have hsnake : isBoundary '_' = true := rfl
  have hkebab : isBoundary '-' = true := rfl
  simp only [snake, kebab, ofList_eq_iff, String.toList_ofList]
  exact ⟨separateWords_eq_self_iff hsnake, isSeparated_separateWords hsnake s.toList,
    separateWords_separateWords hsnake s.toList, separateWords_eq_self_iff hkebab,
    isSeparated_separateWords hkebab s.toList, separateWords_separateWords hkebab s.toList⟩

-- a capital of a mathematical alphabet stays where it opens a word, and is set apart elsewhere
example : snake "𝐀b_𝐂" = "𝐀b_𝐂" ∧ snake "a𝐁" = "a_𝐁" := by decide +kernel

end ServiceScaffold.Naming
