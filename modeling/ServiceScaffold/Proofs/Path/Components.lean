/-
The components of joined paths.

Appending a relative text to a path appends the steps of that text to its components, whatever
slashes and dots stand where the two meet.  A text without a slash makes at most one step, and a
lone dot none, so that different names below one directory name different places.

* `Path.components_child` — the components of `p.child name`.
* `Path.components_child_inj` — two names without a slash are told apart below every directory.
* `Path.IsPlain.isUnder_child` — plain names are told apart by everything below them.
-/
import ServiceScaffold.Path

namespace ServiceScaffold.Path

/-! ### Sameness -/

theorem same_iff {p q : Path} : p.same q = true ↔ p.components = q.components := by
  simp [same]

theorem same_symm {p q : Path} (h : p.same q = true) : q.same p = true :=
  same_iff.mpr (same_iff.mp h).symm

theorem same_trans {p q r : Path} (hpq : p.same q = true) (hqr : q.same r = true) :
    p.same r = true :=
  same_iff.mpr ((same_iff.mp hpq).trans (same_iff.mp hqr))

theorem isUnder_iff {p base : Path} : p.isUnder base = true ↔ base.components <+: p.components := by
  simp [isUnder, List.isPrefixOf_iff_prefix]

/-! ### Pieces -/

theorem pieces_append_slash (a b : List Char) : pieces (a ++ '/' :: b) = pieces a ++ pieces b := by
  induction a with
  | nil => simp [pieces]
  | cons c r ih =>
    rw [List.cons_append, pieces, pieces, ih]
    by_cases hc : c = '/'
    · simp [hc]
    · obtain ⟨p, ps, hr⟩ := List.exists_cons_of_ne_nil (pieces_ne_nil r)
      simp [hc, hr]

theorem pieces_of_slash_not_mem {a : List Char} (h : '/' ∉ a) : pieces a = [a] := by
  induction a with
  | nil => rfl
  | cons c r ih =>
    have hc : c ≠ '/' := fun hc => h (by simp [hc])
    have hr : '/' ∉ r := fun hr => h (List.mem_cons_of_mem _ hr)
    rw [pieces, if_neg hc, ih hr]

theorem step?_eq_none_iff {piece : List Char} : step? piece = none ↔ piece = [] ∨ piece = ['.'] := by
  unfold step?
  split
  · rename_i hidle
    simpa [isIdle] using hidle
  · rename_i hidle
    have hstep : ¬ (piece = [] ∨ piece = ['.']) := by simpa [isIdle] using hidle
    split <;> simp [hstep]

theorem step?_ne_root {piece : List Char} : step? piece ≠ some .root := by
  unfold step?
  split
  · simp
  · split <;> simp

theorem step?_ne_current {piece : List Char} : step? piece ≠ some .current := by
  unfold step?
  split
  · simp
  · split <;> simp

/-- The piece that spells a step. -/
def spelling : Component → List Char
  | .root => []
  | .current => ['.']
  | .parent => ['.', '.']
  | .normal name => name.toList

theorem spelling_of_step? {piece : List Char} {c : Component} (h : step? piece = some c) :
    spelling c = piece := by
  unfold step? at h
  split at h
  · simp at h
  · split at h
    · rename_i hparent
      obtain rfl := Option.some.inj h
      exact hparent.symm
    · obtain rfl := Option.some.inj h
      exact String.toList_ofList

/-- Different pieces, neither of them empty, stand for different steps. -/
theorem step?_inj {p q : List Char} (hp : p ≠ []) (hq : q ≠ []) (h : step? p = step? q) :
    p = q := by
  cases hstep : step? p with
  | none =>
    have hpdot := (step?_eq_none_iff.mp hstep).resolve_left hp
    have hqdot := (step?_eq_none_iff.mp (h ▸ hstep)).resolve_left hq
    rw [hpdot, hqdot]
  | some c =>
    have hspelled : spelling c = p := spelling_of_step? hstep
    rw [← hspelled, spelling_of_step? (h ▸ hstep)]

/-- The steps of a text that is appended to a path. -/
def steps (text : List Char) : List Component :=
  (pieces text).filterMap step?

theorem steps_of_slash_not_mem {a : List Char} (h : '/' ∉ a) : steps a = (step? a).toList := by
  rw [steps, pieces_of_slash_not_mem h]
  cases hstep : step? a <;> simp [hstep]

/-! ### Components by the first piece -/

theorem componentsOf_of_empty_piece {text p : List Char} {ps : List (List Char)}
    (h : pieces text = [] :: p :: ps) :
    componentsOf text = .root :: (p :: ps).filterMap step? := by
  simp only [componentsOf, h]

theorem componentsOf_of_dot_piece {text : List Char} {ps : List (List Char)}
    (h : pieces text = ['.'] :: ps) : componentsOf text = .current :: ps.filterMap step? := by
  simp only [componentsOf, h]

theorem componentsOf_of_other_piece {text p : List Char} {ps : List (List Char)}
    (h : pieces text = p :: ps) (hempty : p ≠ []) (hdot : p ≠ ['.']) :
    componentsOf text = (p :: ps).filterMap step? := by
  rw [componentsOf, h]
  split
  · simp_all
  · simp_all
  · rfl

theorem componentsOf_slash_cons (b : List Char) : componentsOf ('/' :: b) = .root :: steps b := by
  obtain ⟨p, ps, hb⟩ := List.exists_cons_of_ne_nil (pieces_ne_nil b)
  have hpieces : pieces ('/' :: b) = [] :: p :: ps := by rw [pieces, if_pos rfl, hb]
  rw [componentsOf_of_empty_piece hpieces, steps, hb]

/-- A slash after the start of a text separates the components before it from the steps after
it. -/
theorem componentsOf_append_slash {a : List Char} (ha : a ≠ []) (b : List Char) :
    componentsOf (a ++ '/' :: b) = componentsOf a ++ steps b := by
  have hjoined := pieces_append_slash a b
  obtain ⟨p, ps, hcut⟩ := List.exists_cons_of_ne_nil (pieces_ne_nil a)
  rw [hcut, List.cons_append] at hjoined
  by_cases hempty : p = []
  · subst hempty
    cases ps with
    | nil => exact absurd (by rw [← unpieces_pieces a, hcut]; rfl) ha
    | cons q qs =>
      have hroot : pieces (a ++ '/' :: b) = [] :: q :: (qs ++ pieces b) := hjoined
      rw [componentsOf_of_empty_piece hroot, componentsOf_of_empty_piece hcut,
        ← List.cons_append, List.filterMap_append, List.cons_append, steps]
  · by_cases hdot : p = ['.']
    · subst hdot
      rw [componentsOf_of_dot_piece hjoined, componentsOf_of_dot_piece hcut,
        List.filterMap_append, List.cons_append, steps]
    · rw [componentsOf_of_other_piece hjoined hempty hdot,
        componentsOf_of_other_piece hcut hempty hdot, ← List.cons_append,
        List.filterMap_append, steps]

theorem components_ne_nil {p : Path} (hp : p.text ≠ "") : p.components ≠ [] := by
  rw [components]
  obtain ⟨q, qs, hcut⟩ := List.exists_cons_of_ne_nil (pieces_ne_nil p.text.toList)
  by_cases hempty : q = []
  · subst hempty
    cases qs with
    | nil =>
      have hnil : p.text.toList = [] := by rw [← unpieces_pieces p.text.toList, hcut]; rfl
      exact absurd (String.toList_eq_nil_iff.mp hnil) hp
    | cons r rs =>
      rw [componentsOf_of_empty_piece hcut]
      simp
  · by_cases hdot : q = ['.']
    · subst hdot
      rw [componentsOf_of_dot_piece hcut]
      simp
    · obtain ⟨c, hc⟩ := Option.ne_none_iff_exists'.mp
        (fun h => (step?_eq_none_iff.mp h).elim hempty hdot)
      rw [componentsOf_of_other_piece hcut hempty hdot, List.filterMap_cons_some hc]
      simp

theorem components_eq_nil_iff {p : Path} : p.components = [] ↔ p.text = "" := by
  constructor
  · intro hnil
    exact Decidable.byContradiction fun hp => components_ne_nil hp hnil
  · intro hp
    rw [components, hp]
    rfl

/-! ### Children -/

theorem child_text_ne_empty (p : Path) {name : String} (hn : name ≠ "") :
    (p.child name).text ≠ "" := by
  unfold child join
  split
  · exact hn
  · split <;> simp [hn]

/-- The text of a child: the name alone, or the name after a slash. -/
theorem child_text (p : Path) {name : String} (hn : name.toList.head? ≠ some '/') :
    (p.text = "" ∧ (p.child name).text.toList = name.toList) ∨
    (∃ a, p.text.toList = a ++ ['/'] ∧ (p.child name).text.toList = a ++ '/' :: name.toList) ∨
    (p.text ≠ "" ∧ (p.child name).text.toList = p.text.toList ++ '/' :: name.toList) := by
  have hrelative : isAbsolute ⟨name⟩ = false := by simp [isAbsolute, hn]
  rw [child, join, hrelative]
  by_cases hempty : p.text = ""
  · simp [hempty]
  · by_cases hslash : p.text.toList.getLast? = some '/'
    · obtain ⟨a, ha⟩ := List.getLast?_eq_some_iff.mp hslash
      right; left
      exact ⟨a, ha, by simp [ha]⟩
    · right; right
      refine ⟨hempty, ?_⟩
      simp [hslash, hempty]

/-- A relative name adds its steps to the components of a path. -/
theorem components_child (p : Path) {name : String} (hp : p.text ≠ "")
    (hn : name.toList.head? ≠ some '/') :
    (p.child name).components = p.components ++ steps name.toList := by
  rw [components, components]
  rcases child_text p hn with ⟨hempty, -⟩ | ⟨a, ha, hchild⟩ | ⟨-, hchild⟩
  · exact absurd hempty hp
  · rw [hchild, ha]
    by_cases hroot : a = []
    · subst hroot
      rw [List.nil_append, List.nil_append, componentsOf_slash_cons, componentsOf_slash_cons]
      rfl
    · rw [componentsOf_append_slash hroot, componentsOf_append_slash hroot]
      simp [steps, pieces, step?, isIdle]
  · rw [hchild, componentsOf_append_slash (by simpa using hp)]

theorem head?_ne_slash {name : List Char} (h : '/' ∉ name) : name.head? ≠ some '/' :=
  fun hhead => h (List.mem_of_mem_head? hhead)

/-- Below the empty path, a name without a slash is a path of its own. -/
theorem child_of_text_eq_empty {p : Path} (hp : p.text = "") {name : String}
    (h : '/' ∉ name.toList) : p.child name = ⟨name⟩ := by
  simp [child, join, isAbsolute, head?_ne_slash h, hp]

/-- The components of a name without a slash. -/
theorem components_of_slash_not_mem {name : String} (hn : name ≠ "") (h : '/' ∉ name.toList) :
    components ⟨name⟩ = [(step? name.toList).getD .current] := by
  have hcut := pieces_of_slash_not_mem h
  have hempty : name.toList ≠ [] := by simpa using hn
  rw [components]
  by_cases hdot : name.toList = ['.']
  · have hdotted : pieces name.toList = ['.'] :: [] := by rw [hcut, hdot]
    rw [componentsOf_of_dot_piece hdotted, hdot]
    rfl
  · obtain ⟨c, hc⟩ := Option.ne_none_iff_exists'.mp
      (fun h => (step?_eq_none_iff.mp h).elim hempty hdot)
    rw [componentsOf_of_other_piece hcut hempty hdot, List.filterMap_cons_some hc, hc]
    rfl

/-- Two names without a slash are told apart below every directory. -/
theorem components_child_inj (p : Path) {a b : String} (ha : a ≠ "") (hb : b ≠ "")
    (hsa : '/' ∉ a.toList) (hsb : '/' ∉ b.toList)
    (h : (p.child a).components = (p.child b).components) : a = b := by
  have hal : a.toList ≠ [] := by simpa using ha
  have hbl : b.toList ≠ [] := by simpa using hb
  apply String.toList_injective
  apply step?_inj hal hbl
  by_cases hp : p.text = ""
  · rw [child_of_text_eq_empty hp hsa, child_of_text_eq_empty hp hsb,
      components_of_slash_not_mem ha hsa, components_of_slash_not_mem hb hsb] at h
    have hstep {piece : List Char} : step? piece ≠ some .current := step?_ne_current
    cases hstepa : step? a.toList <;> cases hstepb : step? b.toList <;> simp_all
  · rw [components_child p hp (head?_ne_slash hsa), components_child p hp (head?_ne_slash hsb),
      steps_of_slash_not_mem hsa, steps_of_slash_not_mem hsb] at h
    have hlist := List.append_cancel_left h
    cases hstepa : step? a.toList <;> cases hstepb : step? b.toList <;> simp_all

/-! ### Plain names -/

/-- A name that is a step of its own below every directory. -/
structure IsPlain (name : String) : Prop where
  ne_empty : name ≠ ""
  slash_not_mem : '/' ∉ name.toList
  ne_dot : name ≠ "."
  ne_dots : name ≠ ".."

instance (name : String) : Decidable (IsPlain name) :=
  decidable_of_iff (name ≠ "" ∧ '/' ∉ name.toList ∧ name ≠ "." ∧ name ≠ "..")
    ⟨fun ⟨hempty, hslash, hdot, hdots⟩ => ⟨hempty, hslash, hdot, hdots⟩,
      fun h => ⟨h.ne_empty, h.slash_not_mem, h.ne_dot, h.ne_dots⟩⟩

theorem IsPlain.step?_eq {name : String} (h : IsPlain name) :
    step? name.toList = some (.normal name) := by
  have hempty : name.toList ≠ [] := by simpa using h.ne_empty
  have hdot : name.toList ≠ ['.'] := fun heq => h.ne_dot (String.toList_injective heq)
  have hdots : name.toList ≠ ['.', '.'] := fun heq => h.ne_dots (String.toList_injective heq)
  rw [step?, if_neg (by simp [isIdle, hempty, hdot]), if_neg hdots, String.ofList_toList]

/-- A plain name adds one step, also to the empty path. -/
theorem IsPlain.components_child {name : String} (h : IsPlain name) (p : Path) :
    (p.child name).components = p.components ++ [.normal name] := by
  by_cases hp : p.text = ""
  · rw [child_of_text_eq_empty hp h.slash_not_mem, components_eq_nil_iff.mpr hp,
      components_of_slash_not_mem h.ne_empty h.slash_not_mem, h.step?_eq]
    rfl
  · rw [Path.components_child p hp (head?_ne_slash h.slash_not_mem),
      steps_of_slash_not_mem h.slash_not_mem, h.step?_eq]
    rfl

/-- What lies below one of the children of a path lies below no other. -/
theorem IsPlain.isUnder_child {a b : String} (ha : IsPlain a) (hb : IsPlain b) {p base : Path}
    (h : p.isUnder (base.child b) = true) : p.isUnder (base.child a) = decide (b = a) := by
  rw [Bool.eq_iff_iff, decide_eq_true_iff]
  constructor
  · intro hunder
    rw [isUnder_iff, ha.components_child] at hunder
    rw [isUnder_iff, hb.components_child] at h
    -- both are the part of `p` that has one step more than `base`
    have hprefix := List.prefix_of_prefix_length_le h hunder (by simp)
    simpa using hprefix
  · rintro rfl
    exact h

end ServiceScaffold.Path
