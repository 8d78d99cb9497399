/-
The path above a path.

The parent of a path is spelled with what is left of its text, and it denotes all its components but
the last.  A path that denotes nothing has no parent, and neither does the bare root.

* `Path.pieces_unpieces` — pieces that are written back are cut again.
* `Path.components_parent?` — the components of the parent, if there is one;
  `Path.exists_parent?_iff` — of a parent that is not the empty path.
-/
import ServiceScaffold.Proofs.Path.Components

namespace ServiceScaffold.Path

/-! ### Pieces written back -/

theorem slash_not_mem_of_mem_pieces {text piece : List Char} (h : piece ∈ pieces text) :
    '/' ∉ piece := by
  induction text generalizing piece with
  | nil =>
    rw [pieces, List.mem_singleton] at h
    rw [h]
    exact List.not_mem_nil
  | cons c r ih =>
    obtain ⟨q, qs, hr⟩ := List.exists_cons_of_ne_nil (pieces_ne_nil r)
    rw [hr] at ih
    rw [pieces, hr] at h
    split at h
    · rcases List.mem_cons.mp h with rfl | h
      · exact List.not_mem_nil
      · exact ih h
    · rename_i hc
      rcases List.mem_cons.mp h with rfl | h
      · intro hmem
        rcases List.mem_cons.mp hmem with hslash | hmem
        · exact hc hslash.symm
        · exact ih List.mem_cons_self hmem
      · exact ih (List.mem_cons_of_mem _ h)

theorem pieces_unpieces {ps : List (List Char)} (hne : ps ≠ []) (h : ∀ p ∈ ps, '/' ∉ p) :
    pieces (unpieces ps) = ps := by
  induction ps with
  | nil => exact absurd rfl hne
  | cons p rest ih =>
    obtain ⟨hp, hrest⟩ := List.forall_mem_cons.mp h
    cases rest with
    | nil => exact pieces_of_slash_not_mem hp
    | cons q qs =>
      have hwritten : unpieces (p :: q :: qs) = p ++ '/' :: unpieces (q :: qs) := rfl
      rw [hwritten, pieces_append_slash, pieces_of_slash_not_mem hp,
        ih (List.cons_ne_nil q qs) hrest, List.singleton_append]

theorem steps_unpieces {ps : List (List Char)} (h : ∀ p ∈ ps, '/' ∉ p) :
    steps (unpieces ps) = ps.filterMap step? := by
  by_cases hne : ps = []
  · rw [hne]
    rfl
  · rw [steps, pieces_unpieces hne h]

/-! ### Idle pieces -/

theorem isIdle_iff {piece : List Char} : isIdle piece = true ↔ step? piece = none := by
  rw [step?_eq_none_iff]
  simp [isIdle]

theorem filterMap_step?_of_idle {ps : List (List Char)} (h : ∀ p ∈ ps, isIdle p = true) :
    ps.filterMap step? = [] :=
  List.filterMap_eq_nil_iff.mpr fun p hp => isIdle_iff.mp (h p hp)

/-- Pieces with a step among them end in a step and idle pieces after it. -/
theorem exists_lastStep {ps : List (List Char)} (h : ps.all isIdle = false) :
    ∃ front last idle, ps = front ++ last :: idle ∧ isIdle last = false ∧
      ∀ p ∈ idle, isIdle p = true := by
  induction ps with
  | nil => exact absurd h (by decide)
  | cons p rest ih =>
    by_cases hrest : rest.all isIdle = true
    · refine ⟨[], p, rest, rfl, ?_, List.all_eq_true.mp hrest⟩
      rw [List.all_cons, hrest, Bool.and_true] at h
      exact h
    · obtain ⟨front, last, idle, rfl, hlast, hidle⟩ := ih (Bool.eq_false_iff.mpr hrest)
      exact ⟨p :: front, last, idle, rfl, hlast, hidle⟩

theorem dropIdleEnd_append {front idle : List (List Char)} (h : ∀ p ∈ idle, isIdle p = true) :
    dropIdleEnd (front ++ idle) = dropIdleEnd front := by
  have hreverse : ∀ p ∈ idle.reverse, isIdle p = true := fun p hp => h p (List.mem_reverse.mp hp)
  rw [dropIdleEnd, dropIdleEnd, List.reverse_append, List.dropWhile_append_of_pos hreverse]

theorem filterMap_dropIdleEnd (ps : List (List Char)) :
    (dropIdleEnd ps).filterMap step? = ps.filterMap step? := by
  cases hall : ps.all isIdle with
  | true =>
    have hidle := List.all_eq_true.mp hall
    rw [← List.nil_append ps, dropIdleEnd_append hidle, List.nil_append,
      filterMap_step?_of_idle hidle]
    rfl
  | false =>
    obtain ⟨front, last, idle, rfl, hlast, hidle⟩ := exists_lastStep hall
    have hkept : dropIdleEnd (front ++ [last]) = front ++ [last] := by
      simp [dropIdleEnd, hlast]
    have hsplit : front ++ last :: idle = front ++ [last] ++ idle := by simp
    rw [hsplit, dropIdleEnd_append hidle, hkept, List.filterMap_append (l := front ++ [last]),
      filterMap_step?_of_idle hidle, List.append_nil]

theorem dropIdleEnd_cons {p : List Char} (hp : isIdle p = false) (ps : List (List Char)) :
    dropIdleEnd (p :: ps) = p :: dropIdleEnd ps := by
  rw [dropIdleEnd, dropIdleEnd, List.reverse_cons, List.dropWhile_append]
  by_cases hnil : ps.reverse.dropWhile isIdle = []
  · simp [hnil, hp]
  · simp [hnil]

/-! ### The last step -/

theorem dropLastStep_append {front idle : List (List Char)} {last : List Char}
    (hlast : isIdle last = false) (hidle : ∀ p ∈ idle, isIdle p = true) :
    dropLastStep (front ++ last :: idle) = dropIdleEnd front := by
  have hreverse : ∀ p ∈ idle.reverse, isIdle p = true := fun p hp =>
    hidle p (List.mem_reverse.mp hp)
  rw [dropLastStep, List.reverse_append, List.reverse_cons, List.append_assoc,
    List.dropWhile_append_of_pos hreverse]
  simp [hlast]

theorem filterMap_dropLastStep {ps : List (List Char)} (h : ps.all isIdle = false) :
    ps.filterMap step? ≠ [] ∧
      (dropLastStep ps).filterMap step? = (ps.filterMap step?).dropLast := by
  obtain ⟨front, last, idle, rfl, hlast, hidle⟩ := exists_lastStep h
  obtain ⟨c, hc⟩ : ∃ c, step? last = some c := by
    refine Option.ne_none_iff_exists'.mp fun hnone => ?_
    rw [isIdle_iff.mpr hnone] at hlast
    exact absurd hlast (by decide)
  have hsteps : (front ++ last :: idle).filterMap step? = front.filterMap step? ++ [c] := by
    rw [List.filterMap_append, List.filterMap_cons_some hc, filterMap_step?_of_idle hidle]
  rw [hsteps, dropLastStep_append hlast hidle, filterMap_dropIdleEnd, List.dropLast_concat]
  exact ⟨by simp, rfl⟩

theorem mem_of_mem_dropLastStep {ps : List (List Char)} {p : List Char}
    (h : p ∈ dropLastStep ps) : p ∈ ps := by
  rw [dropLastStep, dropIdleEnd, List.mem_reverse] at h
  have hmem := List.mem_reverse.mp (List.mem_reverse.mp ((List.dropWhile_sublist _).mem h))
  exact List.mem_reverse.mp ((List.dropWhile_sublist _).mem (List.mem_of_mem_drop hmem))

/-- The pieces before the last step begin as all of them do. -/
theorem dropLastStep_cons {p : List Char} (hp : isIdle p = false) (ps : List (List Char)) :
    dropLastStep (p :: ps) = [] ∨ ∃ rest, dropLastStep (p :: ps) = p :: rest := by
  have hall : (p :: ps).all isIdle = false := by rw [List.all_cons, hp, Bool.false_and]
  obtain ⟨front, last, idle, hsplit, hlast, hidle⟩ := exists_lastStep hall
  rw [hsplit, dropLastStep_append hlast hidle]
  cases front with
  | nil => exact .inl rfl
  | cons q qs =>
    obtain rfl : p = q := (List.cons.inj hsplit).1
    exact .inr ⟨_, dropIdleEnd_cons hp qs⟩

/-! ### Parents by the first piece -/

section Parents

variable {p : Path} {first : List Char} {rest : List (List Char)}

theorem parent?_of_empty_piece (h : pieces p.text.toList = [] :: first :: rest) :
    p.parent? = if (first :: rest).all isIdle then none
      else some ⟨String.ofList ('/' :: unpieces (dropLastStep (first :: rest)))⟩ := by
  simp only [parent?, h]

theorem parent?_of_dot_piece (h : pieces p.text.toList = ['.'] :: rest) :
    p.parent? = if rest.all isIdle then some ⟨""⟩
      else some ⟨String.ofList (unpieces (['.'] :: dropLastStep rest))⟩ := by
  simp only [parent?, h]

theorem parent?_of_other_piece (h : pieces p.text.toList = first :: rest)
    (hfirst : isIdle first = false) :
    p.parent? = some ⟨String.ofList (unpieces (dropLastStep (first :: rest)))⟩ := by
  have hempty : first ≠ [] := by
    rintro rfl
    exact absurd hfirst (by decide)
  have hdot : first ≠ ['.'] := by
    rintro rfl
    exact absurd hfirst (by decide)
  have hall : ¬ (first :: rest).all isIdle = true := by simp [hfirst]
  rw [parent?, h]
  split
  · simp_all
  · simp_all
  · rw [if_neg hall]

end Parents

/-! ### The components of a parent -/

/-- What the parent of a path denotes, if it has one. -/
def parentComponents? (cs : List Component) : Option (List Component) :=
  if cs = [] ∨ cs = [.root] then none else some cs.dropLast

theorem components_parent?_of_empty_piece {p : Path} {first : List Char} {rest : List (List Char)}
    (h : pieces p.text.toList = [] :: first :: rest) (hslash : ∀ q ∈ first :: rest, '/' ∉ q) :
    p.parent?.map components = parentComponents? p.components := by
  rw [parent?_of_empty_piece h, components, componentsOf_of_empty_piece h, parentComponents?]
  cases hall : (first :: rest).all isIdle with
  | true =>
    rw [if_pos rfl, filterMap_step?_of_idle (List.all_eq_true.mp hall), if_pos (.inr rfl)]
    rfl
  | false =>
    obtain ⟨hne, hsteps⟩ := filterMap_dropLastStep hall
    have hkept : ∀ q ∈ dropLastStep (first :: rest), '/' ∉ q := fun q hq =>
      hslash q (mem_of_mem_dropLastStep hq)
    rw [if_neg Bool.false_ne_true, if_neg (by simp [hne]), Option.map_some, components,
      String.toList_ofList, componentsOf_slash_cons, steps_unpieces hkept, hsteps,
      List.dropLast_cons_of_ne_nil hne]

theorem components_parent?_of_dot_piece {p : Path} {rest : List (List Char)}
    (h : pieces p.text.toList = ['.'] :: rest) (hslash : ∀ q ∈ rest, '/' ∉ q) :
    p.parent?.map components = parentComponents? p.components := by
  have hnot (steps : List Component) :
      ¬ (Component.current :: steps = [] ∨ Component.current :: steps = [.root]) := by simp
  rw [parent?_of_dot_piece h, components, componentsOf_of_dot_piece h, parentComponents?,
    if_neg (hnot _)]
  cases hall : rest.all isIdle with
  | true =>
    rw [if_pos rfl, filterMap_step?_of_idle (List.all_eq_true.mp hall)]
    rfl
  | false =>
    obtain ⟨hne, hsteps⟩ := filterMap_dropLastStep hall
    have hkept : ∀ q ∈ ['.'] :: dropLastStep rest, '/' ∉ q := by
      refine List.forall_mem_cons.mpr ⟨by decide, fun q hq => ?_⟩
      exact hslash q (mem_of_mem_dropLastStep hq)
    rw [if_neg Bool.false_ne_true, Option.map_some, components, String.toList_ofList,
      componentsOf_of_dot_piece (pieces_unpieces (List.cons_ne_nil _ _) hkept), hsteps,
      List.dropLast_cons_of_ne_nil hne]

theorem components_parent?_of_other_piece {p : Path} {first : List Char} {rest : List (List Char)}
    (h : pieces p.text.toList = first :: rest) (hfirst : isIdle first = false)
    (hslash : ∀ q ∈ first :: rest, '/' ∉ q) :
    p.parent?.map components = parentComponents? p.components := by
  have hall : (first :: rest).all isIdle = false := by rw [List.all_cons, hfirst, Bool.false_and]
  obtain ⟨hne, hsteps⟩ := filterMap_dropLastStep hall
  obtain ⟨hempty, hdot⟩ : first ≠ [] ∧ first ≠ ['.'] := by
    constructor <;> (rintro rfl; exact absurd hfirst (by decide))
  have hcomponents : p.components = (first :: rest).filterMap step? :=
    componentsOf_of_other_piece h hempty hdot
  -- the first component is a step, hence not the root
  have hnot : ¬ (p.components = [] ∨ p.components = [.root]) := by
    rw [hcomponents]
    rintro (hnil | hroot)
    · exact hne hnil
    · have hmem : Component.root ∈ (first :: rest).filterMap step? := by
        rw [hroot]
        exact List.mem_singleton_self _
      obtain ⟨piece, -, hpiece⟩ := List.mem_filterMap.mp hmem
      exact step?_ne_root hpiece
  rw [parent?_of_other_piece h hfirst, parentComponents?, if_neg hnot, Option.map_some,
    hcomponents, ← hsteps, components, String.toList_ofList]
  rcases dropLastStep_cons hfirst rest with hnone | ⟨kept, hkept⟩
  · rw [hnone]
    rfl
  · have hslash' : ∀ q ∈ first :: kept, '/' ∉ q := by
      intro q hq
      exact hslash q (mem_of_mem_dropLastStep (hkept ▸ hq))
    rw [hkept, componentsOf_of_other_piece (pieces_unpieces (List.cons_ne_nil _ _) hslash')
      hempty hdot]

/-- A path has a parent unless it denotes nothing or the bare root, and the parent denotes all its
components but the last. -/
theorem components_parent? (p : Path) :
    p.parent?.map components = parentComponents? p.components := by
  have hslash : ∀ q ∈ pieces p.text.toList, '/' ∉ q := fun q => slash_not_mem_of_mem_pieces
  obtain ⟨first, rest, hcut⟩ := List.exists_cons_of_ne_nil (pieces_ne_nil p.text.toList)
  rw [hcut] at hslash
  obtain ⟨hfirst, hrest⟩ := List.forall_mem_cons.mp hslash
  by_cases hempty : first = []
  · subst hempty
    cases rest with
    | nil =>
      have htext : p.text.toList = [] := by rw [← unpieces_pieces p.text.toList, hcut]; rfl
      rw [parent?, components, htext]
      rfl
    | cons second rest => exact components_parent?_of_empty_piece hcut hrest
  · by_cases hdot : first = ['.']
    · subst hdot
      exact components_parent?_of_dot_piece hcut hrest
    · have hstep : isIdle first = false := by simp [isIdle, hempty, hdot]
      exact components_parent?_of_other_piece hcut hstep hslash

/-- A parent with a text of its own denotes all components but the last, if anything is left. -/
theorem exists_parent?_iff {p : Path} {d : List Component} :
    (∃ parent ∈ p.parent?, parent.text ≠ "" ∧ parent.components = d) ↔
      d ≠ [] ∧ p.components.dropLast = d := by
  have htext {q : Path} : q.text ≠ "" ↔ q.components ≠ [] := not_congr components_eq_nil_iff.symm
  have hparent := components_parent? p
  rw [parentComponents?] at hparent
  by_cases hnone : p.components = [] ∨ p.components = [.root]
  · have hleft : p.components.dropLast = [] := by
      rcases hnone with hnil | hroot
      · rw [hnil]
        rfl
      · rw [hroot]
        rfl
    rw [if_pos hnone, Option.map_eq_none_iff] at hparent
    rw [hparent, hleft]
    constructor
    · rintro ⟨_, hmem, -⟩
      exact absurd hmem (by simp)
    · rintro ⟨hne, heq⟩
      exact absurd heq.symm hne
  · rw [if_neg hnone, Option.map_eq_some_iff] at hparent
    obtain ⟨parent, hparent, hcomponents⟩ := hparent
    rw [hparent, ← hcomponents]
    constructor
    · rintro ⟨_, hmem, hne, rfl⟩
      obtain rfl := Option.some.inj hmem
      exact ⟨htext.mp hne, rfl⟩
    · rintro ⟨hne, rfl⟩
      exact ⟨parent, rfl, htext.mpr hne, rfl⟩

end ServiceScaffold.Path
