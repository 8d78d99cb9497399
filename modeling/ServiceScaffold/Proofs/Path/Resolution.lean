/-
Paths with their dots resolved.

Reading the components of a path from left to right, two dots take back the name before them; at
the root they change nothing, and where no name is left they stay.  A path lies in a directory when
it extends that directory and, both resolved, adds only names to it.  For a relative text this is a
property of the text alone: its steps never climb above the place where they start.

* `Path.resolved` — the components with dots resolved.
* `Path.liesIn` — whether a path is in a directory; `Path.liesIn_iff`.
* `Path.stays` — whether steps ever climb above their start; `Path.stays_iff`.
-/
import Mathlib.Data.List.Basic
import ServiceScaffold.Proofs.Path.Components

namespace ServiceScaffold.Path

/-! ### Resolving dots -/

/-- Takes one more component after resolved ones. -/
def resolveStep (before : List Component) : Component → List Component
  | .root => [.root]
  | .current => before
  | .normal name => before ++ [.normal name]
  | .parent =>
    match before.getLast? with
    | some (.normal _) => before.dropLast
    | some .root => before
    | some .current | some .parent | none => before ++ [.parent]

/-- The components of a path, with dots resolved. -/
def resolved (p : Path) : List Component :=
  p.components.foldl resolveStep []

/-- A step to an entry of a directory. -/
def isName : Component → Bool
  | .normal _ => true
  | .root | .current | .parent => false

/-- Whether `p` is `base` or an extension of it and, with dots resolved, is `base` or below it. -/
def liesIn (p base : Path) : Bool :=
  p.isUnder base && base.resolved.isPrefixOf p.resolved &&
    (p.resolved.drop base.resolved.length).all isName

theorem all_isName_iff {l : List Component} :
    l.all isName = true ↔ ∃ names : List String, l = names.map .normal := by
  constructor
  · intro h
    induction l with
    | nil => exact ⟨[], rfl⟩
    | cons c rest ih =>
      rw [List.all_cons, Bool.and_eq_true] at h
      obtain ⟨names, hnames⟩ := ih h.2
      cases c with
      | normal name => exact ⟨name :: names, by rw [hnames, List.map_cons]⟩
      | root => exact absurd h.1 (by decide)
      | current => exact absurd h.1 (by decide)
      | parent => exact absurd h.1 (by decide)
  · rintro ⟨names, rfl⟩
    simp [isName]

theorem liesIn_iff {p base : Path} :
    p.liesIn base = true ↔ base.components <+: p.components ∧
      ∃ names : List String, p.resolved = base.resolved ++ names.map .normal := by
  rw [liesIn, Bool.and_eq_true, Bool.and_eq_true, isUnder_iff, List.isPrefixOf_iff_prefix,
    all_isName_iff, and_assoc]
  refine and_congr_right fun _ => ?_
  constructor
  · rintro ⟨⟨added, hadded⟩, names, hnames⟩
    rw [← hadded, List.drop_left] at hnames
    exact ⟨names, by rw [← hadded, hnames]⟩
  · rintro ⟨names, hnames⟩
    rw [hnames, List.drop_left]
    exact ⟨List.prefix_append _ _, names, rfl⟩

/-! ### Steps -/

/-- Whether steps that start `depth` names below a place ever climb above it. -/
def stays : Nat → List Component → Bool
  | _, [] => true
  | _, .root :: _ => false
  | depth, .current :: rest => stays depth rest
  | depth, .normal _ :: rest => stays (depth + 1) rest
  | 0, .parent :: _ => false
  | depth + 1, .parent :: rest => stays depth rest

theorem stays_of_append {depth : Nat} {first later : List Component}
    (h : stays depth (first ++ later) = true) : stays depth first = true := by
  induction first generalizing depth with
  | nil => rfl
  | cons c rest ih =>
    cases c with
    | root => exact h
    | current => exact ih h
    | normal name => exact ih h
    | parent =>
      cases depth with
      | zero => exact h
      | succ depth => exact ih h

theorem resolveStep_names_parent (base : List Component) (names : List String) (last : String) :
    resolveStep (base ++ (names ++ [last]).map .normal) .parent = base ++ names.map .normal := by
  have hsplit : base ++ (names ++ [last]).map .normal =
      (base ++ names.map .normal) ++ [.normal last] := by simp
  rw [hsplit, resolveStep, List.getLast?_concat, List.dropLast_concat]

/-- Steps that stay below a place add names to it. -/
theorem foldl_resolveStep_of_stays (base : List Component) (names : List String)
    {steps : List Component} (h : stays names.length steps = true) :
    ∃ added : List String, steps.foldl resolveStep (base ++ names.map .normal) =
      base ++ added.map .normal := by
  induction steps generalizing names with
  | nil => exact ⟨names, rfl⟩
  | cons c rest ih =>
    rw [List.foldl_cons]
    cases c with
    | root => exact absurd h (by simp [stays])
    | current => exact ih names h
    | normal name =>
      have hstays : stays (names ++ [name]).length rest = true := by
        rw [List.length_append]
        exact h
      obtain ⟨added, hadded⟩ := ih _ hstays
      exact ⟨added, by rw [← hadded]; simp [resolveStep]⟩
    | parent =>
      obtain rfl | ⟨above, last, rfl⟩ := names.eq_nil_or_concat'
      · exact absurd h (by simp [stays])
      · rw [resolveStep_names_parent]
        rw [List.length_append] at h
        exact ih above h

/-- What begins with no name keeps beginning with none. -/
theorem foldl_resolveStep_of_not_name {c : Component} (hc : isName c = false)
    (l steps : List Component) :
    ∃ d others, isName d = false ∧ steps.foldl resolveStep (c :: l) = d :: others := by
  induction steps generalizing c l with
  | nil => exact ⟨c, l, hc, rfl⟩
  | cons step rest ih =>
    rw [List.foldl_cons]
    cases step with
    | root => exact ih rfl []
    | current => exact ih hc l
    | normal name => exact ih hc (l ++ [.normal name])
    | parent =>
      obtain rfl | ⟨before, last, rfl⟩ := l.eq_nil_or_concat'
      · cases c with
        | normal name => exact absurd hc (by simp [isName])
        | root => exact ih rfl []
        | current => exact ih rfl [.parent]
        | parent => exact ih rfl [.parent]
      · rw [← List.cons_append, resolveStep, List.getLast?_concat, List.dropLast_concat]
        cases last with
        | normal name => exact ih hc before
        | root => exact ih hc (before ++ [.root])
        | current => exact ih hc (before ++ [.current] ++ [.parent])
        | parent => exact ih hc (before ++ [.parent] ++ [.parent])

/-- What begins with no name never becomes names alone. -/
theorem foldl_resolveStep_ne_names {c : Component} (hc : isName c = false)
    (l steps : List Component) (names : List String) :
    steps.foldl resolveStep (c :: l) ≠ names.map .normal := by
  intro h
  obtain ⟨d, others, hd, hresolved⟩ := foldl_resolveStep_of_not_name hc l steps
  have hall : (d :: others).all isName = true := all_isName_iff.mpr ⟨names, hresolved ▸ h⟩
  rw [List.all_cons, hd] at hall
  exact absurd hall (by simp)

/-- Steps that start below nothing but names lead to names alone exactly when they never climb
above the first. -/
theorem stays_iff (names : List String) {steps : List Component} :
    stays names.length steps = true ↔
      ∃ added : List String, steps.foldl resolveStep (names.map .normal) = added.map .normal := by
  constructor
  · intro h
    exact foldl_resolveStep_of_stays [] names h
  · rintro ⟨added, hadded⟩
    induction steps generalizing names with
    | nil => rfl
    | cons c rest ih =>
      rw [List.foldl_cons] at hadded
      cases c with
      | root => exact absurd hadded (foldl_resolveStep_ne_names rfl [] rest added)
      | current => exact ih names hadded
      | normal name =>
        have hmap : names.map .normal ++ [.normal name] =
            (names ++ [name]).map Component.normal := by simp
        rw [resolveStep, hmap] at hadded
        have hstays := ih _ hadded
        rw [List.length_append] at hstays
        exact hstays
      | parent =>
        obtain rfl | ⟨above, last, rfl⟩ := names.eq_nil_or_concat'
        · exact absurd hadded (foldl_resolveStep_ne_names rfl [] rest added)
        · have hparent := resolveStep_names_parent [] above last
          rw [List.nil_append, List.nil_append] at hparent
          rw [hparent] at hadded
          rw [List.length_append]
          exact ih above hadded

/-! ### Children -/

theorem steps_eq_components {text : List Char} (h : text.head? ≠ some '/') :
    (componentsOf text).foldl resolveStep [] = (steps text).foldl resolveStep [] := by
  obtain ⟨p, ps, hcut⟩ := List.exists_cons_of_ne_nil (pieces_ne_nil text)
  by_cases hempty : p = []
  · subst hempty
    cases ps with
    | nil =>
      have htext : text = [] := by rw [← unpieces_pieces text, hcut]; rfl
      subst htext
      rfl
    | cons q qs =>
      have htext : text = '/' :: unpieces (q :: qs) := by rw [← unpieces_pieces text, hcut]; rfl
      exact absurd (by rw [htext]; rfl) h
  · by_cases hdot : p = ['.']
    · subst hdot
      rw [componentsOf_of_dot_piece hcut, steps, hcut]
      rfl
    · rw [componentsOf_of_other_piece hcut hempty hdot, steps, hcut]

/-- A relative name takes its steps from where the path leads. -/
theorem resolved_child (p : Path) {name : String} (hname : name.toList.head? ≠ some '/') :
    (p.child name).resolved = (steps name.toList).foldl resolveStep p.resolved := by
  by_cases hp : p.text = ""
  · have hchild : p.child name = ⟨name⟩ := by
      simp [child, join, isAbsolute, hname, hp]
    have hbase : p.resolved = [] := by
      rw [resolved, components, hp]
      rfl
    rw [hchild, hbase, resolved, components, steps_eq_components hname]
  · rw [resolved, components_child p hp hname, List.foldl_append, resolved]

theorem components_prefix_child (p : Path) {name : String} (hname : name.toList.head? ≠ some '/') :
    p.components <+: (p.child name).components := by
  by_cases hp : p.text = ""
  · have hnil : p.components = [] := by
      rw [components, hp]
      rfl
    rw [hnil]
    exact List.nil_prefix
  · rw [components_child p hp hname]
    exact List.prefix_append _ _

/-- An extension of a directory whose further steps stay below it lies in it. -/
theorem liesIn_of_stays {p base : Path} {further : List Component}
    (hunder : base.components <+: p.components)
    (hresolved : p.resolved = further.foldl resolveStep base.resolved)
    (hstays : stays 0 further = true) : p.liesIn base = true := by
  obtain ⟨added, hadded⟩ := foldl_resolveStep_of_stays base.resolved [] hstays
  rw [List.map_nil, List.append_nil] at hadded
  exact liesIn_iff.mpr ⟨hunder, added, hresolved.trans hadded⟩

theorem liesIn_self (p : Path) : p.liesIn p = true :=
  liesIn_iff.mpr ⟨List.prefix_rfl, [], (List.append_nil _).symm⟩

theorem liesIn_trans {p q base : Path} (hpq : p.liesIn q = true) (hq : q.liesIn base = true) :
    p.liesIn base = true := by
  obtain ⟨hunder, added, hadded⟩ := liesIn_iff.mp hpq
  obtain ⟨hunder', added', hadded'⟩ := liesIn_iff.mp hq
  refine liesIn_iff.mpr ⟨hunder'.trans hunder, added' ++ added, ?_⟩
  rw [hadded, hadded', List.map_append, List.append_assoc]

end ServiceScaffold.Path
