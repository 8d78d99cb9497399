/-
What a template renders to.

Rendering puts the value of each placeholder in its place, as it is, and leaves the literals.  It
fails at the first placeholder without a value, whatever comes behind it.  Only the values of the
placeholders that occur are looked at, and of several values that a name was given the last one
counts.  A placeholder bound to its own text stays as it was.

* `Shows` — the text that stands for a part.
* `render_eq_ok_iff`, `render_eq_error_iff` — both results of rendering.
* `render_congr` — bindings that agree on the placeholders.
* `Bindings.get?_ofList` — the last value given to a name.
* `fill_placeholders` — every template is rendered back to its own text.
* `render_substitutes` — rendering, from all of these.
-/
import Mathlib.Data.List.Forall2
import ServiceScaffold.Proofs.Template.Parts

namespace ServiceScaffold

/-! ### Bindings by their history -/

namespace Bindings

/-- The value that a list of pairs gives a name last. -/
def lastValue? (pairs : List (String × String)) (name : String) : Option String :=
  pairs.reverse.lookup name

theorem lastValue?_concat (pairs : List (String × String)) (p : String × String) (name : String) :
    lastValue? (pairs ++ [p]) name = if name = p.1 then some p.2 else lastValue? pairs name := by
  rw [lastValue?, List.reverse_append, List.reverse_singleton, List.singleton_append,
    List.lookup_cons]
  by_cases h : name = p.1
  · rw [if_pos h, beq_iff_eq.mpr h]
  · rw [if_neg h, beq_eq_false_iff_ne.mpr h]
    rfl

theorem ofList_concat (pairs : List (String × String)) (p : String × String) :
    ofList (pairs ++ [p]) = (ofList pairs).insert p.1 p.2 := by
  rw [ofList, List.foldl_concat, ← ofList]

theorem get?_ofList (pairs : List (String × String)) (name : String) :
    (ofList pairs).get? name = lastValue? pairs name := by
  induction pairs using List.reverseRecOn with
  | nil => rfl
  | append_singleton pairs p ih => rw [ofList_concat, get?_insert, lastValue?_concat, ih]

theorem lastValue?_map {names : List String} {name : String} (h : name ∈ names)
    (value : String → String) :
    lastValue? (names.map fun n => (n, value n)) name = some (value name) := by
  -- from the end, where the pair that counts stands; a repeated name has one value throughout
  induction names using List.reverseRecOn with
  | nil => cases h
  | append_singleton names n ih =>
    rw [List.map_append, List.map_singleton, lastValue?_concat]
    by_cases hn : name = n
    · rw [if_pos hn, hn]
    · have hearlier : name ∈ names := by simpa [hn] using h
      rw [if_neg hn, ih hearlier]

end Bindings

namespace Template

variable {b : Bindings} {parts : List Part}

/-! ### Parts that have a text -/

/-- The text that stands for a part. -/
inductive Shows (b : Bindings) : Part → String → Prop where
  | literal (text : String) : Shows b (.literal text) text
  | parameter {name value : String} (bound : b.get? name = some value) :
      Shows b (.parameter name) value

theorem Shows.render_cons {part : Part} {text : String} (h : Shows b part text)
    (rest : List Part) : render b (part :: rest) = (render b rest).map (text ++ ·) := by
  have hpart : part.render b = .ok text := by
    cases h with
    | literal => rfl
    | parameter bound => rw [Part.render, bound]
  rw [render, hpart]
  cases render b rest <;> rfl

theorem render_of_shows {texts : List String} (h : List.Forall₂ (Shows b) parts texts) :
    render b parts = .ok (String.join texts) := by
  induction h with
  | nil => rfl
  | cons hpart _ ih =>
    rw [hpart.render_cons, ih, String.join_cons]
    rfl

theorem exists_shows_of_bound (h : ∀ name ∈ parameters parts, (b.get? name).isSome = true) :
    ∃ texts, List.Forall₂ (Shows b) parts texts := by
  induction parts with
  | nil => exact ⟨[], .nil⟩
  | cons part rest ih =>
    cases part with
    | literal text =>
      obtain ⟨texts, hrest⟩ := ih h
      exact ⟨text :: texts, .cons (.literal text) hrest⟩
    | parameter name =>
      obtain ⟨hname, hothers⟩ := List.forall_mem_cons.mp h
      obtain ⟨value, hvalue⟩ := Option.isSome_iff_exists.mp hname
      obtain ⟨texts, hrest⟩ := ih hothers
      exact ⟨value :: texts, .cons (.parameter hvalue) hrest⟩

/-! ### The first placeholder without a value -/

/-- The first placeholder without a value. -/
def firstUnbound? (b : Bindings) (parts : List Part) : Option String :=
  (parameters parts).find? fun name => (b.get? name).isNone

theorem firstUnbound?_eq_none_iff :
    firstUnbound? b parts = none ↔ ∀ name ∈ parameters parts, (b.get? name).isSome = true := by
  simp [firstUnbound?, List.find?_eq_none, Option.isSome_iff_ne_none]

theorem firstUnbound?_of_none {name : String} (h : b.get? name = none) (rest : List Part) :
    firstUnbound? b (.parameter name :: rest) = some name :=
  List.find?_cons_of_pos (by rw [h]; rfl)

theorem firstUnbound?_of_some {name value : String} (h : b.get? name = some value)
    (rest : List Part) : firstUnbound? b (.parameter name :: rest) = firstUnbound? b rest :=
  List.find?_cons_of_neg (by rw [h]; exact Bool.false_ne_true)

theorem render_of_firstUnbound {name : String} (h : firstUnbound? b parts = some name) :
    render b parts = .error (.missingParameter name) := by
  induction parts with
  | nil => cases h
  | cons part rest ih =>
    cases part with
    | literal text =>
      rw [(Shows.literal text).render_cons, ih h]
      rfl
    | parameter first =>
      cases hvalue : b.get? first with
      | none =>
        rw [firstUnbound?_of_none hvalue] at h
        obtain rfl := Option.some.inj h
        rw [render, Part.render, hvalue]
      | some value =>
        rw [firstUnbound?_of_some hvalue] at h
        rw [(Shows.parameter hvalue).render_cons, ih h]
        rfl

/-- Rendering ends in a text for every part, or at the first placeholder without a value. -/
theorem render_cases (b : Bindings) (parts : List Part) :
    (∃ texts, firstUnbound? b parts = none ∧ List.Forall₂ (Shows b) parts texts ∧
      render b parts = .ok (String.join texts)) ∨
    ∃ name, firstUnbound? b parts = some name ∧
      render b parts = .error (.missingParameter name) := by
  cases h : firstUnbound? b parts with
  | none =>
    obtain ⟨texts, hshows⟩ := exists_shows_of_bound (firstUnbound?_eq_none_iff.mp h)
    exact .inl ⟨texts, rfl, hshows, render_of_shows hshows⟩
  | some name => exact .inr ⟨name, rfl, render_of_firstUnbound h⟩

/-! ### Both results -/

theorem exists_render_iff :
    (∃ text, render b parts = .ok text) ↔
      ∀ name ∈ parameters parts, (b.get? name).isSome = true := by
  rw [← firstUnbound?_eq_none_iff]
  rcases render_cases b parts with ⟨texts, hnone, -, hrender⟩ | ⟨name, hsome, hrender⟩
  · exact iff_of_true ⟨_, hrender⟩ hnone
  · refine iff_of_false ?_ (by simp [hsome])
    rintro ⟨text, htext⟩
    rw [hrender] at htext
    cases htext

theorem render_eq_ok_iff {text : String} :
    render b parts = .ok text ↔
      ∃ texts, List.Forall₂ (Shows b) parts texts ∧ String.join texts = text := by
  constructor
  · intro h
    rcases render_cases b parts with ⟨texts, -, hshows, hrender⟩ | ⟨name, -, hrender⟩
    · exact ⟨texts, hshows, Except.ok.inj (hrender.symm.trans h)⟩
    · rw [hrender] at h
      cases h
  · rintro ⟨texts, hshows, rfl⟩
    exact render_of_shows hshows

theorem render_eq_error_iff {e : Error} :
    render b parts = .error e ↔
      ∃ name, firstUnbound? b parts = some name ∧ e = .missingParameter name := by
  constructor
  · intro h
    rcases render_cases b parts with ⟨texts, -, -, hrender⟩ | ⟨name, hsome, hrender⟩
    · rw [hrender] at h
      cases h
    · exact ⟨name, hsome, Except.error.inj (h.symm.trans hrender)⟩
  · rintro ⟨name, hsome, rfl⟩
    exact render_of_firstUnbound hsome

/-! ### Bindings that agree -/

theorem Part.render_congr {a : Bindings} {part : Part}
    (h : ∀ name ∈ parameters [part], a.get? name = b.get? name) :
    part.render a = part.render b := by
  cases part with
  | literal text => rfl
  | parameter name => rw [Part.render, Part.render, h name List.mem_cons_self]

theorem parameters_cons (part : Part) (rest : List Part) :
    parameters (part :: rest) = parameters [part] ++ parameters rest := by
  rw [parameters, ← List.singleton_append, List.filterMap_append]
  rfl

theorem render_congr {a : Bindings} (h : ∀ name ∈ parameters parts, a.get? name = b.get? name) :
    render a parts = render b parts := by
  induction parts with
  | nil => rfl
  | cons part rest ih =>
    rw [parameters_cons, List.forall_mem_append] at h
    rw [render, render, Part.render_congr h.1, ih h.2]

/-! ### Templates rendered to themselves -/

/-- Every name bound to the text of its placeholder. -/
def placeholders (names : List String) : Bindings :=
  .ofList (names.map fun name => (name, (Part.parameter name).unparse))

theorem placeholders_get? {names : List String} {name : String} (h : name ∈ names) :
    (placeholders names).get? name = some (Part.parameter name).unparse := by
  rw [placeholders, Bindings.get?_ofList,
    Bindings.lastValue?_map h fun n => (Part.parameter n).unparse]

theorem render_unparse
    (h : ∀ name ∈ parameters parts, b.get? name = some (Part.parameter name).unparse) :
    render b parts = .ok (unparse parts) := by
  induction parts with
  | nil => rfl
  | cons part rest ih =>
    rw [parameters_cons, List.forall_mem_append] at h
    have hshows : Shows b part part.unparse := by
      cases part with
      | literal text => exact .literal text
      | parameter name => exact .parameter (h.1 name List.mem_cons_self)
    rw [hshows.render_cons, ih h.2, unparse_cons]
    rfl

theorem fill_placeholders {template : String} (h : parse template = .ok parts) :
    fill template (placeholders (parameters parts)) = .ok template := by
  obtain ⟨-, htext⟩ := canonical_of_parse h
  rw [fill, h]
  exact (render_unparse fun name => placeholders_get?).trans (congrArg _ htext)

/-! ### Rendering -/

/-- Rendering gives a text exactly when every placeholder has a value, and then the literals and the
values in their order; otherwise it names the first placeholder that has none.  Bindings that give
the placeholders the same values, the last one given to each, render alike.  A template whose
placeholders are bound to their own texts is rendered to itself. -/
theorem render_substitutes (parts : List Part) :
    (∀ b, (∃ text, render b parts = .ok text) ↔
      ∀ name ∈ parameters parts, (b.get? name).isSome = true) ∧
    (∀ b text, render b parts = .ok text ↔
      ∃ texts, List.Forall₂ (Shows b) parts texts ∧ String.join texts = text) ∧
    (∀ b e, render b parts = .error e ↔
      ∃ name, firstUnbound? b parts = some name ∧ e = .missingParameter name) ∧
    (∀ a b : Bindings, (∀ name ∈ parameters parts, a.get? name = b.get? name) →
      render a parts = render b parts) ∧
    (∀ pairs pairs', (∀ name ∈ parameters parts,
        Bindings.lastValue? pairs name = Bindings.lastValue? pairs' name) →
      render (.ofList pairs) parts = render (.ofList pairs') parts) ∧
    ∀ template, parse template = .ok parts →
      fill template (placeholders (parameters parts)) = .ok template := by
  refine ⟨fun b => exists_render_iff, fun b text => render_eq_ok_iff,
    fun b e => render_eq_error_iff, fun a b => render_congr, fun pairs pairs' h => ?_,
    fun template => fill_placeholders⟩
  refine render_congr fun name hname => ?_
  rw [Bindings.get?_ofList, Bindings.get?_ofList, h name hname]

-- the second value counts, and the placeholder that it looks like is not filled
example : fill "\x7ba\x7d-\x7ba\x7d" (.ofList [("a", "1"), ("b", "2"), ("a", "\x7bb\x7d")]) =
    .ok "\x7bb\x7d-\x7bb\x7d" := by
  decide +kernel

end Template

end ServiceScaffold
