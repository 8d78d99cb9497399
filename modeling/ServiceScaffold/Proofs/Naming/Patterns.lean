/-
What comes of filling a name pattern.

A name pattern knows two placeholders, `Name` and `name`, which stand for the same converted name.
It can be filled exactly when it is made of literal text and of these two.  A brace that is never
closed is reported first, then the first placeholder that is neither of the two, whatever stands
between its braces.

* `Part.withName` — the text of a part, with a name for its placeholder.
* `render_nameBindings`, `firstUnbound?_nameBindings` — the two bindings of a name pattern.
* `parameterize_cases` — every pattern, with what it is filled to or why it is not.
-/
import ServiceScaffold.Naming.Pattern
import ServiceScaffold.Proofs.Template.Filling

namespace ServiceScaffold

open Template

/-- The text of a part, with a name in place of the placeholder. -/
def Template.Part.withName (converted : String) : Part → String
  | .literal text => text
  | .parameter _ => converted

/-- A key that name patterns give a value to; the case of its letters counts. -/
def IsNameKey (key : String) : Prop :=
  key = "Name" ∨ key = "name"

instance (key : String) : Decidable (IsNameKey key) :=
  inferInstanceAs (Decidable (key = "Name" ∨ key = "name"))

section Bindings

variable {converted : String} {parts : List Part}

theorem isSome_nameBindings_iff {key : String} :
    ((nameBindings converted).get? key).isSome = true ↔ IsNameKey key := by
  rw [nameBindings_get?, IsNameKey]
  by_cases hkey : key = "Name" ∨ key = "name" <;> simp [hkey]

theorem firstUnbound?_nameBindings (converted : String) (parts : List Part) :
    firstUnbound? (nameBindings converted) parts =
      (parameters parts).find? fun key => ¬ IsNameKey key := by
  refine congrArg (List.find? · (parameters parts)) (funext fun key => ?_)
  have hsome : ((nameBindings converted).get? key).isSome = true ↔ IsNameKey key :=
    isSome_nameBindings_iff
  rw [Bool.eq_iff_iff, decide_eq_true_iff, ← hsome]
  cases (nameBindings converted).get? key <;> simp

theorem shows_nameBindings {part : Part} (h : ∀ key ∈ parameters [part], IsNameKey key) :
    Shows (nameBindings converted) part (part.withName converted) := by
  cases part with
  | literal text => exact .literal text
  | parameter name =>
    have hname : IsNameKey name := h name List.mem_cons_self
    refine .parameter ?_
    rw [nameBindings_get?]
    exact if_pos hname

theorem render_nameBindings (h : ∀ key ∈ parameters parts, IsNameKey key) :
    render (nameBindings converted) parts =
      .ok (String.join (parts.map (Part.withName converted))) := by
  induction parts with
  | nil => rfl
  | cons part rest ih =>
    rw [parameters_cons, List.forall_mem_append] at h
    rw [(shows_nameBindings h.1).render_cons, ih h.2, List.map_cons, String.join_cons]
    rfl

theorem render_nameBindings_eq_ok_iff {text : String} :
    render (nameBindings converted) parts = .ok text ↔
      (∀ key ∈ parameters parts, IsNameKey key) ∧
        String.join (parts.map (Part.withName converted)) = text := by
  constructor
  · intro h
    have hkeys : ∀ key ∈ parameters parts, IsNameKey key := by
      intro key hkey
      exact isSome_nameBindings_iff.mp (exists_render_iff.mp ⟨text, h⟩ key hkey)
    exact ⟨hkeys, Except.ok.inj ((render_nameBindings hkeys).symm.trans h)⟩
  · rintro ⟨hkeys, rfl⟩
    exact render_nameBindings hkeys

end Bindings

/-- A pattern is filled exactly when it is made of literal text and the placeholders `Name` and
`name`, and these are replaced by the converted name, which is not read again.  If a brace is never
closed, the error gives the byte of the first such one, whatever stands before it.  Otherwise it
gives the first placeholder that is not one of the two. -/
theorem parameterize_cases (pattern name : String) (convention : NamingCase) :
    (∀ text, parameterize pattern name convention = .ok text ↔
      ∃ parts, Spells parts pattern ∧ (∀ key ∈ parameters parts, IsNameKey key) ∧
        String.join (parts.map (Part.withName (convention.convert name))) = text) ∧
    (∀ position, parameterize pattern name convention = .error (.unclosedParameter position) ↔
      ∃ before parts rest, Spells parts before ∧ '}' ∉ rest.toList ∧
        pattern = before ++ "\x7b" ++ rest ∧ before.utf8ByteSize = position) ∧
    (∀ key, parameterize pattern name convention = .error (.missingParameter key) ↔
      ∃ parts, Spells parts pattern ∧
        ((parameters parts).find? fun key => ¬ IsNameKey key) = some key) ∧
    ∀ e, parameterize pattern name convention = .error e →
      (∃ position, e = .unclosedParameter position) ∨ ∃ key, e = .missingParameter key := by
  refine ⟨fun text => ?_, fun position => fill_eq_unclosed_iff, fun key => ?_,
    fun e => fill_error_cases⟩
  · rw [parameterize, fill_eq_ok_iff]
    simp only [render_nameBindings_eq_ok_iff]
  · rw [parameterize, fill_eq_missing_iff]
    simp only [firstUnbound?_nameBindings]

-- the converted name looks like a placeholder, and it stays as it is
example : parameterize "\x7bName\x7d.\x7bname\x7d" "\x7bother\x7d" .kebab =
    .ok "\x7bother\x7d.\x7bother\x7d" := by
  decide +kernel

-- the letter case of a placeholder counts, but a brace that is never closed comes first
example : parameterize "é\x7bNAME\x7d\x7bName" "cache" .pascal = .error (.unclosedParameter 8) := by
  decide +kernel

end ServiceScaffold
