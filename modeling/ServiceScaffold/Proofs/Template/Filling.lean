/-
What comes of filling a template.

A template whose braces are all closed is spelled by a list of parts: stretches of text without an
opening brace, and placeholders.  There may be several such lists, since a text can be cut anywhere,
but they name the same placeholders and render alike.  So filling can be told by any of them.  A
brace that is never closed is reported before any placeholder without a value.

* `Spells` — parts that a template is made of.
* `fill_of_spells` — filling renders these parts, whichever they are.
* `fill_eq_ok_iff`, `fill_eq_unclosed_iff`, `fill_eq_missing_iff`, `fill_error_cases` — what filling
  ends in.
-/
import ServiceScaffold.Proofs.Template.Concatenation

namespace ServiceScaffold.Template

variable {template : String} {parts : List Part} {b : Bindings}

/-- A template is made of these parts, one after the other. -/
structure Spells (parts : List Part) (template : String) : Prop where
  delimited : ∀ part ∈ parts, part.IsDelimited
  text : unparse parts = template

theorem spells_of_parse (h : parse template = .ok parts) : Spells parts template := by
  obtain ⟨hcanonical, htext⟩ := canonical_of_parse h
  exact ⟨hcanonical.delimited, htext⟩

/-- Parts are read as they are, but for literals that stand side by side. -/
theorem parse_of_spells (h : Spells parts template) :
    parse template = .ok (concat parts []) := by
  obtain ⟨hdelimited, rfl⟩ := h
  have hcanonical := canonical_concat hdelimited canonical_nil
  have htext : unparse (concat parts []) = unparse parts := by
    rw [unparse_concat]
    exact String.append_empty
  rw [← htext]
  exact parse_unparse hcanonical

theorem fill_of_spells (h : Spells parts template) (b : Bindings) :
    fill template b = render b parts := by
  rw [fill_of_parse (parse_of_spells h), render_concat, render]
  cases render b parts with
  | error e => rfl
  | ok text => exact congrArg Except.ok String.append_empty

/-! ### What filling ends in -/

theorem fill_cases (template : String) (b : Bindings) :
    (∃ before rest, IsCut template before rest ∧
      fill template b = .error (.unclosedParameter before.utf8ByteSize)) ∨
    ∃ parts, Spells parts template ∧ fill template b = render b parts := by
  cases h : parse template with
  | error e =>
    obtain ⟨before, rest, hcut⟩ := exists_isCut_of_parse h
    exact .inl ⟨before, rest, hcut, fill_of_parse_error hcut.parse_eq b⟩
  | ok parts => exact .inr ⟨parts, spells_of_parse h, fill_of_parse h b⟩

theorem fill_eq_ok_iff {text : String} :
    fill template b = .ok text ↔ ∃ parts, Spells parts template ∧ render b parts = .ok text := by
  constructor
  · intro h
    rcases fill_cases template b with ⟨before, rest, -, hfill⟩ | ⟨parts, hparts, hfill⟩
    · rw [hfill] at h
      cases h
    · exact ⟨parts, hparts, hfill.symm.trans h⟩
  · rintro ⟨parts, hparts, hrender⟩
    rw [fill_of_spells hparts, hrender]

theorem fill_eq_unclosed_iff {position : Nat} :
    fill template b = .error (.unclosedParameter position) ↔
      ∃ before parts rest, Spells parts before ∧ '}' ∉ rest.toList ∧
        template = before ++ "\x7b" ++ rest ∧ before.utf8ByteSize = position := by
  constructor
  · intro h
    rcases fill_cases template b with ⟨before, rest, hcut, hfill⟩ | ⟨parts, hparts, hfill⟩
    · obtain ⟨parts, hparse⟩ := hcut.readable
      rw [hfill] at h
      exact ⟨before, parts, rest, spells_of_parse hparse, hcut.unclosed, hcut.text,
        Error.unclosedParameter.inj (Except.error.inj h)⟩
    · obtain ⟨name, -, hname⟩ := render_eq_error_iff.mp (hfill.symm.trans h)
      cases hname
  · rintro ⟨before, parts, rest, hparts, hrest, htext, rfl⟩
    have hcut : IsCut template before rest := ⟨htext, ⟨_, parse_of_spells hparts⟩, hrest⟩
    exact fill_of_parse_error hcut.parse_eq b

theorem fill_eq_missing_iff {name : String} :
    fill template b = .error (.missingParameter name) ↔
      ∃ parts, Spells parts template ∧ firstUnbound? b parts = some name := by
  constructor
  · intro h
    rcases fill_cases template b with ⟨before, rest, -, hfill⟩ | ⟨parts, hparts, hfill⟩
    · rw [hfill] at h
      cases h
    · obtain ⟨first, hfirst, hname⟩ := render_eq_error_iff.mp (hfill.symm.trans h)
      rw [Error.missingParameter.inj hname]
      exact ⟨parts, hparts, hfirst⟩
  · rintro ⟨parts, hparts, hfirst⟩
    rw [fill_of_spells hparts, render_of_firstUnbound hfirst]

theorem fill_error_cases {e : Error} (h : fill template b = .error e) :
    (∃ position, e = .unclosedParameter position) ∨ ∃ name, e = .missingParameter name := by
  rcases fill_cases template b with ⟨before, rest, -, hfill⟩ | ⟨parts, -, hfill⟩
  · exact .inl ⟨_, Except.error.inj (h.symm.trans hfill)⟩
  · obtain ⟨name, -, hname⟩ := render_eq_error_iff.mp (hfill.symm.trans h)
    exact .inr ⟨name, hname⟩

end ServiceScaffold.Template
