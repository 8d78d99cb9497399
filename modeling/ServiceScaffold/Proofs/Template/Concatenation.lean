/-
Templates put one after the other.

Two templates that can be read make a third one.  Its parts are those of the first and then those of
the second, but where two literals meet they are one, so that the lists do not simply append.  This
makes no difference to the text that they stand for and to what they render to.  A brace that is
never closed in the second is as far behind the end of the first as it was behind the start.

* `Part.prepend`, `concat` — parts before others, with literals that meet made one.
* `canonical_concat`, `unparse_concat`, `render_concat` — what this keeps.
* `parse_append_of_ok`, `IsCut.append` — two templates, the second readable or not.
* `parse_append` — both cases.
-/
import ServiceScaffold.Proofs.Template.Rendering
import ServiceScaffold.Proofs.Template.Unclosed

namespace ServiceScaffold.Template

variable {part : Part} {left right rest : List Part}

/-! ### Parts before others -/

/-- A part before others; it becomes one with a literal that it meets if it is one itself. -/
def Part.prepend : Part → List Part → List Part
  | .literal text, .literal more :: rest => .literal (text ++ more) :: rest
  | part, rest => part :: rest

/-- Parts before others, with literals that meet made one. -/
def concat (left right : List Part) : List Part :=
  left.foldr Part.prepend right

theorem Part.prepend_cases (part : Part) (rest : List Part) :
    (∃ text more others, part = .literal text ∧ rest = .literal more :: others ∧
      part.prepend rest = .literal (text ++ more) :: others) ∨
    (∀ next ∈ rest.head?, ¬ (part.isLiteral = true ∧ next.isLiteral = true)) ∧
      part.prepend rest = part :: rest := by
  cases part with
  | parameter name => exact .inr ⟨by simp [isLiteral], rfl⟩
  | literal text =>
    cases rest with
    | nil => exact .inr ⟨by simp, rfl⟩
    | cons next others =>
      cases next with
      | literal more => exact .inl ⟨text, more, others, rfl, rfl, rfl⟩
      | parameter name => exact .inr ⟨by simp [isLiteral], rfl⟩

theorem canonical_prepend (hpart : part.IsDelimited) (hrest : Canonical rest) :
    Canonical (part.prepend rest) := by
  rcases part.prepend_cases rest with ⟨text, more, others, rfl, rfl, heq⟩ | ⟨happart, heq⟩
  · obtain ⟨⟨-, hmore⟩, hothers, hnext⟩ := canonical_cons_iff.mp hrest
    obtain ⟨hne, htext⟩ := hpart
    rw [heq, canonical_cons_iff]
    refine ⟨⟨?_, ?_⟩, hothers, hnext⟩
    · simp [hne]
    · rw [String.toList_append, List.mem_append]
      exact not_or.mpr ⟨htext, hmore⟩
  · rw [heq]
    exact canonical_cons_iff.mpr ⟨hpart, hrest, happart⟩

theorem unparse_prepend (part : Part) (rest : List Part) :
    unparse (part.prepend rest) = part.unparse ++ unparse rest := by
  rcases part.prepend_cases rest with ⟨text, more, others, rfl, rfl, heq⟩ | ⟨-, heq⟩
  · rw [heq, unparse_cons, unparse_cons, ← String.append_assoc]
    rfl
  · rw [heq, unparse_cons]

theorem render_cons (b : Bindings) (part : Part) (rest : List Part) :
    render b (part :: rest) = do return (← part.render b) ++ (← render b rest) := by
  rw [render]
  cases part.render b with
  | error e => rfl
  | ok text => cases render b rest <;> rfl

theorem render_prepend (b : Bindings) (part : Part) (rest : List Part) :
    render b (part.prepend rest) = do return (← part.render b) ++ (← render b rest) := by
  rw [← render_cons]
  rcases part.prepend_cases rest with ⟨text, more, others, rfl, rfl, heq⟩ | ⟨-, heq⟩
  · have hone : render b (.literal (text ++ more) :: others) =
        (render b others).map (text ++ more ++ ·) := (Shows.literal _).render_cons others
    have htwo : render b (.literal text :: .literal more :: others) =
        ((render b others).map (more ++ ·)).map (text ++ ·) := by
      rw [(Shows.literal text).render_cons, (Shows.literal more).render_cons]
    rw [heq, hone, htwo]
    cases render b others with
    | error e => rfl
    | ok after => exact congrArg Except.ok String.append_assoc
  · rw [heq]

/-! ### One list before another -/

theorem concat_cons (part : Part) (left right : List Part) :
    concat (part :: left) right = part.prepend (concat left right) :=
  rfl

theorem canonical_concat (hleft : ∀ part ∈ left, part.IsDelimited) (hright : Canonical right) :
    Canonical (concat left right) := by
  induction left with
  | nil => exact hright
  | cons part left ih =>
    obtain ⟨hpart, hothers⟩ := List.forall_mem_cons.mp hleft
    rw [concat_cons]
    exact canonical_prepend hpart (ih hothers)

theorem unparse_concat (left right : List Part) :
    unparse (concat left right) = unparse left ++ unparse right := by
  induction left with
  | nil => exact String.empty_append.symm
  | cons part left ih =>
    rw [concat_cons, unparse_prepend, ih, unparse_cons, String.append_assoc]

theorem render_concat (b : Bindings) (left right : List Part) :
    render b (concat left right) = do return (← render b left) ++ (← render b right) := by
  induction left with
  | nil =>
    change render b right = (render b right).bind fun more => .ok ("" ++ more)
    cases render b right with
    | error e => rfl
    | ok more => exact congrArg Except.ok String.empty_append.symm
  | cons part left ih =>
    rw [concat_cons, render_prepend, ih, render_cons]
    simp only [bind_assoc, pure_bind, String.append_assoc]

/-! ### Two templates -/

theorem parse_append_of_ok {template other : String} (hleft : parse template = .ok left)
    (hright : parse other = .ok right) : parse (template ++ other) = .ok (concat left right) := by
  obtain ⟨hcanonical, rfl⟩ := canonical_of_parse hleft
  obtain ⟨hcanonical', rfl⟩ := canonical_of_parse hright
  rw [← unparse_concat]
  exact parse_unparse (canonical_concat hcanonical.delimited hcanonical')

theorem IsCut.append {template other before rest : String} (h : IsCut other before rest)
    (hleft : parse template = .ok left) : IsCut (template ++ other) (template ++ before) rest where
  text := by rw [h.text, String.append_assoc, String.append_assoc, String.append_assoc]
  readable := by
    obtain ⟨parts, hparts⟩ := h.readable
    exact ⟨concat left parts, parse_append_of_ok hleft hparts⟩
  unclosed := h.unclosed

theorem fill_append {template other : String} (hleft : parse template = .ok left)
    (hright : parse other = .ok right) (b : Bindings) :
    fill (template ++ other) b = do return (← fill template b) ++ (← fill other b) := by
  rw [fill_of_parse (parse_append_of_ok hleft hright), fill_of_parse hleft, fill_of_parse hright,
    render_concat]

/-- A template goes on with another one.  The whole can be read exactly when the second can; if not,
the brace that is never closed is the same one, so many bytes later as the first is long.  If so,
the whole renders to what the first renders to and then what the second does, and it fails where the
first fails or else where the second does. -/
theorem parse_append {template : String} (h : parse template = .ok left) (other : String) :
    ((∃ e, parse (template ++ other) = .error e) ↔ ∃ e, parse other = .error e) ∧
    (∀ position, parse other = .error (.unclosedParameter position) ↔
      parse (template ++ other) =
        .error (.unclosedParameter (position + template.utf8ByteSize))) ∧
    ((∃ right, parse other = .ok right) → ∀ b,
      fill (template ++ other) b = do return (← fill template b) ++ (← fill other b)) := by
  cases hother : parse other with
  | ok right =>
    have hwhole := parse_append_of_ok h hother
    refine ⟨?_, fun position => ?_, fun _ => fill_append h hother⟩
    · simp [hwhole]
    · simp [hwhole]
  | error e =>
    obtain ⟨before, rest, hcut⟩ := exists_isCut_of_parse hother
    have hwhole := (hcut.append h).parse_eq
    obtain rfl : e = .unclosedParameter before.utf8ByteSize :=
      Except.error.inj (hother.symm.trans hcut.parse_eq)
    refine ⟨?_, fun position => ?_, ?_⟩
    · simp [hwhole]
    · rw [hwhole, String.utf8ByteSize_append]
      simp only [Except.error.injEq, Error.unclosedParameter.injEq]
      omega
    · rintro ⟨right, hright⟩
      cases hright

/-- Two literals meet, and the first template is longer in bytes than in letters. -/
theorem parse_append_literals :
    parse "é\x7ba\x7dx" = .ok [.literal "é", .parameter "a", .literal "x"] ∧
    parse ("é\x7ba\x7dx" ++ "y\x7bb\x7d\x7bc") = .error (.unclosedParameter 10) ∧
    ∀ b, fill ("é\x7ba\x7dx" ++ "y\x7bb\x7d") b =
      do return (← fill "é\x7ba\x7dx" b) ++ (← fill "y\x7bb\x7d" b) := by
  have hfirst : parse "é\x7ba\x7dx" = .ok [.literal "é", .parameter "a", .literal "x"] := rfl
  have hunclosed : parse "y\x7bb\x7d\x7bc" = .error (.unclosedParameter 4) := rfl
  have hsecond : parse "y\x7bb\x7d" = .ok [.literal "y", .parameter "b"] := rfl
  refine ⟨hfirst, ?_, ?_⟩
  · exact ((parse_append hfirst "y\x7bb\x7d\x7bc").2.1 4).mp hunclosed
  · exact (parse_append hfirst "y\x7bb\x7d").2.2 ⟨_, hsecond⟩

end ServiceScaffold.Template
