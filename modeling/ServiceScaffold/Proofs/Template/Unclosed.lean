/-
Where a template cannot be read.

Braces pair up from the left, each opening brace with the next closing one.  So a text is the text
of a canonical list of parts, or it is such a text followed by an opening brace that no closing one
comes after.  In the second case reading fails, and it says at which byte this brace stands.

* `canonical_or_unclosed` — a text ends well, or in a placeholder that is never closed.
* `IsCut` — a template cut at the brace that is never closed.
* `IsCut.parse_eq`, `exists_isCut_of_parse`, `IsCut.unique` — a cut is what makes reading fail, and
  there is one at most.
* `parse_eq_error_iff` — when reading fails, and where.
-/
import ServiceScaffold.Proofs.Template.Parts

namespace ServiceScaffold.Template

theorem byteLength_toList (text : String) : byteLength text.toList = text.utf8ByteSize := by
  obtain ⟨chars, rfl⟩ : ∃ chars, text = String.ofList chars :=
    ⟨text.toList, String.ofList_toList.symm⟩
  rw [String.toList_ofList]
  induction chars with
  | nil => rfl
  | cons c chars ih =>
    rw [byteLength, ih, String.ofList_cons, String.utf8ByteSize_append,
      String.utf8ByteSize_singleton]

theorem eq_nil_of_byteLength {text : List Char} (h : byteLength text = 0) : text = [] := by
  cases text with
  | nil => rfl
  | cons c text =>
    have hsize := c.utf8Size_pos
    rw [byteLength] at h
    omega

/-- A text is cut at one place by the number of bytes before the cut. -/
theorem append_inj_of_byteLength {text rest text' rest' : List Char}
    (h : text ++ rest = text' ++ rest') (hsize : byteLength text = byteLength text') :
    text = text' ∧ rest = rest' := by
  rcases List.append_eq_append_iff.mp h with ⟨more, rfl, rfl⟩ | ⟨more, rfl, rfl⟩
  · rw [byteLength_append] at hsize
    have hmore : byteLength more = 0 := by omega
    obtain rfl := eq_nil_of_byteLength hmore
    simp
  · rw [byteLength_append] at hsize
    have hmore : byteLength more = 0 := by omega
    obtain rfl := eq_nil_of_byteLength hmore
    simp

/-! ### Texts by their braces -/

theorem canonical_literalPart {read : List Char} (h : '{' ∉ read) : Canonical (literalPart read) := by
  have hcanonical := canonical_literalPart_append h canonical_nil (by simp)
  rwa [List.append_nil] at hcanonical

theorem toList_unparse_literalPart_reverse (text : List Char) :
    (unparse (literalPart text.reverse)).toList = text := by
  have htext := toList_unparse_literalPart text.reverse []
  rw [List.append_nil, List.reverse_reverse] at htext
  rw [htext]
  exact List.append_nil text

/-- A text pairs all its opening braces, or it has a first one that is never closed. -/
theorem canonical_or_unclosed (chars : List Char) :
    (∃ parts, Canonical parts ∧ (unparse parts).toList = chars) ∨
      ∃ parts rest, Canonical parts ∧ '}' ∉ rest ∧
        (unparse parts).toList ++ '{' :: rest = chars := by
  -- on the length: what follows the first placeholder is a shorter text
  induction hlength : chars.length using Nat.strong_induction_on generalizing chars with
  | h length ih =>
    subst hlength
    by_cases hopen : '{' ∈ chars
    · obtain ⟨text, inner, rfl, htext⟩ := List.eq_append_cons_of_mem hopen
      have hread : '{' ∉ text.reverse := by rwa [List.mem_reverse]
      by_cases hclose : '}' ∈ inner
      · obtain ⟨name, after, rfl, hname⟩ := List.eq_append_cons_of_mem hclose
        have hplaceholder {parts : List Part} (hparts : Canonical parts) :
            Canonical (literalPart text.reverse ++ .parameter (String.ofList name) :: parts) := by
          have hcons : Canonical (.parameter (String.ofList name) :: parts) :=
            canonical_cons_parameter_iff.mpr ⟨by rwa [String.toList_ofList], hparts⟩
          refine canonical_literalPart_append hread hcons ?_
          intro next hnext
          rw [← Option.some.inj hnext]
          rfl
        have hunparse (parts : List Part) :
            (unparse (literalPart text.reverse ++ .parameter (String.ofList name) :: parts)).toList =
              text ++ '{' :: (name ++ '}' :: (unparse parts).toList) := by
          rw [toList_unparse_literalPart, toList_unparse_parameter, List.reverse_reverse,
            String.toList_ofList]
        have hshorter : after.length < (text ++ '{' :: (name ++ '}' :: after)).length := by
          simp only [List.length_append, List.length_cons]
          omega
        rcases ih after.length hshorter after rfl with
          ⟨parts, hparts, rfl⟩ | ⟨parts, rest, hparts, hrest, rfl⟩
        · exact .inl ⟨_, hplaceholder hparts, hunparse parts⟩
        · refine .inr ⟨_, rest, hplaceholder hparts, hrest, ?_⟩
          rw [hunparse]
          simp
      · refine .inr ⟨literalPart text.reverse, inner, canonical_literalPart hread, hclose, ?_⟩
        rw [toList_unparse_literalPart_reverse]
    · have hread : '{' ∉ chars.reverse := by rwa [List.mem_reverse]
      exact .inl ⟨_, canonical_literalPart hread, toList_unparse_literalPart_reverse chars⟩

/-! ### The brace that is never closed -/

theorem scan_unclosed {rest : List Char} (h : '}' ∉ rest) (position : Nat) :
    scan position (.literal []) ('{' :: rest) = .error (.unclosedParameter position) := by
  have hname := scan_name h (position + 1) position [] []
  rw [List.append_nil] at hname
  rw [scan_open, hname]
  rfl

/-- A template cut at the brace that is never closed. -/
structure IsCut (template before rest : String) : Prop where
  text : template = before ++ "\x7b" ++ rest
  readable : ∃ parts, parse before = .ok parts
  unclosed : '}' ∉ rest.toList

theorem IsCut.toList_eq {template before rest : String} (h : IsCut template before rest) :
    template.toList = before.toList ++ '{' :: rest.toList := by
  rw [h.text]
  simp

theorem IsCut.parse_eq {template before rest : String} (h : IsCut template before rest) :
    parse template = .error (.unclosedParameter before.utf8ByteSize) := by
  obtain ⟨parts, hparse⟩ := h.readable
  obtain ⟨hparts, hbefore⟩ := canonical_of_parse hparse
  rw [parse, h.toList_eq, ← hbefore, scan_unparse_append hparts (by simp), scan_unclosed h.unclosed,
    byteLength_toList, Nat.zero_add]
  rfl

theorem exists_isCut_of_parse {template : String} {e : Error} (h : parse template = .error e) :
    ∃ before rest, IsCut template before rest := by
  rcases canonical_or_unclosed template.toList with
    ⟨parts, hparts, htext⟩ | ⟨parts, rest, hparts, hrest, htext⟩
  · have htemplate : unparse parts = template := String.toList_injective htext
    rw [← htemplate, parse_unparse hparts] at h
    cases h
  · refine ⟨unparse parts, String.ofList rest, ?_, ?_, ?_⟩
    · apply String.toList_injective
      rw [← htext]
      simp
    · exact ⟨parts, parse_unparse hparts⟩
    · rwa [String.toList_ofList]

/-- Two cuts are at the same byte, so that they are one. -/
theorem IsCut.unique {template before rest before' rest' : String}
    (h : IsCut template before rest) (h' : IsCut template before' rest') :
    before = before' ∧ rest = rest' := by
  have herror := h.parse_eq.symm.trans h'.parse_eq
  have hsize : byteLength before.toList = byteLength before'.toList := by
    rw [byteLength_toList, byteLength_toList]
    exact Error.unclosedParameter.inj (Except.error.inj herror)
  obtain ⟨hbefore, hrest⟩ :=
    append_inj_of_byteLength (h.toList_eq.symm.trans h'.toList_eq) hsize
  exact ⟨String.toList_injective hbefore, String.toList_injective (List.cons.inj hrest).2⟩

/-! ### When reading fails -/

/-- A template cannot be read exactly when it has a readable start before an opening brace that no
closing one follows.  This brace is what the error points at, and there is no other error. -/
theorem parse_eq_error_iff (template : String) :
    (∀ position, parse template = .error (.unclosedParameter position) ↔
      ∃ before rest, IsCut template before rest ∧ before.utf8ByteSize = position) ∧
    (∀ e, parse template = .error e → ∃ position, e = .unclosedParameter position) ∧
    ∀ before rest before' rest', IsCut template before rest → IsCut template before' rest' →
      before = before' ∧ rest = rest' := by
  refine ⟨fun position => ⟨?_, ?_⟩, ?_, ?_⟩
  · intro h
    obtain ⟨before, rest, hcut⟩ := exists_isCut_of_parse h
    have herror := hcut.parse_eq.symm.trans h
    exact ⟨before, rest, hcut, Error.unclosedParameter.inj (Except.error.inj herror)⟩
  · rintro ⟨before, rest, hcut, rfl⟩
    exact hcut.parse_eq
  · intro e h
    obtain ⟨before, rest, hcut⟩ := exists_isCut_of_parse h
    exact ⟨before.utf8ByteSize, Except.error.inj (h.symm.trans hcut.parse_eq)⟩
  · intro before rest before' rest' h h'
    exact h.unique h'

-- the second brace opens no placeholder of its own, and the letter before it takes two bytes
example : parse "é\x7ba\x7d\x7bb\x7bc" = .error (.unclosedParameter 5) := rfl

end ServiceScaffold.Template
