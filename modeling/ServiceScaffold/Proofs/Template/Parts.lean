/-
Templates are read exactly as they are written.

A list of parts is canonical when its literals are not empty, hold no opening brace and never stand
side by side, and no placeholder has a closing brace in its name.
Every template that can be read is the text of one canonical list, and that list is what is read
from it.

* `Canonical` — the lists of parts that a template can be cut into.
* `scan_text`, `scan_literal_eq_map`, `scan_placeholder` — the reader over a stretch of characters.
* `canonical_of_scan`, `scan_unparse` — what is read is canonical, and what is canonical is read;
  `canonical_of_parse` and `parse_unparse` say so of whole templates.
* `parse_eq_ok_iff` — reading and writing undo each other.
-/
import Mathlib.Data.List.Chain
import ServiceScaffold.Template

namespace ServiceScaffold.Template

/-! ### Canonical lists -/

def Part.isLiteral : Part → Bool
  | .literal _ => true
  | .parameter _ => false

/-- A part whose end can be told in a template. -/
def Part.IsDelimited : Part → Prop
  | .literal text => text ≠ "" ∧ '{' ∉ text.toList
  | .parameter name => '}' ∉ name.toList

/-- Parts that a template can be cut into. -/
structure Canonical (parts : List Part) : Prop where
  delimited : ∀ part ∈ parts, part.IsDelimited
  separated : parts.IsChain fun part next => ¬ (part.isLiteral = true ∧ next.isLiteral = true)

theorem canonical_nil : Canonical [] where
  delimited := by simp
  separated := .nil

theorem canonical_cons_iff {part : Part} {rest : List Part} :
    Canonical (part :: rest) ↔
      part.IsDelimited ∧ Canonical rest ∧
        ∀ next ∈ rest.head?, ¬ (part.isLiteral = true ∧ next.isLiteral = true) := by
  constructor
  · rintro ⟨hdelimited, hseparated⟩
    obtain ⟨hpart, hrest⟩ := List.forall_mem_cons.mp hdelimited
    obtain ⟨hnext, hchain⟩ := List.isChain_cons.mp hseparated
    exact ⟨hpart, ⟨hrest, hchain⟩, hnext⟩
  · rintro ⟨hpart, ⟨hrest, hchain⟩, hnext⟩
    exact ⟨List.forall_mem_cons.mpr ⟨hpart, hrest⟩, List.isChain_cons.mpr ⟨hnext, hchain⟩⟩

theorem canonical_cons_parameter_iff {name : String} {rest : List Part} :
    Canonical (.parameter name :: rest) ↔ '}' ∉ name.toList ∧ Canonical rest := by
  rw [canonical_cons_iff]
  simp [Part.IsDelimited, Part.isLiteral]

/-! ### The text of a list -/

theorem unparse_cons (part : Part) (rest : List Part) :
    unparse (part :: rest) = part.unparse ++ unparse rest := by
  rw [unparse, List.map_cons, String.join_cons, unparse]

theorem toList_unparse_literal (text : String) (rest : List Part) :
    (unparse (.literal text :: rest)).toList = text.toList ++ (unparse rest).toList := by
  rw [unparse_cons, String.toList_append, Part.unparse]

theorem toList_unparse_parameter (name : String) (rest : List Part) :
    (unparse (.parameter name :: rest)).toList =
      '{' :: (name.toList ++ '}' :: (unparse rest).toList) := by
  rw [unparse_cons, Part.unparse]
  simp

/-- Text that starts with an opening brace starts with a placeholder. -/
theorem isLiteral_head_eq_false {parts : List Part} {rest : List Char} (h : Canonical parts)
    (htext : (unparse parts).toList = '{' :: rest) :
    ∀ next ∈ parts.head?, next.isLiteral = false := by
  intro next hnext
  cases parts with
  | nil => simp at hnext
  | cons part others =>
    obtain rfl : part = next := by simpa using hnext
    cases part with
    | parameter name => rfl
    | literal text =>
      obtain ⟨hne, hbrace⟩ := h.delimited _ List.mem_cons_self
      rw [toList_unparse_literal] at htext
      -- the text of the literal is not empty, so that it is the one with the brace
      cases hchars : text.toList with
      | nil => exact absurd (String.toList_eq_nil_iff.mp hchars) hne
      | cons c cs =>
        rw [hchars, List.cons_append, List.cons.injEq] at htext
        rw [hchars, htext.1] at hbrace
        exact absurd List.mem_cons_self hbrace

/-! ### Pending text -/

theorem literalPart_of_ne_nil {read : List Char} (h : read ≠ []) :
    literalPart read = [.literal (String.ofList read.reverse)] := by
  rw [literalPart, if_neg (by simpa using h)]

theorem toList_unparse_literalPart (read : List Char) (rest : List Part) :
    (unparse (literalPart read ++ rest)).toList = read.reverse ++ (unparse rest).toList := by
  by_cases hread : read = []
  · subst hread
    rfl
  · rw [literalPart_of_ne_nil hread, List.singleton_append, toList_unparse_literal,
      String.toList_ofList]

theorem canonical_literalPart_append {read : List Char} {rest : List Part} (hread : '{' ∉ read)
    (hrest : Canonical rest) (hhead : ∀ next ∈ rest.head?, next.isLiteral = false) :
    Canonical (literalPart read ++ rest) := by
  by_cases hempty : read = []
  · subst hempty
    exact hrest
  · rw [literalPart_of_ne_nil hempty, List.singleton_append, canonical_cons_iff]
    refine ⟨⟨?_, ?_⟩, hrest, ?_⟩
    · simpa using hempty
    · simpa using hread
    · intro next hnext hboth
      simp [hhead next hnext] at hboth

/-! ### What is read is canonical -/

/-- The template text that the reader has pending. -/
def Pending.text : Pending → List Char
  | .literal read => read.reverse
  | .parameter _ read => '{' :: read.reverse

/-- What the reader has pending does not end yet. -/
def Pending.IsOpen : Pending → Prop
  | .literal read => '{' ∉ read
  | .parameter _ read => '}' ∉ read

theorem canonical_of_scan {position : Nat} {pending : Pending} {chars : List Char}
    {parts : List Part} (hpending : pending.IsOpen)
    (h : scan position pending chars = .ok parts) :
    Canonical parts ∧ (unparse parts).toList = pending.text ++ chars := by
  -- over the characters still to be read, for any pending text
  fun_induction scan position pending chars generalizing parts with
  | case1 position read =>
    obtain rfl := Except.ok.inj h
    have hcanonical := canonical_literalPart_append hpending canonical_nil (by simp)
    have htext := toList_unparse_literalPart read []
    rw [List.append_nil] at hcanonical htext
    exact ⟨hcanonical, htext⟩
  | case2 position opened read => cases h
  | case3 position read rest inner hinner ih =>
    obtain rfl := Except.ok.inj h
    obtain ⟨hcanonical, htext⟩ := ih List.not_mem_nil hinner
    refine ⟨?_, ?_⟩
    · exact canonical_literalPart_append hpending hcanonical
        (isLiteral_head_eq_false hcanonical htext)
    · rw [toList_unparse_literalPart, htext]
      rfl
  | case4 position read rest e he ih => cases h
  | case5 position read c rest hc ih =>
    have hopen : Pending.IsOpen (.literal (c :: read)) := by
      simpa [Pending.IsOpen, Ne.symm hc] using hpending
    obtain ⟨hcanonical, htext⟩ := ih hopen h
    refine ⟨hcanonical, ?_⟩
    rw [htext]
    simp [Pending.text]
  | case6 position opened read rest inner hinner ih =>
    obtain rfl := Except.ok.inj h
    obtain ⟨hcanonical, htext⟩ := ih List.not_mem_nil hinner
    refine ⟨?_, ?_⟩
    · rw [canonical_cons_parameter_iff, String.toList_ofList, List.mem_reverse]
      exact ⟨hpending, hcanonical⟩
    · rw [toList_unparse_parameter, htext, String.toList_ofList]
      rfl
  | case7 position opened read rest e he ih => cases h
  | case8 position opened read c rest hc ih =>
    have hopen : Pending.IsOpen (.parameter opened (c :: read)) := by
      simpa [Pending.IsOpen, Ne.symm hc] using hpending
    obtain ⟨hcanonical, htext⟩ := ih hopen h
    refine ⟨hcanonical, ?_⟩
    rw [htext]
    simp [Pending.text]

/-! ### What is canonical is read -/

/-- The number of bytes of a text. -/
def byteLength : List Char → Nat
  | [] => 0
  | c :: rest => c.utf8Size + byteLength rest

theorem byteLength_append (text rest : List Char) :
    byteLength (text ++ rest) = byteLength text + byteLength rest := by
  induction text with
  | nil => rw [List.nil_append, byteLength, Nat.zero_add]
  | cons c text ih => rw [List.cons_append, byteLength, byteLength, ih, Nat.add_assoc]

theorem scan_text {text : List Char} (h : '{' ∉ text) (position : Nat) (read rest : List Char) :
    scan position (.literal read) (text ++ rest) =
      scan (position + byteLength text) (.literal (text.reverse ++ read)) rest := by
  induction text generalizing position read with
  | nil => rfl
  | cons c text ih =>
    obtain ⟨hc, htext⟩ := not_or.mp (mt List.mem_cons.mpr h)
    rw [List.cons_append, scan, if_neg (Ne.symm hc), ih htext]
    simp [byteLength, Nat.add_assoc]

theorem scan_name {name : List Char} (h : '}' ∉ name) (position opened : Nat)
    (read rest : List Char) :
    scan position (.parameter opened read) (name ++ rest) =
      scan (position + byteLength name) (.parameter opened (name.reverse ++ read)) rest := by
  induction name generalizing position read with
  | nil => rfl
  | cons c name ih =>
    obtain ⟨hc, hname⟩ := not_or.mp (mt List.mem_cons.mpr h)
    rw [List.cons_append, scan, if_neg (Ne.symm hc), ih hname]
    simp [byteLength, Nat.add_assoc]

theorem scan_open (position : Nat) (read rest : List Char) :
    scan position (.literal read) ('{' :: rest) =
      (scan (position + 1) (.parameter position []) rest).map (literalPart read ++ ·) := by
  have hsize : '{'.utf8Size = 1 := rfl
  rw [scan, if_pos rfl, hsize]
  cases scan (position + 1) (.parameter position []) rest <;> rfl

theorem scan_close (position opened : Nat) (read rest : List Char) :
    scan position (.parameter opened read) ('}' :: rest) =
      (scan (position + 1) (.literal []) rest).map
        (.parameter (String.ofList read.reverse) :: ·) := by
  have hsize : '}'.utf8Size = 1 := rfl
  rw [scan, if_pos rfl, hsize]
  cases scan (position + 1) (.literal []) rest <;> rfl

/-- Literal text ends where a placeholder or the end of the template comes next. -/
theorem scan_literal_eq_map {chars : List Char} (h : ∀ c ∈ chars.head?, c = '{') (position : Nat)
    (read : List Char) :
    scan position (.literal read) chars =
      (scan position (.literal []) chars).map (literalPart read ++ ·) := by
  cases chars with
  | nil =>
    rw [scan, scan]
    simp [Except.map, literalPart]
  | cons c rest =>
    obtain rfl : c = '{' := h c rfl
    rw [scan_open, scan_open]
    cases scan (position + 1) (.parameter position []) rest <;> rfl

theorem scan_placeholder {name : List Char} (h : '}' ∉ name) (position : Nat)
    (rest : List Char) :
    scan position (.literal []) ('{' :: (name ++ '}' :: rest)) =
      (scan (position + 1 + byteLength name + 1) (.literal []) rest).map
        (.parameter (String.ofList name) :: ·) := by
  rw [scan_open, scan_name h, scan_close, List.append_nil, List.reverse_reverse]
  cases scan (position + 1 + byteLength name + 1) (.literal []) rest <;> rfl

/-- What follows a literal in a canonical list starts with an opening brace. -/
theorem head?_unparse_of_literal {text : String} {rest : List Part}
    (h : Canonical (.literal text :: rest)) : ∀ c ∈ (unparse rest).toList.head?, c = '{' := by
  obtain ⟨-, -, hnext⟩ := canonical_cons_iff.mp h
  intro c hc
  cases rest with
  | nil => simp [unparse] at hc
  | cons next others =>
    cases next with
    | literal other => exact absurd ⟨rfl, rfl⟩ (hnext _ rfl)
    | parameter name =>
      rw [toList_unparse_parameter] at hc
      exact (Option.some.inj hc).symm

/-- Canonical parts are read off the start of a text, and the reader goes on behind them. -/
theorem scan_unparse_append {parts : List Part} (h : Canonical parts) {rest : List Char}
    (hrest : ∀ c ∈ rest.head?, c = '{') (position : Nat) :
    scan position (.literal []) ((unparse parts).toList ++ rest) =
      (scan (position + byteLength (unparse parts).toList) (.literal []) rest).map
        (parts ++ ·) := by
  induction parts generalizing position with
  | nil =>
    have hempty : (unparse []).toList = [] := rfl
    rw [hempty, List.nil_append, byteLength, Nat.add_zero]
    cases scan position (.literal []) rest <;> rfl
  | cons part others ih =>
    obtain ⟨hpart, hothers, -⟩ := canonical_cons_iff.mp h
    cases part with
    | parameter name =>
      have hbytes : position + 1 + byteLength name.toList + 1 + byteLength (unparse others).toList =
          position + byteLength ('{' :: (name.toList ++ '}' :: (unparse others).toList)) := by
        rw [byteLength, byteLength_append, byteLength]
        have hopen : '{'.utf8Size = 1 := rfl
        have hclose : '}'.utf8Size = 1 := rfl
        omega
      rw [toList_unparse_parameter, List.cons_append, List.append_assoc, List.cons_append,
        scan_placeholder hpart, ih hothers, hbytes, String.ofList_toList]
      cases scan _ (.literal []) rest <;> rfl
    | literal text =>
      obtain ⟨hne, hbrace⟩ := hpart
      have hpending : literalPart text.toList.reverse = [.literal text] := by
        rw [literalPart_of_ne_nil (by simpa using hne), List.reverse_reverse, String.ofList_toList]
      have hhead : ∀ c ∈ ((unparse others).toList ++ rest).head?, c = '{' := by
        intro c hc
        cases hchars : (unparse others).toList with
        | nil =>
          rw [hchars] at hc
          exact hrest c hc
        | cons d ds =>
          rw [hchars] at hc
          have hd : d = c := Option.some.inj hc
          exact head?_unparse_of_literal h c (by rw [hchars, ← hd]; rfl)
      rw [toList_unparse_literal, List.append_assoc, scan_text hbrace, List.append_nil,
        scan_literal_eq_map hhead, ih hothers, hpending, byteLength_append, Nat.add_assoc]
      cases scan _ (.literal []) rest <;> rfl

theorem scan_unparse {parts : List Part} (h : Canonical parts) (position : Nat) :
    scan position (.literal []) (unparse parts).toList = .ok parts := by
  have hend : ∀ c ∈ ([] : List Char).head?, c = '{' := by simp
  have hscan := scan_unparse_append h hend position
  rw [List.append_nil] at hscan
  rw [hscan]
  simp [scan, literalPart, Except.map]

/-! ### Reading and writing -/

theorem canonical_of_parse {template : String} {parts : List Part}
    (h : parse template = .ok parts) : Canonical parts ∧ unparse parts = template := by
  have hopen : Pending.IsOpen (.literal []) := List.not_mem_nil
  obtain ⟨hcanonical, htext⟩ := canonical_of_scan hopen h
  exact ⟨hcanonical, String.toList_injective htext⟩

theorem parse_unparse {parts : List Part} (h : Canonical parts) :
    parse (unparse parts) = .ok parts :=
  scan_unparse h 0

/-- The parts that are read from a template are those canonical ones that it is the text of. -/
theorem parse_eq_ok_iff (template : String) (parts : List Part) :
    parse template = .ok parts ↔ Canonical parts ∧ unparse parts = template := by
  constructor
  · exact canonical_of_parse
  · rintro ⟨hcanonical, rfl⟩
    exact parse_unparse hcanonical

-- an opening brace inside a name belongs to it, and a closing brace outside is literal text
example : parse "\x7ba\x7bb\x7d\x7dc" = .ok [.parameter "a\x7bb", .literal "\x7dc"] := rfl

end ServiceScaffold.Template
