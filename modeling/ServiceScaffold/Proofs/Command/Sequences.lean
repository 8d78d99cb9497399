/-
Control sequences in a text.

A control sequence is the escape character, an opening bracket, a number and the letter `m`.  Taking
the sequences out of a text leaves what a reader sees.  A text that was built by writing sequences
into another one gives that one back, as long as it has no escape character of its own.

* `EscapeFree` — a text without the character that opens a sequence.
* `withoutSequences` — a text with its control sequences taken out.
* `IsMarked` — a text that is another one with control sequences in it; `IsMarked.append` and
  `IsMarked.join_map` put such texts together.
* `IsMarked.withoutSequences_eq` — what taking them out leaves.
* `IsMarked.paint`, `IsMarked.bold`, `IsMarked.dimmed` — the styles only write sequences.
-/
import ServiceScaffold.Command.Style

namespace ServiceScaffold.Style

/-- The character that opens a control sequence. -/
def escape : Char := '\x1b'

/-- A text has no control sequences, nor what could become one. -/
def EscapeFree (text : String) : Prop :=
  escape ∉ text.toList

/-- A text that is written out; its characters are looked through where it is met. -/
theorem EscapeFree.literal {chars : List Char} (h : escape ∉ chars) :
    EscapeFree (String.ofList chars) := by
  rwa [EscapeFree, String.toList_ofList]

theorem EscapeFree.append {text more : String} (h : EscapeFree text) (h' : EscapeFree more) :
    EscapeFree (text ++ more) := by
  rw [EscapeFree, String.toList_append, List.mem_append]
  exact not_or.mpr ⟨h, h'⟩

/-- A text in the middle of a wording. -/
theorem EscapeFree.within {text : String} {before after : List Char} (h : EscapeFree text)
    (hwording : escape ∉ before ++ after) :
    EscapeFree (String.ofList before ++ text ++ String.ofList after) := by
  rw [List.mem_append, not_or] at hwording
  exact ((EscapeFree.literal hwording.1).append h).append (.literal hwording.2)

/-- A text at the end of a wording. -/
theorem EscapeFree.behind {text : String} {before : List Char} (h : EscapeFree text)
    (hbefore : escape ∉ before) : EscapeFree (String.ofList before ++ text) :=
  (EscapeFree.literal hbefore).append h

theorem EscapeFree.number (n : Nat) : EscapeFree (toString n) := by
  intro hescape
  have hdigit : escape ∈ Nat.toDigits 10 n := by
    simpa [toString, Nat.repr] using hescape
  exact absurd (Nat.isDigit_of_mem_toDigits (by decide) (by decide) hdigit) (by decide)

/-! ### Sequences taken out -/

/-- The length of the control sequence at the start of a text, zero if there is none. -/
def sequenceLength : List Char → Nat
  | c :: d :: rest =>
    let number := rest.takeWhile Char.isDigit
    if c = escape ∧ d = '[' ∧ number ≠ [] ∧ (rest.drop number.length).head? = some 'm' then
      number.length + 3
    else 0
  | _ => 0

/-- The characters outside of control sequences, after the first `skipped` ones. -/
def dropSequences : Nat → List Char → List Char
  | _, [] => []
  | skipped + 1, _ :: rest => dropSequences skipped rest
  | 0, c :: rest =>
    match sequenceLength (c :: rest) with
    | 0 => c :: dropSequences 0 rest
    | skipped + 1 => dropSequences skipped rest

/-- A text with its control sequences taken out. -/
def withoutSequences (text : String) : String :=
  String.ofList (dropSequences 0 text.toList)

theorem sequenceLength_of_ne {c : Char} (h : c ≠ escape) (rest : List Char) :
    sequenceLength (c :: rest) = 0 := by
  cases rest with
  | nil => rfl
  | cons d rest => exact if_neg fun hsequence => h hsequence.1

theorem takeWhile_number {number : List Char} (h : ∀ d ∈ number, d.isDigit = true)
    (rest : List Char) : (number ++ 'm' :: rest).takeWhile Char.isDigit = number := by
  rw [List.takeWhile_append_of_pos h, List.takeWhile_cons_of_neg (by decide), List.append_nil]

theorem sequenceLength_sequence {number : List Char} (hne : number ≠ [])
    (h : ∀ d ∈ number, d.isDigit = true) (rest : List Char) :
    sequenceLength (escape :: '[' :: (number ++ 'm' :: rest)) = number.length + 3 := by
  have htail : ((number ++ 'm' :: rest).drop number.length).head? = some 'm' := by
    rw [List.drop_left]
    rfl
  rw [sequenceLength, takeWhile_number h]
  exact if_pos ⟨rfl, rfl, hne, htail⟩

theorem dropSequences_length_append (text rest : List Char) :
    dropSequences text.length (text ++ rest) = dropSequences 0 rest := by
  induction text with
  | nil => rfl
  | cons c text ih => exact ih

theorem dropSequences_of_ne {c : Char} (h : c ≠ escape) (rest : List Char) :
    dropSequences 0 (c :: rest) = c :: dropSequences 0 rest := by
  rw [dropSequences, sequenceLength_of_ne h]

theorem dropSequences_sequence {number : List Char} (hne : number ≠ [])
    (h : ∀ d ∈ number, d.isDigit = true) (rest : List Char) :
    dropSequences 0 (escape :: '[' :: (number ++ 'm' :: rest)) = dropSequences 0 rest := by
  rw [dropSequences, sequenceLength_sequence hne h]
  have hskip := dropSequences_length_append ('[' :: (number ++ ['m'])) rest
  rw [List.length_cons, List.length_append, List.length_singleton] at hskip
  rw [← hskip]
  simp

/-! ### Sequences written into a text -/

/-- The first text is the second one with control sequences in it. -/
inductive Marks : List Char → List Char → Prop where
  | nil : Marks [] []
  | char {c : Char} {marked plain : List Char} (visible : c ≠ escape) (rest : Marks marked plain) :
      Marks (c :: marked) (c :: plain)
  | sequence {number marked plain : List Char} (nonempty : number ≠ [])
      (digits : ∀ d ∈ number, d.isDigit = true) (rest : Marks marked plain) :
      Marks (escape :: '[' :: (number ++ 'm' :: marked)) plain

theorem Marks.dropSequences_eq {marked plain : List Char} (h : Marks marked plain) :
    dropSequences 0 marked = plain := by
  induction h with
  | nil => rfl
  | char visible _ ih => rw [dropSequences_of_ne visible, ih]
  | sequence nonempty digits _ ih => rw [dropSequences_sequence nonempty digits, ih]

theorem Marks.append {marked plain marked' plain' : List Char} (h : Marks marked plain)
    (h' : Marks marked' plain') : Marks (marked ++ marked') (plain ++ plain') := by
  induction h with
  | nil => exact h'
  | char visible _ ih => exact .char visible ih
  | sequence nonempty digits _ ih =>
    have hsequence := Marks.sequence nonempty digits ih
    simpa using hsequence

theorem Marks.of_not_mem {text : List Char} (h : escape ∉ text) : Marks text text := by
  induction text with
  | nil => exact .nil
  | cons c text ih =>
    obtain ⟨hc, htext⟩ := not_or.mp (mt List.mem_cons.mpr h)
    exact .char (Ne.symm hc) (ih htext)

/-- The first text is the second one with control sequences in it. -/
def IsMarked (marked plain : String) : Prop :=
  Marks marked.toList plain.toList

namespace IsMarked

variable {marked plain : String}

theorem withoutSequences_eq (h : IsMarked marked plain) : withoutSequences marked = plain := by
  rw [withoutSequences, Marks.dropSequences_eq h, String.ofList_toList]

theorem of_escapeFree {text : String} (h : EscapeFree text) : IsMarked text text :=
  Marks.of_not_mem h

theorem literal {chars : List Char} (h : escape ∉ chars) :
    IsMarked (String.ofList chars) (String.ofList chars) :=
  of_escapeFree (.literal h)

theorem append {marked' plain' : String} (h : IsMarked marked plain)
    (h' : IsMarked marked' plain') : IsMarked (marked ++ marked') (plain ++ plain') := by
  rw [IsMarked, String.toList_append, String.toList_append]
  exact Marks.append h h'

/-- A text in the middle of a wording. -/
theorem within {before after : List Char} (h : IsMarked marked plain)
    (hwording : escape ∉ before ++ after) :
    IsMarked (String.ofList before ++ marked ++ String.ofList after)
      (String.ofList before ++ plain ++ String.ofList after) := by
  rw [List.mem_append, not_or] at hwording
  exact ((literal hwording.1).append h).append (literal hwording.2)

theorem join_map {α : Type} {items : List α} {f g : α → String}
    (h : ∀ a ∈ items, IsMarked (f a) (g a)) :
    IsMarked (String.join (items.map f)) (String.join (items.map g)) := by
  induction items with
  | nil => exact Marks.nil
  | cons a items ih =>
    obtain ⟨ha, hitems⟩ := List.forall_mem_cons.mp h
    rw [List.map_cons, List.map_cons, String.join_cons, String.join_cons]
    exact ha.append (ih hitems)

/-! ### Styles -/

/-- A number written as a control sequence leaves nothing to see. -/
theorem sequence {number : String} (hne : number ≠ "")
    (hdigits : number.toList.all Char.isDigit = true) : IsMarked (sequence number) "" := by
  have hsequence : (Style.sequence number).toList = escape :: '[' :: (number.toList ++ ['m']) := by
    rw [Style.sequence]
    simp [escape]
  rw [IsMarked, hsequence]
  exact .sequence (by simpa using hne) (List.all_eq_true.mp hdigits) .nil

/-- A text between two control sequences. -/
theorem between (h : IsMarked marked plain) {before after : String} (hbefore : IsMarked before "")
    (hafter : IsMarked after "") : IsMarked (before ++ marked ++ after) plain := by
  have htext := (hbefore.append h).append hafter
  rwa [String.empty_append, String.append_empty] at htext

theorem paint (h : IsMarked marked plain) (color : Color) :
    IsMarked (paint color marked) plain := by
  have hcolor : IsMarked (Style.sequence color.code) "" := by
    cases color <;> exact sequence (by decide) (by decide)
  exact h.between hcolor (sequence (by decide) (by decide))

theorem bold (h : IsMarked marked plain) : IsMarked (bold marked) plain :=
  h.between (sequence (by decide) (by decide)) (sequence (by decide) (by decide))

theorem dimmed (h : IsMarked marked plain) : IsMarked (dimmed marked) plain :=
  h.between (sequence (by decide) (by decide)) (sequence (by decide) (by decide))

end IsMarked

-- a sequence needs its number, and one sequence may stand right behind another
example : withoutSequences "\x1b[1m\x1b[31mred\x1b[39m \x1b[m" = "red \x1b[m" := by decide

end ServiceScaffold.Style
