/-
Reading back what was printed.

A printed string is read back to the same text, whatever characters it holds: the reader undoes
every escape that the printer writes.  By induction on the value, the same holds of values in the
layout with one item to a line, as long as they hold no numbers and are not nested deeper than the
reader allows.

* `readString?_quoteChars` — a text is read back from its escaped form.
* `isPlain` — values without numbers, of bounded depth.
* `readValue?_prettyChars` — a value is read back, in front of any text; `parse?_pretty`.
-/
import ServiceScaffold.Json.Printer
import ServiceScaffold.Json.Reader

namespace ServiceScaffold.Json

/-! ### Strings -/

/-- The characters with a short escape. -/
def shortEscaped : List Char :=
  ['"', '\\', '\x08', '\x0c', '\n', '\r', '\t']

theorem quoteChar_shortEscaped :
    ∀ c ∈ shortEscaped, ∃ e, quoteChar c = ['\\', e] ∧ simpleEscape? e = some c := by
  simp only [shortEscaped, List.forall_mem_cons]
  exact ⟨⟨'"', rfl, rfl⟩, ⟨'\\', rfl, rfl⟩, ⟨'b', rfl, rfl⟩, ⟨'f', rfl, rfl⟩, ⟨'n', rfl, rfl⟩,
    ⟨'r', rfl, rfl⟩, ⟨'t', rfl, rfl⟩, by simp⟩

/-- The three forms of a character inside a string. -/
theorem quoteChar_cases (c : Char) :
    (∃ e, quoteChar c = ['\\', e] ∧ simpleEscape? e = some c) ∨
    (c.toNat < 0x20 ∧
      quoteChar c = ['\\', 'u', '0', '0', hexChar (c.toNat / 16), hexChar (c.toNat % 16)]) ∨
    (¬ c.toNat < 0x20 ∧ c ≠ '"' ∧ c ≠ '\\' ∧ quoteChar c = [c]) := by
  by_cases hshort : c ∈ shortEscaped
  · exact .inl (quoteChar_shortEscaped c hshort)
  · right
    simp only [shortEscaped, List.mem_cons, List.not_mem_nil, or_false, not_or] at hshort
    obtain ⟨hquote, hbackslash, hb, hf, hn, hr, ht⟩ := hshort
    by_cases hcontrol : c.toNat < 0x20
    · exact .inl ⟨hcontrol, by simp only [quoteChar, if_neg, if_pos, *, not_false_eq_true]⟩
    · exact .inr ⟨hcontrol, hquote, hbackslash, by
        simp only [quoteChar, if_neg, *, not_false_eq_true]⟩

theorem readString?_short {c e : Char} (h : simpleEscape? e = some c) (rest : List Char) :
    readString? ('\\' :: e :: rest) = addChar c (readString? rest) := by
  have hunit : e ≠ 'u' := by
    rintro rfl
    simp [simpleEscape?] at h
  rw [readString?, h]
  exact fun _ _ _ _ _ he _ => hunit he

theorem hexUnit?_hexChar :
    ∀ n < 32, hexUnit? '0' '0' (hexChar (n / 16)) (hexChar (n % 16)) = some n := by
  decide

theorem readString?_control {c : Char} (h : c.toNat < 0x20) (rest : List Char) :
    readString? ('\\' :: 'u' :: '0' :: '0' :: hexChar (c.toNat / 16) :: hexChar (c.toNat % 16) ::
      rest) = addChar c (readString? rest) := by
  have hunit := hexUnit?_hexChar c.toNat h
  have hlow : isLowSurrogate c.toNat = false := by
    simp only [isLowSurrogate, Bool.and_eq_false_iff, decide_eq_false_iff_not]
    omega
  have hhigh : isHighSurrogate c.toNat = false := by
    simp only [isHighSurrogate, Bool.and_eq_false_iff, decide_eq_false_iff_not]
    omega
  rw [readString?, hunit]
  simp only [hlow, hhigh, Bool.false_eq_true, if_false, Char.ofNat_toNat]

theorem readString?_verbatim {c : Char} (hcontrol : ¬ c.toNat < 0x20) (hquote : c ≠ '"')
    (hbackslash : c ≠ '\\') (rest : List Char) :
    readString? (c :: rest) = addChar c (readString? rest) := by
  rw [readString?, if_neg hcontrol]
  · exact hquote
  · exact fun _ _ _ _ _ hc _ => hbackslash hc
  · exact fun _ _ hc _ => hbackslash hc

/-- A character is read back from its escaped form. -/
theorem readString?_quoteChar (c : Char) (rest : List Char) :
    readString? (quoteChar c ++ rest) = addChar c (readString? rest) := by
  rcases quoteChar_cases c with ⟨e, hquoted, he⟩ | ⟨hcontrol, hquoted⟩ |
      ⟨hcontrol, hquote, hbackslash, hquoted⟩
  · rw [hquoted]
    exact readString?_short he rest
  · rw [hquoted]
    exact readString?_control hcontrol rest
  · rw [hquoted]
    exact readString?_verbatim hcontrol hquote hbackslash rest

theorem readString?_quoteChars (text rest : List Char) :
    readString? (text.flatMap quoteChar ++ '"' :: rest) = some (text, rest) := by
  induction text with
  | nil => rfl
  | cons c others ih =>
    rw [List.flatMap_cons, List.append_assoc, readString?_quoteChar, ih]
    rfl

/-! ### Blanks -/

theorem skipSpace_newline (level : Nat) (s : List Char) :
    skipSpace (newline level ++ s) = skipSpace s := by
  refine List.dropWhile_append_of_pos fun c hc => ?_
  rcases List.mem_cons.mp hc with rfl | hc
  · rfl
  · rw [List.eq_of_mem_replicate hc]
    rfl

theorem skipSpace_cons {c : Char} (hc : isSpace c = false) (s : List Char) :
    skipSpace (c :: s) = c :: s :=
  List.dropWhile_cons_of_neg (by simp [hc])

/-! ### Values -/

mutual

/-- Whether a value holds no number and at most `depth` containers inside one another. -/
def isPlain : Nat → Json → Bool
  | _, .null | _, .bool _ | _, .string _ => true
  | _, .number _ => false
  | 0, .array _ | 0, .object _ => false
  | depth + 1, .array items => arePlain depth items
  | depth + 1, .object members => hasPlainMembers depth members

/-- Whether all of the items are plain. -/
def arePlain : Nat → List Json → Bool
  | _, [] => true
  | depth, item :: rest => isPlain depth item && arePlain depth rest

/-- Whether all of the members are plain. -/
def hasPlainMembers : Nat → List (String × Json) → Bool
  | _, [] => true
  | depth, (_, value) :: rest => isPlain depth value && hasPlainMembers depth rest

end

/-- A printed value begins with a character that is neither blank nor a closing bracket. -/
theorem prettyChars_eq_cons {depth : Nat} {json : Json} (h : isPlain depth json = true)
    (level : Nat) :
    ∃ c others, prettyChars level json = c :: others ∧ isSpace c = false ∧ c ≠ ']' := by
  cases json with
  | null => exact ⟨'n', _, rfl, rfl, by decide⟩
  | bool value =>
    cases value with
    | true => exact ⟨'t', _, rfl, rfl, by decide⟩
    | false => exact ⟨'f', _, rfl, rfl, by decide⟩
  | number text => simp [isPlain] at h
  | string text => exact ⟨'"', _, rfl, rfl, by decide⟩
  | array items =>
    cases items with
    | nil => exact ⟨'[', _, rfl, rfl, by decide⟩
    | cons item rest => exact ⟨'[', _, rfl, rfl, by decide⟩
  | object members =>
    cases members with
    | nil => exact ⟨'\x7b', _, rfl, rfl, by decide⟩
    | cons member rest => exact ⟨'\x7b', _, rfl, rfl, by decide⟩

/-! ### Containers -/

/-- Texts one to a line, as they stand inside a container. -/
def lines (level : Nat) (texts : List (List Char)) : List Char :=
  separated (',' :: newline level) texts

theorem lines_singleton (level : Nat) (text : List Char) : lines level [text] = text :=
  rfl

theorem lines_cons_cons (level : Nat) (first second : List Char) (others : List (List Char)) :
    lines level (first :: second :: others) =
      first ++ ',' :: (newline level ++ lines level (second :: others)) := by
  simp [lines, separated]

theorem lines_eq_append (level : Nat) (first : List Char) (others : List (List Char)) :
    ∃ later, lines level (first :: others) = first ++ later := by
  cases others with
  | nil => exact ⟨[], by rw [lines_singleton, List.append_nil]⟩
  | cons second others => exact ⟨_, lines_cons_cons level first second others⟩

theorem lines_prettyItems_eq_cons {depth : Nat} {item : Json} {items : List Json}
    (h : arePlain depth (item :: items) = true) (level : Nat) (rest : List Char) :
    ∃ c others, lines level (prettyItems level (item :: items)) ++ rest = c :: others ∧
      isSpace c = false ∧ c ≠ ']' := by
  rw [arePlain, Bool.and_eq_true] at h
  obtain ⟨c, others, hstart, hc⟩ := prettyChars_eq_cons h.1 level
  obtain ⟨later, hlater⟩ := lines_eq_append level (prettyChars level item) (prettyItems level items)
  exact ⟨c, others ++ later ++ rest, by rw [prettyItems, hlater, hstart]; simp, hc⟩

theorem lines_prettyMembers_eq_cons (member : String × Json) (members : List (String × Json))
    (level : Nat) (rest : List Char) :
    ∃ others, lines level (prettyMembers level (member :: members)) ++ rest = '"' :: others := by
  obtain ⟨key, value⟩ := member
  obtain ⟨later, hlater⟩ := lines_eq_append level
    (quote key ++ ':' :: ' ' :: prettyChars level value) (prettyMembers level members)
  rw [prettyMembers, hlater]
  exact ⟨_, rfl⟩

theorem prettyChars_array (level : Nat) (item : Json) (items : List Json) (rest : List Char) :
    prettyChars level (.array (item :: items)) ++ rest =
      '[' :: (newline (level + 1) ++ (lines (level + 1) (prettyItems (level + 1) (item :: items)) ++
        (newline level ++ ']' :: rest))) := by
  have htext : prettyChars level (.array (item :: items)) = '[' :: (newline (level + 1) ++
      lines (level + 1) (prettyItems (level + 1) (item :: items)) ++ newline level ++ [']']) := rfl
  simp [htext]

theorem prettyChars_object (level : Nat) (member : String × Json) (members : List (String × Json))
    (rest : List Char) :
    prettyChars level (.object (member :: members)) ++ rest =
      '\x7b' :: (newline (level + 1) ++
        (lines (level + 1) (prettyMembers (level + 1) (member :: members)) ++
          (newline level ++ '\x7d' :: rest))) := by
  have htext : prettyChars level (.object (member :: members)) = '\x7b' :: (newline (level + 1) ++
      lines (level + 1) (prettyMembers (level + 1) (member :: members)) ++ newline level ++
      ['\x7d']) := rfl
  simp [htext]

theorem quote_append (text : String) (rest : List Char) :
    quote text ++ rest = '"' :: (text.toList.flatMap quoteChar ++ '"' :: rest) := by
  simp [quote]

theorem readValue?_string (fuel depth : Nat) (text : String) (rest : List Char) :
    readValue? (fuel + 1) depth (quote text ++ rest) = some (.string text, rest) := by
  rw [quote_append, readValue?, readString?_quoteChars, Option.map_some]
  simp only [String.ofList_toList]

theorem readValue?_array {fuel depth : Nat} {c : Char} {rest others : List Char}
    (hrest : skipSpace rest = c :: others) (hc : c ≠ ']') :
    readValue? (fuel + 1) (depth + 1) ('[' :: rest) =
      (readItems? fuel depth (c :: others)).map fun (items, rest) => (.array items, rest) := by
  rw [readValue?, hrest]
  split
  · rename_i h
    exact absurd (List.cons.inj h).1 hc
  · rfl

theorem readValue?_object {fuel depth : Nat} {c : Char} {rest others : List Char}
    (hrest : skipSpace rest = c :: others) (hc : c ≠ '\x7d') :
    readValue? (fuel + 1) (depth + 1) ('\x7b' :: rest) =
      (readMembers? fuel depth (c :: others)).map fun (members, rest) =>
        (.object members, rest) := by
  rw [readValue?, hrest]
  split
  · rename_i h
    exact absurd (List.cons.inj h).1 hc
  · rfl

theorem skipSpace_prettyChars {depth : Nat} {json : Json} (h : isPlain depth json = true)
    (level : Nat) (rest : List Char) :
    skipSpace (' ' :: (prettyChars level json ++ rest)) = prettyChars level json ++ rest := by
  obtain ⟨c, others, hstart, hc, -⟩ := prettyChars_eq_cons h level
  rw [hstart, List.cons_append]
  exact skipSpace_cons hc _

section Members

variable {fuel depth level : Nat} {value : Json} {rest next : List Char}

/-- A member with a comma behind it, and its value read back. -/
theorem readMembers?_comma (key : String) (hplain : isPlain depth value = true)
    (hvalue : readValue? fuel depth (prettyChars level value ++ rest) = some (value, rest))
    (hnext : skipSpace rest = ',' :: next) :
    readMembers? (fuel + 1) depth (quote key ++ ':' :: ' ' :: (prettyChars level value ++ rest)) =
      (readMembers? fuel depth (skipSpace next)).map fun (members, rest) =>
        ((key, value) :: members, rest) := by
  rw [quote_append, readMembers?, readString?_quoteChars]
  simp only [skipSpace_cons (show isSpace ':' = false from rfl),
    skipSpace_prettyChars hplain, hvalue, hnext, String.ofList_toList]

/-- A member with the closing brace behind it, and its value read back. -/
theorem readMembers?_close (key : String) (hplain : isPlain depth value = true)
    (hvalue : readValue? fuel depth (prettyChars level value ++ rest) = some (value, rest))
    (hnext : skipSpace rest = '\x7d' :: next) :
    readMembers? (fuel + 1) depth (quote key ++ ':' :: ' ' :: (prettyChars level value ++ rest)) =
      some ([(key, value)], next) := by
  rw [quote_append, readMembers?, readString?_quoteChars]
  simp only [skipSpace_cons (show isSpace ':' = false from rfl),
    skipSpace_prettyChars hplain, hvalue, hnext, String.ofList_toList]

end Members

/-! ### Reading values -/

mutual

/-- A printed value is read back, whatever follows it. -/
theorem readValue?_prettyChars (json : Json) (fuel depth level : Nat) (rest : List Char)
    (hplain : isPlain depth json = true) (hfuel : (prettyChars level json).length ≤ fuel) :
    readValue? fuel depth (prettyChars level json ++ rest) = some (json, rest) := by
  obtain ⟨c, others, hstart, -, -⟩ := prettyChars_eq_cons hplain level
  obtain ⟨fuel, rfl⟩ : ∃ n, fuel = n + 1 :=
    Nat.exists_eq_add_one.mpr (by rw [hstart, List.length_cons] at hfuel; omega)
  match json, depth with
  | .null, _ => rfl
  | .bool true, _ => rfl
  | .bool false, _ => rfl
  | .number text, _ => simp [isPlain] at hplain
  | .string text, _ => exact readValue?_string fuel _ text rest
  | .array _, 0 => simp [isPlain] at hplain
  | .array [], depth + 1 => rfl
  | .array (item :: items), depth + 1 =>
    have hitems : arePlain depth (item :: items) = true := hplain
    obtain ⟨c, others, hstart, hc, hclose⟩ :=
      lines_prettyItems_eq_cons hitems (level + 1) (newline level ++ ']' :: rest)
    have hlength := congrArg List.length (prettyChars_array level item items [])
    have hread := readItems?_prettyItems item items fuel depth (level + 1) level rest hitems
      (by simp at hlength hfuel; omega)
    rw [prettyChars_array, readValue?_array (by rw [skipSpace_newline, hstart, skipSpace_cons hc])
      hclose, ← hstart, hread]
    rfl
  | .object _, 0 => simp [isPlain] at hplain
  | .object [], depth + 1 => rfl
  | .object (member :: members), depth + 1 =>
    have hmembers : hasPlainMembers depth (member :: members) = true := hplain
    obtain ⟨others, hstart⟩ :=
      lines_prettyMembers_eq_cons member members (level + 1) (newline level ++ '\x7d' :: rest)
    have hlength := congrArg List.length (prettyChars_object level member members [])
    have hread := readMembers?_prettyMembers member members fuel depth (level + 1) level rest
      hmembers (by simp at hlength hfuel; omega)
    rw [prettyChars_object, readValue?_object
      (by rw [skipSpace_newline, hstart, skipSpace_cons (by decide)]) (by decide), ← hstart, hread]
    rfl
termination_by fuel

theorem readItems?_prettyItems (item : Json) (items : List Json)
    (fuel depth level outer : Nat) (rest : List Char)
    (hplain : arePlain depth (item :: items) = true)
    (hfuel : (lines level (prettyItems level (item :: items))).length < fuel) :
    readItems? fuel depth
      (lines level (prettyItems level (item :: items)) ++ (newline outer ++ ']' :: rest)) =
        some (item :: items, rest) := by
  obtain ⟨fuel, rfl⟩ : ∃ n, fuel = n + 1 := Nat.exists_eq_add_one.mpr (by omega)
  rw [arePlain, Bool.and_eq_true] at hplain
  match items with
  | [] =>
    rw [prettyItems, prettyItems, lines_singleton] at hfuel ⊢
    rw [readItems?, readValue?_prettyChars item fuel depth level _ hplain.1 (by omega)]
    simp only [skipSpace_newline, skipSpace_cons (show isSpace ']' = false from rfl)]
  | next :: more =>
    rw [prettyItems, prettyItems, lines_cons_cons, ← prettyItems] at hfuel ⊢
    rw [List.length_append, List.length_cons, List.length_append] at hfuel
    obtain ⟨c, others, hstart, hc, -⟩ :=
      lines_prettyItems_eq_cons hplain.2 level (newline outer ++ ']' :: rest)
    have hread := readItems?_prettyItems next more fuel depth level outer rest hplain.2 (by omega)
    rw [List.append_assoc, List.cons_append, List.append_assoc, readItems?,
      readValue?_prettyChars item fuel depth level _ hplain.1 (by omega)]
    simp only [skipSpace_cons (show isSpace ',' = false from rfl), skipSpace_newline]
    rw [hstart, skipSpace_cons hc, ← hstart, hread]
    rfl
termination_by fuel

theorem readMembers?_prettyMembers (member : String × Json) (members : List (String × Json))
    (fuel depth level outer : Nat) (rest : List Char)
    (hplain : hasPlainMembers depth (member :: members) = true)
    (hfuel : (lines level (prettyMembers level (member :: members))).length < fuel) :
    readMembers? fuel depth
      (lines level (prettyMembers level (member :: members)) ++ (newline outer ++ '\x7d' :: rest)) =
        some (member :: members, rest) := by
  obtain ⟨fuel, rfl⟩ : ∃ n, fuel = n + 1 := Nat.exists_eq_add_one.mpr (by omega)
  obtain ⟨key, value⟩ := member
  rw [hasPlainMembers, Bool.and_eq_true] at hplain
  match members with
  | [] =>
    rw [prettyMembers, prettyMembers, lines_singleton] at hfuel ⊢
    rw [List.length_append, List.length_cons, List.length_cons] at hfuel
    have hvalue := readValue?_prettyChars value fuel depth level
      (newline outer ++ '\x7d' :: rest) hplain.1 (by omega)
    rw [List.append_assoc, List.cons_append, List.cons_append]
    exact readMembers?_close key hplain.1 hvalue
      (by rw [skipSpace_newline, skipSpace_cons (by decide)])
  | (nextKey, nextValue) :: more =>
    rw [prettyMembers, prettyMembers, lines_cons_cons, ← prettyMembers] at hfuel ⊢
    rw [List.length_append, List.length_append, List.length_cons, List.length_cons,
      List.length_cons, List.length_append] at hfuel
    obtain ⟨others, hstart⟩ :=
      lines_prettyMembers_eq_cons (nextKey, nextValue) more level (newline outer ++ '\x7d' :: rest)
    have hread := readMembers?_prettyMembers (nextKey, nextValue) more fuel depth level outer rest
      hplain.2 (by omega)
    rw [List.append_assoc, List.append_assoc, List.cons_append, List.cons_append, List.cons_append,
      List.append_assoc, readMembers?_comma key hplain.1
        (readValue?_prettyChars value fuel depth level _ hplain.1 (by omega))
        (skipSpace_cons (by decide) _)]
    rw [skipSpace_newline, hstart, skipSpace_cons (by decide), ← hstart, hread]
    rfl
termination_by fuel

end

/-- A plain value is read back from its text. -/
theorem parse?_pretty {json : Json} (h : isPlain maxDepth json = true) :
    parse? json.pretty = some json := by
  obtain ⟨c, others, hstart, hc, -⟩ := prettyChars_eq_cons h 0
  have hread := readValue?_prettyChars json ((prettyChars 0 json).length + 1) maxDepth 0 [] h
    (Nat.le_succ _)
  rw [List.append_nil] at hread
  have hskip : skipSpace (prettyChars 0 json) = prettyChars 0 json := by
    rw [hstart]
    exact skipSpace_cons hc _
  rw [parse?, pretty, String.toList_ofList, hskip, hread]
  rfl

end ServiceScaffold.Json
