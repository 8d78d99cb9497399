/-
The flags without a value, read off the words.

A flag that no value follows is given by a word of its own, by its letter among the letters of a
word, or not at all: whatever else is read, a scope has such a flag exactly when a word before the
two dashes gives it.  Each scope is checked on its own, so that a flag for quiet and one for more
detail refuse each other on the same side of the command, and on different sides they do not.

* `Scope.gives` — whether a word gives a flag.
* `Reading.Follows`, `Reading.Adds` — what a step of the reader adds to the flags, and what a whole
  scope does.
* `Reading.scan_cons`, `Reading.adds_scan` — one word of a scope, and all its words: it has the
  flags that they give.
* `Invocation.parse_detail` — quiet and more detail in a command line that is accepted.
* `Invocation.parse_quiet_and_verbose` — one that asks for both.
-/
import ServiceScaffold.Command.Reading

namespace ServiceScaffold

/-! ### Flags by their names -/

theorem Flag.long_injective {flag other : Flag} (h : flag.long = other.long) : flag = other := by
  cases flag <;> cases other <;> first | rfl | exact absurd h (by decide)

theorem Flag.eq_of_short? {flag other : Flag} {letter : Char} (h : flag.short? = some letter)
    (h' : other.short? = some letter) : flag = other := by
  have hsame : flag.short? = other.short? := h.trans h'.symm
  have hsome : flag.short?.isSome = true := by rw [h]; rfl
  cases flag <;> cases other <;>
    first | rfl | exact absurd hsame (by decide) | exact absurd hsome (by decide)

theorem Flag.equals_not_mem_long (flag : Flag) : '=' ∉ flag.long.toList := by
  cases flag <;> decide

namespace Scope

theorem long_of_flagOfLong? {scope : Scope} {name : String} {flag : Flag}
    (h : scope.flagOfLong? name = some flag) : flag.long = name := by
  have hfound := List.find?_some h
  exact beq_iff_eq.mp hfound

theorem short?_of_flagOfShort? {scope : Scope} {letter : Char} {flag : Flag}
    (h : scope.flagOfShort? letter = some flag) : flag.short? = some letter := by
  have hfound := List.find?_some h
  exact beq_iff_eq.mp hfound

/-- The letters of a word before the first one whose flag a value follows. -/
def switchLetters (scope : Scope) (letters : List Char) : List Char :=
  letters.takeWhile fun letter => !(scope.flagOfShort? letter).any Flag.takesValue

theorem switchLetters_cons_of_takesValue {scope : Scope} {letter : Char} {flag : Flag}
    (h : scope.flagOfShort? letter = some flag) (htakes : flag.takesValue = true)
    (rest : List Char) : scope.switchLetters (letter :: rest) = [] := by
  rw [switchLetters, List.takeWhile_cons, h, Option.any_some, htakes]
  rfl

theorem switchLetters_cons_of_switch {scope : Scope} {letter : Char} {flag : Flag}
    (h : scope.flagOfShort? letter = some flag) (htakes : ¬ flag.takesValue = true)
    (rest : List Char) :
    scope.switchLetters (letter :: rest) = letter :: scope.switchLetters rest := by
  rw [switchLetters, List.takeWhile_cons, h, Option.any_some, Bool.eq_false_iff.mpr htakes]
  rfl

/-- Whether a word gives a flag that no value follows: by its name, or by its letter. -/
def gives (scope : Scope) (flag : Flag) (word : String) : Bool :=
  match word.toList with
  | '-' :: '-' :: name => flag.long == String.ofList name
  | '-' :: letters => (scope.switchLetters letters).any fun letter => flag.short? == some letter
  | _ => false

theorem gives_of_name {scope : Scope} {word : String} {name : List Char}
    (h : word.toList = '-' :: '-' :: name) (flag : Flag) :
    scope.gives flag word = (flag.long == String.ofList name) := by
  rw [gives, h]
  rfl

theorem gives_of_letters {scope : Scope} {word : String} {letters : List Char}
    (h : word.toList = '-' :: letters) (hletters : ∀ name, letters ≠ '-' :: name) (flag : Flag) :
    scope.gives flag word =
      (scope.switchLetters letters).any fun letter => flag.short? == some letter := by
  unfold gives
  split
  · rename_i name hname
    exact absurd (List.cons.inj (h.symm.trans hname)).2 (hletters name)
  · rename_i others _ hothers
    rw [(List.cons.inj (h.symm.trans hothers)).2]
  · rename_i hnot
    exact absurd h (hnot letters)

theorem gives_of_plain {scope : Scope} {word : String} (h : ∀ letters, word.toList ≠ '-' :: letters)
    (flag : Flag) : scope.gives flag word = false := by
  unfold gives
  split
  · rename_i name hname
    exact absurd hname (h _)
  · rename_i letters _ hletters
    exact absurd hletters (h _)
  · rfl

end Scope

/-- The words that can give a flag: those before the two dashes. -/
def flagWords (words : List String) : List String :=
  words.takeWhile (· ≠ "--")

namespace Reading

theorem exists_of_bind_eq_ok {α β : Type} {x : Except UsageError α}
    {f : α → Except UsageError β} {b : β} (h : x >>= f = .ok b) :
    ∃ a, x = .ok a ∧ f a = .ok b := by
  cases x with
  | error e => cases h
  | ok a => exact ⟨a, rfl, h⟩

/-! ### Steps of the reader -/

/-- Only a flag that a value follows waits for its value. -/
def Sound (r : Reading) : Prop :=
  ∀ flag value, r.pending = some (.flag flag value) → flag.takesValue = true

/-- Reading goes on in the same scope, and among the flags without a value it adds those of
`given`. -/
structure Adds (given : Flag → Prop) (r r' : Reading) : Prop where
  scope : r'.scope = r.scope
  sound : r'.Sound
  has_iff : ∀ flag, flag.takesValue = false →
    (r'.has flag = true ↔ r.has flag = true ∨ given flag)

/-- A step within a word, which does not come to the two dashes. -/
structure Follows (given : Flag → Prop) (r r' : Reading) : Prop extends Adds given r r' where
  afterDashes : r'.afterDashes = r.afterDashes

/-- A step that adds no flag without a value. -/
abbrev Keeps : Reading → Reading → Prop :=
  Follows fun _ => False

variable {given given' : Flag → Prop} {r r' r'' : Reading}

theorem Adds.congr (h : Adds given r r')
    (hgiven : ∀ flag, flag.takesValue = false → (given flag ↔ given' flag)) :
    Adds given' r r' where
  scope := h.scope
  sound := h.sound
  has_iff flag hflag := by rw [h.has_iff flag hflag, hgiven flag hflag]

theorem Adds.trans (h : Adds given r r') (h' : Adds given' r' r'') :
    Adds (fun flag => given flag ∨ given' flag) r r'' where
  scope := h'.scope.trans h.scope
  sound := h'.sound
  has_iff flag hflag := by rw [h'.has_iff flag hflag, h.has_iff flag hflag, or_assoc]

theorem Follows.congr (h : Follows given r r')
    (hgiven : ∀ flag, flag.takesValue = false → (given flag ↔ given' flag)) :
    Follows given' r r' where
  toAdds := h.toAdds.congr hgiven
  afterDashes := h.afterDashes

theorem Follows.trans (h : Follows given r r') (h' : Follows given' r' r'') :
    Follows (fun flag => given flag ∨ given' flag) r r'' where
  toAdds := h.toAdds.trans h'.toAdds
  afterDashes := h'.afterDashes.trans h.afterDashes

theorem Keeps.trans_follows (h : Keeps r r') (h' : Follows given r' r'') : Follows given r r'' :=
  (h.trans h').congr fun _ _ => by rw [false_or]

theorem Keeps.of_sound (hr : r.Sound) : Keeps r r where
  scope := rfl
  sound := hr
  has_iff _ _ := by rw [or_false]
  afterDashes := rfl

/-- What is read besides flags does not count. -/
theorem Follows.of_same (h : Follows given r r') (hscope : r''.scope = r'.scope)
    (hgiven : r''.given = r'.given) (hpending : r''.pending = r'.pending)
    (hdashes : r''.afterDashes = r'.afterDashes) : Follows given r r'' where
  scope := hscope.trans h.scope
  sound flag value hvalue := h.sound flag value (hpending ▸ hvalue)
  has_iff flag hflag := by rw [← h.has_iff flag hflag, has, has, hgiven]
  afterDashes := hdashes.trans h.afterDashes

theorem has_append (r : Reading) (flag : Flag) (value : String) (other : Flag) :
    ({ r with given := r.given ++ [(flag, value)] } : Reading).has other = true ↔
      r.has other = true ∨ flag = other := by
  simp [has]

theorem keeps_giveValue {flag : Flag} {value : String} (hr : r.Sound)
    (hflag : flag.takesValue = true) (h : r.giveValue flag value = .ok r') : Keeps r r' := by
  rw [giveValue] at h
  split at h
  · cases h
  · split at h
    · cases h
    · obtain rfl := Except.ok.inj h
      refine ⟨⟨rfl, hr, ?_⟩, rfl⟩
      intro other hother
      have hne : flag ≠ other := by
        rintro rfl
        rw [hflag] at hother
        cases hother
      rw [has_append, iff_false_intro hne]

theorem keeps_settle (hr : r.Sound) (h : r.settle = .ok r') : Keeps r r' := by
  have hcleared : Sound { r with pending := none } := by simp [Sound]
  rw [settle] at h
  split at h
  · obtain rfl := Except.ok.inj h
    exact .of_sound hr
  · cases h
  · rename_i flag value hpending
    have hkeeps := keeps_giveValue hcleared (hr flag _ hpending) h
    exact ⟨⟨hkeeps.scope, hkeeps.sound, hkeeps.has_iff⟩, hkeeps.afterDashes⟩
  · split at h
    · cases h
    · obtain rfl := Except.ok.inj h
      refine ⟨⟨rfl, hcleared, ?_⟩, rfl⟩
      exact fun flag _ => by rw [or_false]; rfl

theorem follows_giveSwitch {flag : Flag} (hr : r.Sound) (h : r.giveSwitch flag = .ok r') :
    Follows (flag = ·) r r' := by
  have hadded : Follows (flag = ·) r { r with given := r.given ++ [(flag, "")] } :=
    ⟨⟨rfl, hr, fun other _ => has_append r flag "" other⟩, rfl⟩
  unfold giveSwitch at h
  split at h
  · cases h
  · cases h
  · obtain rfl := Except.ok.inj h
    exact hadded
  · split at h
    · cases h
    · obtain rfl := Except.ok.inj h
      exact hadded

theorem follows_takeSwitch {flag : Flag} (hr : r.Sound) (h : r.takeSwitch flag = .ok r') :
    Follows (flag = ·) r r' := by
  obtain ⟨settled, hsettle, hgive⟩ := exists_of_bind_eq_ok h
  have hkeeps := keeps_settle hr hsettle
  exact hkeeps.trans_follows (follows_giveSwitch hkeeps.sound hgive)

theorem keeps_takeAttached {flag : Flag} {value : String} (hr : r.Sound)
    (hflag : flag.takesValue = true) (h : r.takeAttached flag value = .ok r') : Keeps r r' := by
  obtain ⟨settled, hsettle, hrest⟩ := exists_of_bind_eq_ok h
  obtain ⟨read, hgive, hread⟩ := exists_of_bind_eq_ok hrest
  obtain rfl := Except.ok.inj hread
  have hkeeps := keeps_settle hr hsettle
  have hvalue := keeps_giveValue hkeeps.sound hflag hgive
  exact (hkeeps.trans_follows hvalue).of_same rfl rfl rfl rfl

theorem keeps_takeOpen {flag : Flag} (hr : r.Sound) (hflag : flag.takesValue = true)
    (h : r.takeOpen flag = .ok r') : Keeps r r' := by
  obtain ⟨settled, hsettle, hread⟩ := exists_of_bind_eq_ok h
  obtain rfl := Except.ok.inj hread
  have hkeeps := keeps_settle hr hsettle
  refine ⟨⟨hkeeps.scope, ?_, hkeeps.has_iff⟩, hkeeps.afterDashes⟩
  intro other value hpending
  cases hpending
  exact hflag

/-! ### Words -/

theorem cutAtEquals_cases (text : List Char) :
    cutAtEquals text = (text, none) ∨
      ∃ name value, cutAtEquals text = (name, some value) ∧ '=' ∈ text := by
  induction text with
  | nil => exact .inl rfl
  | cons c rest ih =>
    rw [cutAtEquals]
    by_cases hc : c = '='
    · rw [if_pos hc]
      exact .inr ⟨[], rest, rfl, hc ▸ List.mem_cons_self⟩
    · rw [if_neg hc]
      rcases ih with hcut | ⟨name, value, hcut, hmem⟩
      · rw [hcut]
        exact .inl rfl
      · rw [hcut]
        exact .inr ⟨c :: name, value, rfl, List.mem_cons_of_mem c hmem⟩

theorem follows_readLong {text : List Char} (hr : r.Sound) (h : r.readLong text = .ok r') :
    Follows (fun flag => flag.long = String.ofList text) r r' := by
  rw [readLong] at h
  rcases cutAtEquals_cases text with hcut | ⟨name, value, hcut, hmem⟩
  · rw [hcut] at h
    dsimp only at h
    split at h
    · cases h
    · rename_i flag hflag
      have hlong := Scope.long_of_flagOfLong? hflag
      split at h
      · rename_i hnone
        cases hnone
      · rename_i htakes _
        refine (keeps_takeOpen hr htakes h).congr fun other hother => ?_
        refine iff_of_false not_false fun hsame => ?_
        rw [Flag.long_injective (hsame.trans hlong.symm), htakes] at hother
        cases hother
      · cases h
      · obtain ⟨read, hswitch, hread⟩ := exists_of_bind_eq_ok h
        obtain rfl := Except.ok.inj hread
        have hgiven (other : Flag) : flag = other ↔ other.long = String.ofList text := by
          rw [← hlong]
          exact ⟨fun hsame => congrArg Flag.long hsame.symm,
            fun hsame => (Flag.long_injective hsame).symm⟩
        have hfollows := (follows_takeSwitch hr hswitch).congr fun other _ => hgiven other
        exact hfollows.of_same rfl rfl rfl rfl
  · -- the name of a flag has no equals sign, so that the flag takes the value
    have hnever (flag : Flag) : ¬ flag.long = String.ofList text := by
      intro hsame
      apply flag.equals_not_mem_long
      rwa [hsame, String.toList_ofList]
    rw [hcut] at h
    dsimp only at h
    split at h
    · cases h
    · rename_i flag hflag
      split at h
      · rename_i htakes _
        exact (keeps_takeAttached hr htakes h).congr fun other _ =>
          iff_of_false not_false (hnever other)
      · rename_i hnone
        cases hnone
      · cases h
      · rename_i hnone
        cases hnone

theorem follows_readShort {letters : List Char} (hr : r.Sound)
    (h : r.readShort letters = .ok r') :
    Follows (fun flag => ∃ letter ∈ r.scope.switchLetters letters, flag.short? = some letter)
      r r' := by
  have hnone (letters : List Char) (hempty : letters = []) (flag : Flag) :
      (∃ letter ∈ letters, flag.short? = some letter) ↔ False := by
    simp [hempty]
  induction letters generalizing r with
  | nil =>
    obtain rfl := Except.ok.inj h
    have hkeeps := (Keeps.of_sound hr).congr fun flag _ =>
      (hnone (r.scope.switchLetters []) rfl flag).symm
    exact hkeeps.of_same rfl rfl rfl rfl
  | cons letter rest ih =>
    rw [readShort] at h
    split at h
    · cases h
    · rename_i flag hflag
      have hshort := Scope.short?_of_flagOfShort? hflag
      by_cases htakes : flag.takesValue = true
      · have hletters := Scope.switchLetters_cons_of_takesValue hflag htakes rest
        rw [if_pos htakes] at h
        have hkeeps : Keeps r r' := by
          split at h
          · exact keeps_takeOpen hr htakes h
          · exact keeps_takeAttached hr htakes h
          · exact keeps_takeAttached hr htakes h
        exact hkeeps.congr fun other _ => (hnone _ hletters other).symm
      · have hletters := Scope.switchLetters_cons_of_switch hflag htakes rest
        rw [if_neg htakes] at h
        split at h
        · cases h
        · rename_i read hswitch
          have hfollows := follows_takeSwitch hr hswitch
          refine (hfollows.trans (ih hfollows.sound h)).congr fun other _ => ?_
          simp only [hfollows.scope, hletters, List.mem_cons, exists_eq_or_imp]
          refine or_congr_left ?_
          exact ⟨fun hsame => hsame ▸ hshort, fun hother => Flag.eq_of_short? hshort hother⟩

theorem keeps_readWord {word : String} (hr : r.Sound) (h : r.readWord word = .ok r') :
    Keeps r r' := by
  rw [readWord] at h
  split at h
  · split at h <;> cases h
  · obtain ⟨settled, hsettle, hread⟩ := exists_of_bind_eq_ok h
    obtain rfl := Except.ok.inj hread
    exact (keeps_settle hr hsettle).of_same rfl rfl rfl rfl
  · cases h
  · split at h
    · cases h
    · obtain ⟨settled, hsettle, hread⟩ := exists_of_bind_eq_ok h
      obtain rfl := Except.ok.inj hread
      have hkeeps := keeps_settle hr hsettle
      refine ⟨⟨hkeeps.scope, ?_, hkeeps.has_iff⟩, hkeeps.afterDashes⟩
      intro flag value hpending
      cases hpending

theorem keeps_readAwaited (hr : r.Sound) (word : String) : Keeps r (r.readAwaited word) := by
  rw [readAwaited]
  split
  · rename_i flag hpending
    refine ⟨⟨rfl, ?_, fun _ _ => by rw [or_false]; rfl⟩, rfl⟩
    intro other value hvalue
    cases hvalue
    exact hr flag none hpending
  · exact (Keeps.of_sound hr).of_same rfl rfl rfl rfl

theorem follows_readArgument {word : String} (hr : r.Sound) (hword : word ≠ "--")
    (h : r.readArgument word = .ok r') :
    Follows (fun flag => r.scope.gives flag word = true) r r' := by
  rw [readArgument] at h
  split at h
  · rename_i htext
    exact absurd (String.toList_injective htext) hword
  · rename_i text _ htext
    refine (follows_readLong hr h).congr fun flag _ => ?_
    rw [Scope.gives_of_name htext, beq_iff_eq]
  · rename_i letter letters hnot hnotLong htext
    refine (follows_readShort hr h).congr fun flag _ => ?_
    have hletters : ∀ name, letter :: letters ≠ '-' :: name :=
      fun name hsame => hnotLong (List.cons.inj hsame).1
    rw [Scope.gives_of_letters htext hletters]
    simp [List.any_eq_true]
  · rename_i hdashes hname hletters
    have hgives (flag : Flag) : r.scope.gives flag word = false := by
      by_cases hdash : ∃ letters, word.toList = '-' :: letters
      · obtain ⟨letters, htext⟩ := hdash
        cases letters with
        | nil => rw [Scope.gives_of_letters htext (by simp)]; rfl
        | cons letter others => exact absurd htext (hletters letter others)
      · exact Scope.gives_of_plain (not_exists.mp hdash) flag
    have hkeeps : Keeps r r' := by
      split at h
      · obtain rfl := Except.ok.inj h
        exact keeps_readAwaited hr word
      · exact keeps_readWord hr h
    exact hkeeps.congr fun flag _ => by rw [hgives]; simp

/-! ### A scope -/

/-- The words that a scope reads: all of them, or those before the command it comes to. -/
def ReadsUpTo (r : Reading) (words before : List String)
    (next : Option (CommandName × List String)) : Prop :=
  match next with
  | none => words = before
  | some (name, after) => r.scope = .program ∧
      ∃ word, words = before ++ word :: after ∧ CommandName.ofWord? word = some name

theorem ReadsUpTo.cons {words before : List String} {next : Option (CommandName × List String)}
    (h : ReadsUpTo r' words before next) (hscope : r'.scope = r.scope) (word : String) :
    ReadsUpTo r (word :: words) (word :: before) next := by
  cases next with
  | none => exact congrArg (word :: ·) h
  | some command =>
    obtain ⟨hprogram, name, hwords, hname⟩ := h
    exact ⟨hscope.symm.trans hprogram, name, congrArg (word :: ·) hwords, hname⟩

theorem flagWords_cons {word : String} (h : word ≠ "--") (words : List String) :
    flagWords (word :: words) = word :: flagWords words := by
  rw [flagWords, List.takeWhile_cons, if_pos (by simpa using h)]
  rfl

/-- What one more word is: a plain word after the dashes, the command that a scope comes to, or an
argument. -/
theorem scan_cons {word : String} {rest : List String}
    {next : Option (CommandName × List String)} (h : scan r (word :: rest) = .ok (r', next)) :
    (r.afterDashes = true ∧ ∃ read, r.readWord word = .ok read ∧ scan read rest = .ok (r', next)) ∨
      r.afterDashes = false ∧
        ((r' = r ∧ ReadsUpTo r (word :: rest) [] next) ∨
          ∃ read, r.readArgument word = .ok read ∧ scan read rest = .ok (r', next)) := by
  rw [scan] at h
  by_cases hdashes : r.afterDashes = true
  · rw [if_pos hdashes] at h
    split at h
    · cases h
    · rename_i read hread
      exact .inl ⟨hdashes, read, hread, h⟩
  · rw [if_neg hdashes] at h
    refine .inr ⟨Bool.eq_false_iff.mpr hdashes, ?_⟩
    split at h
    · cases h
    · split at h
      · rename_i name hname
        obtain ⟨rfl, rfl⟩ := Prod.mk.inj (Except.ok.inj h)
        split at hname
        · rename_i hprogram
          exact .inl ⟨rfl, hprogram.1, word, rfl, hname⟩
        · cases hname
      · split at h
        · cases h
        · rename_i read hread
          exact .inr ⟨read, hread, h⟩

/-- The flags without a value that a scope has are those that its words give. -/
theorem adds_scan {words : List String} {next : Option (CommandName × List String)}
    (hr : r.Sound) (h : scan r words = .ok (r', next)) :
    ∃ before, ReadsUpTo r words before next ∧
      Adds (fun flag => r.afterDashes = false ∧
        (flagWords before).any (r.scope.gives flag) = true) r r' := by
  induction words generalizing r with
  | nil =>
    obtain ⟨rfl, rfl⟩ := Prod.mk.inj (Except.ok.inj h)
    refine ⟨[], rfl, (Keeps.of_sound hr).toAdds.congr fun flag _ => ?_⟩
    simp [flagWords]
  | cons word rest ih =>
    rcases scan_cons h with ⟨hdashes, read, hread, hscan⟩ |
      ⟨hdashes, ⟨rfl, hcommand⟩ | ⟨read, hread, hscan⟩⟩
    · have hkeeps := keeps_readWord hr hread
      obtain ⟨before, hbefore, hadds⟩ := ih hkeeps.sound hscan
      refine ⟨word :: before, hbefore.cons hkeeps.scope word, ?_⟩
      refine (hkeeps.toAdds.trans hadds).congr fun flag _ => ?_
      simp [hkeeps.afterDashes, hdashes]
    · refine ⟨[], hcommand, (Keeps.of_sound hr).toAdds.congr fun flag _ => ?_⟩
      simp [flagWords]
    · -- the two dashes are an argument that gives nothing, and end those that give a flag
      by_cases hword : word = "--"
      · subst hword
        have hstep : r.readArgument "--" = .ok { r with afterDashes := true } := rfl
        obtain rfl := Except.ok.inj (hstep.symm.trans hread)
        have hdashed : Sound { r with afterDashes := true } := hr
        obtain ⟨before, hbefore, hadds⟩ := ih hdashed hscan
        refine ⟨"--" :: before, hbefore.cons rfl "--", ⟨hadds.scope, hadds.sound, ?_⟩⟩
        intro flag hflag
        refine (hadds.has_iff flag hflag).trans ?_
        simp [flagWords, has]
      · have hfollows := follows_readArgument hr hword hread
        obtain ⟨before, hbefore, hadds⟩ := ih hfollows.sound hscan
        refine ⟨word :: before, hbefore.cons hfollows.scope word, ?_⟩
        refine (hfollows.toAdds.trans hadds).congr fun flag _ => ?_
        rw [flagWords_cons hword, List.any_cons, Bool.or_eq_true, hfollows.scope,
          hfollows.afterDashes, hdashes]
        simp

/-! ### A whole scope -/

/-- When a scope has been read to its end, it has the flags that its words give. -/
theorem has_of_scan {scope : Scope} {words : List String}
    {next : Option (CommandName × List String)} {environment : Environment} {read done : Reading}
    (h : scan { scope } words = .ok (read, next)) (hdone : read.complete environment = .ok done) :
    ∃ before, ReadsUpTo { scope } words before next ∧
      ∀ flag, flag.takesValue = false →
        (done.has flag = true ↔ (flagWords before).any (scope.gives flag) = true) := by
  have hsound : Sound { scope } := by simp [Sound]
  obtain ⟨before, hbefore, hadds⟩ := adds_scan hsound h
  obtain ⟨settled, hsettle, hrest⟩ := exists_of_bind_eq_ok hdone
  obtain rfl : settled = done := by
    split at hrest
    · cases hrest
    · exact Except.ok.inj hrest
  refine ⟨before, hbefore, fun flag hflag => ?_⟩
  rw [(keeps_settle hadds.sound hsettle).has_iff flag hflag, hadds.has_iff flag hflag]
  simp [has]

theorem not_both_of_check {r : Reading} {passed : Unit} (h : r.check = .ok passed) :
    ¬ (r.has .quiet = true ∧ r.has .verbose = true) := by
  rintro ⟨hquiet, hverbose⟩
  rw [check, hquiet, hverbose] at h
  cases h

/-- Of two scopes, the one that was given something is heard, and the inner one first. -/
theorem strongest_given {α : Type} (outer inner : Bool) (a b fallback : α) :
    strongest (if outer then (a, .commandLine) else (fallback, .fallback))
        (if inner then (b, .commandLine) else (fallback, .fallback)) =
      if inner then b else if outer then a else fallback := by
  cases outer <;> cases inner <;> rfl

theorem quiet_globals (outer inner : Reading) (environment : Environment) :
    (outer.globals inner environment).quiet = true ↔
      outer.has .quiet = true ∨ inner.has .quiet = true := by
  have hglobals : (outer.globals inner environment).quiet =
      strongest outer.quietness inner.quietness := rfl
  rw [hglobals, quietness, quietness, strongest_given]
  cases outer.has .quiet <;> cases inner.has .quiet <;> decide

theorem count_pos {r : Reading} {flag : Flag} (h : r.has flag = true) : 0 < r.count flag := by
  obtain ⟨entry, hentry, hflag⟩ := List.any_eq_true.mp h
  exact List.length_pos_of_mem (List.mem_filter.mpr ⟨hentry, hflag⟩)

theorem verbose_globals (outer inner : Reading) (environment : Environment) :
    0 < (outer.globals inner environment).verbose ↔
      outer.has .verbose = true ∨ inner.has .verbose = true := by
  have hglobals : (outer.globals inner environment).verbose =
      strongest outer.verbosity inner.verbosity := rfl
  have hcount {r : Reading} (h : r.has .verbose = true) : 0 < min (r.count .verbose) 255 :=
    Nat.lt_min.mpr ⟨count_pos h, by decide⟩
  rw [hglobals, verbosity, verbosity, strongest_given]
  by_cases hinner : inner.has .verbose = true
  · rw [if_pos hinner]
    exact iff_of_true (hcount hinner) (.inr hinner)
  · rw [if_neg hinner]
    by_cases houter : outer.has .verbose = true
    · rw [if_pos houter]
      exact iff_of_true (hcount houter) (.inl houter)
    · rw [if_neg houter]
      exact iff_of_false (Nat.lt_irrefl 0) (not_or.mpr ⟨houter, hinner⟩)

end Reading

namespace Invocation

/-- The words of a command line, cut at its command. -/
structure IsCut (words before : List String) (name : CommandName) (after : List String) : Prop where
  read : ∃ outer, Reading.scan { scope := .program } words = .ok (outer, some (name, after))
  word : ∃ word, words = before ++ word :: after ∧ CommandName.ofWord? word = some name

/-- What the flags before a command, and those after it, say of quiet and of more detail. -/
structure TellsDetail (globals : GlobalOptions) (before after : Flag → Bool) : Prop where
  quiet_iff : globals.quiet = true ↔ before .quiet = true ∨ after .quiet = true
  verbose_iff : 0 < globals.verbose ↔ before .verbose = true ∨ after .verbose = true
  not_before : ¬ (before .quiet = true ∧ before .verbose = true)
  not_after : ¬ (after .quiet = true ∧ after .verbose = true)

/-- Both are asked for only by flags on different sides of the command. -/
theorem TellsDetail.both_iff {globals : GlobalOptions} {before after : Flag → Bool}
    (h : TellsDetail globals before after) :
    (globals.quiet = true ∧ 0 < globals.verbose) ↔
      (before .quiet = true ∧ after .verbose = true) ∨
        (before .verbose = true ∧ after .quiet = true) := by
  rw [h.quiet_iff, h.verbose_iff]
  constructor
  · rintro ⟨hquiet | hquiet, hverbose | hverbose⟩
    · exact absurd ⟨hquiet, hverbose⟩ h.not_before
    · exact .inl ⟨hquiet, hverbose⟩
    · exact .inr ⟨hverbose, hquiet⟩
    · exact absurd ⟨hquiet, hverbose⟩ h.not_after
  · rintro (⟨hquiet, hverbose⟩ | ⟨hverbose, hquiet⟩)
    · exact ⟨.inl hquiet, .inr hverbose⟩
    · exact ⟨.inr hquiet, .inl hverbose⟩

/-- In a command line that is accepted, quiet and more detail are what the flags on both sides of
the command ask for, and never both on one side.  So both are asked for exactly where one of them
stands before the command and the other one after it. -/
theorem parse_detail {environment : Environment} {words : List String} {invocation : Invocation}
    (h : parse environment words = .ok invocation) :
    ∃ before name after, IsCut words before name after ∧
      let outer flag := (flagWords before).any (Scope.program.gives flag)
      let inner flag := (flagWords after).any ((Scope.command name).gives flag)
      TellsDetail invocation.globals outer inner ∧
        ((invocation.globals.quiet = true ∧ 0 < invocation.globals.verbose) ↔
          (outer .quiet = true ∧ inner .verbose = true) ∨
            (outer .verbose = true ∧ inner .quiet = true)) := by
  obtain ⟨⟨outerRead, next⟩, houterScan, hrest⟩ := Reading.exists_of_bind_eq_ok h
  cases next with
  | none =>
    obtain ⟨outer, -, hrefused⟩ := Reading.exists_of_bind_eq_ok hrest
    cases hrefused
  | some command =>
    obtain ⟨name, after⟩ := command
    obtain ⟨⟨innerRead, innerNext⟩, hinnerScan, hrest⟩ := Reading.exists_of_bind_eq_ok hrest
    obtain ⟨inner, hinnerDone, hrest⟩ := Reading.exists_of_bind_eq_ok hrest
    obtain ⟨_, hinnerCheck, hrest⟩ := Reading.exists_of_bind_eq_ok hrest
    obtain ⟨outer, houterDone, hrest⟩ := Reading.exists_of_bind_eq_ok hrest
    obtain ⟨_, houterCheck, hrest⟩ := Reading.exists_of_bind_eq_ok hrest
    obtain rfl := Except.ok.inj hrest
    obtain ⟨before, ⟨-, word, hwords, hword⟩, houterHas⟩ :=
      Reading.has_of_scan houterScan houterDone
    obtain ⟨read, hread, hinnerHas⟩ := Reading.has_of_scan hinnerScan hinnerDone
    -- the scope of a command comes to no other command
    obtain rfl : after = read := by
      cases innerNext with
      | none => exact hread
      | some other =>
        obtain ⟨hprogram, -⟩ := hread
        cases hprogram
    have htells : TellsDetail (outer.globals inner environment)
        (fun flag => (flagWords before).any (Scope.program.gives flag))
        (fun flag => (flagWords after).any ((Scope.command name).gives flag)) := by
      have hinnerNot := Reading.not_both_of_check hinnerCheck
      have houterNot := Reading.not_both_of_check houterCheck
      rw [hinnerHas .quiet rfl, hinnerHas .verbose rfl] at hinnerNot
      rw [houterHas .quiet rfl, houterHas .verbose rfl] at houterNot
      refine ⟨?_, ?_, houterNot, hinnerNot⟩
      · rw [Reading.quiet_globals, houterHas .quiet rfl, hinnerHas .quiet rfl]
      · rw [Reading.verbose_globals, houterHas .verbose rfl, hinnerHas .verbose rfl]
    exact ⟨before, name, after, ⟨⟨outerRead, houterScan⟩, word, hwords, hword⟩, htells,
      htells.both_iff⟩

/-- A service may have the name of a flag, and the last letter of a word may bring a value. -/
theorem parse_detail_services :
    let words := ["-vvc", "g", "generate", "--no-color", "a", "--", "-q"]
    let invocation : Invocation :=
      ⟨{ verbose := 2, noColor := true, config := some ⟨"g"⟩ },
        .generate { services := ["a", "-q"] }⟩
    parse [] words = .ok invocation ∧
      ∃ before name after, IsCut words before name after ∧
        TellsDetail invocation.globals
          (fun flag => (flagWords before).any (Scope.program.gives flag))
          (fun flag => (flagWords after).any ((Scope.command name).gives flag)) := by
  intro words invocation
  have hparse : parse [] words = .ok invocation := by rfl
  obtain ⟨before, name, after, hcut, htells, -⟩ := parse_detail hparse
  exact ⟨hparse, before, name, after, hcut, htells⟩

/-- A flag for quiet before the command and one for more detail after it are both accepted. -/
theorem parse_quiet_and_verbose :
    parse [] ["-q", "generate", "-v"] =
      .ok ⟨{ quiet := true, verbose := 1 }, .generate {}⟩ := by
  rfl

end Invocation

end ServiceScaffold
