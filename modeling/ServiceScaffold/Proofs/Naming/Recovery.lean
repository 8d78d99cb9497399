/-
Snake names and their joined forms.

A name of small words with `_` between each two is found again from its camel form and from its
Pascal form: the capitals of these stand where a word started, and nowhere else.  So two services
with different names of this kind have different members in the list of services, different
registering functions and different registration files.

* `IsSnakeName` — small words with `_` between each two.
* `separateWords_pascalWords` — separating raised words gives the words back.
* `snake_recovered` — the names found again, and the services told apart.
-/
import ServiceScaffold.Document.Text
import ServiceScaffold.Proofs.Naming.Capitals
import ServiceScaffold.Proofs.Naming.Separated
import ServiceScaffold.Proofs.Naming.Words

namespace ServiceScaffold.Naming

/-! ### Snake names -/

/-- A word that opens with a small letter of ASCII and holds no capital. -/
structure IsSnakeWord (w : List Char) : Prop where
  opening : w.head?.any Char.isLower = true
  kept : ∀ c ∈ w, IsKept c

theorem isSnakeWord_iff {w : List Char} :
    IsSnakeWord w ↔ (w.head?.any Char.isLower && w.all fun c => decide (IsKept c)) = true := by
  rw [Bool.and_eq_true, List.all_eq_true]
  exact ⟨fun h => ⟨h.opening, fun c hc => decide_eq_true (h.kept c hc)⟩,
    fun h => ⟨h.1, fun c hc => of_decide_eq_true (h.2 c hc)⟩⟩

instance (w : List Char) : Decidable (IsSnakeWord w) :=
  decidable_of_iff _ isSnakeWord_iff.symm

/-- One such word or more, with `_` between each two. -/
def IsSnakeName (s : List Char) : Prop :=
  ∃ ws, ws ≠ [] ∧ (∀ w ∈ ws, IsSnakeWord w) ∧ s = ['_'].intercalate ws

theorem IsSnakeWord.exists_eq_cons {w : List Char} (h : IsSnakeWord w) :
    ∃ c rest, w = c :: rest ∧ c.isLower = true := by
  cases w with
  | nil => cases h.opening
  | cons c rest => exact ⟨c, rest, rfl, h.opening⟩

theorem IsSnakeWord.ne_nil {w : List Char} (h : IsSnakeWord w) : w ≠ [] := by
  obtain ⟨c, rest, rfl, -⟩ := h.exists_eq_cons
  exact List.cons_ne_nil c rest

theorem IsSnakeWord.opened_toLower {w : List Char} (h : IsSnakeWord w) :
    opened Letter.toLower w = w := by
  obtain ⟨c, rest, rfl, hc⟩ := h.exists_eq_cons
  obtain ⟨capital, hcapital⟩ := Letter.exists_capital hc
  rw [opened, hcapital.toLower_small]
  rfl

theorem intercalate_separator (w : List Char) (ws : List (List Char)) :
    ['_'].intercalate (w :: ws) = w ++ ws.flatMap ('_' :: ·) := by
  induction ws generalizing w with
  | nil => rw [List.intercalate_singleton, List.flatMap_nil, List.append_nil]
  | cons v vs ih =>
    rw [List.intercalate_cons_cons, ih, List.append_assoc, List.flatMap_cons]
    rfl

/-! ### Words found again -/

variable {separator : Char}

theorem separateWords_letters {w : List Char} (hw : ∀ c ∈ w, IsKept c) (rest : List Char) :
    separateWords separator .word (w ++ rest) = w ++ separateWords separator .word rest := by
  induction w with
  | nil => rfl
  | cons c letters ih =>
    rw [List.cons_append, separateWords_kept _ (hw c List.mem_cons_self),
      ih fun d hd => hw d (List.mem_cons_of_mem c hd)]
    rfl

/-- A small word is kept, wherever it stands. -/
theorem separateWords_snakeWord {w : List Char} (h : IsSnakeWord w) (seam : Seam)
    (rest : List Char) :
    separateWords separator seam (w ++ rest) = w ++ separateWords separator .word rest := by
  obtain ⟨c, letters, rfl, -⟩ := h.exists_eq_cons
  have hletters : ∀ d ∈ letters, IsKept d := fun d hd => h.kept d (List.mem_cons_of_mem c hd)
  rw [List.cons_append, separateWords_kept _ (h.kept c List.mem_cons_self),
    separateWords_letters hletters]
  rfl

/-- A raised word is lowered again, and parted from what stands before it. -/
theorem separateWords_raised {w : List Char} (h : IsSnakeWord w) (seam : Seam) (rest : List Char) :
    separateWords separator seam (opened Letter.toUpper w ++ rest) =
      (if seam = .word then [separator] else []) ++ (w ++ separateWords separator .word rest) := by
  obtain ⟨c, letters, rfl, hc⟩ := h.exists_eq_cons
  obtain ⟨capital, hcapital⟩ := Letter.exists_capital hc
  have hletters : ∀ d ∈ letters, IsKept d := fun d hd => h.kept d (List.mem_cons_of_mem c hd)
  rw [opened, hcapital.toUpper_small, List.append_assoc, List.singleton_append,
    separateWords_capital _ hcapital.isUppercase, hcapital.toLower_capital,
    separateWords_letters hletters]
  rfl

theorem separateWords_pascalWords {ws : List (List Char)} (h : ∀ w ∈ ws, IsSnakeWord w) :
    separateWords separator .word (pascalWords ws) = ws.flatMap (separator :: ·) := by
  induction ws with
  | nil => rfl
  | cons w ws ih =>
    have hothers := ih fun v hv => h v (List.mem_cons_of_mem w hv)
    rw [pascalWords, List.flatMap_cons, separateWords_raised (h w List.mem_cons_self), if_pos rfl,
      ← pascalWords, hothers, List.flatMap_cons]
    rfl

theorem words_snakeName {ws : List (List Char)} (h : ∀ w ∈ ws, IsSnakeWord w) :
    words (['_'].intercalate ws) = ws :=
  words_intercalate rfl fun w hw => ⟨(h w hw).ne_nil, fun c hc => ((h w hw).kept c hc).1⟩

theorem separateWords_pascalChars {s : List Char} (h : IsSnakeName s) :
    separateWords '_' .start (pascalChars s) = s := by
  obtain ⟨ws, hne, hws, rfl⟩ := h
  obtain ⟨w, others, rfl⟩ := List.exists_cons_of_ne_nil hne
  have hothers : ∀ v ∈ others, IsSnakeWord v := fun v hv => hws v (List.mem_cons_of_mem w hv)
  rw [pascalChars_eq_words, words_snakeName hws, pascalWords, List.flatMap_cons, ← pascalWords,
    separateWords_raised (hws w List.mem_cons_self), if_neg (by decide), List.nil_append,
    separateWords_pascalWords hothers, intercalate_separator]

theorem separateWords_camelChars {s : List Char} (h : IsSnakeName s) :
    separateWords '_' .start (camelChars s) = s := by
  obtain ⟨ws, hne, hws, rfl⟩ := h
  obtain ⟨w, others, rfl⟩ := List.exists_cons_of_ne_nil hne
  have hw := hws w List.mem_cons_self
  have hothers : ∀ v ∈ others, IsSnakeWord v := fun v hv => hws v (List.mem_cons_of_mem w hv)
  rw [camelChars_eq_words, words_snakeName hws, camelWords, hw.opened_toLower,
    separateWords_snakeWord hw, separateWords_pascalWords hothers, intercalate_separator]

theorem snake_pascal {s : String} (h : IsSnakeName s.toList) : snake (pascal s) = s := by
  rw [snake, pascal, String.toList_ofList, separateWords_pascalChars h, String.ofList_toList]

theorem snake_camel {s : String} (h : IsSnakeName s.toList) : snake (camel s) = s := by
  rw [snake, camel, String.toList_ofList, separateWords_camelChars h, String.ofList_toList]

/-! ### Services told apart -/

open Document

theorem registrationBindings_get?_key (service : Service) (options : RegisterOptions)
    (function : String) :
    (registrationBindings service options function).get? "key" = some (camel service.name) := by
  simp [registrationBindings, Bindings.ofList, Bindings.get?_insert, NamingCase.convert]

/-- A snake name is the snake form of its camel form and of its Pascal form.  Services with
different snake names share no member of the list of services, no registering function and no
registration file. -/
theorem snake_recovered {s : String} (hs : IsSnakeName s.toList) :
    snake (camel s) = s ∧ snake (pascal s) = s ∧
      ∀ a b : Service, a.name = s → IsSnakeName b.name.toList → b.name ≠ s →
        (∀ options options' : RegisterOptions, ∀ function function' : String,
          (registrationBindings a options function).get? "key" ≠
            (registrationBindings b options' function').get? "key") ∧
        registrationFunction a ≠ registrationFunction b ∧
        registrationFileName a ≠ registrationFileName b := by
  refine ⟨snake_camel hs, snake_pascal hs, ?_⟩
  rintro a b rfl hb hne
  have hcamel : camel a.name ≠ camel b.name := by
    intro hsame
    exact hne (by rw [← snake_camel hb, ← hsame, snake_camel hs])
  have hpascal : pascal a.name ≠ pascal b.name := by
    intro hsame
    exact hne (by rw [← snake_pascal hb, ← hsame, snake_pascal hs])
  refine ⟨fun options options' function function' => ?_, ?_, ?_⟩
  · rw [registrationBindings_get?_key, registrationBindings_get?_key]
    exact fun hkey => hcamel (Option.some.inj hkey)
  · rw [registrationFunction_eq, registrationFunction_eq, registrationFunctionName,
      registrationFunctionName]
    exact fun hfunction => hpascal ((String.append_right_inj _).mp (Except.ok.inj hfunction))
  · rw [registrationFileName_eq, registrationFileName_eq, registrationName, registrationName]
    intro hfile
    have hfunction := (String.append_left_inj _).mp (Except.ok.inj hfile)
    exact hpascal ((String.append_right_inj _).mp hfunction)

/-- A name of two words, and one that is the first of them. -/
theorem snake_recovered_userService :
    IsSnakeName "user_service".toList ∧ IsSnakeName "user".toList ∧
      snake (camel "user_service") = "user_service" ∧
      snake (pascal "user_service") = "user_service" ∧
      registrationFileName ⟨"user_service", "IUserService", by decide⟩ ≠
        registrationFileName ⟨"user", "IUser", by decide⟩ := by
  have huser : IsSnakeWord "user".toList := by decide +kernel
  have hservice : IsSnakeWord "service".toList := by decide +kernel
  have hlong : IsSnakeName "user_service".toList :=
    ⟨["user".toList, "service".toList], List.cons_ne_nil _ _,
      List.forall_mem_cons.mpr ⟨huser, List.forall_mem_singleton.mpr hservice⟩, rfl⟩
  have hshort : IsSnakeName "user".toList :=
    ⟨["user".toList], List.cons_ne_nil _ _, List.forall_mem_singleton.mpr huser, rfl⟩
  obtain ⟨hcamel, hpascal, happart⟩ := snake_recovered hlong
  have hservices := happart ⟨"user_service", "IUserService", by decide⟩
    ⟨"user", "IUser", by decide⟩ rfl hshort (by decide)
  exact ⟨hlong, hshort, hcamel, hpascal, hservices.2.2⟩

end ServiceScaffold.Naming
