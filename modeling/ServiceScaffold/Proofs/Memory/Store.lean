/-
What the operations of a store in memory do to it.

Writes never touch the directories or the read-only places, and creating directories never touches
the files.  So whether a write is accepted does not depend on the writes before it, and what is read
afterwards is the last accepted content for the place, in whatever spelling.

* `Memory.accepts` — whether a write is accepted; `Memory.writeFile_eq`.
* `Memory.record` — a store with some more files written; `Memory.read?_record`.
* `Memory.mem_createDirectories`, `Memory.mem_createAll` — the directories that are created;
  `Memory.createAll_of_mem` — those that are there already.
* `Memory.answer_of_parent` — a write into a directory that is there.
* `Memory.answer_makeReadOnly` — a write away from a place that was made read-only.
-/
import ServiceScaffold.Filesystem.Memory
import ServiceScaffold.Proofs.Path.Components

namespace ServiceScaffold.Memory

/-! ### Files -/

/-- Giving a file its content changes what is read at its place, and nowhere else. -/
theorem find?_put (p q : Path) (content : String) (files : List (Path × String)) :
    ((put p content files).find? fun file => file.1.same q).map (·.2) =
      if p.same q then some content else (files.find? fun file => file.1.same q).map (·.2) := by
  -- a file keeps its spelling, which is read like that of `p`
  have hsame {r : Path} (hrp : r.same p = true) : r.same q = p.same q := by
    rw [Path.same, Path.same, Path.same_iff.mp hrp]
  induction files with
  | nil => by_cases hpq : p.same q = true <;> simp [put, hpq]
  | cons file rest ih =>
    obtain ⟨r, old⟩ := file
    rw [put]
    by_cases hrp : r.same p = true
    · rw [if_pos hrp]
      by_cases hpq : p.same q = true
      · simp [hsame hrp, hpq]
      · simp [hsame hrp, hpq]
    · rw [if_neg hrp]
      by_cases hrq : r.same q = true
      · have hpq : ¬ p.same q = true := fun hpq => hrp (Path.same_trans hrq (Path.same_symm hpq))
        simp [hrq, hpq]
      · simpa [hrq] using ih

/-- The store after files were written, each over what was there. -/
def record (store : Memory) (entries : List (Path × String)) : Memory :=
  { store with files := entries.foldl (fun files entry => put entry.1 entry.2 files) store.files }

@[simp] theorem record_directories (store : Memory) (entries : List (Path × String)) :
    (store.record entries).directories = store.directories := rfl

@[simp] theorem record_readOnly (store : Memory) (entries : List (Path × String)) :
    (store.record entries).readOnly = store.readOnly := rfl

theorem record_record (store : Memory) (first second : List (Path × String)) :
    (store.record first).record second = store.record (first ++ second) := by
  simp only [record, List.foldl_append]

theorem record_cons (store : Memory) (entry : Path × String) (rest : List (Path × String)) :
    store.record (entry :: rest) = (store.record [entry]).record rest :=
  (record_record store [entry] rest).symm

/-- The content of the last of the entries for `p`. -/
def lastContent? (entries : List (Path × String)) (p : Path) : Option String :=
  (entries.filter fun entry => entry.1.same p).getLast?.map (·.2)

/-- What is read is the last entry for the place, and without one what was there before. -/
theorem read?_record (store : Memory) (entries : List (Path × String)) (p : Path) :
    (store.record entries).read? p = (lastContent? entries p).or (store.read? p) := by
  induction entries generalizing store with
  | nil => rfl
  | cons entry rest ih =>
    have hfirst : (store.record [entry]).read? p =
        if entry.1.same p then some entry.2 else store.read? p :=
      find?_put entry.1 p entry.2 store.files
    rw [record_cons, ih, hfirst, lastContent?, lastContent?]
    by_cases hsame : entry.1.same p = true
    · rw [List.filter_cons, if_pos hsame, if_pos hsame, List.getLast?_cons]
      cases (rest.filter fun later => later.1.same p).getLast? <;> rfl
    · rw [List.filter_cons, if_neg hsame, if_neg hsame]

theorem lastContent?_eq_none {entries : List (Path × String)} {p : Path}
    (h : ∀ entry ∈ entries, entry.1.components ≠ p.components) : lastContent? entries p = none := by
  have hfilter : (entries.filter fun entry => entry.1.same p) = [] :=
    List.filter_eq_nil_iff.mpr fun entry hentry hsame => h entry hentry (Path.same_iff.mp hsame)
  rw [lastContent?, hfilter]
  rfl

theorem lastContent?_append (first second : List (Path × String)) (p : Path) :
    lastContent? (first ++ second) p = (lastContent? second p).or (lastContent? first p) := by
  simp only [lastContent?, List.filter_append, List.getLast?_append]
  cases (second.filter fun entry => entry.1.same p).getLast? <;> rfl

theorem lastContent?_cons (entry : Path × String) (rest : List (Path × String)) (p : Path) :
    lastContent? (entry :: rest) p =
      (lastContent? rest p).or (if entry.1.same p then some entry.2 else none) := by
  rw [← List.singleton_append, lastContent?_append]
  congr 1
  by_cases hsame : entry.1.same p = true <;> simp [lastContent?, hsame]

/-- Entries for other places can be left out. -/
theorem lastContent?_filter {entries : List (Path × String)} {p : Path}
    {keep : Path × String → Bool} (h : ∀ entry ∈ entries, entry.1.same p = true → keep entry = true) :
    lastContent? (entries.filter keep) p = lastContent? entries p := by
  rw [lastContent?, lastContent?, List.filter_filter]
  congr 2
  refine List.filter_congr fun entry hentry => ?_
  by_cases hsame : entry.1.same p = true
  · rw [hsame, h entry hentry hsame]
    rfl
  · rw [Bool.eq_false_iff.mpr hsame, Bool.false_and]

/-! ### Answers -/

theorem isReadOnly_eq_false_iff {store : Memory} {p : Path} :
    store.isReadOnly p = false ↔
      ∀ place ∈ store.readOnly, ¬ place.components <+: p.components := by
  rw [isReadOnly, List.any_eq_false]
  simp only [Path.isUnder_iff]

theorem isReadOnly_congr (store : Memory) {p q : Path} (h : p.components = q.components) :
    store.isReadOnly p = store.isReadOnly q := by
  have hunder : p.isUnder = q.isUnder := by
    funext base
    rw [Path.isUnder, Path.isUnder, h]
  rw [isReadOnly, isReadOnly, hunder]

/-- Whether a write at `p` is accepted. -/
def accepts (store : Memory) (p : Path) : Bool :=
  (store.answer p).isOk

theorem accepts_iff {store : Memory} {p : Path} :
    store.accepts p = true ↔ store.answer p = .ok () := by
  rw [accepts]
  cases store.answer p <;> simp [Except.isOk, Except.toBool]

/-- Whether a write is accepted does not depend on the files. -/
@[simp] theorem answer_record (store : Memory) (entries : List (Path × String)) (p : Path) :
    (store.record entries).answer p = store.answer p := rfl

@[simp] theorem accepts_record (store : Memory) (entries : List (Path × String)) (p : Path) :
    (store.record entries).accepts p = store.accepts p := by
  rw [accepts, answer_record, accepts]

/-- A write is answered, and recorded if it is accepted. -/
theorem writeFile_eq (store : Memory) (p : Path) (content : String) :
    filesystem.writeFile p content store =
      (store.answer p, if store.accepts p then store.record [(p, content)] else store) := by
  have hrun : filesystem.writeFile p content store =
      ((store.write p content).map fun _ => (), (store.write p content).toOption.getD store) := by
    simp only [filesystem, bind, StateT.bind, get, getThe, MonadStateOf.get, StateT.get, pure]
    cases store.write p content <;> rfl
  rw [hrun, accepts, answer, write]
  by_cases hreadOnly : store.isReadOnly p = true
  · rw [if_pos hreadOnly, if_pos hreadOnly]
    rfl
  · rw [if_neg hreadOnly, if_neg hreadOnly]
    cases requiredParent p with
    | none => rfl
    | some parent =>
      by_cases hmem : parent ∈ store.directories
      · simp only [if_pos hmem]
        rfl
      · simp only [if_neg hmem]
        rfl

/-! ### Directories -/

theorem mem_initials {α : Type} {d l : List α} : d ∈ initials l ↔ d ≠ [] ∧ d <+: l := by
  induction l generalizing d with
  | nil => simp [initials]
  | cons a rest ih =>
    cases d with
    | nil => simp [initials]
    | cons b above =>
      simp only [initials, List.mem_cons, List.cons.injEq, List.mem_map, exists_eq_right_right,
        List.cons_prefix_cons, ih, ne_eq, reduceCtorEq, not_false_eq_true, true_and]
      by_cases habove : above = []
      · simp [habove, eq_comm]
      · simp [habove, eq_comm, and_comm]

theorem mem_adjoin {α : Type} [DecidableEq α] {l : List α} {a b : α} :
    b ∈ adjoin l a ↔ b ∈ l ∨ b = a := by
  rw [adjoin]
  split
  · rename_i ha
    exact ⟨.inl, fun h => h.elim id fun hb => hb ▸ ha⟩
  · simp

theorem mem_foldl_adjoin {α : Type} [DecidableEq α] {added l : List α} {b : α} :
    b ∈ added.foldl adjoin l ↔ b ∈ l ∨ b ∈ added := by
  induction added generalizing l with
  | nil => simp
  | cons a rest ih => rw [List.foldl_cons, ih, mem_adjoin, List.mem_cons, or_assoc]

/-- A directory is created with everything above it. -/
theorem mem_createDirectories {store : Memory} {p : Path} {d : List Component} :
    d ∈ (store.createDirectories p).directories ↔
      d ∈ store.directories ∨ d ≠ [] ∧ d <+: p.components := by
  rw [createDirectories, mem_foldl_adjoin, mem_initials]

@[simp] theorem isReadOnly_createDirectories (store : Memory) (p q : Path) :
    (store.createDirectories p).isReadOnly q = store.isReadOnly q := rfl

theorem record_createDirectories (store : Memory) (entries : List (Path × String)) (p : Path) :
    (store.record entries).createDirectories p = (store.createDirectories p).record entries := rfl

/-- The store after directories were created, one after another. -/
def createAll (store : Memory) (paths : List Path) : Memory :=
  paths.foldl createDirectories store

theorem createAll_cons (store : Memory) (p : Path) (rest : List Path) :
    store.createAll (p :: rest) = (store.createDirectories p).createAll rest := rfl

@[simp] theorem createAll_files (store : Memory) (paths : List Path) :
    (store.createAll paths).files = store.files := by
  induction paths generalizing store with
  | nil => rfl
  | cons p rest ih => rw [createAll_cons, ih]; rfl

@[simp] theorem createAll_readOnly (store : Memory) (paths : List Path) :
    (store.createAll paths).readOnly = store.readOnly := by
  induction paths generalizing store with
  | nil => rfl
  | cons p rest ih => rw [createAll_cons, ih]; rfl

@[simp] theorem isReadOnly_createAll (store : Memory) (paths : List Path) (p : Path) :
    (store.createAll paths).isReadOnly p = store.isReadOnly p := by
  simp only [isReadOnly, createAll_readOnly]

@[simp] theorem read?_createAll (store : Memory) (paths : List Path) (p : Path) :
    (store.createAll paths).read? p = store.read? p := by
  simp only [read?, createAll_files]

theorem record_createAll (store : Memory) (entries : List (Path × String)) (paths : List Path) :
    (store.record entries).createAll paths = (store.createAll paths).record entries := by
  induction paths generalizing store with
  | nil => rfl
  | cons p rest ih => rw [createAll_cons, record_createDirectories, ih, createAll_cons]

theorem mem_createAll {store : Memory} {paths : List Path} {d : List Component} :
    d ∈ (store.createAll paths).directories ↔
      d ∈ store.directories ∨ d ≠ [] ∧ ∃ p ∈ paths, d <+: p.components := by
  induction paths generalizing store with
  | nil => simp [createAll]
  | cons p rest ih =>
    rw [createAll_cons, ih, mem_createDirectories]
    simp only [List.mem_cons, exists_eq_or_imp, and_or_left, or_assoc]

theorem createAll_append (store : Memory) (first second : List Path) :
    store.createAll (first ++ second) = (store.createAll first).createAll second :=
  List.foldl_append

theorem foldl_adjoin_of_mem {α : Type} [DecidableEq α] {added l : List α}
    (h : ∀ a ∈ added, a ∈ l) : added.foldl adjoin l = l := by
  induction added with
  | nil => rfl
  | cons a rest ih =>
    obtain ⟨ha, hrest⟩ := List.forall_mem_cons.mp h
    rw [List.foldl_cons, adjoin, if_pos ha]
    exact ih hrest

/-- A directory that is there with everything above it is not created again. -/
theorem createDirectories_of_mem {store : Memory} {p : Path}
    (h : ∀ d, d ≠ [] → d <+: p.components → d ∈ store.directories) :
    store.createDirectories p = store := by
  have hthere : ∀ d ∈ initials p.components, d ∈ store.directories := by
    intro d hd
    obtain ⟨hne, hprefix⟩ := mem_initials.mp hd
    exact h d hne hprefix
  rw [createDirectories, foldl_adjoin_of_mem hthere]

theorem createAll_of_mem {store : Memory} {paths : List Path}
    (h : ∀ p ∈ paths, ∀ d, d ≠ [] → d <+: p.components → d ∈ store.directories) :
    store.createAll paths = store := by
  induction paths with
  | nil => rfl
  | cons p rest ih =>
    obtain ⟨hp, hrest⟩ := List.forall_mem_cons.mp h
    rw [createAll_cons, createDirectories_of_mem hp]
    exact ih hrest

/-! ### Writing into a directory -/

theorem requiredParent_of_append {p : Path} {parent : List Component} {c : Component}
    (hparent : parent ≠ []) (h : p.components = parent ++ [c]) :
    requiredParent p = some parent := by
  obtain ⟨last, above, hreverse⟩ :=
    List.exists_cons_of_ne_nil (mt List.reverse_eq_nil_iff.mp hparent)
  have hback : parent = (last :: above).reverse := by rw [← hreverse, List.reverse_reverse]
  rw [requiredParent, h, List.reverse_append, hreverse, hback]
  rfl

/-- Into a directory that is there, a write is refused at read-only places only. -/
theorem answer_of_parent {store : Memory} {p : Path} {parent : List Component} {c : Component}
    (hparent : parent ≠ []) (h : p.components = parent ++ [c])
    (hmem : parent ∈ store.directories) :
    store.answer p =
      if store.isReadOnly p then .error (.filesystem p "Read-only location") else .ok () := by
  rw [answer, requiredParent_of_append hparent h]
  simp only [if_pos hmem]

/-! ### Making a place read-only -/

theorem isReadOnly_makeReadOnly (store : Memory) (place p : Path) :
    (store.makeReadOnly place).isReadOnly p = (store.isReadOnly p || p.isUnder place) := by
  rw [isReadOnly, isReadOnly, makeReadOnly, List.any_append]
  simp

/-- Writes away from the place are answered as before. -/
theorem answer_makeReadOnly (store : Memory) {place p : Path} (h : p.isUnder place = false) :
    (store.makeReadOnly place).answer p = store.answer p := by
  rw [answer, isReadOnly_makeReadOnly, h, Bool.or_false]
  rfl

theorem createAll_makeReadOnly (store : Memory) (place : Path) (paths : List Path) :
    (store.makeReadOnly place).createAll paths = (store.createAll paths).makeReadOnly place := by
  induction paths generalizing store with
  | nil => rfl
  | cons p rest ih =>
    rw [createAll_cons, createAll_cons, ← ih]
    rfl

end ServiceScaffold.Memory
