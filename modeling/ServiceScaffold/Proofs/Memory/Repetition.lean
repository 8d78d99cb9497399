/-
Runs that are repeated.

A run leaves its own directories behind, and at every place that it writes to the content that it
writes there last.  Run again on that store, it finds nothing to create, has every call answered as
before, since no answer depends on the files, and writes over each place what the place ends up
with anyway.  This needs neither plain names nor services of different names.

* `Memory.record_put` — a write that is written over later.
* `Memory.record_of_read?` — entries that the store holds already.
* `run_run` — a run after the same run.
-/
import ServiceScaffold.Proofs.Memory.Run

namespace ServiceScaffold

namespace Memory

/-! ### Writing over files -/

/-- Whether one of the files has the place of `p`. -/
def Holds (files : List (Path × String)) (p : Path) : Prop :=
  ∃ file ∈ files, file.1.same p = true

variable {files : List (Path × String)} {p q : Path}

theorem not_holds_nil : ¬ Holds [] p := by
  rintro ⟨file, hfile, -⟩
  exact List.not_mem_nil hfile

theorem holds_cons {file : Path × String} {rest : List (Path × String)} :
    Holds (file :: rest) p ↔ file.1.same p = true ∨ Holds rest p :=
  List.exists_mem_cons_iff _ _ _

theorem holds_of_find? {content : String}
    (h : (files.find? fun file => file.1.same p).map (·.2) = some content) : Holds files p := by
  obtain ⟨file, hfile, -⟩ := Option.map_eq_some_iff.mp h
  have hsame := List.find?_some hfile
  exact ⟨file, List.mem_of_find?_eq_some hfile, hsame⟩

theorem Holds.put (h : Holds files p) (q : Path) (content : String) :
    Holds (put q content files) p := by
  induction files with
  | nil => exact absurd h not_holds_nil
  | cons file rest ih =>
    obtain ⟨r, old⟩ := file
    rw [Memory.put]
    split
    · -- the file keeps its spelling
      exact holds_cons.mpr ((holds_cons.mp h).imp id id)
    · exact holds_cons.mpr ((holds_cons.mp h).imp_right ih)

/-- The content that a place has already changes nothing. -/
theorem put_of_find? {content : String}
    (h : (files.find? fun file => file.1.same p).map (·.2) = some content) :
    put p content files = files := by
  induction files with
  | nil => simp at h
  | cons file rest ih =>
    obtain ⟨q, old⟩ := file
    by_cases hsame : q.same p = true
    · have hold : old = content := by simpa [hsame] using h
      rw [put, if_pos hsame, hold]
    · rw [put, if_neg hsame, ih (by simpa [hsame] using h)]

/-- Only the last of two contents for a place that is there counts. -/
theorem put_put_of_same (h : Holds files p) (hsame : q.same p = true) (c d : String) :
    put q d (put p c files) = put q d files := by
  induction files with
  | nil => exact absurd h not_holds_nil
  | cons file rest ih =>
    obtain ⟨r, old⟩ := file
    by_cases hrp : r.same p = true
    · have hrq : r.same q = true := Path.same_trans hrp (Path.same_symm hsame)
      simp only [put, if_pos hrp, if_pos hrq]
    · have hrq : ¬ r.same q = true := fun hrq => hrp (Path.same_trans hrq hsame)
      simp only [put, if_neg hrp, if_neg hrq, ih ((holds_cons.mp h).resolve_left hrp)]

/-- A write to a place that is there commutes with writes to other places. -/
theorem put_put_of_not_same (h : Holds files p) (hne : ¬ q.same p = true) (c d : String) :
    put q d (put p c files) = put p c (put q d files) := by
  induction files with
  | nil => exact absurd h not_holds_nil
  | cons file rest ih =>
    obtain ⟨r, old⟩ := file
    by_cases hrp : r.same p = true
    · have hrq : ¬ r.same q = true := fun hrq =>
        hne (Path.same_trans (Path.same_symm hrq) hrp)
      simp only [put, if_pos hrp, if_neg hrq]
    · by_cases hrq : r.same q = true
      · simp only [put, if_neg hrp, if_pos hrq]
      · simp only [put, if_neg hrp, if_neg hrq, ih ((holds_cons.mp h).resolve_left hrp)]

/-- A write to a place that is there makes no difference if it is written over later. -/
theorem record_put {store : Memory} {entries : List (Path × String)} {content : String}
    (h : Holds store.files p) (hlater : Holds entries p) :
    (store.record [(p, content)]).record entries = store.record entries := by
  induction entries generalizing store with
  | nil => exact absurd hlater not_holds_nil
  | cons entry rest ih =>
    rw [record_cons _ entry rest, record_cons store entry rest]
    by_cases hsame : entry.1.same p = true
    · have hput : (store.record [(p, content)]).record [entry] = store.record [entry] := by
        simp only [record, List.foldl_cons, List.foldl_nil,
          put_put_of_same h hsame content entry.2]
      rw [hput]
    · have hput : (store.record [(p, content)]).record [entry] =
          (store.record [entry]).record [(p, content)] := by
        simp only [record, List.foldl_cons, List.foldl_nil,
          put_put_of_not_same h hsame content entry.2]
      rw [hput]
      exact ih (h.put entry.1 entry.2) ((holds_cons.mp hlater).resolve_left hsame)

/-- Entries whose outcome can be read already change nothing. -/
theorem record_of_read? {store : Memory} {entries : List (Path × String)}
    (h : ∀ p content, lastContent? entries p = some content → store.read? p = some content) :
    store.record entries = store := by
  induction entries with
  | nil => rfl
  | cons entry rest ih =>
    obtain ⟨p, content⟩ := entry
    have hrest : store.record rest = store := by
      refine ih fun q d hlast => h q d ?_
      rw [lastContent?_cons, hlast, Option.some_or]
    rw [record_cons]
    -- the first entry is written over by a later one, or it is what is read already
    by_cases hlater : Holds rest p
    · obtain ⟨d, hd⟩ : ∃ d, lastContent? ((p, content) :: rest) p = some d := by
        rw [lastContent?_cons, if_pos (Path.same_iff.mpr rfl)]
        cases lastContent? rest p with
        | none => exact ⟨content, rfl⟩
        | some d => exact ⟨d, rfl⟩
      rw [record_put (holds_of_find? (h p d hd)) hlater, hrest]
    · have hnone : lastContent? rest p = none := by
        refine lastContent?_eq_none fun later hmem hplace => ?_
        exact hlater ⟨later, hmem, Path.same_iff.mpr hplace⟩
      have hread : store.read? p = some content := by
        refine h p content ?_
        rw [lastContent?_cons, hnone, Option.none_or, if_pos (Path.same_iff.mpr rfl)]
      have hput : store.record [(p, content)] = store := by
        simp only [record, List.foldl_cons, List.foldl_nil, put_of_find? hread]
      rw [hput, hrest]

theorem record_record_self (store : Memory) (entries : List (Path × String)) :
    (store.record entries).record entries = store.record entries := by
  refine record_of_read? fun p content hlast => ?_
  rw [read?_record, hlast, Option.some_or]

end Memory

namespace Generation

variable (config : RunConfig)

/-! ### The store that a run left -/

/-- It has the directories of the run. -/
theorem withDirectories_run (schedule : Schedule) (store : Memory) :
    withDirectories config (run Memory.filesystem schedule config store).2 =
      (run Memory.filesystem schedule config store).2 := by
  refine Memory.createAll_of_mem fun p hp d hne hprefix => ?_
  rw [(run_memory config schedule store).2]
  exact Memory.mem_createAll.mpr (.inr ⟨hne, p, hp, hprefix⟩)

theorem answer_run (schedule : Schedule) (store : Memory) :
    (run Memory.filesystem schedule config store).2.answer =
      (withDirectories config store).answer := by
  funext p
  rw [(run_memory config schedule store).2, Memory.answer_record]

/-- It refuses the shared types of the same services. -/
theorem isOpen_run (schedule : Schedule) (store : Memory) :
    isOpen config (run Memory.filesystem schedule config store).2 = isOpen config store := by
  funext service
  rw [isOpen, isOpen, isReadOnly_run]

theorem preparedOn_run (schedule : Schedule) (store : Memory) :
    preparedOn config (run Memory.filesystem schedule config store).2 =
      preparedOn config store := by
  funext service
  rw [preparedOn, preparedOn, isOpen_run]

theorem tasksOn_run (schedule : Schedule) (store : Memory) :
    tasksOn config (run Memory.filesystem schedule config store).2 = tasksOn config store := by
  rw [tasksOn_eq, tasksOn_eq, openServices, openServices, isOpen_run]

/-- The same files are written to it, in the same order. -/
theorem entries_run (schedule : Schedule) (store : Memory) :
    let first := (run Memory.filesystem schedule config store).2
    typesEntries config first ++ registrationEntries config schedule first =
      typesEntries config store ++ registrationEntries config schedule store := by
  intro first
  have hopen : openServices config first = openServices config store := by
    rw [openServices, openServices, isOpen_run]
  have hregistrable : isRegistrable config first = isRegistrable config store := by
    funext service
    rw [isRegistrable, isRegistrable, withDirectories_run, Memory.accepts, Memory.accepts,
      answer_run]
  rw [typesEntries, typesEntries, registrationEntries, registrationEntries, hopen, hregistrable]

/-- What comes of tasks depends on the answers of a store only. -/
theorem carryOut_congr (options : RegisterOptions) (tasks : List Task) (order : List Nat)
    {store store' : Memory} (h : store.answer = store'.answer) :
    (carryOut Memory.filesystem options tasks order store).1 =
      (carryOut Memory.filesystem options tasks order store').1 := by
  have hdone : doneOn store = doneOn store' := by
    funext number task
    rw [doneOn, doneOn, h]
  rw [carryOut_memory, carryOut_memory, hdone]

/-! ### Both runs -/

/-- A run again, on the store that it left: what it announces, its report and the store are the
same. -/
theorem run_run (schedule : Schedule) (store : Memory) :
    let first := run Memory.filesystem schedule config store
    (∃ report, first.1.result = .ok report) ∧
      run Memory.filesystem schedule config first.2 = first := by
  intro first
  have hfirst : first = _ := run_eq config schedule store
  have hstore : first.2 = (withDirectories config store).record
      (typesEntries config store ++ registrationEntries config schedule store) :=
    (run_memory config schedule store).2
  refine ⟨⟨_, (run_memory config schedule store).1⟩, ?_⟩
  have hanswer : ((withDirectories config first.2).record (typesEntries config first.2)).answer =
      ((withDirectories config store).record (typesEntries config store)).answer := by
    funext p
    rw [Memory.answer_record, Memory.answer_record, withDirectories_run, answer_run]
  have houtcome := carryOut_congr config.register (tasksOn config store)
    (schedule.order (tasksOn config store).length) hanswer
  have hleft : (withDirectories config first.2).record
      (typesEntries config first.2 ++ registrationEntries config schedule first.2) = first.2 := by
    rw [withDirectories_run, entries_run]
    show first.2.record _ = first.2
    rw [hstore, Memory.record_record_self]
  rw [run_eq config schedule first.2, preparedOn_run, tasksOn_run, houtcome, hleft, hstore]
  exact hfirst.symm

end Generation

end ServiceScaffold
