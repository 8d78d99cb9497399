/-
Runs that differ in their schedules only.

Which writes are accepted does not depend on their order, so that the report of a run on a store in
memory is the same under every schedule.  Writes to different places commute, up to the order in
which the store lists its files; so the stores that two schedules leave hold the same files as soon
as no two tasks share the place of their registration.

* `Memory.put_comm` — two writes to different places.
* `Memory.record_perm_of_distinct` — any number of them.
* `run_schedules` — two runs on one store.
-/
import ServiceScaffold.Proofs.Memory.Run

namespace ServiceScaffold

namespace Memory

/-! ### Writes to different places -/

/-- No two of the files have the same place. -/
def Distinct (files : List (Path × String)) : Prop :=
  files.Pairwise fun file other => ¬ file.1.same other.1 = true

theorem Distinct.perm {files files' : List (Path × String)} (h : Distinct files)
    (hperm : files.Perm files') : Distinct files' := by
  refine (hperm.pairwise_iff ?_).mp h
  intro file other hne hsame
  exact hne (Path.same_symm hsame)

/-- Files of different places are told apart when they are written in either order. -/
theorem put_comm {p q : Path} (hpq : ¬ p.same q = true) (c d : String)
    (files : List (Path × String)) :
    (put p c (put q d files)).Perm (put q d (put p c files)) := by
  have hqp : ¬ q.same p = true := fun h => hpq (Path.same_symm h)
  induction files with
  | nil =>
    simp only [put, if_neg hpq, if_neg hqp]
    exact List.Perm.swap _ _ []
  | cons file rest ih =>
    obtain ⟨r, old⟩ := file
    by_cases hrp : r.same p = true
    · have hrq : ¬ r.same q = true := fun hrq =>
        hpq (Path.same_trans (Path.same_symm hrp) hrq)
      simp only [put, if_pos hrp, if_neg hrq]
      exact List.Perm.refl _
    · by_cases hrq : r.same q = true
      · simp only [put, if_neg hrp, if_pos hrq]
        exact List.Perm.refl _
      · simp only [put, if_neg hrp, if_neg hrq]
        exact ih.cons _

theorem put_of_not_mem {p : Path} {files : List (Path × String)}
    (h : ∀ file ∈ files, ¬ file.1.same p = true) (content : String) :
    put p content files = files ++ [(p, content)] := by
  induction files with
  | nil => rfl
  | cons file rest ih =>
    obtain ⟨hfile, hrest⟩ := List.forall_mem_cons.mp h
    rw [put, if_neg hfile, ih hrest, List.cons_append]

theorem put_of_mem {p : Path} {files : List (Path × String)} (hdistinct : Distinct files)
    (h : ∃ file ∈ files, file.1.same p = true) (content : String) :
    put p content files =
      files.map fun file => if file.1.same p then (file.1, content) else file := by
  induction files with
  | nil => simp at h
  | cons file rest ih =>
    obtain ⟨hfile, hrest⟩ := List.pairwise_cons.mp hdistinct
    rw [put, List.map_cons]
    by_cases hsame : file.1.same p = true
    · -- the first file is the one: the others stay
      have hothers : rest.map (fun file => if file.1.same p then (file.1, content) else file) =
          rest := by
        refine Eq.trans (List.map_congr_left fun other hother => ?_) (List.map_id rest)
        have hne : ¬ other.1.same p = true := fun hsame' =>
          hfile other hother (Path.same_trans hsame (Path.same_symm hsame'))
        rw [if_neg hne, id]
      rw [if_pos hsame, if_pos hsame, hothers]
    · have hlater : ∃ file ∈ rest, file.1.same p = true := by
        obtain ⟨other, hother, hsame'⟩ := h
        rcases List.mem_cons.mp hother with rfl | hother
        · exact absurd hsame' hsame
        · exact ⟨other, hother, hsame'⟩
      rw [if_neg hsame, if_neg hsame, ih hrest hlater]

theorem put_distinct {files : List (Path × String)} (h : Distinct files) (p : Path)
    (content : String) : Distinct (put p content files) := by
  by_cases hmem : ∃ file ∈ files, file.1.same p = true
  · rw [put_of_mem h hmem, Distinct, List.pairwise_map]
    refine h.imp fun {file other} hne => ?_
    split <;> split <;> exact hne
  · have hnot : ∀ file ∈ files, ¬ file.1.same p = true := fun file hfile hsame =>
      hmem ⟨file, hfile, hsame⟩
    rw [put_of_not_mem hnot, Distinct, List.pairwise_append]
    refine ⟨h, List.pairwise_singleton _ _, ?_⟩
    intro file hfile other hother
    rw [List.mem_singleton.mp hother]
    exact hnot file hfile

theorem put_perm {files files' : List (Path × String)} (h : Distinct files)
    (hperm : files.Perm files') (p : Path) (content : String) :
    (put p content files).Perm (put p content files') := by
  by_cases hmem : ∃ file ∈ files, file.1.same p = true
  · have hmem' : ∃ file ∈ files', file.1.same p = true := by
      obtain ⟨file, hfile, hsame⟩ := hmem
      exact ⟨file, hperm.mem_iff.mp hfile, hsame⟩
    rw [put_of_mem h hmem, put_of_mem (h.perm hperm) hmem']
    exact hperm.map _
  · have hnot : ∀ file ∈ files, ¬ file.1.same p = true := fun file hfile hsame =>
      hmem ⟨file, hfile, hsame⟩
    have hnot' : ∀ file ∈ files', ¬ file.1.same p = true := fun file hfile =>
      hnot file (hperm.mem_iff.mpr hfile)
    rw [put_of_not_mem hnot, put_of_not_mem hnot']
    exact hperm.append_right _

/-! ### Any number of writes -/

theorem record_distinct {store : Memory} (h : Distinct store.files)
    (entries : List (Path × String)) : Distinct (store.record entries).files := by
  induction entries generalizing store with
  | nil => exact h
  | cons entry rest ih =>
    rw [record_cons]
    exact ih (put_distinct h entry.1 entry.2)

theorem record_perm {store store' : Memory} (h : Distinct store.files)
    (hperm : store.files.Perm store'.files) (entries : List (Path × String)) :
    (store.record entries).files.Perm (store'.record entries).files := by
  induction entries generalizing store store' with
  | nil => exact hperm
  | cons entry rest ih =>
    rw [record_cons store, record_cons store']
    exact ih (put_distinct h entry.1 entry.2) (put_perm h hperm entry.1 entry.2)

/-- Entries for different places may be written in any order. -/
theorem record_perm_of_distinct {store : Memory} (h : Distinct store.files)
    {entries entries' : List (Path × String)} (hentries : Distinct entries)
    (hperm : entries.Perm entries') :
    (store.record entries).files.Perm (store.record entries').files := by
  -- over the permutation, from any store: the first entry of a pair is written before the rest
  induction hperm generalizing store with
  | nil => exact List.Perm.refl _
  | cons entry _ ih =>
    rw [record_cons store, record_cons store]
    exact ih (put_distinct h entry.1 entry.2) (List.pairwise_cons.mp hentries).2
  | swap entry other rest =>
    obtain ⟨hother, -⟩ := List.pairwise_cons.mp hentries
    have hne : ¬ other.1.same entry.1 = true := hother entry List.mem_cons_self
    have hne' : ¬ entry.1.same other.1 = true := fun hsame => hne (Path.same_symm hsame)
    show ((store.record [other, entry]).record rest).files.Perm
      ((store.record [entry, other]).record rest).files
    refine record_perm ?_ (put_comm hne' entry.2 other.2 store.files) rest
    exact put_distinct (put_distinct h other.1 other.2) entry.1 entry.2
  | trans hfirst _ ih ih' =>
    exact (ih h hentries).trans (ih' h (hentries.perm hfirst))

/-- Entries for different places hold the same contents in any order. -/
theorem lastContent?_perm {entries entries' : List (Path × String)} (hentries : Distinct entries)
    (hperm : entries.Perm entries') (p : Path) :
    lastContent? entries p = lastContent? entries' p := by
  have hfiltered := hperm.filter fun entry => entry.1.same p
  have hdistinct : Distinct (entries.filter fun entry => entry.1.same p) :=
    hentries.sublist List.filter_sublist
  rw [lastContent?, lastContent?]
  cases hall : entries.filter fun entry => entry.1.same p with
  | nil =>
    rw [hall] at hfiltered
    rw [hfiltered.nil_eq]
  | cons entry rest =>
    cases rest with
    | nil =>
      rw [hall] at hfiltered
      rw [List.singleton_perm.mp hfiltered]
    | cons other rest =>
      -- both entries would have the place of `p`
      have hplace (found : Path × String) (hfound : found ∈ entry :: other :: rest) :
          found.1.same p = true := by
        rw [← hall] at hfound
        exact (List.mem_filter.mp hfound).2
      have hentry := hplace entry List.mem_cons_self
      have hother := hplace other (List.mem_cons_of_mem _ List.mem_cons_self)
      rw [hall] at hdistinct
      exact absurd (Path.same_trans hentry (Path.same_symm hother))
        ((List.pairwise_cons.mp hdistinct).1 other List.mem_cons_self)

end Memory

namespace Generation

variable (config : RunConfig)

/-- Two schedules write the same registrations. -/
theorem registrationEntries_perm (a b : Schedule) (store : Memory) :
    (registrationEntries config a store).Perm (registrationEntries config b store) := by
  have hperm : (a.arrange (openServices config store)).Perm
      (b.arrange (openServices config store)) :=
    (a.arrange_perm _).trans (b.arrange_perm _).symm
  rw [registrationEntries, registrationEntries]
  exact (hperm.filter _).map _

/-- Tasks for different places write to different places. -/
theorem registrationEntries_distinct (schedule : Schedule) {store : Memory}
    (h : (tasksOn config store).Pairwise fun t u => ¬ t.path.same u.path = true) :
    Memory.Distinct (registrationEntries config schedule store) := by
  rw [tasksOn_eq, List.pairwise_map] at h
  dsimp only at h
  have harranged := ((schedule.arrange_perm (openServices config store)).pairwise_iff
    fun {s t} hne hsame => hne (Path.same_symm hsame)).mpr h
  rw [registrationEntries, Memory.Distinct, List.pairwise_map]
  simp only [registrationEntry_fst]
  exact harranged.sublist List.filter_sublist

/-- Services with different names have tasks for different places. -/
theorem tasksOn_pairwise (store : Memory) (hnames : ∀ t ∈ config.services, '/' ∉ t.name.toList)
    (hdistinct : (config.services.map (·.name)).Nodup) :
    (tasksOn config store).Pairwise fun t u => ¬ t.path.same u.path = true := by
  have hopen : (openServices config store).Pairwise fun t u => t.name ≠ u.name :=
    (List.pairwise_map.mp hdistinct).sublist List.filter_sublist
  rw [tasksOn_eq, List.pairwise_map]
  dsimp only
  refine hopen.imp_of_mem fun {t u} ht hu hne hsame => hne ?_
  exact config.registrationFile_inj (hnames t (List.mem_filter.mp ht).1)
    (hnames u (List.mem_filter.mp hu).1) (Path.same_iff.mp hsame)

/-- Two runs on one store end in the same report, and leave the same store if no two tasks share the
place of their registration. -/
theorem run_schedules (a b : Schedule) (store : Memory) :
    let left := run Memory.filesystem a config store
    let right := run Memory.filesystem b config store
    (∃ report, left.1.result = .ok report ∧ right.1.result = .ok report) ∧
    ((tasksOn config store).Pairwise (fun t u => ¬ t.path.same u.path = true) →
      (∀ p, left.2.read? p = right.2.read? p) ∧
      left.2.directories = right.2.directories ∧
      left.2.readOnly = right.2.readOnly ∧
      (Memory.Distinct store.files → left.2.files.Perm right.2.files)) := by
  obtain ⟨hleft, hleftStore⟩ := run_memory config a store
  obtain ⟨hright, hrightStore⟩ := run_memory config b store
  refine ⟨⟨_, hleft, hright⟩, fun hplaces => ?_⟩
  have hperm := registrationEntries_perm config a b store
  have hdistinct := registrationEntries_distinct config a hplaces
  rw [hleftStore, hrightStore, ← Memory.record_record, ← Memory.record_record]
  refine ⟨fun p => ?_, rfl, rfl, fun hfiles => ?_⟩
  · rw [Memory.read?_record, Memory.read?_record _ (registrationEntries config b store),
      Memory.lastContent?_perm hdistinct hperm]
  · have hprepared : Memory.Distinct
        ((withDirectories config store).record (typesEntries config store)).files := by
      refine Memory.record_distinct ?_ (typesEntries config store)
      rw [withDirectories, Memory.createAll_files]
      exact hfiles
    exact Memory.record_perm_of_distinct hprepared hdistinct hperm

theorem cache_ne_empty : "cache" ≠ "" := by decide

theorem queue_ne_empty : "queue" ≠ "" := by decide

/-- Services of different names, with a registration that is read-only. -/
def separateNames : RunConfig where
  output := ⟨"out"⟩
  services :=
    [⟨"cache", "ICache", cache_ne_empty⟩, ⟨"queue", "IQueue", queue_ne_empty⟩,
      ⟨"mail", "IMail", by decide⟩]
  types := {}
  register := {}

theorem run_schedules_separateNames :
    let store : Memory := ⟨[(⟨"notes"⟩, "kept")], [], [⟨"out/queue/registerQueue.ts"⟩]⟩
    (run Memory.filesystem .inOrder separateNames store).2.files.Perm
      (run Memory.filesystem .reversed separateNames store).2.files := by
  intro store
  have hplaces : (tasksOn separateNames store).Pairwise
      fun t u => ¬ t.path.same u.path = true := by
    rw [tasksOn_eq]
    decide +kernel
  obtain ⟨-, -, -, hfiles⟩ := (run_schedules separateNames .inOrder .reversed store).2 hplaces
  exact hfiles (List.pairwise_singleton _ _)

end Generation

end ServiceScaffold
