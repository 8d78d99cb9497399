/-
Tasks carried out in any order, and put back in their own.

However a schedule orders the tasks, each is carried out once, and sorting what came of them by
number pairs every task with its own outcome.  What a report says of the second phase is read off
those pairs alone.

* `CarriedOut` — each task was carried out once.
* `CarriedOut.inTaskOrder_perm`, `CarriedOut.inTaskOrder_task` — nothing is lost or mixed up.
* `carryOut_mirrors` — the second phase on any filesystem, with the calls it makes.
-/
import Mathlib.Data.List.Basic
import Mathlib.Data.Option.Basic
import ServiceScaffold.Document.Text
import ServiceScaffold.Filesystem.Recording
import ServiceScaffold.Generation.Run

namespace ServiceScaffold.Generation

/-! ### Looking up by number -/

/-- Entries with different keys are all found again, each under its own key. -/
theorem filterMap_find?_keys {α : Type} {l : List α} {key : α → Nat} (h : (l.map key).Nodup) :
    (l.map key).filterMap (fun k => l.find? fun a => key a == k) = l := by
  induction l with
  | nil => rfl
  | cons a rest ih =>
    obtain ⟨hnew, hrest⟩ := List.nodup_cons.mp (List.map_cons ▸ h)
    have hfirst : (a :: rest).find? (fun b => key b == key a) = some a :=
      List.find?_cons_of_pos (by simp)
    simp only [List.map_cons, List.filterMap_cons, hfirst]
    congr 1
    refine Eq.trans (List.filterMap_congr fun k hk => ?_) (ih hrest)
    have hne : key a ≠ k := fun heq => hnew (heq ▸ hk)
    rw [List.find?_cons_of_neg (by simpa using hne)]

/-- Each of `tasks` was carried out once. -/
structure CarriedOut (tasks : List Task) (done : List Done) : Prop where
  numbers : (done.map (·.number)).Perm (List.range tasks.length)
  task : ∀ d ∈ done, tasks[d.number]? = some d.task

namespace CarriedOut

variable {tasks : List Task} {done : List Done}

theorem inTaskOrder_perm (h : CarriedOut tasks done) :
    (inTaskOrder tasks.length done).Perm done := by
  have hnodup : (done.map (·.number)).Nodup := h.numbers.nodup_iff.mpr List.nodup_range
  have hsorted := h.numbers.symm.filterMap fun number => done.find? fun d => d.number == number
  exact hsorted.trans (List.Perm.of_eq (filterMap_find?_keys hnodup))

theorem inTaskOrder_number (h : CarriedOut tasks done) :
    (inTaskOrder tasks.length done).map (·.number) = List.range tasks.length := by
  rw [inTaskOrder, List.map_filterMap]
  refine Eq.trans (List.filterMap_congr fun number hnumber => ?_) List.filterMap_some
  obtain ⟨d, hd, hdnumber⟩ := List.mem_map.mp (h.numbers.mem_iff.mpr hnumber)
  have hisSome : (done.find? fun e => e.number == number).isSome := by
    rw [List.find?_isSome]
    exact ⟨d, hd, by simpa using hdnumber⟩
  obtain ⟨e, he⟩ := Option.isSome_iff_exists.mp hisSome
  have hfound : e.number = number := by simpa using List.find?_some he
  rw [he, Option.map_some, hfound]

theorem inTaskOrder_task (h : CarriedOut tasks done) :
    (inTaskOrder tasks.length done).map (·.task) = tasks := by
  apply List.map_injective_iff.mpr (Option.some_injective Task)
  have htask : ((inTaskOrder tasks.length done).map (·.task)).map some =
      (inTaskOrder tasks.length done).map fun d => tasks[d.number]? := by
    rw [List.map_map]
    refine List.map_congr_left fun d hd => ?_
    exact (h.task d (h.inTaskOrder_perm.mem_iff.mp hd)).symm
  calc ((inTaskOrder tasks.length done).map (·.task)).map some
      = ((inTaskOrder tasks.length done).map (·.number)).map fun k => tasks[k]? := by
        rw [htask, List.map_map]; rfl
    _ = tasks.map some := by
        rw [h.inTaskOrder_number]
        apply List.ext_getElem
        · simp
        · intro i hi hi'
          simp at hi'
          simp [hi']

end CarriedOut

/-! ### The second phase -/

section Phase

variable {σ : Type} (fs : Filesystem (StateM σ)) (options : RegisterOptions)

/-- The call that carried a task out. -/
def Done.call (d : Done) : Call :=
  .writeFile d.task.path (Document.registrationText d.task.service options) d.outcome

theorem writeRegistration_eq (path : Path) (service : Service) :
    writeRegistration fs path service options =
      fs.writeFile path (Document.registrationText service options) := by
  have hdocument := Document.registration_eq service options
  unfold writeRegistration
  rw [hdocument]

/-- The second phase makes one call for each number that is a task's. -/
theorem carryOut_mirrors (tasks : List Task) (order : List Nat) (s : σ) :
    ∃ (done : List Done) (s' : σ),
      done.map (·.number) = order.filter (· < tasks.length) ∧
      (∀ d ∈ done, tasks[d.number]? = some d.task) ∧
      Filesystem.Mirrors (carryOut fs options tasks order)
        (carryOut fs.recorded options tasks order) s done s' (done.map (Done.call options)) := by
  induction order generalizing s with
  | nil => exact ⟨[], s, rfl, by simp, .pure s []⟩
  | cons number rest ih =>
    unfold carryOut
    cases htask : tasks[number]? with
    | none =>
      -- a number that is no task's makes no call
      have hout : ¬ number < tasks.length := by simpa using htask
      obtain ⟨done, s', hnumbers, htasks, hmirrors⟩ := ih s
      exact ⟨done, s', by simpa [hout] using hnumbers, htasks, hmirrors⟩
    | some task =>
      have hin : number < tasks.length := (List.getElem?_eq_some_iff.mp htask).1
      obtain ⟨answer, s₁, hwrite⟩ := fs.writeFile_mirrors task.path
        (Document.registrationText task.service options) s
      obtain ⟨done, s₂, hnumbers, htasks, hmirrors⟩ := ih s₁
      refine ⟨⟨number, task, answer⟩ :: done, s₂, by simp [hin, hnumbers], ?_, ?_⟩
      · intro d hd
        rcases List.mem_cons.mp hd with rfl | hd
        · exact htask
        · exact htasks d hd
      · simp only [writeRegistration_eq]
        refine hwrite.bind ?_
        simpa using hmirrors.bind (f := fun others => pure (_ :: others))
          (g := fun others => pure (_ :: others)) (.pure s₂ _)

/-- The numbers of a schedule are all below the count. -/
theorem filter_order (schedule : Schedule) (count : Nat) :
    (schedule.order count).filter (· < count) = schedule.order count := by
  refine List.filter_eq_self.mpr fun number hnumber => ?_
  simpa using (schedule.order_perm count).mem_iff.mp hnumber

/-- The tasks of a schedule are each carried out once. -/
theorem carriedOut_of_numbers {tasks : List Task} {done : List Done} (schedule : Schedule)
    (hnumbers : done.map (·.number) =
      (schedule.order tasks.length).filter (· < tasks.length))
    (htasks : ∀ d ∈ done, tasks[d.number]? = some d.task) : CarriedOut tasks done where
  task := htasks
  numbers := by
    rw [hnumbers, filter_order]
    exact schedule.order_perm tasks.length

theorem carriedOut_carryOut (schedule : Schedule) (tasks : List Task) (s : σ) :
    CarriedOut tasks (carryOut fs options tasks (schedule.order tasks.length) s).1 := by
  obtain ⟨done, s', hnumbers, htasks, hmirrors⟩ :=
    carryOut_mirrors fs options tasks (schedule.order tasks.length) s
  rw [hmirrors.plain]
  exact carriedOut_of_numbers schedule hnumbers htasks

end Phase

end ServiceScaffold.Generation
