/-
A store in memory and its history.

Every call on a store is answered from the calls before it: directories can always be created, and a
write is accepted unless a read-only place is at or above its path or its parent was never created.
Accepted writes are what is read and listed afterwards, created directories are what else is there,
and a refused write is as good as never made.

* `Change.writes` — the accepted writes of a history.
* `Memory.ofHistory` — the store that a history describes; `Memory.replay_empty`.
* `Memory.Explains` — what a history says about a store; `Memory.explains_replay`.
-/
import ServiceScaffold.Proofs.Memory.Schedules
import ServiceScaffold.Proofs.Path.Order
import ServiceScaffold.Proofs.Path.Parent

namespace ServiceScaffold

/-- A call that can change a store. -/
inductive Change where
  | createDirectories (p : Path)
  | writeFile (p : Path) (content : String)
  | makeReadOnly (p : Path)
deriving DecidableEq, Repr

namespace Change

/-! ### What a history says -/

/-- The paths whose directories were created. -/
def createdPaths (past : List Change) : List Path :=
  past.filterMap fun
    | .createDirectories p => some p
    | .writeFile .. | .makeReadOnly _ => none

/-- The paths that were made read-only. -/
def lockedPaths (past : List Change) : List Path :=
  past.filterMap fun
    | .makeReadOnly p => some p
    | .createDirectories _ | .writeFile .. => none

/-- Whether `d` was created, alone or above another path; the empty path never is. -/
def IsCreated (past : List Change) (d : List Component) : Prop :=
  d ≠ [] ∧ ∃ p ∈ createdPaths past, d <+: p.components

/-- Whether a path that was made read-only is `p` or lies above it. -/
def IsLocked (past : List Change) (p : Path) : Prop :=
  ∃ place ∈ lockedPaths past, place.components <+: p.components

/-- Whether the parent of `p` was created, if it has one and that is not the empty path. -/
def HasParent (past : List Change) (p : Path) : Prop :=
  ∀ parent ∈ p.parent?, parent.text ≠ "" → IsCreated past parent.components

instance (past : List Change) (d : List Component) : Decidable (IsCreated past d) :=
  inferInstanceAs (Decidable (_ ∧ _))

instance (past : List Change) (p : Path) : Decidable (IsLocked past p) :=
  inferInstanceAs (Decidable (∃ place ∈ lockedPaths past, _))

instance (past : List Change) (p : Path) : Decidable (HasParent past p) :=
  inferInstanceAs (Decidable (∀ parent ∈ p.parent?, _))

/-- The answer to a write at `p`. -/
def answer (past : List Change) (p : Path) : Except Error Unit :=
  if IsLocked past p then .error (.filesystem p "Read-only location")
  else if HasParent past p then .ok ()
  else .error (.filesystem p "Parent directory does not exist")

/-- What a change writes, if it is a write that is accepted. -/
def written (past : List Change) : Change → List (Path × String)
  | .writeFile p content => if answer past p = .ok () then [(p, content)] else []
  | .createDirectories _ | .makeReadOnly _ => []

/-- The accepted writes among changes that follow `past`, each judged by all that came before. -/
def writesAfter (past : List Change) : List Change → List (Path × String)
  | [] => []
  | change :: later => written past change ++ writesAfter (past ++ [change]) later

/-- The accepted writes of a history, in order. -/
def writes (history : List Change) : List (Path × String) :=
  writesAfter [] history

end Change

namespace Memory

open Change

/-! ### Stores and histories -/

/-- Makes a change, with the answer to the call. -/
def make (store : Memory) : Change → Except Error Unit × Memory
  | .createDirectories p => filesystem.createDirectories p store
  | .writeFile p content => filesystem.writeFile p content store
  | .makeReadOnly p => (.ok (), store.makeReadOnly p)

/-- The store after changes, one after another. -/
def replay (store : Memory) (changes : List Change) : Memory :=
  changes.foldl (fun store change => (store.make change).2) store

/-- The writes among changes that a store accepts, in order. -/
def accepted (store : Memory) : List Change → List (Path × String)
  | [] => []
  | .writeFile p content :: later =>
    let made := store.make (.writeFile p content)
    if made.1 = .ok () then (p, content) :: made.2.accepted later else made.2.accepted later
  | change :: later => (store.make change).2.accepted later

/-- The store that a history describes. -/
def ofHistory (history : List Change) : Memory where
  files := (empty.record (writes history)).files
  directories := (empty.createAll (createdPaths history)).directories
  readOnly := lockedPaths history

theorem mem_ofHistory_directories {history : List Change} {d : List Component} :
    d ∈ (ofHistory history).directories ↔ IsCreated history d := by
  rw [ofHistory, mem_createAll, IsCreated]
  simp [empty]

theorem isReadOnly_ofHistory (history : List Change) (p : Path) :
    (ofHistory history).isReadOnly p = true ↔ IsLocked history p := by
  rw [isReadOnly, List.any_eq_true, IsLocked]
  simp only [Path.isUnder_iff]
  rfl

/-! ### Answers -/

theorem mem_requiredParent {p : Path} {d : List Component} :
    d ∈ requiredParent p ↔ d ≠ [] ∧ p.components.dropLast = d := by
  have hdrop : p.components.dropLast = p.components.reverse.tail.reverse := by
    rw [List.tail_reverse, List.reverse_reverse]
  rw [requiredParent, hdrop]
  have hnone : d ∈ (none : Option (List Component)) ↔ d ≠ [] ∧ [] = d := by
    constructor
    · intro hmem
      exact absurd hmem (by simp)
    · rintro ⟨hne, heq⟩
      exact absurd heq.symm hne
  rcases p.components.reverse with _ | ⟨last, _ | ⟨c, above⟩⟩
  · exact hnone
  · exact hnone
  · rw [Option.mem_some_iff, List.tail_cons]
    constructor
    · rintro rfl
      exact ⟨by simp, rfl⟩
    · exact And.right

/-- The directory that a write needs is the parent of its path. -/
theorem forall_mem_requiredParent (history : List Change) (p : Path) :
    (∀ d ∈ requiredParent p, d ∈ (ofHistory history).directories) ↔ HasParent history p := by
  simp only [mem_requiredParent, ← Path.exists_parent?_iff, mem_ofHistory_directories]
  constructor
  · intro h parent hparent htext
    exact h _ ⟨parent, hparent, htext, rfl⟩
  · rintro h _ ⟨parent, hparent, htext, rfl⟩
    exact h parent hparent htext

theorem answer_ofHistory (history : List Change) (p : Path) :
    (ofHistory history).answer p = Change.answer history p := by
  have hparent := forall_mem_requiredParent history p
  rw [answer, Change.answer]
  simp only [isReadOnly_ofHistory, ← hparent]
  cases requiredParent p with
  | none => simp
  | some d => simp

theorem make_writeFile_ofHistory (history : List Change) (p : Path) (content : String) :
    ((ofHistory history).make (.writeFile p content)).1 = Change.answer history p := by
  rw [make, writeFile_eq, answer_ofHistory]

theorem accepts_ofHistory (history : List Change) (p : Path) :
    (ofHistory history).accepts p = true ↔ Change.answer history p = .ok () := by
  rw [accepts_iff, answer_ofHistory]

/-- A refused change leaves the store. -/
theorem make_refused {store : Memory} {change : Change} (h : (store.make change).1 ≠ .ok ()) :
    (store.make change).2 = store := by
  cases change with
  | createDirectories p => exact absurd rfl h
  | writeFile p content =>
    rw [make, writeFile_eq] at h ⊢
    exact if_neg fun haccepts => h (accepts_iff.mp haccepts)
  | makeReadOnly p => exact absurd rfl h

/-! ### One more change -/

theorem writesAfter_append (past history later : List Change) :
    writesAfter past (history ++ later) =
      writesAfter past history ++ writesAfter (past ++ history) later := by
  induction history generalizing past with
  | nil => rw [List.append_nil]; rfl
  | cons change rest ih =>
    rw [List.cons_append, writesAfter, writesAfter, ih, List.append_assoc, List.append_assoc]
    rfl

theorem writes_concat (history : List Change) (change : Change) :
    writes (history ++ [change]) = writes history ++ written history change := by
  rw [writes, writesAfter_append, writesAfter, writesAfter, List.append_nil]
  rfl

theorem ofHistory_concat (history : List Change) (change : Change) :
    ofHistory (history ++ [change]) =
      { files := ((ofHistory history).record (written history change)).files
        directories := ((empty.createAll (createdPaths history)).createAll
          (createdPaths [change])).directories
        readOnly := lockedPaths history ++ lockedPaths [change] } := by
  have hcreated : createdPaths (history ++ [change]) =
      createdPaths history ++ createdPaths [change] := List.filterMap_append
  have hlocked : lockedPaths (history ++ [change]) =
      lockedPaths history ++ lockedPaths [change] := List.filterMap_append
  rw [ofHistory, writes_concat, hcreated, hlocked, createAll_append, ← record_record]
  rfl

/-- A change to the store that a history describes makes the store of one change more. -/
theorem make_ofHistory (history : List Change) (change : Change) :
    ((ofHistory history).make change).2 = ofHistory (history ++ [change]) := by
  rw [ofHistory_concat]
  cases change with
  | createDirectories p =>
    have hlocked : lockedPaths history ++ lockedPaths [.createDirectories p] =
        lockedPaths history := List.append_nil _
    rw [hlocked]
    rfl
  | writeFile p content =>
    have hlocked : lockedPaths history ++ lockedPaths [.writeFile p content] =
        lockedPaths history := List.append_nil _
    rw [make, writeFile_eq, hlocked, written]
    by_cases hok : Change.answer history p = .ok ()
    · rw [if_pos ((accepts_ofHistory history p).mpr hok), if_pos hok]
      rfl
    · rw [if_neg (mt (accepts_ofHistory history p).mp hok), if_neg hok]
      rfl
  | makeReadOnly p => rfl

/-- A run of changes makes the store that its history describes. -/
theorem replay_ofHistory (past later : List Change) :
    (ofHistory past).replay later = ofHistory (past ++ later) := by
  induction later generalizing past with
  | nil => rw [List.append_nil]; rfl
  | cons change rest ih =>
    have hstep : (ofHistory past).replay (change :: rest) =
        ((ofHistory past).make change).2.replay rest := rfl
    rw [hstep, make_ofHistory, ih, List.append_assoc, List.singleton_append]

theorem replay_empty (history : List Change) : empty.replay history = ofHistory history :=
  replay_ofHistory [] history

theorem accepted_ofHistory (past later : List Change) :
    (ofHistory past).accepted later = writesAfter past later := by
  induction later generalizing past with
  | nil => rfl
  | cons change rest ih =>
    have hrest := ih (past ++ [change])
    rw [← make_ofHistory] at hrest
    cases change with
    | writeFile p content =>
      rw [accepted, make_writeFile_ofHistory, hrest, writesAfter, written]
      split <;> rfl
    | createDirectories p => exact hrest
    | makeReadOnly p => exact hrest

/-! ### What is seen -/

theorem lastContent?_isSome {entries : List (Path × String)} {p : Path} :
    (lastContent? entries p).isSome = true ↔ ∃ entry ∈ entries, entry.1.same p = true := by
  rw [lastContent?, Option.isSome_map, List.getLast?_isSome, ne_eq, List.filter_eq_nil_iff]
  simp

theorem read?_ofHistory (history : List Change) (p : Path) :
    (ofHistory history).read? p = lastContent? (writes history) p := by
  have hread : (ofHistory history).read? p = (empty.record (writes history)).read? p := rfl
  have hempty : empty.read? p = none := rfl
  rw [hread, read?_record, hempty, Option.or_none]

theorem contains_ofHistory (history : List Change) (p : Path) :
    (ofHistory history).contains p = true ↔
      (∃ entry ∈ writes history, entry.1.same p = true) ∨ IsCreated history p.components := by
  rw [contains, Bool.or_eq_true, decide_eq_true_iff, read?_ofHistory, lastContent?_isSome,
    mem_ofHistory_directories]

/-! ### What is listed -/

theorem mem_put {p q : Path} {content : String} {files : List (Path × String)}
    (h : q ∈ (put p content files).map (·.1)) : q = p ∨ q ∈ files.map (·.1) := by
  induction files with
  | nil => exact .inl (List.mem_singleton.mp h)
  | cons file rest ih =>
    rw [put] at h
    split at h
    · exact .inr h
    · rcases List.mem_cons.mp h with rfl | h
      · exact .inr List.mem_cons_self
      · exact (ih h).imp_right (List.mem_cons_of_mem _)

/-- A file is listed by a spelling that it was written by. -/
theorem mem_record {store : Memory} {entries : List (Path × String)} {q : Path}
    (h : q ∈ (store.record entries).files.map (·.1)) :
    q ∈ store.files.map (·.1) ∨ q ∈ entries.map (·.1) := by
  induction entries generalizing store with
  | nil => exact .inl h
  | cons entry rest ih =>
    rw [record_cons] at h
    rcases ih h with hfirst | hrest
    · rcases mem_put hfirst with rfl | hstore
      · exact .inr List.mem_cons_self
      · exact .inl hstore
    · exact .inr (List.mem_cons_of_mem _ hrest)

/-- Of paths of different places, one is at a place where there is one. -/
theorem countP_same {paths : List Path} (hdistinct : paths.Pairwise fun p q => ¬ p.same q = true)
    {p q : Path} (hmem : q ∈ paths) (hsame : q.same p = true) : paths.countP (·.same p) = 1 := by
  obtain ⟨front, back, rfl⟩ := List.append_of_mem hmem
  obtain ⟨-, hback, hfront⟩ := List.pairwise_append.mp hdistinct
  have hnone {r : Path} (hr : ¬ r.same q = true) : ¬ r.same p = true := fun hrp =>
    hr (Path.same_trans hrp (Path.same_symm hsame))
  have hfront : front.countP (·.same p) = 0 := by
    refine List.countP_eq_zero.mpr fun r hr => hnone ?_
    exact hfront r hr q List.mem_cons_self
  have hback : back.countP (·.same p) = 0 := by
    refine List.countP_eq_zero.mpr fun r hr => hnone fun hrq => ?_
    exact (List.pairwise_cons.mp hback).1 r hr (Path.same_symm hrq)
  have hhere : (q :: back).countP (·.same p) = back.countP (·.same p) + 1 :=
    List.countP_cons_of_pos hsame
  rw [List.countP_append, hfront, hhere, hback]

theorem distinct_ofHistory (history : List Change) : Distinct (ofHistory history).files := by
  have hnone : Distinct empty.files := List.Pairwise.nil
  exact record_distinct hnone (writes history)

theorem pairwise_list_ofHistory (history : List Change) :
    (ofHistory history).list.Pairwise fun p q => p.sortKey < q.sortKey :=
  Path.pairwise_mergeSort (List.pairwise_map.mpr (distinct_ofHistory history))

theorem mem_list_ofHistory {history : List Change} {p : Path} (h : p ∈ (ofHistory history).list) :
    ∃ content, (p, content) ∈ writes history := by
  rw [list, List.mem_mergeSort] at h
  rcases mem_record h with hempty | hwritten
  · exact absurd hempty List.not_mem_nil
  · obtain ⟨⟨_, content⟩, hentry, rfl⟩ := List.mem_map.mp hwritten
    exact ⟨content, hentry⟩

theorem countP_list_ofHistory {history : List Change} {entry : Path × String}
    (h : entry ∈ writes history) : (ofHistory history).list.countP (·.same entry.1) = 1 := by
  have hread : ((ofHistory history).read? entry.1).isSome = true := by
    rw [read?_ofHistory, lastContent?_isSome]
    exact ⟨entry, h, Path.same_iff.mpr rfl⟩
  rw [read?, Option.isSome_map, List.find?_isSome] at hread
  obtain ⟨file, hfile, hsame⟩ := hread
  rw [list, (List.mergeSort_perm _ _).countP_eq]
  exact countP_same (List.pairwise_map.mpr (distinct_ofHistory history)) (List.mem_map_of_mem hfile)
    hsame

/-! ### Every history -/

/-- What a history says about the store that it leads to. -/
structure Explains (history : List Change) (store : Memory) : Prop where
  /-- Directories can always be created. -/
  createDirectories : ∀ p, (store.make (.createDirectories p)).1 = .ok ()
  /-- A write is answered by what was made read-only and by the directories created. -/
  writeFile : ∀ p content, (store.make (.writeFile p content)).1 =
    if IsLocked history p then .error (.filesystem p "Read-only location")
    else if HasParent history p then .ok ()
    else .error (.filesystem p "Parent directory does not exist")
  /-- A refused call is as good as never made, whatever is called later. -/
  refused : ∀ change later, (store.make change).1 ≠ .ok () →
    store.replay (change :: later) = store.replay later
  /-- The last accepted write at a place is read. -/
  read? : ∀ p, store.read? p = lastContent? (empty.accepted history) p
  /-- Files that were written and directories that were created are there. -/
  contains : ∀ p, store.contains p = true ↔
    (∃ entry ∈ empty.accepted history, entry.1.same p = true) ∨ IsCreated history p.components
  /-- The list of files strictly ascends. -/
  ascending : store.list.Pairwise fun p q => p.sortKey < q.sortKey
  /-- What is listed was written. -/
  listed_accepted : ∀ p ∈ store.list, ∃ content, (p, content) ∈ empty.accepted history
  /-- What was written is listed once. -/
  accepted_listed : ∀ entry ∈ empty.accepted history,
    store.list.countP (·.same entry.1) = 1

/-- A store in memory is determined by its history. -/
theorem explains_replay (history : List Change) : Explains history (empty.replay history) := by
  have haccepted : empty.accepted history = writes history := accepted_ofHistory [] history
  rw [replay_empty]
  constructor
  case createDirectories => exact fun p => rfl
  case writeFile => exact fun p content => make_writeFile_ofHistory history p content
  case refused =>
    intro change later hrefused
    rw [replay, List.foldl_cons, make_refused hrefused]
    rfl
  case read? => exact fun p => haccepted ▸ read?_ofHistory history p
  case contains => exact fun p => haccepted ▸ contains_ofHistory history p
  case ascending => exact pairwise_list_ofHistory history
  case listed_accepted => exact fun p hp => haccepted ▸ mem_list_ofHistory hp
  case accepted_listed =>
    rw [haccepted]
    exact fun entry hentry => countP_list_ofHistory hentry

end Memory

end ServiceScaffold
