/-
When a store in memory is a tree.

Whatever was called on a store, the parents of its files and directories are directories.  But no
call asks what else is at its path: a directory can be created at a file or below one, and a file
can be written in the place of a directory, all of which a disk refuses.  So files and directories
form one tree exactly as long as no created path is at or below a written one, and a file at the
empty path, which is above everything, is the only one.

* `Memory.HasParents` — nothing is without its parent; `Memory.hasParents_ofHistory`.
* `Memory.IsTree` — no file is at or above anything else, besides.
* `Memory.KeepsApart` — the histories that lead to a tree; `Memory.isTree_replay_iff`.
* `Memory.not_isTree_replay_sharedPlace` — a history that leads to none.
-/
import ServiceScaffold.Host
import ServiceScaffold.Proofs.Memory.History

namespace ServiceScaffold

namespace Change

/-! ### Parents that were created -/

/-- What is above a created directory was created with it. -/
theorem IsCreated.above {history : List Change} {d above : List Component}
    (h : IsCreated history d) (hne : above ≠ []) (habove : above <+: d) :
    IsCreated history above := by
  obtain ⟨-, p, hp, hd⟩ := h
  exact ⟨hne, p, hp, habove.trans hd⟩

theorem IsCreated.append {past : List Change} {d : List Component} (h : IsCreated past d)
    (later : List Change) : IsCreated (past ++ later) d := by
  obtain ⟨hne, p, hp, hd⟩ := h
  have hmem : p ∈ createdPaths (past ++ later) := by
    rw [createdPaths, List.filterMap_append]
    exact List.mem_append_left _ hp
  exact ⟨hne, p, hmem, hd⟩

theorem HasParent.append {past : List Change} {p : Path} (h : HasParent past p)
    (later : List Change) : HasParent (past ++ later) p :=
  fun parent hparent htext => (h parent hparent htext).append later

theorem hasParent_of_answer {past : List Change} {p : Path} (h : answer past p = .ok ()) :
    HasParent past p := by
  by_contra hparent
  rw [answer, if_neg hparent] at h
  split at h <;> exact absurd h (by simp)

theorem hasParent_of_mem_written {past : List Change} {change : Change} {entry : Path × String}
    (h : entry ∈ written past change) : HasParent past entry.1 := by
  cases change with
  | writeFile p content =>
    rw [written] at h
    split at h
    · rename_i hok
      rw [List.mem_singleton.mp h]
      exact hasParent_of_answer hok
    · exact absurd h List.not_mem_nil
  | createDirectories p => exact absurd h List.not_mem_nil
  | makeReadOnly p => exact absurd h List.not_mem_nil

/-- A parent that was there when its file was written stays. -/
theorem hasParent_of_mem_writesAfter {past later : List Change} {entry : Path × String}
    (h : entry ∈ writesAfter past later) : HasParent (past ++ later) entry.1 := by
  induction later generalizing past with
  | nil => exact absurd h List.not_mem_nil
  | cons change rest ih =>
    rw [writesAfter, List.mem_append] at h
    rcases h with hnow | hlater
    · exact (hasParent_of_mem_written hnow).append (change :: rest)
    · have hparent := ih hlater
      rwa [List.append_assoc, List.singleton_append] at hparent

/-- The directory above a written file was created, if there is one. -/
theorem isCreated_dropLast {history : List Change} {entry : Path × String}
    (h : entry ∈ writes history) (hne : entry.1.components.dropLast ≠ []) :
    IsCreated history entry.1.components.dropLast := by
  obtain ⟨parent, hparent, htext, hcomponents⟩ := Path.exists_parent?_iff.mpr ⟨hne, rfl⟩
  rw [← hcomponents]
  exact hasParent_of_mem_writesAfter h parent hparent htext

/-- A file below a path is in a directory that was created at that path or below it. -/
theorem exists_isCreated {history : List Change} {entry : Path × String}
    (h : entry ∈ writes history) {above : List Component} (hne : above ≠ [])
    (habove : above <+: entry.1.components) (hproper : above ≠ entry.1.components) :
    ∃ d, above <+: d ∧ IsCreated history d := by
  obtain ⟨rest, hrest⟩ := habove
  have hrestne : rest ≠ [] := by
    rintro rfl
    exact hproper (by rw [← hrest, List.append_nil])
  have hdrop : entry.1.components.dropLast = above ++ rest.dropLast := by
    rw [← hrest, List.dropLast_append_of_ne_nil hrestne]
  refine ⟨entry.1.components.dropLast, ⟨_, hdrop.symm⟩, isCreated_dropLast h ?_⟩
  rw [hdrop]
  exact List.append_ne_nil_of_left_ne_nil hne _

end Change

namespace Memory

open Change

/-! ### Trees -/

/-- A store in which nothing is without its parent, unless that is the empty path. -/
structure HasParents (store : Memory) : Prop where
  /-- The parent of a directory is a directory. -/
  directory : ∀ d ∈ store.directories, ∀ parent ∈ Path.parentComponents? d, parent ≠ [] →
    parent ∈ store.directories
  /-- The parent of a file is a directory. -/
  file : ∀ p, (store.read? p).isSome = true → ∀ parent ∈ p.parent?, parent.text ≠ "" →
    parent.components ∈ store.directories

/-- A store whose files and directories form one tree, with the files at its ends. -/
structure IsTree (store : Memory) : Prop extends HasParents store where
  /-- No path is both a file and a directory. -/
  not_directory : ∀ p, (store.read? p).isSome = true → p.components ∉ store.directories
  /-- No file is above a directory. -/
  not_above_directory : ∀ p, (store.read? p).isSome = true → ∀ d ∈ store.directories,
    p.components <+: d → p.components = d
  /-- No file is above another file. -/
  not_above_file : ∀ p q, (store.read? p).isSome = true → (store.read? q).isSome = true →
    q.isUnder p = true → q.same p = true

/-- A history that keeps files and directories apart. -/
structure KeepsApart (history : List Change) : Prop where
  /-- No path was created at a written one or below it. -/
  created : ∀ entry ∈ empty.accepted history, ∀ p ∈ createdPaths history, p.text ≠ "" →
    p.isUnder entry.1 = false
  /-- If the empty path was written, nothing else was. -/
  nameless : ∀ entry ∈ empty.accepted history, entry.1.text = "" →
    ∀ other ∈ empty.accepted history, other.1.text = ""

theorem accepted_empty (history : List Change) : empty.accepted history = writes history :=
  accepted_ofHistory [] history

theorem isFile_ofHistory {history : List Change} {p : Path} :
    ((ofHistory history).read? p).isSome = true ↔
      ∃ entry ∈ empty.accepted history, entry.1.components = p.components := by
  rw [read?_ofHistory, lastContent?_isSome, accepted_empty]
  simp only [Path.same_iff]

theorem hasParents_ofHistory (history : List Change) : HasParents (ofHistory history) := by
  constructor
  case directory =>
    intro d hd parent hparent hne
    rw [mem_ofHistory_directories] at hd ⊢
    rw [Path.parentComponents?] at hparent
    split at hparent
    · exact absurd hparent (by simp)
    · obtain rfl := Option.some.inj hparent
      exact hd.above hne (List.dropLast_prefix d)
  case file =>
    intro p hp parent hparent htext
    obtain ⟨entry, hentry, hsame⟩ := isFile_ofHistory.mp hp
    obtain ⟨hne, hdrop⟩ := Path.exists_parent?_iff.mp ⟨parent, hparent, htext, rfl⟩
    rw [accepted_empty] at hentry
    rw [mem_ofHistory_directories, ← hdrop, ← hsame]
    exact isCreated_dropLast hentry (by rwa [hsame, hdrop])

/-- Where files and directories are kept apart, no directory is at or below a file. -/
theorem KeepsApart.not_isCreated {history : List Change} (h : KeepsApart history)
    {entry : Path × String} (hentry : entry ∈ empty.accepted history) {d : List Component}
    (hbelow : entry.1.components <+: d) : ¬ IsCreated history d := by
  rintro ⟨hne, p, hp, hd⟩
  have htext : p.text ≠ "" := by
    intro hempty
    rw [Path.components_eq_nil_iff.mpr hempty, List.prefix_nil] at hd
    exact hne hd
  have hunder : p.isUnder entry.1 = true := Path.isUnder_iff.mpr (hbelow.trans hd)
  rw [h.created entry hentry p hp htext] at hunder
  exact absurd hunder (by simp)

theorem KeepsApart.isTree {history : List Change} (h : KeepsApart history) :
    IsTree (ofHistory history) := by
  constructor
  case toHasParents => exact hasParents_ofHistory history
  case not_directory =>
    intro p hp hdirectory
    obtain ⟨entry, hentry, hsame⟩ := isFile_ofHistory.mp hp
    rw [mem_ofHistory_directories, ← hsame] at hdirectory
    exact h.not_isCreated hentry List.prefix_rfl hdirectory
  case not_above_directory =>
    intro p hp d hd hbelow
    obtain ⟨entry, hentry, hsame⟩ := isFile_ofHistory.mp hp
    rw [mem_ofHistory_directories] at hd
    rw [← hsame] at hbelow
    exact absurd hd (h.not_isCreated hentry hbelow)
  case not_above_file =>
    intro p q hp hq hunder
    obtain ⟨entry, hentry, hsame⟩ := isFile_ofHistory.mp hp
    obtain ⟨other, hother, hsame'⟩ := isFile_ofHistory.mp hq
    rw [Path.isUnder_iff, ← hsame, ← hsame'] at hunder
    rw [Path.same_iff, ← hsame, ← hsame']
    by_cases hnil : entry.1.components = []
    · have htext := h.nameless entry hentry (Path.components_eq_nil_iff.mp hnil) other hother
      rw [hnil, Path.components_eq_nil_iff.mpr htext]
    · -- otherwise the second file would be in a directory at or below the first one
      by_contra hne
      rw [accepted_empty] at hother
      obtain ⟨d, hbelow, hcreated⟩ := exists_isCreated hother hnil hunder (Ne.symm hne)
      exact h.not_isCreated hentry hbelow hcreated

theorem IsTree.keepsApart {history : List Change} (h : IsTree (ofHistory history)) :
    KeepsApart history := by
  have hfile (entry : Path × String) (hentry : entry ∈ empty.accepted history) :
      ((ofHistory history).read? entry.1).isSome = true :=
    isFile_ofHistory.mpr ⟨entry, hentry, rfl⟩
  constructor
  case created =>
    intro entry hentry p hp htext
    by_contra hunder
    rw [Bool.not_eq_false, Path.isUnder_iff] at hunder
    have hdirectory : p.components ∈ (ofHistory history).directories :=
      mem_ofHistory_directories.mpr ⟨Path.components_ne_nil htext, p, hp, List.prefix_rfl⟩
    have hsame := h.not_above_directory entry.1 (hfile entry hentry) _ hdirectory hunder
    rw [← hsame] at hdirectory
    exact h.not_directory entry.1 (hfile entry hentry) hdirectory
  case nameless =>
    intro entry hentry htext other hother
    have hnil := Path.components_eq_nil_iff.mpr htext
    have hunder : other.1.isUnder entry.1 = true := by
      rw [Path.isUnder_iff, hnil]
      exact List.nil_prefix
    have hsame := h.not_above_file _ _ (hfile entry hentry) (hfile other hother) hunder
    rw [Path.same_iff, hnil] at hsame
    exact Path.components_eq_nil_iff.mp hsame

/-- In a store that calls have made, nothing is without its parent, and it is a tree exactly when the
calls kept files and directories apart. -/
theorem isTree_replay_iff (history : List Change) :
    HasParents (empty.replay history) ∧
      (IsTree (empty.replay history) ↔ KeepsApart history) := by
  rw [replay_empty]
  exact ⟨hasParents_ofHistory history, IsTree.keepsApart, KeepsApart.isTree⟩

/-- A directory is created, written over and written into. -/
def sharedPlace : List Change :=
  [.createDirectories ⟨"out"⟩, .writeFile ⟨"out"⟩ "x", .writeFile ⟨"out/a"⟩ "y"]

/-- A store accepts a file in the place of a directory, which a disk refuses. -/
theorem not_isTree_replay_sharedPlace :
    empty.accepted sharedPlace = [(⟨"out"⟩, "x"), (⟨"out/a"⟩, "y")] ∧
      ¬ IsTree (empty.replay sharedPlace) ∧
      let disk := (Disk.host ⟨"/"⟩ []).filesystem
      (disk.createDirectories ⟨"out"⟩ .empty).1 = .ok () ∧
      (disk.writeFile ⟨"out"⟩ "x" (disk.createDirectories ⟨"out"⟩ .empty).2).1 =
        .error (.fileRefused ⟨"out"⟩ .isADirectory) := by
  refine ⟨by decide +kernel, fun h => ?_, by decide +kernel, by decide +kernel⟩
  exact h.not_directory ⟨"out"⟩ (by decide +kernel) (by decide +kernel)

end Memory

end ServiceScaffold
