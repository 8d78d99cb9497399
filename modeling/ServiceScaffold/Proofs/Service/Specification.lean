/-
What a specification is read as.

Without a colon, a specification is a name.  With one, it is a name and an interface; blanks around
either do not count.  Faults are looked for in a fixed order: the name that is blank, the interface
that is blank, a second colon.  A second colon counts as text of the interface first, so that such
an interface is never blank.

* `Reading` — what a specification stands for, case by case.
* `exists_cut`, `cut_unique` — the first colon of a text.
* `ofSpec_of_not_mem`, `ofSpec_append` — reading without a colon, and at the first one.
* `ofSpec_eq_iff` — reading follows the cases.
* `ofSpec_grammar` — all of it, with what holds of every service that is read.
-/
import ServiceScaffold.Proofs.Service.Trimming
import ServiceScaffold.Service

namespace ServiceScaffold.Service

/-! ### The cases -/

/-- What a specification stands for: a service, or the fault that is reported of it. -/
inductive Reading (spec : String) : Except Error Service → Prop where
  /-- A name alone decides its interface. -/
  | inferred {s : Service} (colon : ':' ∉ spec.toList) (name : s.name = trim spec)
      (interface : s.interface = "I" ++ Naming.pascal s.name) : Reading spec (.ok s)
  /-- No name and no colon. -/
  | blank (colon : ':' ∉ spec.toList) (name : trim spec = "") :
      Reading spec (.error .emptyServiceName)
  /-- A name and an interface. -/
  | given {before after : String} {s : Service} (cut : spec = before ++ ":" ++ after)
      (first : ':' ∉ before.toList) (only : ':' ∉ after.toList) (name : s.name = trim before)
      (interface : s.interface = trim after) (written : trim after ≠ "") : Reading spec (.ok s)
  /-- No name before the first colon, whatever stands behind it. -/
  | noName {before after : String} (cut : spec = before ++ ":" ++ after)
      (first : ':' ∉ before.toList) (name : trim before = "") :
      Reading spec (.error (.invalidServiceSpec spec SpecFault.emptyName.reason))
  /-- A name, and no interface behind the only colon. -/
  | noInterface {before after : String} (cut : spec = before ++ ":" ++ after)
      (first : ':' ∉ before.toList) (only : ':' ∉ after.toList) (name : trim before ≠ "")
      (interface : trim after = "") :
      Reading spec (.error (.invalidServiceSpec spec SpecFault.emptyInterface.reason))
  /-- A name, and another colon behind the first. -/
  | tooMany {before after : String} (cut : spec = before ++ ":" ++ after)
      (first : ':' ∉ before.toList) (another : ':' ∈ after.toList) (name : trim before ≠ "") :
      Reading spec (.error (.invalidServiceSpec spec SpecFault.tooManySeparators.reason))

/-! ### The first colon -/

theorem splitAtColon_eq_none_iff {s : List Char} : splitAtColon s = none ↔ ':' ∉ s := by
  induction s with
  | nil => simp [splitAtColon]
  | cons c rest ih =>
    rw [splitAtColon]
    split
    · rename_i hc
      simp [hc]
    · rename_i hc
      rw [Option.map_eq_none_iff, ih, List.mem_cons, or_iff_right (Ne.symm hc)]

theorem splitAtColon_append {before : List Char} (h : ':' ∉ before) (after : List Char) :
    splitAtColon (before ++ ':' :: after) = some (before, after) := by
  induction before with
  | nil => rfl
  | cons c before ih =>
    obtain ⟨hc, hbefore⟩ := not_or.mp (mt List.mem_cons.mpr h)
    rw [List.cons_append, splitAtColon, if_neg (Ne.symm hc), ih hbefore]
    rfl

/-- A text with a colon is cut at its first one. -/
theorem exists_cut {spec : String} (h : ':' ∈ spec.toList) :
    ∃ before after : String, spec = before ++ ":" ++ after ∧ ':' ∉ before.toList := by
  obtain ⟨before, after, hcut, hfirst⟩ := List.eq_append_cons_of_mem h
  refine ⟨String.ofList before, String.ofList after, ?_, by rwa [String.toList_ofList]⟩
  apply String.toList_injective
  simp [hcut]

/-- A text has one first colon. -/
theorem cut_unique {before after before' after' : String}
    (h : before ++ ":" ++ after = before' ++ ":" ++ after') (hfirst : ':' ∉ before.toList)
    (hfirst' : ':' ∉ before'.toList) : before = before' ∧ after = after' := by
  have hcut : before.toList ++ ':' :: after.toList = before'.toList ++ ':' :: after'.toList := by
    simpa using congrArg String.toList h
  have hsplit := splitAtColon_append hfirst after.toList
  rw [hcut, splitAtColon_append hfirst'] at hsplit
  obtain ⟨hbefore, hafter⟩ := Prod.mk.inj (Option.some.inj hsplit)
  exact ⟨String.toList_injective hbefore.symm, String.toList_injective hafter.symm⟩

/-! ### Reading -/

theorem ofSpec_of_not_mem {spec : String} (h : ':' ∉ spec.toList) :
    ofSpec spec = inferred (trim spec) := by
  rw [ofSpec, splitAtColon_eq_none_iff.mpr h]

theorem ofSpec_append {before : String} (h : ':' ∉ before.toList) (after : String) :
    ofSpec (before ++ ":" ++ after) =
      if trim before = "" then
        .error (.invalidServiceSpec (before ++ ":" ++ after) SpecFault.emptyName.reason)
      else if trim after = "" then
        .error (.invalidServiceSpec (before ++ ":" ++ after) SpecFault.emptyInterface.reason)
      else if ':' ∈ (trim after).toList then
        .error (.invalidServiceSpec (before ++ ":" ++ after) SpecFault.tooManySeparators.reason)
      else new (trim before) (trim after) := by
  have hcut : (before ++ ":" ++ after).toList = before.toList ++ ':' :: after.toList := by simp
  rw [ofSpec, hcut, splitAtColon_append h]
  simp only [String.ofList_toList]

theorem isBlank_colon : isBlank ':' = false :=
  rfl

/-- A colon is never taken off with the blanks. -/
theorem colon_mem_trim_iff {s : String} : ':' ∈ (trim s).toList ↔ ':' ∈ s.toList :=
  mem_trim_iff isBlank_colon

theorem trim_ne_empty_of_mem {s : String} {c : Char} (hc : isBlank c = false)
    (h : c ∈ s.toList) : trim s ≠ "" := by
  intro hempty
  rw [← mem_trim_iff hc, hempty] at h
  cases h

theorem reading_of_not_mem {spec : String} (h : ':' ∉ spec.toList) :
    Reading spec (ofSpec spec) := by
  rw [ofSpec_of_not_mem h, Service.inferred, new]
  split_ifs with hname
  · exact .blank h hname
  · exact .inferred h rfl rfl

theorem reading_append {before : String} (h : ':' ∉ before.toList) (after : String) :
    Reading (before ++ ":" ++ after) (ofSpec (before ++ ":" ++ after)) := by
  rw [ofSpec_append h]
  split_ifs with hname hinterface hanother
  · exact .noName rfl h hname
  · have honly : ':' ∉ after.toList := fun hcolon =>
      trim_ne_empty_of_mem isBlank_colon hcolon hinterface
    exact .noInterface rfl h honly hname hinterface
  · exact .tooMany rfl h (colon_mem_trim_iff.mp hanother) hname
  · rw [new, dif_neg hname]
    exact .given rfl h (mt colon_mem_trim_iff.mpr hanother) rfl rfl hinterface

theorem reading_ofSpec (spec : String) : Reading spec (ofSpec spec) := by
  by_cases hcolon : ':' ∈ spec.toList
  · obtain ⟨before, after, rfl, hfirst⟩ := exists_cut hcolon
    exact reading_append hfirst after
  · exact reading_of_not_mem hcolon

theorem Reading.eq {spec : String} {reading : Except Error Service} (h : Reading spec reading) :
    ofSpec spec = reading := by
  cases h with
  | inferred colon name interface =>
    rw [ofSpec_of_not_mem colon, Service.inferred, ← name, new_eq_ok_iff]
    exact ⟨rfl, interface⟩
  | blank colon name => rw [ofSpec_of_not_mem colon, Service.inferred, name]; rfl
  | @given before after s cut first only name interface written =>
    have hname : trim before ≠ "" := name ▸ s.name_ne_empty
    rw [cut, ofSpec_append first, if_neg hname, if_neg written,
      if_neg (mt colon_mem_trim_iff.mp only), new_eq_ok_iff]
    exact ⟨name, interface⟩
  | noName cut first name => rw [cut, ofSpec_append first, if_pos name]
  | noInterface cut first only name interface =>
    rw [cut, ofSpec_append first, if_neg name, if_pos interface]
  | tooMany cut first another name =>
    rw [cut, ofSpec_append first, if_neg name, if_neg (trim_ne_empty_of_mem isBlank_colon another),
      if_pos (colon_mem_trim_iff.mpr another)]

theorem ofSpec_eq_iff {spec : String} {reading : Except Error Service} :
    ofSpec spec = reading ↔ Reading spec reading :=
  ⟨fun h => h ▸ reading_ofSpec spec, Reading.eq⟩

/-! ### Services that are read -/

theorem Reading.name_trimmed {spec : String} {s : Service} (h : Reading spec (.ok s)) :
    trim s.name = s.name := by
  cases h with
  | inferred colon name interface => rw [name, trim_trim]
  | given cut first only name interface written => rw [name, trim_trim]

theorem Reading.colon_not_mem_name {spec : String} {s : Service} (h : Reading spec (.ok s)) :
    ':' ∉ s.name.toList := by
  cases h with
  | inferred colon name interface => rwa [name, colon_mem_trim_iff]
  | given cut first only name interface written => rwa [name, colon_mem_trim_iff]

/-- The source of a fault is what was given, with its blanks. -/
theorem Reading.source_eq {spec text reason : String}
    (h : Reading spec (.error (.invalidServiceSpec text reason))) : text = spec := by
  cases h <;> rfl

/-- A specification is read by its colons.  A fault names the specification as it was given, and a
service that is read has a trimmed name, which is not empty and holds no colon. -/
theorem ofSpec_grammar (spec : String) :
    (∀ reading, ofSpec spec = reading ↔ Reading spec reading) ∧
      (∀ text reason, ofSpec spec = .error (.invalidServiceSpec text reason) → text = spec) ∧
      ∀ s, ofSpec spec = .ok s →
        s.name ≠ "" ∧ trim s.name = s.name ∧ ':' ∉ s.name.toList := by
  refine ⟨fun reading => ofSpec_eq_iff, fun text reason h => ?_, fun s h => ?_⟩
  · exact (ofSpec_eq_iff.mp h).source_eq
  · have hreading := ofSpec_eq_iff.mp h
    exact ⟨s.name_ne_empty, hreading.name_trimmed, hreading.colon_not_mem_name⟩

-- a blank name is reported before a second colon, and a second colon makes an interface
example : ofSpec " :x:y" = .error (.invalidServiceSpec " :x:y" SpecFault.emptyName.reason) ∧
    ofSpec "a: :" = .error (.invalidServiceSpec "a: :" SpecFault.tooManySeparators.reason) := by
  decide +kernel

end ServiceScaffold.Service
