/-
The files of a run, as paths.

A run has a plan for every list of services, since no file name ever fails.  The directory of a
service has a step to it even below an empty output path; its two files lie directly in it, and
services whose names hold no slash share a directory, or a registration, only when they share
their name.  So no two files of a run have the same place, as long as the names of its services are
different.

* `RunConfig.registrationFile` — the registration path; `RunConfig.registrationPath_eq`.
* `RunConfig.plan_eq` — the plan, two files for each service.
* `RunConfig.registrationFile_inj` — registrations are told apart by the names of their services.
* `RunConfig.plan_pairwise` — all files of a run are.
-/
import Mathlib.Data.List.Basic
import ServiceScaffold.Document.Text
import ServiceScaffold.Generation.Plan
import ServiceScaffold.Proofs.Naming.Images
import ServiceScaffold.Proofs.Path.Parent

namespace ServiceScaffold.RunConfig

variable (config : RunConfig)

/-- The file that the registration of a service goes to. -/
def registrationFile (service : Service) : Path :=
  (config.serviceDirectory service).child (Document.registrationName service)

theorem registrationPath_eq (service : Service) :
    config.registrationPath service = .ok (config.registrationFile service) := by
  rw [registrationPath, Document.registrationFileName_eq]
  rfl

theorem planFor_eq (services : List Service) :
    config.planFor services = .ok (services.flatMap fun s =>
      [⟨s.name, .sharedTypes, config.typesPath s⟩,
        ⟨s.name, .registration, config.registrationFile s⟩]) := by
  induction services with
  | nil => rfl
  | cons s rest ih => simp [planFor, registrationPath_eq, ih]

theorem plan_eq :
    config.plan = .ok (config.services.flatMap fun s =>
      [⟨s.name, .sharedTypes, config.typesPath s⟩,
        ⟨s.name, .registration, config.registrationFile s⟩]) :=
  config.planFor_eq config.services

/-- The plan lists one file of either kind for each service, in the order of the services. -/
theorem filter_plan {plan : List PlannedFile} (hplan : config.plan = .ok plan) :
    (plan.filter fun file => file.kind = .sharedTypes) =
        config.services.map (fun s => ⟨s.name, .sharedTypes, config.typesPath s⟩) ∧
      (plan.filter fun file => file.kind = .registration) =
        config.services.map (fun s => ⟨s.name, .registration, config.registrationFile s⟩) := by
  rw [config.plan_eq, Except.ok.injEq] at hplan
  subst hplan
  induction config.services with
  | nil => exact ⟨rfl, rfl⟩
  | cons s rest ih => simpa using ih

/-! ### Components -/

theorem serviceDirectory_text_ne_empty (service : Service) :
    (config.serviceDirectory service).text ≠ "" :=
  Path.child_text_ne_empty _ service.name_ne_empty

theorem serviceDirectory_components_ne_nil (service : Service) :
    (config.serviceDirectory service).components ≠ [] :=
  Path.components_ne_nil (config.serviceDirectory_text_ne_empty service)

/-- A file with a plain name lies directly in the directory of its service. -/
theorem components_file (service : Service) {name : String} (hname : '/' ∉ name.toList)
    (hstep : Path.step? name.toList = some (.normal name)) :
    ((config.serviceDirectory service).child name).components =
      (config.serviceDirectory service).components ++ [.normal name] := by
  rw [Path.components_child _ (config.serviceDirectory_text_ne_empty service)
    (Path.head?_ne_slash hname), Path.steps_of_slash_not_mem hname, hstep]
  rfl

theorem components_typesPath (service : Service) :
    (config.typesPath service).components =
      (config.serviceDirectory service).components ++ [.normal Document.typesFileName] :=
  config.components_file service (by decide) (by decide)

theorem slash_not_mem_registrationName {service : Service} (h : '/' ∉ service.name.toList) :
    '/' ∉ (Document.registrationName service).toList := by
  intro hmem
  simp only [Document.registrationName, String.toList_append, List.mem_append] at hmem
  rcases hmem with (hfixed | hname) | hending
  · exact absurd hfixed (by decide)
  · exact h (Naming.slash_mem_pascal hname)
  · exact absurd hending (by decide)

theorem step?_registrationName (service : Service) :
    Path.step? (Document.registrationName service).toList =
      some (.normal (Document.registrationName service)) := by
  have hstart : (Document.registrationName service).toList =
      'r' :: 'e' :: 'g' :: ("ister" ++ Naming.pascal service.name ++ ".ts").toList := by
    simp [Document.registrationName, String.toList_append]
  unfold Path.step?
  rw [if_neg (by simp [hstart, Path.isIdle]), if_neg (by simp [hstart]), String.ofList_toList]

theorem components_registrationFile {service : Service} (h : '/' ∉ service.name.toList) :
    (config.registrationFile service).components =
      (config.serviceDirectory service).components ++
        [.normal (Document.registrationName service)] :=
  config.components_file service (slash_not_mem_registrationName h)
    (step?_registrationName service)

/-! ### Files told apart -/

theorem serviceDirectory_inj {s t : Service} (hs : '/' ∉ s.name.toList) (ht : '/' ∉ t.name.toList)
    (h : (config.serviceDirectory s).components = (config.serviceDirectory t).components) :
    s.name = t.name :=
  Path.components_child_inj _ s.name_ne_empty t.name_ne_empty hs ht h

theorem registrationName_ne_typesFileName (service : Service) :
    Document.registrationName service ≠ Document.typesFileName := by
  intro h
  have hhead := congrArg (fun name => name.toList.head?) h
  simp [Document.registrationName, Document.typesFileName, String.toList_append] at hhead

/-- No registration takes the place of shared types. -/
theorem registrationFile_ne_typesPath {s : Service} (hs : '/' ∉ s.name.toList) (t : Service) :
    (config.registrationFile s).components ≠ (config.typesPath t).components := by
  intro h
  rw [components_registrationFile config hs, components_typesPath] at h
  have hlast := List.append_inj_right' h rfl
  simp only [List.cons.injEq, Component.normal.injEq, and_true] at hlast
  exact registrationName_ne_typesFileName s hlast

theorem registrationFile_inj {s t : Service} (hs : '/' ∉ s.name.toList)
    (ht : '/' ∉ t.name.toList)
    (h : (config.registrationFile s).components = (config.registrationFile t).components) :
    s.name = t.name := by
  rw [components_registrationFile config hs, components_registrationFile config ht] at h
  exact config.serviceDirectory_inj hs ht (List.append_inj_left' h rfl)

/-- Services of one name share both their files. -/
theorem registrationFile_congr {s t : Service} (h : s.name = t.name) :
    config.registrationFile s = config.registrationFile t := by
  simp only [registrationFile, serviceDirectory, Document.registrationName, h]

/-! ### Files in their directories -/

/-- The files of a service. -/
def filesOf (service : Service) : List PlannedFile :=
  [⟨service.name, .sharedTypes, config.typesPath service⟩,
    ⟨service.name, .registration, config.registrationFile service⟩]

theorem service_of_mem_filesOf {service : Service} {file : PlannedFile}
    (h : file ∈ config.filesOf service) : file.service = service.name := by
  rcases List.mem_pair.mp h with rfl | rfl <;> rfl

/-- A file of a service lies directly in the directory of the service. -/
theorem components_of_mem_filesOf {service : Service} (hname : '/' ∉ service.name.toList)
    {file : PlannedFile} (h : file ∈ config.filesOf service) :
    ∃ last, file.path.components = (config.serviceDirectory service).components ++ [last] := by
  rcases List.mem_pair.mp h with rfl | rfl
  · exact ⟨_, config.components_typesPath service⟩
  · dsimp only
    exact ⟨_, config.components_registrationFile hname⟩

theorem parent?_of_mem_filesOf {service : Service} (hname : '/' ∉ service.name.toList)
    {file : PlannedFile} (h : file ∈ config.filesOf service) :
    ∃ parent ∈ file.path.parent?, parent.same (config.serviceDirectory service) = true := by
  obtain ⟨last, hlast⟩ := config.components_of_mem_filesOf hname h
  have hdrop : file.path.components.dropLast = (config.serviceDirectory service).components := by
    rw [hlast, List.dropLast_concat]
  obtain ⟨parent, hparent, -, hcomponents⟩ := Path.exists_parent?_iff.mpr
    ⟨config.serviceDirectory_components_ne_nil service, hdrop⟩
  exact ⟨parent, hparent, Path.same_iff.mpr hcomponents⟩

theorem pairwise_filesOf {service : Service} (hname : '/' ∉ service.name.toList) :
    (config.filesOf service).Pairwise fun file other => ¬ file.path.same other.path = true := by
  refine List.pairwise_pair.mpr fun hsame => ?_
  dsimp only at hsame
  exact config.registrationFile_ne_typesPath hname service (Path.same_iff.mp hsame).symm

/-- Two files of the same place belong to services of the same name. -/
theorem name_eq_of_same {s t : Service} (hs : '/' ∉ s.name.toList) (ht : '/' ∉ t.name.toList)
    {file other : PlannedFile} (hfile : file ∈ config.filesOf s) (hother : other ∈ config.filesOf t)
    (h : file.path.same other.path = true) : s.name = t.name := by
  obtain ⟨last, hlast⟩ := config.components_of_mem_filesOf hs hfile
  obtain ⟨last', hlast'⟩ := config.components_of_mem_filesOf ht hother
  rw [Path.same_iff, hlast, hlast'] at h
  exact config.serviceDirectory_inj hs ht (List.append_inj_left' h rfl)

/-- The files of services of different names have different places, each directly in the directory
named like its service. -/
theorem plan_pairwise (hnames : ∀ s ∈ config.services, '/' ∉ s.name.toList)
    (hdistinct : (config.services.map (·.name)).Nodup) :
    ∃ files, config.plan = .ok files ∧
      files.length = 2 * config.services.length ∧
      files.map (fun file => (file.service, file.kind)) =
        config.services.flatMap (fun s =>
          [(s.name, FileKind.sharedTypes), (s.name, FileKind.registration)]) ∧
      (files.Pairwise fun file other => ¬ file.path.same other.path = true) ∧
      ∀ file ∈ files, ∃ parent ∈ file.path.parent?,
        parent.same (config.output.child file.service) = true := by
  refine ⟨config.services.flatMap config.filesOf, config.plan_eq, ?_, ?_, ?_, ?_⟩
  · simp [List.length_flatMap, filesOf, Nat.mul_comm]
  · rw [List.map_flatMap]
    rfl
  · refine List.pairwise_flatMap.mpr ⟨fun s hs => config.pairwise_filesOf (hnames s hs), ?_⟩
    refine (List.pairwise_map.mp hdistinct).imp_of_mem fun {s t} hs ht hne => ?_
    intro file hfile other hother hsame
    exact hne (config.name_eq_of_same (hnames s hs) (hnames t ht) hfile hother hsame)
  · intro file hfile
    obtain ⟨s, hs, hmem⟩ := List.mem_flatMap.mp hfile
    rw [config.service_of_mem_filesOf hmem]
    exact config.parent?_of_mem_filesOf (hnames s hs) hmem

/-- Services whose names look like parts of paths, below a directory spelled with idle dots and
slashes. -/
def dottedNames : RunConfig where
  output := ⟨"./out//."⟩
  services :=
    [⟨".", "IHere", by decide⟩, ⟨"..", "IUp", by decide⟩, ⟨"types.ts", "ITypes", by decide⟩]
  types := {}
  register := {}

theorem plan_pairwise_dottedNames :
    let paths : List Path :=
      [⟨"./out//././types.ts"⟩, ⟨"./out//././register..ts"⟩, ⟨"./out//./../types.ts"⟩,
        ⟨"./out//./../register...ts"⟩, ⟨"./out//./types.ts/types.ts"⟩,
        ⟨"./out//./types.ts/registerTypes.ts.ts"⟩]
    (dottedNames.plan.map fun files => files.map (·.path)) = .ok paths ∧
      paths.Pairwise fun p q => ¬ p.same q = true := by
  intro paths
  have hpaths : (dottedNames.plan.map fun files => files.map (·.path)) = .ok paths := by
    decide +kernel
  obtain ⟨files, hplan, -, -, hpairwise, -⟩ := dottedNames.plan_pairwise (by decide) (by decide)
  refine ⟨hpaths, ?_⟩
  rw [hplan] at hpaths
  rw [← Except.ok.inj hpaths]
  exact List.pairwise_map.mpr hpairwise

end ServiceScaffold.RunConfig
