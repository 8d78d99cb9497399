/-
Which service a shared registration belongs to.

Services of one name share a directory, and with it the place of their registrations.  The last of
them to be carried out decides what the file holds, and a schedule may carry any of them out last.
So the file holds the document of the last service listed, whatever the schedule, exactly when all
services that write to its place write the same document.

* `read?_registration_iff` — when the last service listed always wins.
* `read?_registration_reversed` — a schedule under which the first one wins.
-/
import ServiceScaffold.Proofs.Memory.Content

namespace ServiceScaffold.Generation

variable (config : RunConfig)

theorem isReadOnly_eq_false {store : Memory} (h : store.readOnly = []) (p : Path) :
    store.isReadOnly p = false := by
  rw [Memory.isReadOnly, h]
  rfl

/-- The services that write to a place are the same ones in every schedule. -/
theorem mem_sharingRegistration_arrange (schedule : Schedule) {s t : Service} :
    t ∈ sharingRegistration config (schedule.arrange config.services) s ↔
      t ∈ config.services ∧
        (config.registrationFile t).same (config.registrationFile s) = true := by
  rw [sharingRegistration, List.mem_filter, (schedule.arrange_perm config.services).mem_iff]

/-- Every service can be the last one to be carried out. -/
theorem exists_schedule_last {s t : Service} (ht : t ∈ config.services)
    (h : (config.registrationFile t).same (config.registrationFile s) = true) :
    ∃ schedule : Schedule,
      (sharingRegistration config (schedule.arrange config.services) s).getLast? = some t := by
  -- take up all the others first
  obtain ⟨number, hnumber, rfl⟩ := List.mem_iff_getElem.mp ht
  obtain ⟨before, harranged⟩ := Schedule.arrange_lastly config.services hnumber
  refine ⟨.lastly number, ?_⟩
  rw [harranged, sharingRegistration, List.filter_append, List.filter_singleton, h]
  exact List.getLast?_concat

/-- One of the services sharing a registration is carried out last. -/
theorem exists_winner (schedule : Schedule) {s : Service} (hs : s ∈ config.services) :
    ∃ winner ∈ config.services,
      (config.registrationFile winner).same (config.registrationFile s) = true ∧
      (sharingRegistration config (schedule.arrange config.services) s).getLast? =
        some winner := by
  have hshared : s ∈ sharingRegistration config (schedule.arrange config.services) s :=
    (mem_sharingRegistration_arrange config schedule).mpr ⟨hs, Path.same_iff.mpr rfl⟩
  obtain ⟨winner, hwinner⟩ : ∃ winner,
      (sharingRegistration config (schedule.arrange config.services) s).getLast? = some winner :=
    ⟨_, List.getLast?_eq_some_getLast (List.ne_nil_of_mem hshared)⟩
  obtain ⟨hmem, hsame⟩ :=
    (mem_sharingRegistration_arrange config schedule).mp (List.mem_of_getLast? hwinner)
  exact ⟨winner, hmem, hsame, hwinner⟩

/-- On a store without read-only places, the service carried out last decides what a shared
registration holds, and the last service listed always wins exactly when all services sharing the
registration agree on the document. -/
theorem read?_registration_iff (store : Memory) (hwritable : store.readOnly = []) {s : Service}
    (hs : s ∈ config.services) (hname : '/' ∉ s.name.toList) :
    ∃ path last registration,
      config.registrationPath s = .ok path ∧
      (config.services.filter fun t => t.name = s.name).getLast? = some last ∧
      Document.registration last config.register = .ok registration ∧
      (∀ schedule : Schedule, ∃ winner written,
        (sharingRegistration config (schedule.arrange config.services) s).getLast? = some winner ∧
        Document.registration winner config.register = .ok written ∧
        (run Memory.filesystem schedule config store).2.read? path = some written) ∧
      ((∀ schedule : Schedule,
          (run Memory.filesystem schedule config store).2.read? path = some registration) ↔
        ∀ t ∈ config.services, ∀ place, config.registrationPath t = .ok place →
          place.same path = true → Document.registration t config.register = .ok registration) := by
  have hopen (p : Path) : store.isReadOnly p = false := isReadOnly_eq_false hwritable p
  have hread (schedule : Schedule) := read?_registrationFile config schedule store hs hname
    (fun t _ => hopen (config.typesPath t)) (hopen (config.registrationFile s))
  have hmem : s ∈ config.services.filter fun t => t.name = s.name :=
    List.mem_filter.mpr ⟨hs, decide_eq_true rfl⟩
  have hlast := List.getLast?_eq_some_getLast (List.ne_nil_of_mem hmem)
  refine ⟨_, _, _, config.registrationPath_eq s, hlast, Document.registration_eq _ _, ?_, ?_, ?_⟩
  · intro schedule
    obtain ⟨winner, -, -, hwinner⟩ := exists_winner config schedule hs
    refine ⟨winner, _, hwinner, Document.registration_eq _ _, ?_⟩
    rw [hread schedule, hwinner, Option.map_some]
  · -- let the service in question be carried out last
    intro h t ht place hplace hsame
    rw [config.registrationPath_eq, Except.ok.injEq] at hplace
    subst hplace
    obtain ⟨schedule, hwinner⟩ := exists_schedule_last config ht hsame
    have hdocument := h schedule
    rw [hread schedule, hwinner, Option.map_some, Option.some.injEq] at hdocument
    rw [Document.registration_eq, hdocument]
  · intro h schedule
    obtain ⟨winner, hmem, hsame, hwinner⟩ := exists_winner config schedule hs
    have hdocument := h winner hmem _ (config.registrationPath_eq winner) hsame
    rw [Document.registration_eq, Except.ok.injEq] at hdocument
    rw [hread schedule, hwinner, Option.map_some, hdocument]

theorem registrationText_sharedNames :
    Document.registrationText firstCache {} ≠
      Document.registrationText lastCache {} := by
  decide +kernel

theorem read?_registration_sharedNames :
    ¬ ∀ schedule : Schedule,
      (run Memory.filesystem schedule sharedNames .empty).2.read? ⟨"out/cache/registerCache.ts"⟩ =
        some (Document.registrationText lastCache {}) := by
  obtain ⟨path, last, registration, hpath, hlast, hdocument, -, hiff⟩ :=
    read?_registration_iff sharedNames .empty rfl (s := firstCache) (by decide) (by decide)
  rw [sharedNames.registrationPath_eq, Except.ok.injEq] at hpath
  subst hpath
  obtain rfl : lastCache = last := Option.some.inj hlast
  rw [Document.registration_eq, Except.ok.injEq] at hdocument
  subst hdocument
  intro halways
  rw [← registrationFile_sharedNames] at halways
  have hfirst := hiff.mp halways firstCache (by decide) _
    (sharedNames.registrationPath_eq _) (Path.same_iff.mpr rfl)
  rw [Document.registration_eq, Except.ok.injEq] at hfirst
  exact registrationText_sharedNames hfirst

/-- When the tasks are carried out from the last to the first, the first service wins. -/
theorem read?_registration_reversed :
    (sharedNames.services.filter fun t => t.name = "cache").getLast? =
        some lastCache ∧
      ∃ first second,
        Document.registration firstCache sharedNames.register = .ok first ∧
        Document.registration lastCache sharedNames.register = .ok second ∧
        first ≠ second ∧
        (run Memory.filesystem .reversed sharedNames .empty).2.read?
          ⟨"out/cache/registerCache.ts"⟩ = some first := by
  refine ⟨rfl, _, _, Document.registration_eq _ _, Document.registration_eq _ _,
    registrationText_sharedNames, ?_⟩
  have hread := read?_registrationFile sharedNames .reversed .empty (s := firstCache)
    (by decide) (by decide) (fun _ _ => rfl) rfl
  have hwinner : (sharingRegistration sharedNames (Schedule.reversed.arrange sharedNames.services)
      firstCache).getLast? = some firstCache := by
    decide +kernel
  rw [hwinner, registrationFile_sharedNames] at hread
  exact hread

end ServiceScaffold.Generation
