/-
Config documents are checked against their format.

A reader that checks its requirements in order either meets all of them, and then there is exactly
one thing that the value stands for, or stops at the first that is violated, and then there is
none.  Readers put one after the other check the requirements of the one and then those of the
other, so the readers of the parts of a document make up the reader of the whole.

* `Reads`, `Reads.bind` — readers and what they check.
* `reads_services` — the services, by induction on the items of the array.
* `reads_options` — the options of either document.
* `ofJson_knownPart` — keys that are not known make no difference.
* `ofJson_format` — what is read from every value.
-/
import ServiceScaffold.Proofs.Config.Format

namespace ServiceScaffold.ConfigDocument

/-! ### Readers -/

/-- A reader of `v` that checks requirements in order, for what has the property `P`. -/
inductive Reads (origin : Path) (v : Json) (rs : List Requirement) {α : Type} (P : α → Prop) :
    Except ConfigError α → Prop
  | ok {a : α} (hrs : ∀ r ∈ rs, r.holds v = true) (hP : ∀ b, P b ↔ b = a) :
      Reads origin v rs P (.ok a)
  | error {r : Requirement} (hrs : rs.find? (fun r => !r.holds v) = some r) (hP : ∀ b, ¬ P b) :
      Reads origin v rs P (.error (r.error origin))

section Readers

variable {origin : Path} {v : Json} {rs rs' : List Requirement} {α β : Type}

theorem Reads.bind {P : α → Prop} {Q : α → β → Prop} {x : Except ConfigError α}
    {f : α → Except ConfigError β} (hx : Reads origin v rs P x)
    (hf : ∀ a, P a → Reads origin v rs' (Q a) (f a)) :
    Reads origin v (rs ++ rs') (fun b => ∃ a, P a ∧ Q a b) (x >>= f) := by
  cases hx with
  | error hrs hP =>
    refine .error ?_ ?_
    · rw [List.find?_append, hrs, Option.some_or]
    · rintro b ⟨a, ha, -⟩
      exact hP a ha
  | @ok a hrs hP =>
    -- the first reader gives `a` alone, and a first violation is one of the second reader's
    have honly (b : β) : (∃ a, P a ∧ Q a b) ↔ Q a b := by
      constructor
      · rintro ⟨a', ha', hb⟩
        exact (hP a').mp ha' ▸ hb
      · intro hb
        exact ⟨a, (hP a).mpr rfl, hb⟩
    have hfirst : rs.find? (fun r => !r.holds v) = none :=
      List.find?_eq_none.mpr fun r hr => by simp [hrs r hr]
    have hrest := hf a ((hP a).mpr rfl)
    change Reads origin v (rs ++ rs') _ (f a)
    generalize f a = y at hrest
    cases hrest with
    | error hrs' hQ =>
      refine .error ?_ ?_
      · rw [List.find?_append, hfirst, Option.none_or, hrs']
      · intro b
        rw [honly]
        exact hQ b
    | ok hrs' hQ =>
      refine .ok (List.forall_mem_append.mpr ⟨hrs, hrs'⟩) ?_
      intro b
      rw [honly]
      exact hQ b

theorem Reads.congr {P Q : α → Prop} {x : Except ConfigError α} (hx : Reads origin v rs P x)
    (h : ∀ a, Q a ↔ P a) : Reads origin v rs Q x := by
  obtain rfl : Q = P := funext fun a => propext (h a)
  exact hx

/-- What has the property is what is read. -/
theorem Reads.eq_ok {P : α → Prop} {x : Except ConfigError α} {a : α}
    (hx : Reads origin v rs P x) (ha : P a) : x = .ok a := by
  cases hx with
  | ok _ hP => rw [(hP a).mp ha]
  | error _ hP => exact absurd ha (hP a)

/-- What is read has the property. -/
theorem Reads.of_ok {P : α → Prop} {a : α} (hx : Reads origin v rs P (.ok a)) : P a := by
  cases hx with
  | ok _ hP => exact (hP a).mpr rfl

theorem Reads.pure (a : α) : Reads origin v [] (fun b => b = a) (pure a) :=
  .ok (by simp) fun _ => Iff.rfl

/-! ### Members -/

variable {field : ConfigField} {json : Json} {members : List (String × Json)} {key : String}

theorem reads_object (h : v.field? field = some json) :
    Reads origin v [.typed field .object] (fun members => json = .object members)
      (readObject origin field json) := by
  cases json with
  | object members =>
    refine .ok ?_ ?_
    · simp [Requirement.holds, h]
    · intro b
      rw [Json.object.injEq, eq_comm]
  | _ =>
    refine .error (r := .typed field .object) ?_ (by simp)
    simp [Requirement.holds, h, Expected.admits]

theorem reads_text (h : v.field? field = Json.lastMember? key members) :
    Reads origin v [.present field, .typed field .string]
      (fun text => Json.lastMember? key members = some (.string text))
      (readText origin field members key) := by
  unfold readText
  cases hmember : Json.lastMember? key members with
  | none =>
    refine .error (r := .present field) ?_ (by simp)
    simp [Requirement.holds, h, hmember]
  | some json =>
    cases json with
    | string text =>
      refine .ok ?_ ?_
      · simp [Requirement.holds, h, hmember, Expected.admits]
      · intro b
        rw [Option.some.injEq, Json.string.injEq, eq_comm]
    | _ =>
      refine .error (r := .typed field .string) ?_ (by simp)
      simp [Requirement.holds, h, hmember, Expected.admits]

/-! ### Services -/

theorem reads_new {index : Nat} {name interface : String}
    (h : v.field? (.serviceName index) = some (.string name)) :
    Reads origin v [.named index] (fun s => s.name = name ∧ s.interface = interface)
      (match Service.new name interface with
        | .ok service => pure service
        | .error e => throw (.invalidService origin (.service index) e)) := by
  by_cases hname : name = ""
  · subst hname
    refine .error (r := .named index) ?_ ?_
    · simp [Requirement.holds, h, Json.text?]
    · rintro s ⟨hs, -⟩
      exact s.name_ne_empty hs
  · have hnew : Service.new name interface = .ok ⟨name, interface, hname⟩ := by
      rw [Service.new, dif_neg hname]
    rw [hnew]
    refine .ok ?_ ?_
    · simp [Requirement.holds, h, Json.text?, hname]
    · intro s
      rw [Service.mk.injEq]

theorem reads_service {index : Nat} (h : v.field? (.service index) = some json) :
    Reads origin v (serviceRequirements index) (DescribesService json)
      (readService origin index json) := by
  have hread : Reads origin v (serviceRequirements index)
      (fun s => ∃ members, json = .object members ∧
        ∃ name, Json.lastMember? "name" members = some (.string name) ∧
        ∃ interface, Json.lastMember? "interface" members = some (.string interface) ∧
          s.name = name ∧ s.interface = interface)
      (readService origin index json) := by
    refine (reads_object h).bind fun members hmembers => ?_
    rw [hmembers] at h
    have hname := Json.field?_key h (.serviceName index) rfl
    have hinterface := Json.field?_key h (.serviceInterface index) rfl
    refine (reads_text hname).bind fun name hmember => ?_
    refine (reads_text hinterface).bind fun interface _ => ?_
    exact reads_new (hname.trans hmember)
  refine hread.congr ?_
  intro s
  constructor
  · rintro ⟨hname, hinterface⟩
    cases json with
    | object members => exact ⟨members, rfl, _, hname, _, hinterface, rfl, rfl⟩
    | _ => exact absurd hname (by simp [Json.member?, Json.members?])
  · rintro ⟨members, rfl, _, hname, _, hinterface, rfl, rfl⟩
    exact ⟨hname, hinterface⟩

theorem readServices_cons (origin : Path) (index : Nat) (json : Json) (rest : List Json) :
    readServices origin index (json :: rest) = (do
      let service ← readService origin index json
      let services ← readServices origin (index + 1) rest
      return service :: services) := by
  rw [readServices]
  cases readService origin index json with
  | error e => rfl
  | ok service => cases readServices origin (index + 1) rest <;> rfl

/-- Services are checked in order, the first of them at `index`. -/
theorem reads_services {index : Nat} {items : List Json}
    (h : ∀ k, v.field? (.service (index + k)) = items[k]?) :
    Reads origin v ((List.range' index items.length).flatMap serviceRequirements)
      (List.Forall₂ DescribesService items) (readServices origin index items) := by
  induction items generalizing index with
  | nil => exact (Reads.pure []).congr fun services => List.forall₂_nil_left_iff
  | cons json rest ih =>
    have hrest : ∀ k, v.field? (.service (index + 1 + k)) = rest[k]? := by
      intro k
      rw [Nat.add_assoc, Nat.add_comm 1 k, h (k + 1), List.getElem?_cons_succ]
    have hread : Reads origin v ((List.range' index (rest.length + 1)).flatMap serviceRequirements)
        (fun services => ∃ service, DescribesService json service ∧
          ∃ others, List.Forall₂ DescribesService rest others ∧ services = service :: others)
        (readServices origin index (json :: rest)) := by
      rw [readServices_cons, List.range'_succ, List.flatMap_cons,
        ← List.append_nil (List.flatMap _ _)]
      refine (reads_service (h 0)).bind fun service _ => ?_
      exact (ih hrest).bind fun others _ => Reads.pure _
    refine hread.congr ?_
    intro services
    rw [List.forall₂_cons_left_iff]
    simp only [exists_and_left]

theorem reads_serviceList (h : v.field? .services = Json.lastMember? "services" members) :
    Reads origin v
      ([.present .services, .typed .services .array] ++
        (List.range (serviceCount v)).flatMap serviceRequirements)
      (fun services => ∃ items, Json.lastMember? "services" members = some (.array items) ∧
        List.Forall₂ DescribesService items services)
      (readServiceList origin members) := by
  unfold readServiceList
  cases hmember : Json.lastMember? "services" members with
  | none =>
    refine .error (r := .present .services) ?_ (by simp)
    simp [Requirement.holds, h, hmember]
  | some json =>
    rw [hmember] at h
    cases json with
    | array items =>
      have harray : Reads origin v [.present .services, .typed .services .array]
          (fun items' => some (Json.array items) = some (.array items')) (.ok items) := by
        refine .ok ?_ ?_
        · simp [Requirement.holds, h, Expected.admits]
        · intro items'
          rw [Option.some.injEq, Json.array.injEq, eq_comm]
      refine harray.bind fun items' hitems => ?_
      obtain rfl : items = items' := by simpa using hitems
      have hcount : serviceCount v = items.length := by
        rw [serviceCount, h]
      rw [hcount, List.range_eq_range']
      refine reads_services ?_
      intro k
      rw [Nat.zero_add, Json.field?_service h]
    | _ =>
      refine .error (r := .typed .services .array) ?_ (by simp)
      simp [Requirement.holds, h, Expected.admits]

/-! ### Options -/

/-- Options are read key by key, each with its default. -/
structure ReadsKnown (known : List (String × (α → String))) (fallback : α)
    (ofMembers? : List (String × Json) → Option α) : Prop where
  eq_some_iff : ∀ members o, ofMembers? members = some o ↔
    ∀ option ∈ known, Json.textMember? members option.1 (option.2 fallback) = some (option.2 o)
  ne_none : ∀ members,
    (∀ option ∈ known, ∃ text, Json.textMember? members option.1 (option.2 fallback) = some text) →
      ofMembers? members ≠ none

theorem readsKnown_types : ReadsKnown TypesOptions.known {} TypesOptions.ofMembers? where
  eq_some_iff members o := by
    obtain ⟨libraryPath, containerType, contextType⟩ := o
    simp [TypesOptions.known, TypesOptions.ofMembers?, Option.bind_eq_some_iff]
  ne_none members h := by
    simp only [TypesOptions.known, List.forall_mem_cons, List.not_mem_nil] at h
    obtain ⟨⟨libraryPath, hlibrary⟩, ⟨containerType, hcontainer⟩, ⟨contextType, hcontext⟩, -⟩ := h
    simp [TypesOptions.ofMembers?, hlibrary, hcontainer, hcontext]

theorem readsKnown_register :
    ReadsKnown RegisterOptions.known {} RegisterOptions.ofMembers? where
  eq_some_iff members o := by
    obtain ⟨libraryPath, containerType, contextType, typesModule⟩ := o
    simp [RegisterOptions.known, RegisterOptions.ofMembers?, Option.bind_eq_some_iff]
  ne_none members h := by
    simp only [RegisterOptions.known, List.forall_mem_cons, List.not_mem_nil] at h
    obtain ⟨⟨libraryPath, hlibrary⟩, ⟨containerType, hcontainer⟩, ⟨contextType, hcontext⟩,
      ⟨typesModule, hmodule⟩, -⟩ := h
    simp [RegisterOptions.ofMembers?, hlibrary, hcontainer, hcontext, hmodule]

theorem textMember?_eq_some_iff {fallback text : String} :
    Json.textMember? members key fallback = some text ↔
      (Json.lastMember? key members).getD (.string fallback) = .string text := by
  unfold Json.textMember?
  cases Json.lastMember? key members with
  | none => simp
  | some json => cases json <;> simp [Json.text?]

theorem exists_textMember?_iff {fallback : String} :
    (∃ text, Json.textMember? members key fallback = some text) ↔
      (Json.lastMember? key members).all (fun value => value.text?.isSome) = true := by
  unfold Json.textMember?
  cases Json.lastMember? key members with
  | none => simp
  | some json => simp [Option.isSome_iff_exists]

section Known

variable {known : List (String × (α → String))} {fallback : α}
  {ofMembers? : List (String × Json) → Option α} (hknown : ReadsKnown known fallback ofMembers?)
include hknown

theorem ReadsKnown.describes_iff {options : List (String × Json)} {o : α} :
    DescribesOptions known fallback (some (.object options)) o ↔ ofMembers? options = some o := by
  rw [hknown.eq_some_iff]
  constructor
  · intro h option hoption
    exact textMember?_eq_some_iff.mpr (h.text option hoption)
  · intro h
    constructor
    · intro json hjson
      exact ⟨options, (Option.some.inj hjson).symm⟩
    · intro option hoption
      exact textMember?_eq_some_iff.mp (h option hoption)

/-- No options are the default options, as an empty object is. -/
theorem ReadsKnown.describes_none_iff {o : α} :
    DescribesOptions known fallback none o ↔ o = fallback := by
  have hfallback : ofMembers? [] = some fallback :=
    (hknown.eq_some_iff [] fallback).mpr fun _ _ => rfl
  have hempty : DescribesOptions known fallback none o ↔
      DescribesOptions known fallback (some (.object [])) o := by
    constructor
    · intro h
      exact ⟨fun json hjson => ⟨[], (Option.some.inj hjson).symm⟩, h.text⟩
    · intro h
      exact ⟨by simp, h.text⟩
  rw [hempty, hknown.describes_iff, hfallback, Option.some.injEq, eq_comm]

theorem ReadsKnown.admits_iff (options : List (String × Json)) :
    Expected.stringOptions.admits (known.map Prod.fst) (.object options) = true ↔
      ∃ o, ofMembers? options = some o := by
  have hadmits : Expected.stringOptions.admits (known.map Prod.fst) (.object options) = true ↔
      ∀ option ∈ known, ∃ text,
        Json.textMember? options option.1 (option.2 fallback) = some text := by
    simp only [exists_textMember?_iff, Expected.admits, List.all_map, List.all_eq_true]
    rfl
  rw [hadmits]
  constructor
  · intro h
    exact Option.ne_none_iff_exists'.mp (hknown.ne_none options h)
  · rintro ⟨o, ho⟩ option hoption
    exact ⟨_, (hknown.eq_some_iff options o).mp ho option hoption⟩

/-- What there is has to be an object, and its known keys have to hold strings. -/
theorem reads_options (hkeys : field.optionKeys = known.map Prod.fst)
    (h : v.field? field = Json.lastMember? key members) :
    Reads origin v [.typed field .object, .typed field .stringOptions]
      (DescribesOptions known fallback (Json.lastMember? key members))
      (readOptions origin field members key fallback ofMembers?) := by
  unfold readOptions
  cases hmember : Json.lastMember? key members with
  | none =>
    refine .ok ?_ ?_
    · simp [Requirement.holds, h, hmember]
    · intro o
      exact hknown.describes_none_iff
  | some json =>
    rw [hmember] at h
    cases json with
    | object options =>
      have hadmits := hknown.admits_iff options
      cases hoptions : ofMembers? options with
      | none =>
        simp only [hoptions]
        refine .error (r := .typed field .stringOptions) ?_ ?_
        · have hrefused : Expected.stringOptions.admits (known.map Prod.fst) (.object options) =
              false := by
            rw [← Bool.not_eq_true, hadmits, hoptions]
            simp
          simp [Requirement.holds, h, hkeys, hrefused]
        · intro o
          rw [hknown.describes_iff, hoptions]
          simp
      | some value =>
        simp only [hoptions]
        refine .ok ?_ ?_
        · have haccepted : Expected.stringOptions.admits (known.map Prod.fst) (.object options) =
              true := hadmits.mpr ⟨value, hoptions⟩
          simp [Requirement.holds, h, hkeys, haccepted]
        · intro o
          rw [hknown.describes_iff, hoptions, Option.some.injEq, eq_comm]
    | _ =>
      refine .error (r := .typed field .object) ?_ ?_
      · simp [Requirement.holds, h, Expected.admits]
      · intro o ho
        obtain ⟨_, hobject⟩ := ho.object _ rfl
        cases hobject

end Known

/-! ### Documents -/

theorem reads_ofJson (origin : Path) (v : Json) :
    Reads origin v (requirements v) (Describes v) (ofJson origin v) := by
  have hroot : v.field? .root = some v := rfl
  have hread : Reads origin v (requirements v)
      (fun d => ∃ members, v = .object members ∧
        ∃ output, Json.lastMember? "output" members = some (.string output) ∧
        ∃ services, (∃ items, Json.lastMember? "services" members = some (.array items) ∧
          List.Forall₂ DescribesService items services) ∧
        ∃ types, DescribesOptions TypesOptions.known {} (Json.lastMember? "types" members) types ∧
        ∃ register, DescribesOptions RegisterOptions.known {}
          (Json.lastMember? "register" members) register ∧
        d = ⟨⟨output⟩, services, types, register⟩)
      (ofJson origin v) := by
    refine (reads_object hroot).bind fun members hmembers => ?_
    have hobject : v.field? .root = some (.object members) := hroot.trans (congrArg some hmembers)
    have houtput := Json.field?_key hobject .output rfl
    have hservices := Json.field?_key hobject .services rfl
    have htypes := Json.field?_key hobject .types rfl
    have hregister := Json.field?_key hobject .register rfl
    refine (reads_text houtput).bind fun output _ => ?_
    refine (reads_serviceList hservices).bind fun services _ => ?_
    refine (reads_options readsKnown_types rfl htypes).bind fun types _ => ?_
    refine (reads_options readsKnown_register rfl hregister).bind fun register _ => ?_
    exact Reads.pure _
  refine hread.congr ?_
  intro d
  constructor
  · rintro ⟨houtput, hservices, htypes, hregister⟩
    cases v with
    | object members =>
      exact ⟨members, rfl, _, houtput, _, hservices, _, htypes, _, hregister, rfl⟩
    | _ => exact absurd houtput (by simp [Json.member?, Json.members?])
  · rintro ⟨members, rfl, _, houtput, _, hservices, _, htypes, _, hregister, rfl⟩
    exact ⟨houtput, hservices, htypes, hregister⟩

end Readers

/-! ### Keys that are not known -/

section Known

variable {key : String} {keys : List String}

theorem lastMember?_filter (hkey : key ∈ keys) (members : List (String × Json)) :
    Json.lastMember? key (members.filter fun member => keys.contains member.1) =
      Json.lastMember? key members := by
  induction members with
  | nil => rfl
  | cons member rest ih =>
    obtain ⟨k, value⟩ := member
    rw [List.filter_cons]
    split
    · rw [Json.lastMember?, Json.lastMember?, ih]
    · rename_i hk
      have hne : k ≠ key := by
        rintro rfl
        exact hk (by simpa using hkey)
      rw [Json.lastMember?, ih, if_neg hne]
      cases Json.lastMember? key rest <;> rfl

theorem lastMember?_map (f : String → Json → Json) (members : List (String × Json)) :
    Json.lastMember? key (members.map fun member => (member.1, f member.1 member.2)) =
      (Json.lastMember? key members).map (f key) := by
  induction members with
  | nil => rfl
  | cons member rest ih =>
    obtain ⟨k, value⟩ := member
    rw [List.map_cons, Json.lastMember?, Json.lastMember?, ih]
    cases Json.lastMember? key rest with
    | some later => rfl
    | none =>
      by_cases hk : k = key
      · simp [hk]
      · simp [hk]

theorem readText_filter (origin : Path) (field : ConfigField) (members : List (String × Json))
    (hkey : key ∈ keys) :
    readText origin field (members.filter fun member => keys.contains member.1) key =
      readText origin field members key := by
  rw [readText, readText, lastMember?_filter hkey]

theorem readService_only (origin : Path) (index : Nat) (json : Json) :
    readService origin index (json.only ["name", "interface"]) = readService origin index json := by
  cases json with
  | object members =>
    simp only [readService, Json.only, readObject, bind, Except.bind,
      readText_filter origin _ members (show "name" ∈ ["name", "interface"] by decide),
      readText_filter origin _ members (show "interface" ∈ ["name", "interface"] by decide)]
  | _ => rfl

theorem readServices_only (origin : Path) (index : Nat) (items : List Json) :
    readServices origin index (items.map (Json.only ["name", "interface"])) =
      readServices origin index items := by
  induction items generalizing index with
  | nil => rfl
  | cons json rest ih => rw [List.map_cons, readServices, readServices, readService_only, ih]

theorem ReadsKnown.ofMembers?_filter {α : Type} {known : List (String × (α → String))}
    {fallback : α} {ofMembers? : List (String × Json) → Option α}
    (hknown : ReadsKnown known fallback ofMembers?) (options : List (String × Json)) :
    ofMembers? (options.filter fun member => (known.map Prod.fst).contains member.1) =
      ofMembers? options := by
  ext o
  rw [hknown.eq_some_iff, hknown.eq_some_iff]
  refine forall₂_congr fun option hoption => ?_
  rw [Json.textMember?, Json.textMember?, lastMember?_filter (List.mem_map_of_mem hoption)]

variable {members members' : List (String × Json)}

theorem readServiceList_knownValue (origin : Path)
    (h : Json.lastMember? "services" members' =
      (Json.lastMember? "services" members).map (knownValue "services")) :
    readServiceList origin members' = readServiceList origin members := by
  rw [readServiceList, readServiceList, h]
  cases Json.lastMember? "services" members with
  | none => rfl
  | some json =>
    cases json with
    | array items => exact readServices_only origin 0 items
    | _ => rfl

theorem readOptions_only {α : Type} {known : List (String × (α → String))}
    {fallback : α} {ofMembers? : List (String × Json) → Option α}
    (hknown : ReadsKnown known fallback ofMembers?) (origin : Path) (field : ConfigField)
    (h : Json.lastMember? key members' =
      (Json.lastMember? key members).map (Json.only (known.map Prod.fst))) :
    readOptions origin field members' key fallback ofMembers? =
      readOptions origin field members key fallback ofMembers? := by
  rw [readOptions, readOptions, h]
  cases Json.lastMember? key members with
  | none => rfl
  | some json =>
    cases json with
    | object options =>
      rw [Option.map_some, Json.only]
      simp only [hknown.ofMembers?_filter]
    | _ => rfl

/-- Keys that are not known make no difference, wherever they stand. -/
theorem ofJson_knownPart (origin : Path) (v : Json) :
    ofJson origin (knownPart v) = ofJson origin v := by
  cases v with
  | object members =>
    obtain ⟨members', hmembers', hlast⟩ :
        ∃ members', knownPart (.object members) = .object members' ∧
          ∀ key ∈ ["output", "services", "types", "register"],
            Json.lastMember? key members' = (Json.lastMember? key members).map (knownValue key) := by
      refine ⟨_, rfl, ?_⟩
      intro key hkey
      rw [lastMember?_map, lastMember?_filter hkey]
    have houtput : readText origin .output members' "output" =
        readText origin .output members "output" := by
      rw [readText, readText, hlast "output" (by decide)]
      cases Json.lastMember? "output" members <;> rfl
    have hservices : readServiceList origin members' = readServiceList origin members :=
      readServiceList_knownValue origin (hlast "services" (by decide))
    have htypes := readOptions_only readsKnown_types origin .types (hlast "types" (by decide))
    have hregister := readOptions_only readsKnown_register origin .register
      (hlast "register" (by decide))
    rw [hmembers']
    simp only [ofJson, readObject, bind, Except.bind, houtput, hservices, htypes, hregister]
  | _ => rfl

end Known

/-! ### What is read -/

/-- A value is accepted exactly when it is in the format, and otherwise the error tells of the first
requirement that it violates. -/
theorem ofJson_format (origin : Path) (v : Json) :
    -- what is accepted
    (∀ d, ofJson origin v = .ok d ↔ Describes v d) ∧
    ((∃ d, Describes v d) ↔ ∀ r ∈ requirements v, r.holds v = true) ∧
    -- what is told of the others
    (∀ e, ofJson origin v = .error e ↔
      ∃ before r after, requirements v = before ++ r :: after ∧
        (∀ q ∈ before, q.holds v = true) ∧ r.holds v = false ∧ e = r.error origin) ∧
    (∀ field : ConfigField, field.text = Json.pathText field.steps) ∧
    -- what does not matter
    ofJson origin (knownPart v) = ofJson origin v := by
  have hread := reads_ofJson origin v
  have hknown := ofJson_knownPart origin v
  have hmeets {before after : List Requirement} {r : Requirement}
      (hsplit : requirements v = before ++ r :: after) (hr : r.holds v = false) :
      ¬ ∀ q ∈ requirements v, q.holds v = true := by
    intro hall
    have hholds := hall r (hsplit ▸ List.mem_append_right before List.mem_cons_self)
    rw [hr] at hholds
    cases hholds
  generalize ofJson origin v = x at hread hknown ⊢
  cases hread with
  | @ok a hrs hdescribes =>
    refine ⟨fun d => ?_, ?_, fun e => ?_, ConfigField.text_eq_pathText, hknown⟩
    · rw [hdescribes, Except.ok.injEq, eq_comm]
    · exact iff_of_true ⟨a, (hdescribes a).mpr rfl⟩ hrs
    · refine iff_of_false (by simp) ?_
      rintro ⟨before, r, after, hsplit, -, hr, -⟩
      exact hmeets hsplit hr hrs
  | @error r hrs hdescribes =>
    obtain ⟨hr, before, after, hsplit, hbefore⟩ := List.find?_eq_some_iff_append.mp hrs
    simp only [Bool.not_eq_true', Bool.not_not] at hr hbefore
    refine ⟨fun d => iff_of_false (by simp) (hdescribes d), ?_, fun e => ?_,
      ConfigField.text_eq_pathText, hknown⟩
    · exact iff_of_false (not_exists.mpr hdescribes) (hmeets hsplit hr)
    · constructor
      · intro he
        exact ⟨before, r, after, hsplit, hbefore, hr, (Except.error.inj he).symm⟩
      · -- there is only one first violation
        rintro ⟨before', r', after', hsplit', hbefore', hr', rfl⟩
        have hrs' : (requirements v).find? (fun r => !r.holds v) = some r' := by
          rw [List.find?_eq_some_iff_append]
          refine ⟨by rw [hr']; rfl, before', after', hsplit', fun q hq => ?_⟩
          rw [hbefore' q hq]
          rfl
        rw [Option.some.inj (hrs.symm.trans hrs')]

-- the second service lacks its interface, which is told before the type of the options
example :
    ofJson ⟨"digen.json"⟩
      (.object
        [ ("output", .string "gen"),
          ("services", .array
            [ .object [("name", .string "a"), ("interface", .string "IA"), ("note", .null)],
              .object [("name", .string "b")] ]),
          ("types", .null) ]) =
      .error (.missingField ⟨"digen.json"⟩ (.serviceInterface 1)) := by
  rfl

end ServiceScaffold.ConfigDocument
