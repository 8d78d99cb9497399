/-
Services read back from their specifications.

A service is written as its name, a colon and its interface.  This is read as the same service
exactly when neither text holds a colon, neither is changed by trimming, and there is an interface.
A config document can hold any service, so it can hold others too.

A service that was itself read from a specification is always read back with its name, and with its
interface trimmed.  The interface that a name decides may end in a blank, because boundaries behind
a blank are dropped from it; such a service is not found again.

* `IsClean` — services that their specifications stand for.
* `ofSpec_spec_iff` — they are the ones that are read back.
* `ofSpec_spec_eq_ok_iff` — the others, which config documents may hold, are refused or changed.
* `ofSpec_spec_of_ofSpec` — services that were read from a specification.
* `ofSpec_spec_blankEnd` — one of them that is not found again.
-/
import ServiceScaffold.Proofs.Config.RoundTrip
import ServiceScaffold.Proofs.Naming.Blanks
import ServiceScaffold.Proofs.Service.Specification

namespace ServiceScaffold.Service

/-- Both texts are trimmed and free of colons, and there is an interface. -/
structure IsClean (s : Service) : Prop where
  name_colon : ':' ∉ s.name.toList
  name_trimmed : trim s.name = s.name
  interface_ne_empty : s.interface ≠ ""
  interface_colon : ':' ∉ s.interface.toList
  interface_trimmed : trim s.interface = s.interface

/-! ### Every service -/

theorem colon_mem_spec (s : Service) : ':' ∈ s.spec.toList := by
  simp [spec]

/-- Without colons in them, both texts of a service are read back trimmed. -/
theorem reading_spec {s t : Service} (hname : ':' ∉ s.name.toList)
    (hinterface : ':' ∉ s.interface.toList) (hwritten : trim s.interface ≠ "")
    (ht : t.name = trim s.name ∧ t.interface = trim s.interface) : Reading s.spec (.ok t) :=
  .given rfl hname hinterface ht.1 ht.2 hwritten

theorem IsClean.reading {s : Service} (h : s.IsClean) : Reading s.spec (.ok s) := by
  refine reading_spec h.name_colon h.interface_colon ?_
    ⟨h.name_trimmed.symm, h.interface_trimmed.symm⟩
  rw [h.interface_trimmed]
  exact h.interface_ne_empty

theorem isClean_of_reading {s : Service} (h : Reading s.spec (.ok s)) : s.IsClean := by
  have hname := h.name_trimmed
  have hcolon := h.colon_not_mem_name
  cases h with
  | inferred colon name interface => exact absurd s.colon_mem_spec colon
  | given cut first only name interface written =>
    -- the name that was read holds no colon, so the text was cut where it was joined
    obtain ⟨-, rfl⟩ := cut_unique cut hcolon first
    exact ⟨hcolon, hname, interface ▸ written, only, interface.symm⟩

/-- The services that are read back from their specifications. -/
theorem ofSpec_spec_iff (s : Service) : ofSpec s.spec = .ok s ↔ s.IsClean :=
  ofSpec_eq_iff.trans ⟨isClean_of_reading, IsClean.reading⟩

/-- Every service is in a document that is accepted. -/
theorem exists_document (origin : Path) (s : Service) :
    ∃ text d, ConfigDocument.parse origin text = .ok d ∧ d.services = [s] := by
  let d : ConfigDocument := { ConfigDocument.starter with services := [s] }
  have hread := ConfigDocument.reads_ofJson origin d.toJson
  refine ⟨d.text, d, ?_, rfl⟩
  rw [ConfigDocument.parse, ConfigDocument.text, Json.parse?_pretty d.isPlain_toJson]
  exact hread.eq_ok d.describes_toJson

/-- A service is read back from its specification exactly when both of its texts are trimmed and
free of colons and it has an interface.  Any other service may come out of a config document all
the same; its specification is refused, or it is read as a service that differs. -/
theorem ofSpec_spec_eq_ok_iff (s : Service) :
    (ofSpec s.spec = .ok s ↔ s.IsClean) ∧
      (¬ s.IsClean →
        (∀ origin, ∃ text d, ConfigDocument.parse origin text = .ok d ∧ d.services = [s]) ∧
          ((∃ e, ofSpec s.spec = .error e) ∨ ∃ t, ofSpec s.spec = .ok t ∧ t ≠ s)) := by
  refine ⟨ofSpec_spec_iff s, fun hclean => ⟨fun origin => exists_document origin s, ?_⟩⟩
  cases hread : ofSpec s.spec with
  | error e => exact .inl ⟨e, rfl⟩
  | ok t =>
    refine .inr ⟨t, rfl, ?_⟩
    rintro rfl
    exact hclean ((ofSpec_spec_iff t).mp hread)

/-! ### Services that were read -/

theorem toList_inferred (name : String) :
    ("I" ++ Naming.pascal name).toList = 'I' :: (Naming.pascal name).toList := by
  simp

theorem isTrimmed_inferred_iff {name : String} :
    IsTrimmed ("I" ++ Naming.pascal name).toList ↔ Naming.EndsInLetter name := by
  rw [Naming.endsInLetter_iff_pascal, toList_inferred]
  exact isTrimmed_cons_iff rfl

theorem Reading.colon_not_mem_interface {spec : String} {s : Service}
    (h : Reading spec (.ok s)) : ':' ∉ s.interface.toList := by
  have hname := h.colon_not_mem_name
  cases h with
  | inferred colon name interface =>
    rw [interface, toList_inferred, List.mem_cons, or_iff_right (by decide)]
    exact mt Naming.colon_mem_pascal hname
  | given cut first only name interface written => rwa [interface, colon_mem_trim_iff]

theorem Reading.trim_interface_ne_empty {spec : String} {s : Service}
    (h : Reading spec (.ok s)) : trim s.interface ≠ "" := by
  cases h with
  | inferred colon name interface =>
    have hletter : 'I' ∈ s.interface.toList := by
      rw [interface, toList_inferred]
      exact List.mem_cons_self
    exact trim_ne_empty_of_mem rfl hletter
  | given cut first only name interface written => rwa [interface, trim_trim]

/-- Only an interface that the name decides can have a blank at its end. -/
theorem Reading.interface_trimmed_iff {spec : String} {s : Service} (h : Reading spec (.ok s)) :
    trim s.interface = s.interface ↔ ':' ∈ spec.toList ∨ Naming.EndsInLetter s.name := by
  cases h with
  | inferred colon name interface =>
    rw [or_iff_right colon, trim_eq_self_iff, interface, isTrimmed_inferred_iff]
  | @given before after s cut first only name interface written =>
    have hcolon : ':' ∈ spec.toList := by simp [cut]
    have htrimmed : trim s.interface = s.interface := by rw [interface, trim_trim]
    exact iff_of_true htrimmed (.inl hcolon)

theorem Reading.isClean_iff {spec : String} {s : Service} (h : Reading spec (.ok s)) :
    s.IsClean ↔ trim s.interface = s.interface := by
  refine ⟨IsClean.interface_trimmed, fun htrimmed => ?_⟩
  exact {
    name_colon := h.colon_not_mem_name
    name_trimmed := h.name_trimmed
    interface_ne_empty := htrimmed ▸ h.trim_interface_ne_empty
    interface_colon := h.colon_not_mem_interface
    interface_trimmed := htrimmed }

/-- A service that was read from a specification is read back with its name, and with its interface
trimmed.  It is found again exactly when the specification gives the interface, or the last
character of the name that is no boundary is not blank. -/
theorem ofSpec_spec_of_ofSpec {spec : String} {s : Service} (h : ofSpec spec = .ok s) :
    (∃ t, ofSpec s.spec = .ok t ∧ t.name = s.name ∧ t.interface = trim s.interface) ∧
      (ofSpec s.spec = .ok s ↔ ':' ∈ spec.toList ∨ Naming.EndsInLetter s.name) := by
  have hreading := ofSpec_eq_iff.mp h
  constructor
  · let t : Service := ⟨s.name, trim s.interface, s.name_ne_empty⟩
    have hback : Reading s.spec (.ok t) :=
      reading_spec hreading.colon_not_mem_name hreading.colon_not_mem_interface
        hreading.trim_interface_ne_empty ⟨hreading.name_trimmed.symm, rfl⟩
    exact ⟨t, hback.eq, rfl, rfl⟩
  · rw [ofSpec_spec_iff, hreading.isClean_iff, hreading.interface_trimmed_iff]

/-- A name that decides its interface, with a blank before it. -/
theorem ofSpec_spec_mailSender :
    ofSpec " mail_sender" = .ok ⟨"mail_sender", "IMailSender", by decide⟩ ∧
      ofSpec (spec ⟨"mail_sender", "IMailSender", by decide⟩) =
        .ok ⟨"mail_sender", "IMailSender", by decide⟩ := by
  have hread : ofSpec " mail_sender" = .ok ⟨"mail_sender", "IMailSender", by decide⟩ := by
    decide +kernel
  have hends : Naming.EndsInLetter "mail_sender" := by decide +kernel
  exact ⟨hread, (ofSpec_spec_of_ofSpec hread).2.mpr (.inr hends)⟩

/-- A name with a tab before its last boundary: the tab ends the interface that the name decides,
and it is lost when the service is read back. -/
theorem ofSpec_spec_blankEnd :
    ofSpec "mail\t_" = .ok ⟨"mail\t_", "IMail\t", by decide⟩ ∧
      spec ⟨"mail\t_", "IMail\t", by decide⟩ = "mail\t_:IMail\t" ∧
      ofSpec "mail\t_:IMail\t" = .ok ⟨"mail\t_", "IMail", by decide⟩ ∧
      ofSpec "mail\t_:IMail\t" ≠ .ok ⟨"mail\t_", "IMail\t", by decide⟩ := by
  decide +kernel

end ServiceScaffold.Service
